import ChatBot.Json.Reader
import ChatBot.Json.Writer
import Mathlib.Data.List.TakeWhile

/-!
# Reading what was written

The compact text of a tree is read back as the same tree, whatever stands behind the text, as
long as that does not carry on a number.  Trees with decimals or with unreadable parts are left
out, and so are integers of more than 64 bits: of these more than one tree has the same text.
-/

namespace ChatBot

namespace Json

/-! ## Integers -/

/-- Whether a text cannot carry on a number that stands before it. -/
def endsNumber : List Char → Bool
  | [] => true
  | c :: _ => !(c.isDigit || c = '.' || c = 'e' || c = 'E')

theorem takeDigits_append {digits rest : List Char} (nonempty : digits ≠ [])
    (all : ∀ c ∈ digits, c.isDigit = true) (ends : endsNumber rest = true) :
    takeDigits (digits ++ rest) = some (digits, rest) := by
  have stops : rest.takeWhile Char.isDigit = [] ∧ rest.dropWhile Char.isDigit = rest := by
    cases rest with
    | nil => exact ⟨rfl, rfl⟩
    | cons c others =>
        have other : c.isDigit = false := by
          simp [endsNumber] at ends
          exact ends.1.1.1
        simp [other]
  have taken : (digits ++ rest).takeWhile Char.isDigit = digits := by
    rw [List.takeWhile_append_of_pos all, stops.1, List.append_nil]
  have dropped : (digits ++ rest).dropWhile Char.isDigit = rest := by
    rw [List.dropWhile_append_of_pos all, stops.2]
  simp [takeDigits, taken, dropped, nonempty]

theorem takeFraction_of_endsNumber {rest : List Char} (ends : endsNumber rest = true) :
    takeFraction rest = some ([], rest) := by
  unfold takeFraction
  split
  · simp [endsNumber] at ends
  · rfl

theorem takeExponent_of_endsNumber {rest : List Char} (ends : endsNumber rest = true) :
    takeExponent rest = some (none, rest) := by
  cases rest with
  | nil => rfl
  | cons c others =>
      simp [endsNumber] at ends
      simp [takeExponent, ends]

theorem digitsValue_toDigits (n : Nat) : digitsValue (Nat.toDigits 10 n) = n := by
  have step : (fun (value : Nat) (c : Char) => value * 10 + (c.toNat - 48)) =
      fun value c => 10 * value + (c.toNat - '0'.toNat) := by
    funext value c
    rw [Nat.mul_comm]
    rfl
  rw [digitsValue, step, ← Nat.ofDigitChars_eq_foldl, Nat.ofDigitChars_ten_toDigits]

/-- Only zero is written with a zero in front. -/
theorem head?_toDigits_ne_zero {n : Nat} (positive : 0 < n) :
    (Nat.toDigits 10 n).head? ≠ some '0' := by
  induction n using Nat.strongRecOn with
  | ind n ih =>
      by_cases small : n < 10
      · have digits : ∀ digit < 10, 0 < digit → [Nat.digitChar digit].head? ≠ some '0' := by
          decide
        rw [Nat.toDigits_of_lt_base small]
        exact digits n small positive
      · have shorter := ih (n / 10) (by omega) (by omega)
        have first := List.isSome_head?.mpr (Nat.toDigits_ne_nil (n := n / 10) (b := 10))
        rw [Nat.toDigits_of_base_le (by decide) (Nat.le_of_not_lt small), List.head?_append,
          Option.or_of_isSome first]
        exact shorter

/-- A number in decimal digits is read back with the given sign, but for a zero with a minus
sign. -/
theorem readMagnitude_toDigits (negative : Bool) (n : Nat)
    (inRange : inIntRange (if negative then -(n : Int) else n) = true)
    (signed : negative = true → n ≠ 0) {rest : List Char} (ends : endsNumber rest = true) :
    readMagnitude negative (Nat.toDigits 10 n ++ rest) =
      some (int (if negative then -(n : Int) else n), rest) := by
  have digits := takeDigits_append Nat.toDigits_ne_nil
    (fun c => Nat.isDigit_of_mem_toDigits (b := 10) (n := n) (by decide) (by decide)) ends
  have noLeadingZero :
      ¬ ((Nat.toDigits 10 n).head? = some '0' ∧ (Nat.toDigits 10 n).length ≠ 1) := by
    rintro ⟨zero, long⟩
    rcases Nat.eq_zero_or_pos n with rfl | positive
    · exact long rfl
    · exact head?_toDigits_ne_zero positive zero
  have leaf : numberLeaf negative (Nat.toDigits 10 n) [] none =
      int (if negative then -(n : Int) else n) := by
    have nonzero : (negative && decide (n = 0)) = false := by
      cases negative with
      | false => rfl
      | true => simpa using signed rfl
    simp [numberLeaf, digitsValue_toDigits, inRange, nonzero]
  simp only [readMagnitude, digits, Option.bind_eq_bind, Option.bind_some,
    takeFraction_of_endsNumber ends, takeExponent_of_endsNumber ends, leaf]
  simp [noLeadingZero]

theorem readNumber_of_ne_minus {c : Char} (ne : c ≠ '-') (rest : List Char) :
    readNumber (c :: rest) = readMagnitude false (c :: rest) := by
  unfold readNumber
  split
  · next same => exact absurd (List.cons.inj same).1 ne
  · rfl

theorem readNumber_writeInt {n : Int} (inRange : inIntRange n = true) {rest : List Char}
    (ends : endsNumber rest = true) : readNumber (writeInt n ++ rest) = some (int n, rest) := by
  unfold writeInt
  split
  · next negative =>
      have magnitude : -(n.natAbs : Int) = n := by omega
      have read := readMagnitude_toDigits true n.natAbs (by rwa [if_pos rfl, magnitude])
        (fun _ => by omega) ends
      rw [if_pos rfl, magnitude] at read
      exact read
  · next nonnegative =>
      have magnitude : (n.natAbs : Int) = n := by omega
      have read := readMagnitude_toDigits false n.natAbs (by rwa [if_neg Bool.false_ne_true, magnitude])
        (fun minus => absurd minus Bool.false_ne_true) ends
      obtain ⟨first, others, written⟩ :=
        List.exists_cons_of_ne_nil (Nat.toDigits_ne_nil (n := n.natAbs) (b := 10))
      have digit : first.isDigit = true :=
        Nat.isDigit_of_mem_toDigits (b := 10) (n := n.natAbs) (by decide) (by decide)
          (by rw [written]; exact List.mem_cons_self)
      have ne : first ≠ '-' := by
        rintro rfl
        exact absurd digit (by decide)
      rw [written, List.cons_append] at read ⊢
      rw [readNumber_of_ne_minus ne, read]
      simp [magnitude]

/-! ## Strings -/

theorem hexValue?_hexDigit : ∀ digit < 16, hexValue? (hexDigit digit) = some digit := by
  decide

/-- The piece as which a character of a string is read back. -/
def pieceOf (c : Char) : Piece :=
  if c.toNat < 0x20 ∧ c.toNat ∉ [8, 9, 10, 12, 13] then .unit c.toNat else .char c

/-- Puts a piece before those that are read from a text. -/
def withPiece (piece : Piece) (read : List Piece × List Char) : List Piece × List Char :=
  (piece :: read.1, read.2)

theorem readPieces_escape {c value : Char} (ne : c ≠ 'u') (known : escapeValue? c = some value)
    (rest : List Char) :
    readPieces ('\\' :: c :: rest) = (readPieces rest).map (withPiece (.char value)) := by
  rw [readPieces]
  · simp only [known, Option.bind_eq_bind, Option.bind_some, Option.map_eq_bind]
    rfl
  · rintro a b d e others rfl
    exact absurd rfl ne

theorem readPieces_unit {a b c d : Char} {first second third fourth : Nat}
    (firstValue : hexValue? a = some first) (secondValue : hexValue? b = some second)
    (thirdValue : hexValue? c = some third) (fourthValue : hexValue? d = some fourth)
    (rest : List Char) :
    readPieces ('\\' :: 'u' :: a :: b :: c :: d :: rest) =
      (readPieces rest).map
        (withPiece (.unit (first * 4096 + second * 256 + third * 16 + fourth))) := by
  simp only [readPieces, firstValue, secondValue, thirdValue, fourthValue, Option.bind_eq_bind,
    Option.bind_some, Option.map_eq_bind]
  rfl

theorem readPieces_plain {c : Char} (notQuote : c ≠ '"') (notBackslash : c ≠ '\\')
    (printed : ¬ c.toNat < 0x20) (rest : List Char) :
    readPieces (c :: rest) = (readPieces rest).map (withPiece (.char c)) := by
  rw [readPieces]
  · simp only [printed, notBackslash, Option.bind_eq_bind, Option.map_eq_bind]
    rfl
  · rintro rfl
    exact absurd rfl notQuote
  · rintro a b d e others rfl -
    exact notBackslash rfl
  · rintro a others rfl -
    exact notBackslash rfl

/-- The control characters that have a short escape, each with its letter. -/
def shortEscapes : List (Char × Char) :=
  [('\x08', 'b'), ('\t', 't'), ('\n', 'n'), ('\x0c', 'f'), ('\r', 'r')]

theorem writeChar_of_mem_shortEscapes : ∀ escape ∈ shortEscapes,
    writeChar escape.1 = ['\\', escape.2] ∧ escape.2 ≠ 'u' ∧
      escapeValue? escape.2 = some escape.1 ∧ pieceOf escape.1 = .char escape.1 := by
  simp [shortEscapes, pieceOf]
  decide

theorem exists_mem_shortEscapes {c : Char} (short : c.toNat ∈ [8, 9, 10, 12, 13]) :
    ∃ letter, (c, letter) ∈ shortEscapes := by
  have same : Char.ofNat c.toNat = c := Char.ofNat_toNat c
  simp only [List.mem_cons, List.not_mem_nil, or_false] at short
  rcases short with code | code | code | code | code
  all_goals
    rw [← same, code]
    simp [shortEscapes]

theorem readPieces_writeChar (c : Char) (rest : List Char) :
    readPieces (writeChar c ++ rest) = (readPieces rest).map (withPiece (pieceOf c)) := by
  by_cases quote : c = '"'
  · subst quote
    exact readPieces_escape (by decide) rfl rest
  by_cases backslash : c = '\\'
  · subst backslash
    exact readPieces_escape (by decide) rfl rest
  by_cases control : c.toNat < 0x20
  · by_cases short : c.toNat ∈ [8, 9, 10, 12, 13]
    · obtain ⟨letter, member⟩ := exists_mem_shortEscapes short
      obtain ⟨written, ne, known, piece⟩ := writeChar_of_mem_shortEscapes _ member
      rw [written, piece]
      exact readPieces_escape ne known rest
    · have piece : pieceOf c = .unit c.toNat := if_pos ⟨control, short⟩
      have written : writeChar c =
          ['\\', 'u', '0', '0', hexDigit (c.toNat / 16), hexDigit (c.toNat % 16)] := by
        simp at short
        simp [writeChar, quote, backslash, control, short]
      have read := readPieces_unit (hexValue?_hexDigit 0 (by decide))
        (hexValue?_hexDigit 0 (by decide)) (hexValue?_hexDigit (c.toNat / 16) (by omega))
        (hexValue?_hexDigit (c.toNat % 16) (by omega)) rest
      have code : 0 * 4096 + 0 * 256 + c.toNat / 16 * 16 + c.toNat % 16 = c.toNat := by omega
      rw [code, ← piece] at read
      rw [written]
      exact read
  · have piece : pieceOf c = .char c := if_neg fun escaped => control escaped.1
    rw [piece, ← readPieces_plain quote backslash control]
    simp [writeChar, quote, backslash, control]

theorem readPieces_flatMap_writeChar (chars rest : List Char) :
    readPieces (chars.flatMap writeChar ++ '"' :: rest) = some (chars.map pieceOf, rest) := by
  induction chars with
  | nil => rfl
  | cons c others ih =>
      rw [List.flatMap_cons, List.append_assoc, readPieces_writeChar, ih]
      rfl

theorem joinPieces_unit {code : Nat} (low : code < 0xD800) (pieces : List Piece) :
    joinPieces (.unit code :: pieces) = (joinPieces pieces).map (Char.ofNat code :: ·) := by
  have notHigh : ¬ 0xD800 ≤ code := Nat.not_le_of_lt low
  have notLow : ¬ 0xDC00 ≤ code := by omega
  match pieces with
  | [] => simp [joinPieces, notHigh]
  | .char c :: rest => simp [joinPieces, notHigh]
  | .unit next :: rest => simp [joinPieces, notHigh, notLow]

theorem joinPieces_map_pieceOf (chars : List Char) :
    joinPieces (chars.map pieceOf) = some chars := by
  induction chars with
  | nil => rfl
  | cons c others ih =>
      by_cases control : c.toNat < 0x20 ∧ c.toNat ∉ [8, 9, 10, 12, 13]
      · have piece : pieceOf c = .unit c.toNat := if_pos control
        rw [List.map_cons, piece, joinPieces_unit (by omega), ih, Char.ofNat_toNat]
        rfl
      · have piece : pieceOf c = .char c := if_neg control
        rw [List.map_cons, piece, joinPieces, ih]
        rfl

/-- A string is read back from after its opening quotation mark. -/
theorem readString_writeString (text : String) (rest : List Char) :
    readString (text.toList.flatMap writeChar ++ '"' :: rest) = some (some text, rest) := by
  simp [readString, readPieces_flatMap_writeChar, joinPieces_map_pieceOf]

/-! ## Trees -/

mutual

/-- Whether a tree is the only one with its text: it has no decimals and no unreadable parts,
and its integers fit into 64 bits. -/
def isExact : Json → Bool
  | int n => inIntRange n
  | decimal _ _ | unreadable => false
  | arr items => areExact items
  | obj members => haveExactValues members
  | null | bool _ | str _ => true

def areExact : List Json → Bool
  | [] => true
  | item :: rest => isExact item && areExact rest

def haveExactValues : List (String × Json) → Bool
  | [] => true
  | (_, value) :: rest => isExact value && haveExactValues rest

end

mutual

theorem isReadable_of_isExact : ∀ {tree : Json}, tree.isExact = true → tree.isReadable = true
  | null, _ | bool _, _ | int _, _ | str _, _ => rfl
  | arr items, exactly => @areReadable_of_areExact items exactly
  | obj members, exactly => @haveReadableValues_of_haveExactValues members exactly

theorem areReadable_of_areExact : ∀ {items : List Json},
    areExact items = true → areReadable items = true
  | [], _ => rfl
  | item :: rest, exactly => by
      rw [areExact, Bool.and_eq_true] at exactly
      rw [areReadable, isReadable_of_isExact exactly.1, areReadable_of_areExact exactly.2]
      rfl

theorem haveReadableValues_of_haveExactValues : ∀ {members : List (String × Json)},
    haveExactValues members = true → haveReadableValues members = true
  | [], _ => rfl
  | (key, value) :: rest, exactly => by
      rw [haveExactValues, Bool.and_eq_true] at exactly
      rw [haveReadableValues, isReadable_of_isExact exactly.1,
        haveReadableValues_of_haveExactValues exactly.2]
      rfl

end

theorem inIntRange_toNat (n : UInt64) : inIntRange n.toNat = true := by
  have bound := n.toNat_lt
  simp only [inIntRange, Bool.and_eq_true, decide_eq_true_eq]
  omega

theorem inIntRange_toInt (n : Int32) : inIntRange n.toInt = true := by
  have above := n.le_toInt
  have below := n.toInt_lt
  simp only [inIntRange, Bool.and_eq_true, decide_eq_true_eq]
  omega

/-- Whether a character can be the first of the text of a value. -/
def startsValue (c : Char) : Bool :=
  c.isDigit || c ∈ ['n', 't', 'f', '"', '[', '{', '-']

theorem isSpace_of_startsValue {c : Char} (starts : startsValue c = true) :
    isSpace c = false := by
  by_contra space
  rw [Bool.not_eq_false] at space
  simp only [isSpace, Bool.or_eq_true, decide_eq_true_eq] at space
  rcases space with ((rfl | rfl) | rfl) | rfl <;> exact absurd starts (by decide)

theorem skipSpace_cons {c : Char} (starts : isSpace c = false) (rest : List Char) :
    skipSpace (c :: rest) = c :: rest := by
  simp [skipSpace, starts]

theorem exists_writeInt_eq_cons (n : Int) :
    ∃ c rest, writeInt n = c :: rest ∧ (c = '-' ∨ c.isDigit = true) := by
  unfold writeInt
  split
  · exact ⟨_, _, rfl, Or.inl rfl⟩
  · obtain ⟨first, others, written⟩ :=
      List.exists_cons_of_ne_nil (Nat.toDigits_ne_nil (n := n.natAbs) (b := 10))
    refine ⟨first, others, written, Or.inr ?_⟩
    exact Nat.isDigit_of_mem_toDigits (b := 10) (n := n.natAbs) (by decide) (by decide)
      (by rw [written]; exact List.mem_cons_self)

theorem exists_writeChars_eq_cons (tree : Json) :
    ∃ c rest, writeChars tree = c :: rest ∧ startsValue c = true := by
  cases tree with
  | null => exact ⟨_, _, rfl, by decide⟩
  | bool value => cases value <;> exact ⟨_, _, rfl, by decide⟩
  | int n =>
      obtain ⟨c, rest, written, minus | digit⟩ := exists_writeInt_eq_cons n
      · exact ⟨c, rest, written, by rw [minus]; decide⟩
      · exact ⟨c, rest, written, by simp [startsValue, digit]⟩
  | decimal significand exponent =>
      obtain ⟨c, rest, written, minus | digit⟩ := exists_writeInt_eq_cons significand
      · exact ⟨c, _, by rw [writeChars, written]; rfl, by rw [minus]; decide⟩
      · exact ⟨c, _, by rw [writeChars, written]; rfl, by simp [startsValue, digit]⟩
  | str text => exact ⟨_, _, rfl, by decide⟩
  | arr items => exact ⟨_, _, rfl, by decide⟩
  | obj members => exact ⟨_, _, rfl, by decide⟩
  | unreadable => exact ⟨_, _, rfl, by decide⟩

/-- An integer is read as the value that it starts. -/
theorem readValue_writeInt {n : Int} (inRange : inIntRange n = true) (fuel : Nat)
    {rest : List Char} (ends : endsNumber rest = true) :
    readValue (fuel + 1) (writeInt n ++ rest) = some (int n, rest) := by
  rw [← readNumber_writeInt inRange ends]
  obtain ⟨c, others, written, start⟩ := exists_writeInt_eq_cons n
  have notSpace : isSpace c = false := by
    apply isSpace_of_startsValue
    rcases start with rfl | digit
    · decide
    · simp [startsValue, digit]
  rw [written, List.cons_append, readValue, skipSpace_cons notSpace]
  split
  all_goals first
    | rfl
    | next same =>
        obtain ⟨rfl, -⟩ := List.cons.inj same
        exact absurd start (by decide)

theorem exists_writeItems_eq_cons {items : List Json} (nonempty : items ≠ []) :
    ∃ c rest, writeItems items = c :: rest ∧ startsValue c = true := by
  match items with
  | [] => exact absurd rfl nonempty
  | [item] => exact exists_writeChars_eq_cons item
  | item :: next :: others =>
      obtain ⟨c, rest, written, starts⟩ := exists_writeChars_eq_cons item
      exact ⟨c, _, by rw [writeItems, written]; rfl, starts⟩

theorem exists_writeMembers_eq_cons {members : List (String × Json)} (nonempty : members ≠ []) :
    ∃ rest, writeMembers members = '"' :: rest := by
  match members with
  | [] => exact absurd rfl nonempty
  | [(key, value)] => exact ⟨_, rfl⟩
  | (key, value) :: next :: others => exact ⟨_, rfl⟩

theorem readValue_bracket {c : Char} (starts : startsValue c = true) (fuel : Nat)
    (rest : List Char) :
    readValue (fuel + 1) ('[' :: c :: rest) =
      (readItems fuel (c :: rest)).map fun read => (arr read.1, read.2) := by
  rw [readValue, skipSpace_cons (by decide)]
  simp only [skipSpace_cons (isSpace_of_startsValue starts)]
  split
  · next same =>
      obtain ⟨rfl, -⟩ := List.cons.inj same
      exact absurd starts (by decide)
  · rw [Option.map_eq_bind]
    rfl

theorem readValue_brace (fuel : Nat) (rest : List Char) :
    readValue (fuel + 1) ('{' :: '"' :: rest) =
      (readMembers fuel ('"' :: rest)).map fun read => (objectLeaf read.1, read.2) := by
  rw [readValue, skipSpace_cons (by decide)]
  simp only [skipSpace_cons (by decide : isSpace '"' = false), Option.map_eq_bind]
  rfl

theorem readItems_of_comma {fuel : Nat} {text rest : List Char} {item : Json}
    (read : readValue fuel text = some (item, ',' :: rest)) :
    readItems (fuel + 1) text =
      (readItems fuel rest).map fun others => (item :: others.1, others.2) := by
  simp only [readItems, read, Option.bind_eq_bind, Option.bind_some,
    skipSpace_cons (by decide : isSpace ',' = false), Option.map_eq_bind]
  rfl

theorem readItems_of_bracket {fuel : Nat} {text rest : List Char} {item : Json}
    (read : readValue fuel text = some (item, ']' :: rest)) :
    readItems (fuel + 1) text = some ([item], rest) := by
  simp only [readItems, read, Option.bind_eq_bind, Option.bind_some,
    skipSpace_cons (by decide : isSpace ']' = false)]

theorem readMembers_of_comma {fuel : Nat} {text rest : List Char} (key : String) {value : Json}
    (read : readValue fuel text = some (value, ',' :: rest)) :
    readMembers (fuel + 1) (writeString key ++ ':' :: text) =
      (readMembers fuel rest).map fun others => ((some key, value) :: others.1, others.2) := by
  simp only [writeString, List.cons_append, List.append_assoc, List.nil_append, readMembers,
    skipSpace_cons (by decide : isSpace '"' = false), readString_writeString,
    Option.bind_eq_bind, Option.bind_some, skipSpace_cons (by decide : isSpace ':' = false), read,
    skipSpace_cons (by decide : isSpace ',' = false), Option.map_eq_bind]
  rfl

theorem readMembers_of_brace {fuel : Nat} {text rest : List Char} (key : String) {value : Json}
    (read : readValue fuel text = some (value, '}' :: rest)) :
    readMembers (fuel + 1) (writeString key ++ ':' :: text) = some ([(some key, value)], rest) := by
  simp only [writeString, List.cons_append, List.append_assoc, List.nil_append, readMembers,
    skipSpace_cons (by decide : isSpace '"' = false), readString_writeString,
    Option.bind_eq_bind, Option.bind_some, skipSpace_cons (by decide : isSpace ':' = false), read,
    skipSpace_cons (by decide : isSpace '}' = false)]

theorem objectLeaf_of_texts (members : List (String × Json)) :
    objectLeaf (members.map fun member => (some member.1, member.2)) = obj members := by
  have texts : (members.map fun member => (some member.1, member.2)).mapM
      (fun member : Option String × Json => member.1.map (·, member.2)) = some members := by
    induction members with
    | nil => rfl
    | cons member rest ih => simp [List.mapM_cons, ih]
  rw [objectLeaf, texts]

mutual

/-- A value is read back from its text, whatever follows. -/
theorem readValue_writeChars : ∀ tree : Json, isExact tree = true → ∀ fuel rest,
    (writeChars tree).length ≤ fuel → endsNumber rest = true →
      readValue fuel (writeChars tree ++ rest) = some (tree, rest)
  | tree, _, 0, _, enough, _ => by
      obtain ⟨c, others, written, -⟩ := exists_writeChars_eq_cons tree
      simp [written] at enough
  | null, _, _ + 1, _, _, _ => by simp [writeChars, readValue, skipSpace, isSpace]
  | bool true, _, _ + 1, _, _, _ => by simp [writeChars, readValue, skipSpace, isSpace]
  | bool false, _, _ + 1, _, _, _ => by simp [writeChars, readValue, skipSpace, isSpace]
  | int _, inRange, fuel + 1, _, _, ends => readValue_writeInt inRange fuel ends
  | str text, _, _ + 1, _, _, _ => by
      simp [writeChars, writeString, readValue, skipSpace, isSpace, readString_writeString]
  | arr [], _, _ + 1, _, _, _ => by simp [writeChars, writeItems, readValue, skipSpace, isSpace]
  | arr (item :: others), exactly, fuel + 1, rest, enough, _ => by
      obtain ⟨c, chars, written, starts⟩ :=
        exists_writeItems_eq_cons (List.cons_ne_nil item others)
      have shorter : (writeItems (item :: others)).length < fuel := by
        simp only [writeChars, List.length_cons, List.length_append, List.length_nil] at enough
        omega
      have read := readItems_writeItems (item :: others) exactly (List.cons_ne_nil _ _) fuel rest
        shorter
      simp only [writeChars, List.cons_append, List.append_assoc, List.nil_append]
      rw [written, List.cons_append] at read ⊢
      rw [readValue_bracket starts, read]
      rfl
  | obj [], _, _ + 1, _, _, _ => by
      simp [writeChars, writeMembers, readValue, skipSpace, isSpace]
  | obj (member :: others), exactly, fuel + 1, rest, enough, _ => by
      obtain ⟨chars, written⟩ := exists_writeMembers_eq_cons (List.cons_ne_nil member others)
      have shorter : (writeMembers (member :: others)).length < fuel := by
        simp only [writeChars, List.length_cons, List.length_append, List.length_nil] at enough
        omega
      have read := readMembers_writeMembers (member :: others) exactly (List.cons_ne_nil _ _) fuel
        rest shorter
      simp only [writeChars, List.cons_append, List.append_assoc, List.nil_append]
      rw [written, List.cons_append] at read ⊢
      rw [readValue_brace, read, Option.map_some, objectLeaf_of_texts]

theorem readItems_writeItems : ∀ items : List Json, areExact items = true → items ≠ [] →
    ∀ fuel rest, (writeItems items).length < fuel →
      readItems fuel (writeItems items ++ ']' :: rest) = some (items, rest)
  | _, _, _, 0, _, enough => absurd enough (Nat.not_lt_zero _)
  | [], _, nonempty, _, _, _ => absurd rfl nonempty
  | [item], exactly, _, fuel + 1, rest, enough => by
      simp only [areExact, Bool.and_true] at exactly
      exact readItems_of_bracket
        (readValue_writeChars item exactly fuel (']' :: rest) (Nat.le_of_lt_succ enough) rfl)
  | item :: next :: others, exactly, _, fuel + 1, rest, enough => by
      rw [areExact, Bool.and_eq_true] at exactly
      simp only [writeItems, List.length_append, List.length_cons] at enough
      have first := readValue_writeChars item exactly.1 fuel
        (',' :: (writeItems (next :: others) ++ ']' :: rest)) (by omega) rfl
      have later := readItems_writeItems (next :: others) exactly.2 (List.cons_ne_nil _ _) fuel rest
        (by omega)
      rw [writeItems, List.append_assoc, List.cons_append, readItems_of_comma first, later]
      rfl

theorem readMembers_writeMembers : ∀ members : List (String × Json),
    haveExactValues members = true → members ≠ [] →
    ∀ fuel rest, (writeMembers members).length < fuel →
      readMembers fuel (writeMembers members ++ '}' :: rest) =
        some (members.map fun member => (some member.1, member.2), rest)
  | _, _, _, 0, _, enough => absurd enough (Nat.not_lt_zero _)
  | [], _, nonempty, _, _, _ => absurd rfl nonempty
  | [(key, value)], exactly, _, fuel + 1, rest, enough => by
      simp only [haveExactValues, Bool.and_true] at exactly
      simp only [writeMembers, List.length_append, List.length_cons] at enough
      have read := readValue_writeChars value exactly fuel ('}' :: rest) (by omega) rfl
      rw [writeMembers, List.append_assoc, List.cons_append, readMembers_of_brace key read]
      rfl
  | (key, value) :: next :: others, exactly, _, fuel + 1, rest, enough => by
      rw [haveExactValues, Bool.and_eq_true] at exactly
      simp only [writeMembers, List.length_append, List.length_cons] at enough
      have first := readValue_writeChars value exactly.1 fuel
        (',' :: (writeMembers (next :: others) ++ '}' :: rest)) (by omega) rfl
      have later := readMembers_writeMembers (next :: others) exactly.2 (List.cons_ne_nil _ _) fuel
        rest (by omega)
      rw [writeMembers]
      simp only [List.append_assoc, List.cons_append]
      rw [readMembers_of_comma key first, later]
      rfl

end

/-- A tree that is the only one with its text is what the text is read as. -/
theorem read_write {tree : Json} (exactly : tree.isExact = true) : read tree.write = some tree := by
  have value := readValue_writeChars tree exactly (2 * (writeChars tree).length + 2) []
    (by omega) rfl
  rw [List.append_nil] at value
  rw [read, write, String.toList_ofList]
  simp only [value]
  rfl

end Json

end ChatBot
