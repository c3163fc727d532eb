import ChatBot.Json.Overlay
import ChatBot.Json.Reader
import ChatBot.Text.Blank
import ChatBot.Text.Bytes

/-!
# Settings in environment variables

A variable sets what its name says: after a fixed beginning, the names of the
nested settings with two underscores or a dot between them.  Its text denotes a
value: a truth value, a number, a quoted text, a table in braces, a list in square
brackets, or else the text itself.
-/

namespace ChatBot

namespace Variables

/-- The beginning of the names of all variables that set something. -/
def nameStart : String := "PERCH_"

def profileName : String := "PERCH_PROFILE"

/-- A list of characters with its letters in lower case, as far as they are in
ASCII. -/
def lower (text : List Char) : List Char :=
  text.map Char.toLower

/-- A list of characters with a dot in the place of every two underscores. -/
def dotted : List Char → List Char
  | '_' :: '_' :: rest => '.' :: dotted rest
  | c :: rest => c :: dotted rest
  | [] => []

/-- What stands between the dots of a list of characters. -/
def splitAtDots : List Char → List (List Char)
  | [] => [[]]
  | '.' :: rest => [] :: splitAtDots rest
  | c :: rest =>
    match splitAtDots rest with
    | [] => [[c]]
    | first :: others => (c :: first) :: others

/-- The names of the nested settings that a variable sets.  Other variables, the one
that names the profile, and those with an empty name among theirs set none. -/
def keys (name : String) : List String :=
  let name := Text.strip name.toList
  let rest := Text.strip (dotted (name.drop nameStart.length))
  let parts := splitAtDots rest
  if lower (name.take nameStart.length) ≠ lower nameStart.toList then []
  else if lower rest = "profile".toList then []
  else if parts.any List.isEmpty then []
  else parts.map fun part => String.ofList (lower part)

/-- The blanks that may stand around a value. -/
def isSpace (c : Char) : Bool :=
  c = ' ' || c = '\t' || c = '\n' || c = '\r' || c = '\x0c'

def skipSpaces (text : List Char) : List Char :=
  text.dropWhile isSpace

def isSeparator (c : Char) : Bool :=
  c = ',' || c = '\x7b' || c = '\x7d' || c = '[' || c = ']'

/-- The characters of a key without quotation marks. -/
def isKeyChar (c : Char) : Bool :=
  c.isAlphanum || c = '_' || c = '-'

/-- The characters of a quoted text up to its closing mark, escapes and all. -/
def quotedPart : List Char → Option (List Char × List Char)
  | [] => none
  | '"' :: rest => some ([], rest)
  | '\\' :: c :: rest => do
    let (text, rest) ← quotedPart rest
    some ('\\' :: c :: text, rest)
  | c :: rest => do
    let (text, rest) ← quotedPart rest
    some (c :: text, rest)

/-- The character of the code point that hexadecimal digits denote. -/
def codePoint? (digits : List Char) : Option Char := do
  let code ← digits.foldlM (fun value c => (Json.hexValue? c).map (value * 16 + ·)) 0
  if code < 0xD800 ∨ (0xE000 ≤ code ∧ code < 0x110000) then some (Char.ofNat code) else none

def unescape : List Char → Option (List Char)
  | [] => some []
  | '\\' :: 'u' :: a :: b :: c :: d :: rest => do
    some ((← codePoint? [a, b, c, d]) :: (← unescape rest))
  | '\\' :: 'U' :: a :: b :: c :: d :: e :: f :: g :: h :: rest => do
    some ((← codePoint? [a, b, c, d, e, f, g, h]) :: (← unescape rest))
  | '\\' :: c :: rest => do
    if c = '/' then none
    some ((← Json.escapeValue? c) :: (← unescape rest))
  | c :: rest =>
    if c ≠ '\\' ∧ (c = '\t' ∨ (0x20 ≤ c.toNat ∧ c.toNat ≠ 0x7F)) then
      (unescape rest).map (c :: ·)
    else none

/-- The text that stands for what was written between quotation marks.  When it holds
escapes, what comes before the first of them is cut to as many bytes as it has
characters, which shortens it if it goes beyond ASCII. -/
def quotedText? (part : List Char) : Option (List Char) := do
  let text ← unescape part
  let before := part.takeWhile (· ≠ '\\')
  if before.length = part.length then some text
  else some (Text.takeBytes before.length before ++ text.drop before.length)

/-- Reads a quoted text from after its opening mark. -/
def quoted? (text : List Char) : Option (String × List Char) := do
  let (part, rest) ← quotedPart text
  some (String.ofList (← quotedText? part), rest)

/-- The digits of a plain number after its sign, and whether it is negative. -/
def signed : List Char → Bool × List Char
  | '+' :: rest => (false, rest)
  | '-' :: rest => (true, rest)
  | rest => (false, rest)

/-- The integer that a text denotes, within the range of a signed or an unsigned
64-bit word. -/
def integer? (text : List Char) : Option Int :=
  let (negative, digits) := signed text
  if digits.isEmpty || !digits.all Char.isDigit then none
  else
    let value : Int :=
      if negative then -(Json.digitsValue digits : Int) else Json.digitsValue digits
    if Json.inIntRange value then some value else none

/-- Whether a text is an exponent, or empty. -/
def isExponentPart : List Char → Bool
  | [] => true
  | c :: rest =>
    let digits := (signed rest).2
    (c = 'e' || c = 'E') && !digits.isEmpty && digits.all Char.isDigit

/-- Whether a text is a number with a point. -/
def isDecimal (text : List Char) : Bool :=
  let text := (signed text).2
  let whole := text.takeWhile Char.isDigit
  match text.dropWhile Char.isDigit with
  | '.' :: rest =>
    !(whole.isEmpty && (rest.takeWhile Char.isDigit).isEmpty) &&
      isExponentPart (rest.dropWhile Char.isDigit)
  | _ => false

/-- The value of a plain text.  Nothing is learnt from a number with a point. -/
def plain (text : List Char) : Json :=
  if isDecimal text then .unreadable
  else
    match integer? text with
    | some value => .int value
    | none => .str (String.ofList text)

def key? : List Char → Option (String × List Char)
  | '"' :: rest => quoted? rest
  | text =>
    if (text.takeWhile isKeyChar).isEmpty then none
    else some (String.ofList (text.takeWhile isKeyChar), text.dropWhile isKeyChar)

mutual

/-- Reads a value and the blanks after it. -/
def value? : Nat → List Char → Option (Json × List Char)
  | 0, _ => none
  | fuel + 1, text =>
    let found : Option (Json × List Char) :=
      match skipSpaces text with
      | 't' :: 'r' :: 'u' :: 'e' :: rest => some (.bool true, rest)
      | 'f' :: 'a' :: 'l' :: 's' :: 'e' :: rest => some (.bool false, rest)
      | '{' :: rest => (members? fuel [] rest).map fun (members, rest) => (.obj members, rest)
      | '[' :: rest => (items? fuel rest).map fun (items, rest) => (.arr items, rest)
      | '"' :: rest => (quoted? rest).map fun (text, rest) => (.str text, rest)
      | '\'' :: rest =>
        match rest with
        | c :: '\'' :: rest => some (.str (String.ofList [c]), rest)
        | _ => none
      | rest =>
        some (plain (Text.strip (rest.takeWhile (!isSeparator ·))),
          rest.dropWhile (!isSeparator ·))
    found.map fun (value, rest) => (value, skipSpaces rest)

/-- Reads the items of a list and the closing bracket.  A comma may follow the last
item. -/
def items? : Nat → List Char → Option (List Json × List Char)
  | 0, _ => none
  | fuel + 1, text =>
    match text with
    | ']' :: rest => some ([], rest)
    | text => do
      let (item, rest) ← value? fuel text
      match rest with
      | ',' :: rest => do
        let (items, rest) ← items? fuel rest
        some (item :: items, rest)
      | ']' :: rest => some ([item], rest)
      | _ => none

/-- Reads the members of a table after given ones, and the closing brace.  A comma
may follow the last member. -/
def members? : Nat → List (String × Json) → List Char →
    Option (List (String × Json) × List Char)
  | 0, _, _ => none
  | fuel + 1, members, text =>
    match text with
    | '}' :: rest => some (members, rest)
    | text => do
      let (key, rest) ← key? (skipSpaces text)
      match skipSpaces rest with
      | '=' :: rest => do
        let (value, rest) ← value? fuel rest
        let members := Json.setMember key value members
        match rest with
        | ',' :: rest => members? fuel members rest
        | '}' :: rest => some (members, rest)
        | _ => none
      | _ => none

end

/-- The value that the text of a variable denotes. -/
def value (text : String) : Json :=
  match value? (2 * text.length + 2) text.toList with
  | some (value, []) => value
  | _ => .str text

def nest (keys : List String) (value : Json) : Json :=
  keys.foldr (fun key value => .obj [(key, value)]) value

/-- The settings that variables make, a later one over an earlier one. -/
def settings (environment : List (String × String)) : Json :=
  Json.overlayAll (environment.filterMap fun (name, text) =>
    match keys name with
    | [] => none
    | keys => some (nest keys (value text)))

end Variables

end ChatBot
