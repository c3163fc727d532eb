import ChatBot.Json.Reader
import ChatBot.Pattern
import ChatBot.Text.Blank

/-!
# Reading escapes and classes of patterns

The characters of a pattern and the classes in square brackets.  Where a pattern is
spaced out, blanks and comments from a number sign to the end of the line mean
nothing.

A pattern that is read here stands between braces, so it holds no closing brace, and
whatever would need one is no pattern.
-/

namespace ChatBot

namespace Pattern

/-- The text without the blanks and comments in front, the first of which may have
begun. -/
def skipSpace (inComment : Bool) : List Char → List Char
  | [] => []
  | c :: rest =>
    if inComment then skipSpace (c ≠ '\n') rest
    else if Text.isBlank c then skipSpace false rest
    else if c = '#' then skipSpace true rest
    else c :: rest

def skip (spaced : Bool) (text : List Char) : List Char :=
  if spaced then skipSpace false text else text

/-- Whether a backslash in front of a character stands for that character: it does for
all of ASCII but letters, digits and the signs for the edges of a word. -/
def isEscapable (c : Char) : Bool :=
  c.toNat < 0x80 && !c.isAlphanum && c ≠ '<' && c ≠ '>'

/-- The characters that letters stand for after a backslash. -/
def controls : List (Char × Char) :=
  [('a', '\x07'), ('f', '\x0c'), ('n', '\n'), ('r', '\r'), ('t', '\t'), ('v', '\x0b')]

/-- The number of hexadecimal digits after a letter. -/
def hexDigits : List (Char × Nat) :=
  [('x', 2), ('u', 4), ('U', 8)]

def hexCode? (spaced : Bool) : Nat → Nat → List Char → Option (Nat × List Char)
  | 0, code, text => some (code, skip spaced text)
  | count + 1, code, text =>
    match skip spaced text with
    | [] => none
    | c :: rest => do
      let digit ← Json.hexValue? c
      hexCode? spaced count (code * 16 + digit) rest

def escape? (spaced : Bool) : List Char → Option (Atom × List Char)
  | [] => none
  | c :: rest =>
    match hexDigits.lookup c, controls.lookup c with
    | some count, _ => do
      let (code, rest) ← hexCode? spaced count 0 rest
      if code < 0xD800 ∨ (0xE000 ≤ code ∧ code < 0x110000) then
        some (.literal ⟨Char.ofNat code, count = 2⟩, rest)
      else none
    | none, some control => some (.literal ⟨control, false⟩, rest)
    | none, none =>
      if isEscapable c then some (.literal ⟨c, false⟩, rest)
      else if ['d', 's', 'w'].contains c then some (.shorthand false, rest)
      else if ['D', 'S', 'W'].contains c then some (.shorthand true, rest)
      else if ['A', 'z'].contains c then some (.edge, rest)
      else if ['b', 'B', '<', '>'].contains c then some (.wordEdge, rest)
      else none

def classNames : List String :=
  ["alnum", "alpha", "ascii", "blank", "cntrl", "digit", "graph", "lower", "print", "punct",
    "space", "upper", "word", "xdigit"]

def named? (text : List Char) : Option (ClassItem × List Char) :=
  match text with
  | ':' :: rest =>
    let negated := rest.head? = some '^'
    let rest := if negated then rest.drop 1 else rest
    let name := rest.takeWhile (· ≠ ':')
    match rest.dropWhile (· ≠ ':') with
    | ':' :: ']' :: rest =>
      if classNames.contains (String.ofList name) then some (.named negated, rest) else none
    | _ => none
  | _ => none

/-- Reads minus signs, the first of which may follow a comment.  Gives their number. -/
def minusSigns (spaced inComment : Bool) : List Char → Nat × List Char
  | [] => (0, [])
  | c :: rest =>
    if inComment then minusSigns spaced (c ≠ '\n') rest
    else if spaced && Text.isBlank c then minusSigns spaced false rest
    else if spaced && c = '#' then minusSigns spaced true rest
    else if c = '-' then
      let (count, rest) := minusSigns spaced false rest
      (count + 1, rest)
    else (0, c :: rest)

/-- Reads the beginning of a class after its bracket: whether it is negated, the minus
signs in front, and a closing bracket that stands for itself because it comes first. -/
def bracketOpening (spaced : Bool) (text : List Char) : Bool × List ClassItem × List Char :=
  let text := skip spaced text
  let negated := text.head? = some '^'
  let (count, rest) := minusSigns spaced false (if negated then text.drop 1 else text)
  match count, rest with
  | 0, ']' :: rest => (negated, [.literal ⟨']', false⟩], rest)
  | count, rest => (negated, List.replicate count (.literal ⟨'-', false⟩), rest)

/-- Reads a character or an escape in a class. -/
def classAtom? (spaced : Bool) : List Char → Option (Atom × List Char)
  | [] => none
  | '\\' :: rest => escape? spaced rest
  | c :: rest => some (.literal ⟨c, false⟩, rest)

/-- The item of a class that is a character or an escape. -/
def ClassItem.ofAtom? : Atom → Option ClassItem
  | .literal character => some (.literal character)
  | .shorthand negated => some (.shorthand negated)
  | .any | .edge | .wordEdge => none

def ClassItem.ofAtoms? : Atom → Atom → Option ClassItem
  | .literal first, .literal last =>
    if first.char.toNat ≤ last.char.toNat then some (.range first last) else none
  | _, _ => none

/-- The character that decides whether a minus sign before a text makes a range.  Where
the pattern is spaced out it is looked for behind blanks and a number sign. -/
def afterMinus? (spaced : Bool) (text : List Char) : Option Char :=
  if spaced then
    match text.dropWhile Text.isBlank with
    | '#' :: rest => (rest.dropWhile Text.isBlank).head?
    | rest => rest.head?
  else text.head?

/-- Reads a character, an escape or a range in a class. -/
def item? (spaced : Bool) (text : List Char) : Option (ClassItem × List Char) := do
  let (first, rest) ← classAtom? spaced text
  match skip spaced rest with
  | [] => none
  | '-' :: after =>
    if [some ']', some '-'].contains (afterMinus? spaced after) then
      some (← ClassItem.ofAtom? first, '-' :: after)
    else
      let (last, rest) ← classAtom? spaced (skip spaced after)
      some (← ClassItem.ofAtoms? first last, rest)
  | rest => some (← ClassItem.ofAtom? first, rest)

/-- The set of items that follow an operation, if there is one.  The last item comes
first. -/
def closing (before : Option ClassSet) (items : List ClassItem) : ClassSet :=
  match before with
  | some left => .combined left (.items items.reverse)
  | none => .items items.reverse

/-- Reads on in a class up to its closing bracket, after a set with an operation and
items that have been read, the last of which comes first. -/
def set? (spaced : Bool) :
    Nat → Option ClassSet → List ClassItem → List Char → Option (ClassSet × List Char)
  | 0, _, _, _ => none
  | fuel + 1, before, items, text =>
    match skip spaced text with
    | ']' :: rest => some (closing before items, rest)
    | '&' :: '&' :: rest | '-' :: '-' :: rest | '~' :: '~' :: rest =>
      set? spaced fuel (some (closing before items)) [] rest
    | '[' :: rest =>
      match named? rest with
      | some (item, rest) => set? spaced fuel before (item :: items) rest
      | none => do
        let (negated, first, rest) := bracketOpening spaced rest
        let (set, rest) ← set? spaced fuel none first rest
        set? spaced fuel before (.nested negated set :: items) rest
    | text => do
      let (item, rest) ← item? spaced text
      set? spaced fuel before (item :: items) rest

end Pattern

end ChatBot
