import ChatBot.Toml.Lexical

/-!
# Numbers of a TOML document

Integers in four bases and numbers with a fraction or an exponent.  Digits may be
grouped by single underscores between them.
-/

namespace ChatBot

namespace Toml

/-- Further digits at the start of a text, each of which may follow an
underscore. -/
def moreDigits (isDigit : Char → Bool) : List Char → List Char × List Char
  | [] => ([], [])
  | '_' :: c :: rest =>
    if isDigit c then
      let (digits, rest) := moreDigits isDigit rest
      (c :: digits, rest)
    else ([], '_' :: c :: rest)
  | c :: rest =>
    if isDigit c then
      let (digits, rest) := moreDigits isDigit rest
      (c :: digits, rest)
    else ([], c :: rest)

/-- Digits at the start of a text, at least one. -/
def digits? (isDigit : Char → Bool) : List Char → Option (List Char × List Char)
  | [] => none
  | c :: rest =>
    if isDigit c then
      let (digits, rest) := moreDigits isDigit rest
      some (c :: digits, rest)
    else none

/-- The digits of a decimal integer: they start with a zero only if there is no
other digit. -/
def wholeDigits? : List Char → Option (List Char × List Char)
  | '0' :: rest => some (['0'], rest)
  | text => digits? Char.isDigit text

/-- The leaf of an integer, if it fits into a signed 64-bit word. -/
def integerLeaf? (value : Int) : Option Json :=
  if -9223372036854775808 ≤ value ∧ value ≤ 9223372036854775807 then some (.int value)
  else none

def valueInBase (base : Nat) (digits : List Char) : Nat :=
  digits.foldl (fun value c => value * base + (Json.hexValue? c).getD 0) 0

/-- Whether a character is a digit of a base. -/
def isDigitOf (base : Nat) (c : Char) : Bool :=
  match Json.hexValue? c with
  | some value => value < base
  | none => false

/-- Reads an integer of a base other than ten from after its mark. -/
def integerInBase? (base : Nat) (text : List Char) : Option (Json × List Char) := do
  let (digits, rest) ← digits? (isDigitOf base) text
  some (← integerLeaf? (valueInBase base digits), rest)

/-- Reads the digits of an exponent from after its letter. -/
def exponent? : List Char → Option (Int × List Char)
  | '-' :: rest => (digits? Char.isDigit rest).map fun (digits, rest) =>
    (-(Json.digitsValue digits : Int), rest)
  | '+' :: rest => (digits? Char.isDigit rest).map fun (digits, rest) =>
    ((Json.digitsValue digits : Int), rest)
  | rest => (digits? Char.isDigit rest).map fun (digits, rest) =>
    ((Json.digitsValue digits : Int), rest)

/-- The leaf of a number with a fraction or an exponent.  A positive number beyond
all doubles is refused. -/
def decimalLeaf? (negative : Bool) (digits : List Char) (exponent : Int) : Option Json :=
  let magnitude := Json.digitsValue digits
  if Double.isFinite magnitude exponent then
    some (.decimal (if negative then -(magnitude : Int) else magnitude) exponent)
  else if negative then some .unreadable
  else none

/-- Reads a decimal number from after its sign. -/
def magnitude? (negative : Bool) (text : List Char) : Option (Json × List Char) := do
  let (whole, rest) ← wholeDigits? text
  match rest with
  | '.' :: rest => do
    let (fraction, rest) ← digits? Char.isDigit rest
    match rest with
    | c :: after =>
      if c = 'e' ∨ c = 'E' then do
        let (exponent, rest) ← exponent? after
        some (← decimalLeaf? negative (whole ++ fraction) (exponent - fraction.length), rest)
      else some (← decimalLeaf? negative (whole ++ fraction) (-fraction.length), c :: after)
    | [] => some (← decimalLeaf? negative (whole ++ fraction) (-fraction.length), [])
  | c :: after =>
    if c = 'e' ∨ c = 'E' then do
      let (exponent, rest) ← exponent? after
      some (← decimalLeaf? negative whole exponent, rest)
    else integerOf whole (c :: after)
  | [] => integerOf whole []
where
  /-- The integer of its digits. -/
  integerOf (digits rest : List Char) : Option (Json × List Char) := do
    let value : Int := Json.digitsValue digits
    some (← integerLeaf? (if negative then -value else value), rest)

/-- Reads a number that is no number of digits: an infinity, or none at all. -/
def specialNumber? : List Char → Option (Json × List Char)
  | 'i' :: 'n' :: 'f' :: rest => some (.unreadable, rest)
  | 'n' :: 'a' :: 'n' :: rest => some (.unreadable, rest)
  | _ => none

def number? : List Char → Option (Json × List Char)
  | '0' :: 'x' :: rest => integerInBase? 16 rest
  | '0' :: 'o' :: rest => integerInBase? 8 rest
  | '0' :: 'b' :: rest => integerInBase? 2 rest
  | '+' :: rest => (specialNumber? rest).or (magnitude? false rest)
  | '-' :: rest => (specialNumber? rest).or (magnitude? true rest)
  | rest => (specialNumber? rest).or (magnitude? false rest)

end Toml

end ChatBot
