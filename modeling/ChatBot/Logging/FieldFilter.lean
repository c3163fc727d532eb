import ChatBot.Pattern.Support

/-!
# Field filters

A field filter names a field of a span and may ask for its value, after an equals
sign.  The value is a truth value, a number, or else a pattern.
-/

namespace ChatBot

namespace FieldFilter

/-- Whether a text is an exponent, or empty. -/
def isExponentPart : List Char → Bool
  | [] => true
  | c :: rest =>
    let signed := ['+', '-'].contains (rest.headD ' ')
    let digits := if signed then rest.drop 1 else rest
    (c = 'e' || c = 'E') && !digits.isEmpty && digits.all Char.isDigit

/-- Whether a text is a number in decimal digits, with a point or an exponent if need
be. -/
def isDecimal (text : List Char) : Bool :=
  let whole := text.takeWhile Char.isDigit
  let rest := text.dropWhile Char.isDigit
  let after := if rest.head? = some '.' then rest.drop 1 else rest
  let fraction := if rest.head? = some '.' then after.takeWhile Char.isDigit else []
  !(whole.isEmpty && fraction.isEmpty) && isExponentPart (after.drop fraction.length)

/-- The names of the numbers that no digits denote, in small letters. -/
def specialNames : List String :=
  ["inf", "infinity", "nan"]

/-- Whether a text is a number after a plus sign.  Any other number, and a truth value,
is a pattern too. -/
def isPlusNumber : List Char → Bool
  | '+' :: rest =>
    isDecimal rest || specialNames.contains (String.ofList (rest.map Char.toLower))
  | _ => false

/-- Whether a text may be asked for as a value. -/
def isValue (text : List Char) : Bool :=
  isPlusNumber text || Pattern.accepts text

/-- The value that a filter asks for, up to a second equals sign. -/
def valuePart? (text : List Char) : Option (List Char) :=
  match text.dropWhile (· ≠ '=') with
  | [] => none
  | _ :: rest => some (rest.takeWhile (· ≠ '='))

def isValid (text : List Char) : Bool :=
  !text.isEmpty && (valuePart? text).all isValue

end FieldFilter

end ChatBot
