import ChatBot.Json

/-!
# Writing JSON

The compact form of a JSON tree: no blanks between tokens, members in the order
of the tree, strings with the short escapes where there are any and `\u00xx` for
the other control characters.
-/

namespace ChatBot

namespace Json

/-- The lower-case hexadecimal digit of a number below sixteen. -/
def hexDigit (n : Nat) : Char :=
  if n < 10 then Char.ofNat (n + 48) else Char.ofNat (n + 87)

/-- One character of a string as it is written between quotation marks. -/
def writeChar (c : Char) : List Char :=
  if c = '"' then ['\\', '"']
  else if c = '\\' then ['\\', '\\']
  else if c.toNat < 0x20 then
    if c.toNat = 8 then ['\\', 'b']
    else if c.toNat = 9 then ['\\', 't']
    else if c.toNat = 10 then ['\\', 'n']
    else if c.toNat = 12 then ['\\', 'f']
    else if c.toNat = 13 then ['\\', 'r']
    else ['\\', 'u', '0', '0', hexDigit (c.toNat / 16), hexDigit (c.toNat % 16)]
  else [c]

def writeString (text : String) : List Char :=
  '"' :: (text.toList.flatMap writeChar ++ ['"'])

/-- An integer in decimal digits, with a sign when it is negative. -/
def writeInt (n : Int) : List Char :=
  if n < 0 then '-' :: Nat.toDigits 10 n.natAbs else Nat.toDigits 10 n.natAbs

mutual

/-- The compact text of a tree, as characters. -/
def writeChars : Json → List Char
  | null => ['n', 'u', 'l', 'l']
  | bool true => ['t', 'r', 'u', 'e']
  | bool false => ['f', 'a', 'l', 's', 'e']
  | int n => writeInt n
  | decimal significand exponent => writeInt significand ++ 'e' :: writeInt exponent
  | str text => writeString text
  | arr items => '[' :: (writeItems items ++ [']'])
  | obj members => '{' :: (writeMembers members ++ ['}'])
  | unreadable => ['"', '\\', 'u', 'd', '8', '0', '0', '"']

/-- The items of an array with commas between them. -/
def writeItems : List Json → List Char
  | [] => []
  | [item] => writeChars item
  | item :: next :: rest => writeChars item ++ ',' :: writeItems (next :: rest)

/-- The members of an object with commas between them. -/
def writeMembers : List (String × Json) → List Char
  | [] => []
  | [(key, value)] => writeString key ++ ':' :: writeChars value
  | (key, value) :: next :: rest =>
    writeString key ++ ':' :: (writeChars value ++ ',' :: writeMembers (next :: rest))

end

def write (tree : Json) : String :=
  String.ofList (writeChars tree)

end Json

end ChatBot
