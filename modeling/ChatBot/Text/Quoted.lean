import ChatBot.Text.CharacterSet
import ChatBot.Text.HiddenData

/-!
# Quoted text

A text between quotation marks, on one line and with every character visible.
Quotation marks, backslashes and the common control characters have short
escapes; any other character that would not show, or would attach to the one
before it, is written by its code point.
-/

namespace ChatBot

namespace Text

/-- Whether a character is shown as it is. -/
def isVisible (c : Char) : Bool :=
  if c.toNat < 0x80 then 0x20 ≤ c.toNat && c.toNat < 0x7F
  else !inSet hiddenBoundaries c.toNat

/-- One character as it stands between quotation marks. -/
def quoteChar (c : Char) : List Char :=
  if c = '"' then ['\\', '"']
  else if c = '\\' then ['\\', '\\']
  else if c = '\n' then ['\\', 'n']
  else if c = '\t' then ['\\', 't']
  else if c = '\r' then ['\\', 'r']
  else if c.toNat = 0 then ['\\', '0']
  else if isVisible c then [c]
  else ['\\', 'u', '\x7b'] ++ Nat.toDigits 16 c.toNat ++ ['\x7d']

/-- A text between quotation marks. -/
def quote (text : String) : String :=
  String.ofList ('"' :: (text.toList.flatMap quoteChar ++ ['"']))

end Text

end ChatBot
