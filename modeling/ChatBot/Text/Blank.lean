/-!
# Blank characters and trimming

A character is blank when Unicode gives it the property White_Space.  Trimming
a text removes the blank characters at its ends.  The operations are defined on
lists of characters, where they are plain `dropWhile`s, and lifted to strings.
-/

namespace ChatBot

namespace Text

/-- The characters with the Unicode property White_Space. -/
def isBlank (c : Char) : Bool :=
  (9 ≤ c.toNat && c.toNat ≤ 13) || c.toNat == 0x20 || c.toNat == 0x85 ||
    c.toNat == 0xA0 || c.toNat == 0x1680 ||
    (0x2000 ≤ c.toNat && c.toNat ≤ 0x200A) || c.toNat == 0x2028 ||
    c.toNat == 0x2029 || c.toNat == 0x202F || c.toNat == 0x205F ||
    c.toNat == 0x3000

/-- A list of characters without the blanks in front. -/
def dropBlanks (text : List Char) : List Char :=
  text.dropWhile isBlank

/-- A list of characters without the blanks at its end. -/
def dropBlanksRight (text : List Char) : List Char :=
  (text.reverse.dropWhile isBlank).reverse

/-- A list of characters without the blanks at either end. -/
def strip (text : List Char) : List Char :=
  dropBlanksRight (dropBlanks text)

/-- A text without the blanks at either end. -/
def trim (text : String) : String :=
  String.ofList (strip text.toList)

/-- Whether a text holds nothing but blanks. -/
def isAllBlank (text : String) : Bool :=
  text.toList.all isBlank

end Text

end ChatBot
