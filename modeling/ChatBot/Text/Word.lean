import ChatBot.Text.CharacterSet
import ChatBot.Text.WordData

/-!
# Letters and numbers

The classes of characters of which words consist, in all scripts.
-/

namespace ChatBot

namespace Text

/-- Whether a character is a letter or a number. -/
def isWord (c : Char) : Bool :=
  inSet wordBoundaries c.toNat

/-- Whether a character is a letter. -/
def isLetter (c : Char) : Bool :=
  isWord c && !inSet numberBoundaries c.toNat

end Text

end ChatBot
