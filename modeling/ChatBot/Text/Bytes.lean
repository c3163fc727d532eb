/-!
# Places in a text counted in bytes

A place in a text may be given by the number of bytes before it in UTF-8.  A
character takes up to four bytes, so places can lie inside a character; a cut at
such a place goes to the character on its left when a beginning is taken, and loses
the character when a beginning is dropped.
-/

namespace ChatBot

namespace Text

/-- The longest beginning of a text that takes at most a number of bytes. -/
def takeBytes (bytes : Nat) : List Char → List Char
  | [] => []
  | c :: rest => if c.utf8Size ≤ bytes then c :: takeBytes (bytes - c.utf8Size) rest else []

/-- What is left of a text when the characters that start in its first bytes are
dropped. -/
def dropBytes (bytes : Nat) : List Char → List Char
  | [] => []
  | c :: rest => if bytes = 0 then c :: rest else dropBytes (bytes - c.utf8Size) rest

/-- The text between two places. -/
def slice (start stop : Nat) (text : List Char) : List Char :=
  takeBytes (stop - start) (dropBytes start text)

end Text

end ChatBot
