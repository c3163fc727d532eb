/-!
# Occurrences of a text in another

Whether the characters of one text stand in a row somewhere in another.
-/

namespace ChatBot

namespace Text

/-- Whether some characters stand in a row in others. -/
def occursIn (part : List Char) : List Char → Bool
  | [] => part.isEmpty
  | c :: rest => part.isPrefixOf (c :: rest) || occursIn part rest

/-- Whether a text contains another. -/
def contains (whole part : String) : Bool :=
  occursIn part.toList whole.toList

end Text

end ChatBot
