/-!
# Sets of characters given by boundaries

A set of code points is written as the ascending list of the places where
membership changes: the first member, the first code point after that run, the
first member of the next run, and so on.
-/

namespace ChatBot

namespace Text

/-- Whether a code point is in the set with the given boundaries: it is when an
odd number of them are at or below it. -/
def inSet (boundaries : List Nat) (code : Nat) : Bool :=
  boundaries.countP (· ≤ code) % 2 = 1

end Text

end ChatBot
