import ChatBot.Table

/-!
# JSON trees

A JSON text as a tree.  Objects keep their members in the order in which they
are written, repetitions included; whoever reads a tree decides what a repeated
member means.

Two leaves stand for literals that are well formed but are not integers or
texts.  A `decimal` is a number written with a fraction or an exponent, or an
integer beyond the 64-bit range, or `-0`.  An `unreadable` value has no meaning
at all, such as a string whose escapes leave a surrogate alone; it may only be
skipped.
-/

namespace ChatBot

/-- A JSON text as a tree. -/
inductive Json where
  | null
  | bool (value : Bool)
  | int (value : Int)
  | decimal (significand : Int) (exponent : Int)
  | str (text : String)
  | arr (items : List Json)
  | obj (members : List (String × Json))
  | unreadable
  deriving Inhabited

namespace Json

/-- The integers that a JSON number holds exactly: those of a signed or an
unsigned 64-bit word. -/
def inIntRange (n : Int) : Bool :=
  -9223372036854775808 ≤ n && n ≤ 18446744073709551615

def ofOption {α : Type} (encode : α → Json) : Option α → Json
  | none => null
  | some value => encode value

mutual

/-- How many arrays and objects stand inside one another, the outermost
counted. -/
def depth : Json → Nat
  | arr items => depthOfItems items + 1
  | obj members => depthOfMembers members + 1
  | _ => 0

/-- The greatest depth among the items of an array. -/
def depthOfItems : List Json → Nat
  | [] => 0
  | item :: rest => max (depth item) (depthOfItems rest)

/-- The greatest depth among the members of an object. -/
def depthOfMembers : List (String × Json) → Nat
  | [] => 0
  | (_, value) :: rest => max (depth value) (depthOfMembers rest)

end

mutual

/-- Whether no part of a tree is unreadable. -/
def isReadable : Json → Bool
  | unreadable => false
  | arr items => areReadable items
  | obj members => haveReadableValues members
  | _ => true

/-- Whether no item of an array has an unreadable part. -/
def areReadable : List Json → Bool
  | [] => true
  | item :: rest => isReadable item && areReadable rest

/-- Whether no member of an object has an unreadable part. -/
def haveReadableValues : List (String × Json) → Bool
  | [] => true
  | (_, value) :: rest => isReadable value && haveReadableValues rest

end

/-- The deepest nesting that a reader which keeps the whole tree accepts. -/
def maxDepth : Nat := 127

mutual

/-- The same value with the members of every object sorted by key, each key
once and with the value given last. -/
def normalize : Json → Json
  | arr items => arr (normalizeItems items)
  | obj members => obj (normalizeMembers [] members)
  | value => value

def normalizeItems : List Json → List Json
  | [] => []
  | item :: rest => normalize item :: normalizeItems rest

/-- Adds the members of an object, normalized, to sorted members. -/
def normalizeMembers (sorted : List (String × Json)) :
    List (String × Json) → List (String × Json)
  | [] => sorted
  | (key, value) :: rest =>
    normalizeMembers (insertEntry key (normalize value) sorted) rest

end

end Json

end ChatBot
