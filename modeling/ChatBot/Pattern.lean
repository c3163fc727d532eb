/-!
# Patterns

A regular expression as a tree.  The tree keeps what decides whether a pattern can be
used: which characters it names, how it nests, and how its flags change on the way.
It does not tell apart the kinds of repetition, the kinds of edges, the named classes,
or the operations between classes.
-/

namespace ChatBot

namespace Pattern

/-- What a flag of a pattern turns on. -/
inductive Flag where
  | ignoreCase
  | multiLine
  | dotAll
  | swapGreed
  | unicode
  | carriageReturn
  | spaced
  deriving DecidableEq, Repr

/-- A change of flags: some are turned on and others off. -/
structure FlagChange where
  on : List Flag
  off : List Flag
  deriving DecidableEq, Repr

namespace FlagChange

def none : FlagChange := ⟨[], []⟩

def mentions (change : FlagChange) (flag : Flag) : Bool :=
  change.on.contains flag || change.off.contains flag

/-- One more flag in a change, turned off or on. -/
def add (change : FlagChange) (negative : Bool) (flag : Flag) : FlagChange :=
  if negative then { change with off := change.off ++ [flag] }
  else { change with on := change.on ++ [flag] }

/-- Whether a flag is on after a change. -/
def apply (change : FlagChange) (flag : Flag) (before : Bool) : Bool :=
  change.on.contains flag || (before && !change.off.contains flag)

end FlagChange

/-- A character that a pattern names.  A byte is written with two hexadecimal
digits. -/
structure Literal where
  char : Char
  isByte : Bool
  deriving DecidableEq, Repr

/-- The smallest parts of a pattern: a character, any character, an edge of the text or
of a line, an edge of a word, and a class with a name of one letter. -/
inductive Atom where
  | literal (literal : Literal)
  | any
  | edge
  | wordEdge
  | shorthand (negated : Bool)
  deriving DecidableEq, Repr

mutual

/-- What may stand in a class. -/
inductive ClassItem where
  | literal (literal : Literal)
  | range (first last : Literal)
  | named (negated : Bool)
  | shorthand (negated : Bool)
  | nested (negated : Bool) (set : ClassSet)

/-- What a class holds: items side by side, or two sets with an operation between
them. -/
inductive ClassSet where
  | items (items : List ClassItem)
  | combined (left right : ClassSet)

end

end Pattern

open Pattern in
/-- A regular expression. -/
inductive Pattern where
  | flags (change : FlagChange)
  | atom (atom : Atom)
  | bracket (negated : Bool) (set : ClassSet)
  | repeated (pattern : Pattern)
  | group (change : FlagChange) (pattern : Pattern)
  | sequence (parts : List Pattern)
  | choice (branches : List Pattern)
  deriving Inhabited

namespace Pattern

/-- The sequence of some parts.  One part is its own sequence. -/
def ofParts : List Pattern → Pattern
  | [part] => part
  | parts => sequence parts

/-- The choice between some branches.  One branch is its own choice. -/
def ofBranches : List Pattern → Pattern
  | [branch] => branch
  | branches => choice branches

mutual

/-- How many sets stand inside one another in an item. -/
def ClassItem.nesting : ClassItem → Nat
  | .nested _ set => set.nesting + 1
  | _ => 0

/-- How many sets stand inside one another in a set.  Items side by side count from two
on. -/
def ClassSet.nesting : ClassSet → Nat
  | .items [] => 0
  | .items [item] => item.nesting
  | .items (item :: rest) => max item.nesting (itemsNesting rest) + 1
  | .combined left right => max left.nesting right.nesting + 1

/-- How many sets stand inside one another in some items. -/
def itemsNesting : List ClassItem → Nat
  | [] => 0
  | item :: rest => max item.nesting (itemsNesting rest)

end

mutual

/-- How many parts of a pattern stand inside one another. -/
def nesting : Pattern → Nat
  | .flags _ | .atom _ | .sequence [] => 0
  | .bracket _ set => set.nesting + 1
  | .repeated pattern | .group _ pattern => pattern.nesting + 1
  | .sequence (part :: parts) => max part.nesting (partsNesting parts) + 1
  | .choice branches => partsNesting branches + 1

/-- How many parts stand inside one another in some patterns. -/
def partsNesting : List Pattern → Nat
  | [] => 0
  | part :: rest => max part.nesting (partsNesting rest)

end

/-- The deepest nesting that a pattern may have. -/
def maxNesting : Nat := 250

end Pattern

end ChatBot
