import ChatBot.Pattern.Reader

/-!
# Which patterns can be used

Patterns are matched byte by byte against text in UTF-8, with no tables of Unicode at
hand.  So a pattern cannot ask for what only such tables tell: which characters differ
in case alone, and which are digits, blanks or letters.  With the flag for Unicode off
it can ask for that in ASCII, but then it must not reach any byte outside of ASCII.
-/

namespace ChatBot

namespace Pattern

/-- The flags that decide what a part of a pattern may ask for. -/
structure Mode where
  ignoreCase : Bool
  unicode : Bool
  deriving DecidableEq, Repr

namespace Mode

/-- The flags at the beginning of a pattern. -/
def initial : Mode := ⟨false, true⟩

def changed (mode : Mode) (change : FlagChange) : Mode :=
  ⟨change.apply .ignoreCase mode.ignoreCase, change.apply .unicode mode.unicode⟩

def knowsCase (mode : Mode) : Bool :=
  !(mode.unicode && mode.ignoreCase)

def allows (mode : Mode) (negated : Bool) : Bool :=
  mode.unicode || !negated

/-- Whether a class with a name of one letter may be used. -/
def allowsShorthand (mode : Mode) (negated : Bool) : Bool :=
  !mode.unicode && !negated

end Mode

def Literal.isUsable (mode : Mode) (literal : Literal) : Bool :=
  mode.knowsCase && (mode.unicode || !literal.isByte || literal.char.toNat < 0x80)

/-- Whether a character may stand in a class. -/
def Literal.isUsableInClass (mode : Mode) (literal : Literal) : Bool :=
  mode.knowsCase && (mode.unicode || literal.char.toNat < 0x80)

def Atom.isUsable (mode : Mode) : Atom → Bool
  | .literal character => character.isUsable mode
  | .any => mode.unicode
  | .edge => true
  | .wordEdge => !mode.unicode
  | .shorthand negated => mode.allowsShorthand negated

mutual

/-- Whether an item may stand in a class. -/
def ClassItem.isUsable (mode : Mode) : ClassItem → Bool
  | .literal character => character.isUsableInClass mode
  | .range first last => first.isUsableInClass mode && last.isUsableInClass mode
  | .named negated => mode.knowsCase && mode.allows negated
  | .shorthand negated => mode.allowsShorthand negated
  | .nested negated set => mode.allows negated && set.isUsable mode

/-- Whether a set may stand in a class. -/
def ClassSet.isUsable (mode : Mode) : ClassSet → Bool
  | .items items => areUsable mode items
  | .combined left right => left.isUsable mode && right.isUsable mode

/-- Whether all items may stand in a class. -/
def areUsable (mode : Mode) : List ClassItem → Bool
  | [] => true
  | item :: rest => item.isUsable mode && areUsable mode rest

end

mutual

/-- The flags after a pattern, if it can be used.  A group gives back the flags before
it. -/
def modeAfter? (mode : Mode) : Pattern → Option Mode
  | .flags change => some (mode.changed change)
  | .atom part => if part.isUsable mode then some mode else none
  | .bracket negated set =>
    if mode.allows negated && set.isUsable mode then some mode else none
  | .repeated pattern => modeAfter? mode pattern
  | .group change pattern => (modeAfter? (mode.changed change) pattern).map fun _ => mode
  | .sequence parts => modeAfterAll? mode parts
  | .choice branches => modeAfterAll? mode branches

/-- The flags after patterns that follow one another, if all can be used. -/
def modeAfterAll? (mode : Mode) : List Pattern → Option Mode
  | [] => some mode
  | part :: rest => do modeAfterAll? (← modeAfter? mode part) rest

end

def isUsable (pattern : Pattern) : Bool :=
  (modeAfter? .initial pattern).isSome

/-- Whether a text is a pattern that can be used. -/
def accepts (text : List Char) : Bool :=
  (read? text).any isUsable

end Pattern

end ChatBot
