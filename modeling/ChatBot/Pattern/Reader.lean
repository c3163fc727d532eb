import ChatBot.Pattern.Class
import ChatBot.Text.Word

/-!
# Reading patterns

A pattern is a choice between sequences of characters, classes, groups and
repetitions.  Flags in parentheses hold up to the end of the group in which they
stand, in all branches that follow.
-/

namespace ChatBot

namespace Pattern

def Flag.ofLetter? : Char → Option Flag
  | 'i' => some .ignoreCase
  | 'm' => some .multiLine
  | 's' => some .dotAll
  | 'U' => some .swapGreed
  | 'u' => some .unicode
  | 'R' => some .carriageReturn
  | 'x' => some .spaced
  | _ => none

/-- Reads the letters of flags up to a colon or a closing parenthesis, which comes with
the rest.  A minus sign stands once at most, and not at the end. -/
def flagChange? (change : FlagChange) (negative afterSign : Bool) :
    List Char → Option (FlagChange × List Char)
  | [] => none
  | c :: rest =>
    if c = ':' ∨ c = ')' then if afterSign then none else some (change, c :: rest)
    else if c = '-' then if negative then none else flagChange? change true true rest
    else do
      let flag ← Flag.ofLetter? c
      if change.mentions flag then none
      else flagChange? (change.add negative flag) negative false rest

def isGroupName : List Char → Bool
  | [] => false
  | first :: rest =>
    (first = '_' || Text.isLetter first) &&
      rest.all fun c => ['_', '.', '[', ']'].contains c || Text.isWord c

/-- What stands after an opening parenthesis. -/
inductive Opening where
  | flags (change : FlagChange)
  | group (change : FlagChange) (name : Option (List Char))

/-- Reads the name of a group after its angle bracket. -/
def groupName? (text : List Char) : Option (Opening × List Char) :=
  let name := text.takeWhile (· ≠ '>')
  match text.dropWhile (· ≠ '>') with
  | '>' :: rest => if isGroupName name then some (.group .none (some name), rest) else none
  | _ => none

/-- Reads what stands after an opening parenthesis.  Nothing looks ahead or back. -/
def groupOpening? : List Char → Option (Opening × List Char)
  | '?' :: '=' :: _ | '?' :: '!' :: _ | '?' :: '<' :: '=' :: _ | '?' :: '<' :: '!' :: _ => none
  | '?' :: 'P' :: '<' :: rest | '?' :: '<' :: rest => groupName? rest
  | '?' :: rest => do
    let (change, rest) ← flagChange? .none false false rest
    match rest with
    | ')' :: rest => if change = .none then none else some (.flags change, rest)
    | _ :: rest => some (.group change none, rest)
    | [] => none
  | rest => some (.group .none none, rest)

/-- A pattern that is being read: the text that is left, whether it is spaced out, and
the names of groups so far. -/
structure Draft where
  rest : List Char
  spaced : Bool
  names : List (List Char)

namespace Draft

def withRest (draft : Draft) (rest : List Char) : Draft :=
  { draft with rest := rest }

def changed (draft : Draft) (change : FlagChange) : Draft :=
  { draft with spaced := change.apply .spaced draft.spaced }

/-- The draft with one more name, which has to be new. -/
def named? (draft : Draft) : Option (List Char) → Option Draft
  | none => some draft
  | some name =>
    if draft.names.contains name then none
    else some { draft with names := name :: draft.names }

/-- The draft behind a group, with the flags of the one around it. -/
def leave? (inner outer : Draft) : Option Draft :=
  match inner.rest with
  | ')' :: rest => some { inner with rest := rest, spaced := outer.spaced }
  | _ => none

end Draft

/-- The branch of parts, the last of which comes first. -/
def branchOf (parts : List Pattern) : Pattern :=
  ofParts parts.reverse

/-- Some parts with the first of them repeated.  There has to be one that stands for
text. -/
def repeatFirst? : List Pattern → Option (List Pattern)
  | [] | .flags _ :: _ => none
  | part :: rest => some (.repeated part :: rest)

/-- The text after the mark of a repetition that is content with little, if there is
one. -/
def dropMark : List Char → List Char
  | '?' :: rest => rest
  | rest => rest

/-- Reads one part that is neither a group nor a repetition. -/
def part? (spaced : Bool) : List Char → Option (Pattern × List Char)
  | [] | '{' :: _ => none
  | '\\' :: rest => (escape? spaced rest).map fun (found, rest) => (.atom found, rest)
  | '.' :: rest => some (.atom .any, rest)
  | '^' :: rest | '$' :: rest => some (.atom .edge, rest)
  | '[' :: rest => do
    let (negated, items, rest) := bracketOpening spaced rest
    let (set, rest) ← set? spaced (rest.length + 1) none items rest
    some (.bracket negated set, rest)
  | c :: rest => some (.atom (.literal ⟨c, false⟩), rest)

/-- Reads on in a pattern up to a closing parenthesis or the end, after branches and the
parts of one more, the last of which come first. -/
def branches? :
    Nat → List Pattern → List Pattern → Draft → Option (Pattern × Draft)
  | 0, _, _, _ => none
  | fuel + 1, branches, parts, draft =>
    match skip draft.spaced draft.rest with
    | '|' :: rest => branches? fuel (branchOf parts :: branches) [] (draft.withRest rest)
    | '?' :: rest | '*' :: rest | '+' :: rest => do
      branches? fuel branches (← repeatFirst? parts) (draft.withRest (dropMark rest))
    | '(' :: rest => do
      let (start, rest) ← groupOpening? (skip draft.spaced rest)
      let after := draft.withRest rest
      match start with
      | .flags change => branches? fuel branches (.flags change :: parts) (after.changed change)
      | .group change name =>
        let (pattern, inner) ← branches? fuel [] [] ((← after.named? name).changed change)
        branches? fuel branches (.group change pattern :: parts) (← inner.leave? draft)
    | text =>
      if text.isEmpty || text.head? = some ')' then
        some (ofBranches (branchOf parts :: branches).reverse, draft.withRest text)
      else do
        let (part, rest) ← part? draft.spaced text
        branches? fuel branches (part :: parts) (draft.withRest rest)

def read? (text : List Char) : Option Pattern := do
  let (pattern, draft) ← branches? (text.length + 1) [] [] ⟨text, false, []⟩
  if draft.rest.isEmpty ∧ pattern.nesting ≤ maxNesting then some pattern else none

end Pattern

end ChatBot
