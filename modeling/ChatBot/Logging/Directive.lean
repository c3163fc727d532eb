import ChatBot.Logging.FieldFilter
import ChatBot.Text.Blank
import ChatBot.Text.Bytes
import ChatBot.Text.Word

/-!
# Filter directives

A directive sets the log level of a target, of a span, or of everything: a
target, a span in square brackets and a level after an equals sign, all of them
optional, or a level alone.  A span may be narrowed to fields in braces.  This
module says which texts are directives.

A text is read without the blanks at its ends, but each of its parts is taken
from the same place of the whole text, counted in bytes.  So a blank in front of a
directive moves its level by as many bytes as it takes, and a blank after it belongs
to the level.
-/

namespace ChatBot

namespace Directive

/-- How far a directive has been read.  A part whose text matters carries the place
where it starts. -/
inductive State where
  | start
  | target
  | span
  | field (start : Nat)
  | fieldsEnd
  | spanEnd
  | level (start : Nat)
  | finished

/-- Whether a directive may start with a character. -/
def opens (c : Char) : Bool :=
  c = '-' || c = ':' || c = '_' || Text.isWord c

def levelNames : List String :=
  ["off", "error", "warn", "info", "debug", "trace"]

/-- Whether a text is the number of a level, zero to five. -/
def isLevelNumber (text : List Char) : Bool :=
  let digits := if text.head? = some '+' then text.drop 1 else text
  !digits.isEmpty && digits.all Char.isDigit &&
    digits.foldl (fun n c => n * 10 + (c.toNat - '0'.toNat)) 0 ≤ 5

/-- Whether a text names a level, by its name in letters of either case or by its
number. -/
def isLevel (text : List Char) : Bool :=
  isLevelNumber text || levelNames.contains (String.ofList (text.map Char.toLower))

/-- Whether a text may stand after the equals sign. -/
def isLevelPart (text : List Char) : Bool :=
  text.isEmpty || isLevel text

/-- The state after a character at a place in the whole text; nothing when the
character cannot stand there. -/
def step (whole : List Char) (place : Nat) (state : State) (c : Char) : Option State :=
  match state with
  | .start => if c = '[' then some .span else if opens c then some .target else none
  | .target =>
    if c = '=' then some (.level (place + 1))
    else if c = '[' then some .span
    else if c = ',' then some .finished
    else some .target
  | .span =>
    if c = ']' then some .spanEnd
    else if c = '\x7b' then some (.field (place + 1))
    else some .span
  | .field start =>
    if c ≠ '\x7d' ∧ c ≠ ',' then some (.field start)
    else if !FieldFilter.isValid (Text.slice start place whole) then none
    else if c = ',' then some (.field (place + 1))
    else some .fieldsEnd
  | .fieldsEnd => if c = ']' then some .spanEnd else none
  | .spanEnd => if c = '=' then some (.level (place + 1)) else none
  | .level start =>
    if c ≠ ',' then some (.level start)
    else if isLevelPart (Text.slice start place whole) then some .finished
    else none
  | .finished => none

/-- Whether a directive may end in a state. -/
def mayEnd (whole : List Char) (state : State) : Bool :=
  match state with
  | .target | .spanEnd | .finished => true
  | .level start => isLevelPart (Text.dropBytes start whole)
  | .start | .span | .field _ | .fieldsEnd => false

/-- Reads on from a state and a place. -/
def reads (whole : List Char) (place : Nat) (state : State) : List Char → Bool
  | [] => mayEnd whole state
  | c :: rest =>
    match step whole place state c with
    | some state => reads whole (place + c.utf8Size) state rest
    | none => false

def isValid (text : String) : Bool :=
  reads text.toList 0 .start (Text.strip text.toList)

end Directive

end ChatBot
