import ChatBot.Toml.Lexical

/-!
# Dates and times of a TOML document

A date, a time, or both, with or without an offset from universal time.  Days have
to exist in their month; a minute may have a leap second.
-/

namespace ChatBot

namespace Toml

/-- Reads a number of exactly so many decimal digits. -/
def fixedDigits? : Nat → Nat → List Char → Option (Nat × List Char)
  | 0, value, rest => some (value, rest)
  | _ + 1, _, [] => none
  | count + 1, value, c :: rest =>
    if c.isDigit then fixedDigits? count (value * 10 + (c.toNat - '0'.toNat)) rest else none

/-- Reads a number of two digits from `low` up to and including `high`. -/
def twoDigits? (low high : Nat) (text : List Char) : Option (Nat × List Char) := do
  let (value, rest) ← fixedDigits? 2 0 text
  if low ≤ value ∧ value ≤ high then some (value, rest) else none

def after? (c : Char) : List Char → Option (List Char)
  | [] => none
  | first :: rest => if first = c then some rest else none

def isLeapYear (year : Nat) : Bool :=
  year % 4 = 0 && (year % 100 ≠ 0 || year % 400 = 0)

def daysOfMonth (year month : Nat) : Nat :=
  if month = 2 then if isLeapYear year then 29 else 28
  else if month = 4 ∨ month = 6 ∨ month = 9 ∨ month = 11 then 30
  else 31

def afterDate? (text : List Char) : Option (List Char) := do
  let (year, rest) ← fixedDigits? 4 0 text
  let (month, rest) ← twoDigits? 1 12 (← after? '-' rest)
  let (_, rest) ← twoDigits? 1 (daysOfMonth year month) (← after? '-' rest)
  some rest

/-- The text after a fraction of a second, if there is one. -/
def afterFraction? : List Char → Option (List Char)
  | '.' :: rest =>
    if (rest.takeWhile Char.isDigit).isEmpty then none else some (rest.dropWhile Char.isDigit)
  | rest => some rest

def afterTime? (text : List Char) : Option (List Char) := do
  let (_, rest) ← twoDigits? 0 23 text
  let (_, rest) ← twoDigits? 0 59 (← after? ':' rest)
  let (_, rest) ← twoDigits? 0 60 (← after? ':' rest)
  afterFraction? rest

/-- The text after an offset, if there is one. -/
def afterOffset? : List Char → Option (List Char)
  | [] => some []
  | c :: rest =>
    if c = 'Z' ∨ c = 'z' then some rest
    else if c = '+' ∨ c = '-' then do
      let (_, rest) ← twoDigits? 0 23 rest
      let (_, rest) ← twoDigits? 0 59 (← after? ':' rest)
      some rest
    else some (c :: rest)

/-- The text after a time that follows a date. -/
def afterTimeOfDate? : List Char → Option (List Char)
  | [] => none
  | c :: rest =>
    if c = 'T' ∨ c = 't' ∨ c = ' ' then (afterTime? rest).bind afterOffset? else none

/-- The text after a date, a time or both. -/
def afterDateTime? (text : List Char) : Option (List Char) :=
  match afterDate? text with
  | some rest => some ((afterTimeOfDate? rest).getD rest)
  | none => afterTime? text

/-- The key under which the text of a date or a time stands. -/
def dateTimeKey : String := "$__toml_private_datetime"

/-- Reads a date, a time or both.  It stands in the tree as an object with its text
under a key of its own. -/
def dateTime? (text : List Char) : Option (Json × List Char) := do
  let rest ← afterDateTime? text
  let written := String.ofList (text.take (text.length - rest.length))
  some (.obj [(dateTimeKey, .str written)], rest)

end Toml

end ChatBot
