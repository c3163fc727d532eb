import ChatBot.Json

/-!
# Decoding records

A record is written as an object, by field name, or as an array, by position.
Both forms come down to one list of optional parts, one part a field, so that a
decoder says once what each field is.

In an object a known field stands at most once, unknown members are skipped, and
the order of the members does not matter.  In an array trailing fields may be
left out, and there is nothing after the last field.
-/

namespace ChatBot

namespace Json

/-- The parts of a record with the given field names, in the order of the
names. -/
def fields? (names : List String) : Json → Option (List (Option Json))
  | obj members =>
    if names.all (fun name => members.countP (·.1 = name) ≤ 1) then
      some (names.map fun name => members.lookup name)
    else none
  | arr items =>
    if items.length ≤ names.length then
      some ((List.range names.length).map (items[·]?))
    else none
  | _ => none

/-- A way to find the parts of a record with given field names. -/
abbrev FieldReader := List String → Json → Option (List (Option Json))

/-- The parts of a record, where an array may go on after the last field. -/
def leadingFields? : FieldReader
  | names, arr items => fields? names (arr (items.take names.length))
  | names, json => fields? names json

def required {α : Type} (decode : Json → Option α) (part : Option Json) : Option α :=
  part.bind decode

/-- A part that has a value of its own when it is left out. -/
def withDefault {α : Type} (fallback : α) (decode : Json → Option α) :
    Option Json → Option α
  | none => some fallback
  | some json => decode json

def nullable {α : Type} (decode : Json → Option α) : Json → Option (Option α)
  | null => some none
  | json => (decode json).map some

def text? : Json → Option String
  | str text => some text
  | _ => none

def bool? : Json → Option Bool
  | bool value => some value
  | _ => none

/-- An integer from `low` up to and including `high`. -/
def intWithin? (low high : Int) : Json → Option Int
  | int n => if low ≤ n && n ≤ high then some n else none
  | _ => none

def int64? : Json → Option Int :=
  intWithin? (-9223372036854775808) 9223372036854775807

def int32? : Json → Option Int :=
  intWithin? (-2147483648) 2147483647

def nat64? (json : Json) : Option Nat :=
  (intWithin? 0 18446744073709551615 json).map Int.toNat

def list? {α : Type} (decode : Json → Option α) : Json → Option (List α)
  | arr items => items.mapM decode
  | _ => none

/-- The name of a choice without content: a text, or an object whose one member
is `null`. -/
def choice? : Json → Option String
  | str name => some name
  | obj [(name, null)] => some name
  | _ => none

/-- The name and content of a choice with content: an object of one member. -/
def taggedChoice? : Json → Option (String × Json)
  | obj [(name, content)] => some (name, content)
  | _ => none

/-- Any value at all, in normal form, that leaves room for `outer` enclosing
arrays and objects. -/
def anyValue? (outer : Nat) (json : Json) : Option Json :=
  if json.isReadable && json.depth + outer ≤ maxDepth then some json.normalize
  else none

end Json

end ChatBot
