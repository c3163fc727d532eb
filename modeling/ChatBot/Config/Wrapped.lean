import ChatBot.Json

/-!
# Wrapped settings

A table in a configuration file may wrap a value: the value under one key stands for
the whole table.  A second key is kept for the marks that a program puts on values,
which no file can write, so a file that has it cannot be read.  The outermost table
holds the settings and wraps nothing.
-/

namespace ChatBot

namespace Wrapped

/-- The key of the value that a table wraps. -/
def valueKey : String := "___figment_value_value"

def markKey : String := "___figment_value_id"

def ofMembers? (members : List (String × Json)) : Option Json :=
  match members.lookup markKey, members.lookup valueKey with
  | some _, _ => none
  | none, some value => some value
  | none, none => some (.obj members)

mutual

/-- A value with every wrapped value in the place of its table. -/
def unwrap? : Json → Option Json
  | .arr items => (unwrapItems? items).map .arr
  | .obj members => (unwrapMembers? members).bind ofMembers?
  | value => some value

/-- Items with every wrapped value in the place of its table. -/
def unwrapItems? : List Json → Option (List Json)
  | [] => some []
  | item :: rest => do some ((← unwrap? item) :: (← unwrapItems? rest))

/-- Members with every wrapped value in the place of its table. -/
def unwrapMembers? : List (String × Json) → Option (List (String × Json))
  | [] => some []
  | (key, value) :: rest => do some ((key, ← unwrap? value) :: (← unwrapMembers? rest))

end

def settings? : Json → Option Json
  | .obj members => (unwrapMembers? members).map .obj
  | _ => none

end Wrapped

end ChatBot
