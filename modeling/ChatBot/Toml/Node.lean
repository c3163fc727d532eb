import ChatBot.Json

/-!
# Tables under construction

While a document is read, a table knows how it came about, because that decides
what may still be added to it: a header closes a table for other headers and for
dotted keys, and a dotted key closes it for headers.  Of an array of tables only
the last is open.
-/

namespace ChatBot

namespace Toml

/-- How a table came about: implied by the header of a table in it, by a dotted
key, or by a header of its own. -/
inductive Origin where
  | implied
  | dotted
  | header
  deriving DecidableEq, Repr

/-- What stands under a key while a document is read. -/
inductive Node where
  | value (value : Json)
  | table (origin : Origin) (entries : List (String × Node))
  | tables (earlier : List Json) (last : List (String × Node))

/-- The entries of a table under construction. -/
abbrev Entries := List (String × Node)

mutual

def Node.toJson : Node → Json
  | .value value => value
  | .table _ entries => .obj (membersOf entries)
  | .tables earlier last => .arr (earlier ++ [.obj (membersOf last)])

def membersOf : List (String × Node) → List (String × Json)
  | [] => []
  | (name, node) :: rest => (name, node.toJson) :: membersOf rest

end

namespace Entries

/-- Puts a node in the place of the one of the same name, or at the end. -/
def set (name : String) (node : Node) : Entries → Entries
  | [] => [(name, node)]
  | (other, old) :: rest =>
    if other = name then (name, node) :: rest else (other, old) :: set name node rest

/-- Changes the table to which a path leads, making the tables that are missing.  A
dotted key does not lead into a table with a header of its own. -/
def within (byKey : Bool) (change : Origin → Entries → Option Entries) :
    List String → Origin → Entries → Option Entries
  | [], origin, entries => change origin entries
  | name :: path, _, entries =>
    match entries.lookup name with
    | none => do
      let origin := if byKey then Origin.dotted else .implied
      let inner ← within byKey change path origin []
      some (entries.set name (.table origin inner))
    | some (.value _) => none
    | some (.table origin inner) =>
      if byKey ∧ origin = .header then none
      else do
        let inner ← within byKey change path origin inner
        some (entries.set name (.table origin inner))
    | some (.tables earlier last) => do
      let last ← within byKey change path .header last
      some (entries.set name (.tables earlier last))

/-- Adds a value under a key of one or more parts.  A key of several parts may only
add to a table that came about by such keys. -/
def addPair (path : List String) (name : String) (value : Json) (entries : Entries) :
    Option Entries :=
  entries.within true (fun origin inner =>
    if origin = .dotted ∨ path = [] then
      match inner.lookup name with
      | none => some (inner.set name (.value value))
      | some _ => none
    else none) path .header

/-- Adds the table of a header, or opens the one that was implied. -/
def addTable (path : List String) (name : String) (entries : Entries) : Option Entries :=
  entries.within false (fun _ inner =>
    match inner.lookup name with
    | none => some (inner.set name (.table .header []))
    | some (.table .implied old) => some (inner.set name (.table .header old))
    | some _ => none) path .header

/-- Adds a table to the array of a header. -/
def addElement (path : List String) (name : String) (entries : Entries) : Option Entries :=
  entries.within false (fun _ inner =>
    match inner.lookup name with
    | none => some (inner.set name (.tables [] []))
    | some (.tables earlier last) =>
      some (inner.set name (.tables (earlier ++ [.obj (membersOf last)]) []))
    | some _ => none) path .header

end Entries

end Toml

end ChatBot
