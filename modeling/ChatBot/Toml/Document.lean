import ChatBot.Toml.DateTime
import ChatBot.Toml.Node
import ChatBot.Toml.Number

/-!
# TOML documents

A document is a sequence of statements, each on a line of its own: headers of
tables, and pairs of a key and a value.  Reading gives the tree of its tables, or
nothing when the document is not well formed.
-/

namespace ChatBot

namespace Toml

/-- A pair of a key in parts and a value. -/
structure Pair where
  path : List String
  name : String
  value : Json

/-- The parts of a key before the last, and the last. -/
def splitLast : List String → List String × String
  | [] => ([], "")
  | [last] => ([], last)
  | first :: rest =>
    let (path, last) := splitLast rest
    (first :: path, last)

/-- A pair of a key and a value. -/
def pairOf (key : List String) (value : Json) : Pair :=
  ⟨(splitLast key).1, (splitLast key).2, value⟩

/-- The table of pairs that stand between braces. -/
def inlineTable? (pairs : List Pair) : Option Json := do
  let entries ← pairs.foldlM (fun (entries : Entries) pair =>
    entries.addPair pair.path pair.name pair.value) []
  some (.obj (membersOf entries))

mutual

/-- Reads a value that may nest so deep. -/
def value? : Nat → Nat → List Char → Option (Json × List Char)
  | 0, _, _ => none
  | fuel + 1, depth, text =>
    match text with
    | '[' :: rest =>
      match depth with
      | 0 => none
      | depth + 1 => do
        let (items, rest) ← items? fuel depth rest
        some (.arr items, rest)
    | '{' :: rest =>
      match depth with
      | 0 => none
      | depth + 1 =>
        match skipSpaces rest with
        | '}' :: rest => some (.obj [], rest)
        | rest => do
          let (pairs, rest) ← pairs? fuel depth rest
          some (← inlineTable? pairs, rest)
    | '"' :: _ | '\'' :: _ =>
      (string? text).map fun (text, rest) => (.str (String.ofList text), rest)
    | 't' :: 'r' :: 'u' :: 'e' :: rest => some (.bool true, rest)
    | 'f' :: 'a' :: 'l' :: 's' :: 'e' :: rest => some (.bool false, rest)
    | _ => (dateTime? text).or (number? text)

/-- Reads the items of an array and the closing bracket.  A comma may follow the
last item. -/
def items? : Nat → Nat → List Char → Option (List Json × List Char)
  | 0, _, _ => none
  | fuel + 1, depth, text => do
    match ← skipLines false text with
    | ']' :: rest => some ([], rest)
    | rest =>
      let (item, rest) ← value? fuel depth rest
      match ← skipLines false rest with
      | ',' :: rest =>
        let (items, rest) ← items? fuel depth rest
        some (item :: items, rest)
      | ']' :: rest => some ([item], rest)
      | _ => none

/-- Reads the pairs of a table in braces, at least one, and the closing brace.  All
of it stands on one line. -/
def pairs? : Nat → Nat → List Char → Option (List Pair × List Char)
  | 0, _, _ => none
  | fuel + 1, depth, text => do
    let (key, rest) ← key? (depthLimit - 1) text
    let (value, rest) ← value? fuel depth (skipSpaces (← after? '=' rest))
    match skipSpaces rest with
    | ',' :: rest =>
      let (pairs, rest) ← pairs? fuel depth rest
      some (pairOf key value :: pairs, rest)
    | '}' :: rest => some ([pairOf key value], rest)
    | _ => none

end

/-- A statement of a document. -/
inductive Statement where
  | table (key : List String)
  | element (key : List String)
  | pair (pair : Pair)

/-- Reads a statement and the rest of its line. -/
def statement? (text : List Char) : Option (Statement × List Char) :=
  match text with
  | '[' :: '[' :: rest => do
    let (key, rest) ← key? (depthLimit - 1) rest
    match rest with
    | ']' :: ']' :: rest => some (.element key, ← restOfLine? rest)
    | _ => none
  | '[' :: rest => do
    let (key, rest) ← key? (depthLimit - 1) rest
    match rest with
    | ']' :: rest => some (.table key, ← restOfLine? rest)
    | _ => none
  | text => do
    let (key, rest) ← key? (depthLimit - 1) text
    let rest := skipSpaces (← after? '=' rest)
    let (value, rest) ← value? (2 * rest.length + 2) (depthLimit - 1) rest
    some (.pair (pairOf key value), ← restOfLine? rest)

/-- Reads statements up to the end of the document. -/
def statements? : Nat → List Char → Option (List Statement)
  | 0, _ => none
  | fuel + 1, text => do
    match ← skipLines false text with
    | [] => some []
    | text =>
      let (statement, rest) ← statement? text
      some (statement :: (← statements? fuel rest))

/-- A document under construction: its tables, and the key of the table to which
pairs are added. -/
structure Draft where
  entries : Entries
  current : List String

namespace Draft

def add (draft : Draft) : Statement → Option Draft
  | .table key => do
    let entries ← draft.entries.addTable (splitLast key).1 (splitLast key).2
    some ⟨entries, key⟩
  | .element key => do
    let entries ← draft.entries.addElement (splitLast key).1 (splitLast key).2
    some ⟨entries, key⟩
  | .pair pair => do
    let entries ← draft.entries.within false
      (fun _ inner => inner.addPair pair.path pair.name pair.value) draft.current .header
    some { draft with entries }

end Draft

/-- The text without the mark that some editors put in front. -/
def dropByteOrderMark : List Char → List Char
  | c :: rest => if c.toNat = 0xFEFF then rest else c :: rest
  | [] => []

def read (text : String) : Option Json := do
  let chars := dropByteOrderMark text.toList
  let statements ← statements? (chars.length + 1) chars
  let draft ← statements.foldlM Draft.add ⟨[], []⟩
  some (.obj (membersOf draft.entries))

end Toml

end ChatBot
