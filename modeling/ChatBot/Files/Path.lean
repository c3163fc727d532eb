/-!
# Paths

Paths are texts in which slashes separate names.  A single dot names the folder
that it stands in and two dots the one above it.
-/

namespace ChatBot

/-- Splits a list of characters at each slash. -/
def splitAtSlashes : List Char → List (List Char)
  | [] => [[]]
  | '/' :: rest => [] :: splitAtSlashes rest
  | c :: rest =>
    match splitAtSlashes rest with
    | [] => [[c]]
    | first :: others => (c :: first) :: others

/-- A path, as it was written. -/
structure FilePath where
  text : String
  deriving DecidableEq, Inhabited, Repr

namespace FilePath

/-- What stands between the slashes of a path. -/
def parts (path : FilePath) : List String :=
  (splitAtSlashes path.text.toList).map String.ofList

/-- Whether a path starts at the top of all folders instead of the folder at
hand. -/
def isAbsolute (path : FilePath) : Bool :=
  path.text.toList.head? = some '/'

/-- The parts of a path that lead somewhere else. -/
def names (path : FilePath) : List String :=
  path.parts.filter fun part => part ≠ "" ∧ part ≠ "."

/-- The last name of a path, unless it leads upwards. -/
def fileName? (path : FilePath) : Option String :=
  path.names.getLast?.filter (· ≠ "..")

def folderNames (path : FilePath) : List String :=
  path.names.dropLast

/-- The path of the folder in which a path ends, as it was written, without what leads
nowhere at its end. -/
def folderText (path : FilePath) : String :=
  let leadsNowhere (part : String) : Bool := part = "" || part = "."
  let before := (path.parts.reverse.dropWhile leadsNowhere).drop 1
  match (before.dropWhile leadsNowhere).reverse with
  | [] => "."
  | parts => "/".intercalate parts

/-- What a name has after its last dot; nothing when it has no dot beyond its
first character. -/
def suffixOf (name : String) : String :=
  let reversed := name.toList.reverse
  let after := reversed.takeWhile (· ≠ '.')
  match reversed.drop (after.length + 1) with
  | [] => ""
  | _ :: _ => String.ofList after.reverse

/-- What the last name of a path has after its last dot. -/
def suffix (path : FilePath) : String :=
  match path.fileName? with
  | some name => suffixOf name
  | none => ""

/-- The path of a name in a folder. -/
def join (folder : FilePath) (name : String) : FilePath :=
  if (FilePath.mk name).isAbsolute || folder.text = "" then ⟨name⟩
  else if folder.text.toList.getLast? = some '/' then ⟨folder.text ++ name⟩
  else ⟨folder.text ++ "/" ++ name⟩

/-- The first names of a list, as far as they do not lead above a folder so many levels
up. -/
def namesBelow : Nat → List String → List String
  | _, [] => []
  | depth, name :: rest =>
    if name = ".." then
      match depth with
      | 0 => []
      | depth + 1 => name :: namesBelow depth rest
    else name :: namesBelow (depth + 1) rest

/-- The names before the last one, as far as they do not lead above a folder so many
levels up. -/
def innerFolderNames (path : FilePath) (depth : Nat) : List String :=
  if path.isAbsolute && !path.names.isEmpty then [] else namesBelow depth path.folderNames

/-- Whether the folder in which a path ends lies outside of the folder so many levels
up. -/
def leaves (path : FilePath) (depth : Nat) : Bool :=
  (path.isAbsolute && !path.names.isEmpty) || path.innerFolderNames depth ≠ path.folderNames

end FilePath

end ChatBot
