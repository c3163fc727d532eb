import ChatBot.Files.Path

/-!
# Trees of files

The files and folders around a bot: where its configuration is read from and
where its log is written.  A place is given by the names that lead to it from the
folder at hand.
-/

namespace ChatBot

/-- What stands at a place. -/
inductive FileNode where
  | folder
  | file (text : String)
  deriving DecidableEq, Inhabited, Repr

/-- What stands at the end of each path. -/
abbrev FileView := FilePath → Option FileNode

/-- The files and folders below a folder, each with the names that lead to it from
there, and the place of the folder at hand. -/
structure FileTree where
  nodes : List (List String × FileNode)
  home : List String
  deriving Inhabited, Repr

namespace FileTree

def empty : FileTree := ⟨[], []⟩

def enter (tree : FileTree) (home : List String) : FileTree :=
  { tree with home := home }

def node? (tree : FileTree) : List String → Option FileNode
  | [] => some .folder
  | place => tree.nodes.lookup place

def isFolder (tree : FileTree) (place : List String) : Bool :=
  tree.node? place = some .folder

/-- Follows the parts of a path from a place.  Every part but the last has to lead
to a folder, and none out of the tree. -/
def follow (tree : FileTree) : List String → List String → Option (List String)
  | place, [] => if (tree.node? place).isSome then some place else none
  | place, part :: rest =>
    if !tree.isFolder place then none
    else if part = "" ∨ part = "." then tree.follow place rest
    else if part = ".." then
      if place.isEmpty then none else tree.follow place.dropLast rest
    else tree.follow (place ++ [part]) rest

/-- Whether a path can be followed at all, which a long one cannot. -/
def isUsablePath (text : String) : Bool :=
  text.utf8ByteSize ≤ 4095 && !text.toList.contains '\x00'

/-- What stands at the end of a path. -/
def find? (tree : FileTree) (path : FilePath) : Option FileNode :=
  if path.isAbsolute || path.text = "" || !isUsablePath path.text then none
  else (tree.follow tree.home path.parts).bind tree.node?

/-- Adds a node at a place where there is none. -/
def addNode (tree : FileTree) (place : List String) (node : FileNode) : FileTree :=
  if (tree.node? place).isSome then tree
  else { tree with nodes := tree.nodes ++ [(place, node)] }

def isUsableName (name : String) : Bool :=
  name.utf8ByteSize ≤ 255 && !name.toList.contains '\x00'

/-- Enters the folders of a list of names one below the other, making those that
are missing.  Gives the place that is reached, or nothing when something else
stands in the way. -/
def makeFolders (tree : FileTree) (place : List String) :
    List String → FileTree × Option (List String)
  | [] => (tree, some place)
  | name :: rest =>
    if name = ".." then tree.makeFolders place.dropLast rest
    else if !isUsableName name then (tree, none)
    else
      let next := place ++ [name]
      match tree.node? next with
      | none => (tree.addNode next .folder).makeFolders next rest
      | some .folder => tree.makeFolders next rest
      | some (.file _) => (tree, none)

/-- Opens the file at the end of a path for writing, making it and the folders
above it if they are missing.  A path that ends in no name means the file of the
given name there.  Says whether the file could be opened.  Outside of the tree any
folder can be made, and nothing of it shows. -/
def openFile (tree : FileTree) (path : FilePath) (otherwise : String) : FileTree × Bool :=
  let name := path.fileName?.getD otherwise
  if !isUsablePath path.folderText then (tree, false)
  else
    match tree.makeFolders tree.home (path.innerFolderNames tree.home.length) with
    | (tree, none) => (tree, false)
    | (tree, some place) =>
      if !isUsablePath (path.folderText ++ "/" ++ name) || !isUsableName name then
        (tree, false)
      else if path.leaves tree.home.length then (tree, path.folderNames.all isUsableName)
      else if tree.isFolder (place ++ [name]) then (tree, false)
      else (tree.addNode (place ++ [name]) (.file ""), true)

/-- The tree with one more file, and with the folders above it. -/
def addFile (tree : FileTree) (path : FilePath) (text : String) : FileTree :=
  let (tree, place) := tree.makeFolders tree.home path.folderNames
  match place, path.fileName? with
  | some place, some name => tree.addNode (place ++ [name]) (.file text)
  | _, _ => tree

/-- The tree with one more folder, and with the folders above it. -/
def addFolder (tree : FileTree) (path : FilePath) : FileTree :=
  (tree.makeFolders tree.home path.names).1

/-- The tree of some files with their paths and texts. -/
def ofFiles (files : List (String × String)) : FileTree :=
  files.foldl (fun tree (path, text) => tree.addFile ⟨path⟩ text) empty

/-- The text of a place, with a slash after a folder. -/
def placeText (place : List String) (node : FileNode) : String :=
  "/".intercalate place ++ if node = .folder then "/" else ""

/-- All places of a tree in the order of their texts. -/
def listing (tree : FileTree) : List String :=
  (tree.nodes.map fun (place, node) => placeText place node).mergeSort (· ≤ ·)

end FileTree

end ChatBot
