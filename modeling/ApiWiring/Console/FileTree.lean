import ApiWiring.Console.Path

/-!
# Files in memory

Files and directories below a working directory. A path is walked piece by piece, and every piece
but the last must lead to a directory. A path or a piece that is too long leads nowhere. What lies
outside the working directory cannot be read, and what is written there leaves no trace.
-/
namespace ApiWiring.Console

open Text

/-- What a name stands for. -/
inductive FileNode where
  | directory
  | file (text : String)
deriving DecidableEq, Repr, Inhabited

/-- The names that lead from the working directory to a file, the last first. -/
abbrev Place := List String

/-- Files and directories by their places. -/
structure FileTree where
  /-- Each place with what is there, the latest first. -/
  nodes : List (Place × FileNode)
deriving Repr, Inhabited

namespace FileTree

/-- The working directory without files. -/
def empty : FileTree := ⟨[]⟩

/-- What is at a place. -/
def node? (tree : FileTree) (place : Place) : Option FileNode :=
  if place = [] then some .directory else tree.nodes.lookup place

/-- The tree with something at a place. -/
def put (tree : FileTree) (place : Place) (node : FileNode) : FileTree :=
  ⟨(place, node) :: tree.nodes.filter (·.1 ≠ place)⟩

/-- Where a walk ends. -/
inductive Destination where
  | inside (place : Place)
  | outside
deriving DecidableEq, Repr, Inhabited

/-- Walks on from a place; `none` where a piece in between is no directory, or one is too long. -/
def walk (tree : FileTree) (place : Place) : List (List Char) → Option Destination
  | [] => some (.inside place)
  | piece :: rest =>
    if tree.node? place ≠ some .directory ∨ Path.isOverlong piece then none
    else if Path.isIdle piece then tree.walk place rest
    else if piece = ['.', '.'] then
      match place with
      | [] => some .outside
      | _ :: upper => tree.walk upper rest
    else tree.walk (String.ofList piece :: place) rest

/-- Where a path leads. -/
def find? (tree : FileTree) (path : String) : Option Destination :=
  if !Path.isPossible path then none
  else if Path.isAbsolute path then some .outside
  else tree.walk [] (pieces '/' path.toList)

/-- The text of the file at a path. -/
def read? (tree : FileTree) (path : String) : Option String := do
  match ← tree.find? path with
  | .outside => none
  | .inside place =>
    match ← tree.node? place with
    | .file text => some text
    | .directory => none

/-- The tree with a text at a path; `none` where no file can be. -/
def write? (tree : FileTree) (path text : String) : Option FileTree := do
  match ← tree.find? path with
  | .outside => some tree
  | .inside place =>
    match tree.node? place with
    | some .directory => none
    | _ => some (tree.put place (.file text))

/-- Walks on from a place and makes the directories that are missing on the way; `none` where a file
is in the way or a piece is too long. A last directory that is named with a dot after it must be
there already. -/
def make (tree : FileTree) (place : Place) (dotted : Bool) : List (List Char) → Option FileTree
  | [] => some tree
  | piece :: rest =>
    if Path.isOverlong piece then none
    else if piece = ['.', '.'] then
      match place with
      | [] => some tree
      | _ :: upper => tree.make upper dotted rest
    else
      let next := String.ofList piece :: place
      match tree.node? next with
      | some (.file _) => none
      | some .directory => tree.make next dotted rest
      | none =>
        if dotted ∧ rest = [] then none
        else (tree.put next .directory).make next dotted rest

/-- Whether the last piece of a path that says something is a dot. -/
def endsWithDot (path : String) : Bool :=
  ((pieces '/' path.toList).filter (· ≠ [])).getLast? = some ['.']

/-- The tree with a directory at a path, and those it lies in; `none` where a file is in the way or
the path is too long. -/
def makeDirectory? (tree : FileTree) (path : String) : Option FileTree :=
  let pieces := (pieces '/' path.toList).filter (!Path.isIdle ·)
  if !Path.isPossible path then none
  else if Path.isAbsolute path then if pieces.any Path.isOverlong then none else some tree
  else tree.make [] (endsWithDot path) pieces

/-- The files with their paths. -/
def files (tree : FileTree) : List (String × String) :=
  tree.nodes.filterMap fun (place, node) =>
    match node with
    | .file text => some ("/".intercalate place.reverse, text)
    | .directory => none

/-- The tree of files with their paths; a file that cannot be is left out. -/
def ofFiles (files : List (String × String)) : FileTree :=
  files.foldl
    (fun tree (path, text) =>
      (((tree.makeDirectory? (Path.parent path)).bind (·.write? path text))).getD tree)
    empty

/-- The files of a tree that are not in another one with the same text. -/
def since (tree before : FileTree) : List (String × String) :=
  tree.files.filter fun file => !before.files.contains file

end FileTree

end ApiWiring.Console
