import PsetCompiler.Files.Path
import PsetCompiler.Text.Order
import PsetCompiler.Text.Utf8

/-!
# Trees of files

All files and folders that a run can see, as a value: places from the root, each a folder or a file
with its octets. Paths are looked up part by part, so a part that does not exist, or a file in the
middle of a path, is found where it stands.

## Main definitions

* `Place`, `Entry`, `FileTree` — where things are, what they are, and all of them.
* `FileTree.locate` — the place to which a path leads.
* `FileTree.read`, `FileTree.write`, `FileTree.makeFolders` — the operations on files.
* `FileTree.below` — everything inside a folder.
* `matchesPattern` — file names against patterns with stars.
-/

namespace PsetCompiler

open Text (Bytes)

/-- Where something is: the names from the root on. -/
abbrev Place := List String

/-- What is at a place. -/
inductive Entry where
  | folder
  | file (content : Bytes)
deriving DecidableEq, Repr

/-- Why a file operation is refused. -/
inductive FileError where
  /-- Nothing is there. -/
  | missing
  /-- A file stands where the path goes on. -/
  | notFolder
  /-- A folder stands where a file is asked for. -/
  | isFolder
  /-- A file stands where a folder is asked for. -/
  | exists
deriving DecidableEq, Repr

/-- All files and folders, and the folder from which relative paths start. The root is always a
folder. -/
structure FileTree where
  entries : List (Place × Entry) := []
  working : Place := []
deriving Repr

namespace FileTree

/-- What is at a place. -/
def entry? (tree : FileTree) : Place → Option Entry
  | [] => some .folder
  | place => tree.entries.lookup place

/-- The tree with something at a place, whatever was there. -/
def put (tree : FileTree) (place : Place) (entry : Entry) : FileTree :=
  if tree.entries.any (·.1 == place) then
    { tree with entries := tree.entries.map fun e => if e.1 == place then (place, entry) else e }
  else
    { tree with entries := tree.entries ++ [(place, entry)] }

/-- The place to which parts lead from a place; all but the last part have to lead into folders. -/
def follow (tree : FileTree) : Place → List String → Except FileError Place
  | place, [] => .ok place
  | place, part :: rest =>
    match tree.entry? place with
    | none => .error .missing
    | some (.file _) => .error .notFolder
    | some .folder =>
      if part = ".." then tree.follow place.dropLast rest else tree.follow (place ++ [part]) rest

/-- The place from which a path starts. -/
def start (tree : FileTree) (p : Path) : Place :=
  if p.isAbsolute then [] else tree.working

/-- The place to which a path leads. -/
def locate (tree : FileTree) (p : Path) : Except FileError Place :=
  tree.follow (tree.start p) p.parts

/-- What a path leads to. -/
def find? (tree : FileTree) (p : Path) : Option Entry :=
  match tree.locate p with
  | .ok place => tree.entry? place
  | .error _ => none

/-- The path leads to something. -/
def exists? (tree : FileTree) (p : Path) : Bool :=
  (tree.find? p).isSome

/-- The path leads to a folder. -/
def isFolder (tree : FileTree) (p : Path) : Bool :=
  tree.find? p == some .folder

/-- The content of a file. -/
def read (tree : FileTree) (p : Path) : Except FileError Bytes := do
  let place ← tree.locate p
  match tree.entry? place with
  | none => .error .missing
  | some .folder => .error .isFolder
  | some (.file content) => .ok content

/-- The tree after a file is written; the folder that holds it has to be there. -/
def write (tree : FileTree) (p : Path) (content : Bytes) : Except FileError FileTree := do
  let place ← tree.locate p
  match tree.entry? place with
  | some .folder => .error .isFolder
  | _ => .ok (tree.put place (.file content))

/-- The tree with all folders along parts from a place. -/
def makeAlong (tree : FileTree) : Place → List String → Except FileError FileTree
  | _, [] => .ok tree
  | place, part :: rest =>
    if part = ".." then tree.makeAlong place.dropLast rest
    else
      match tree.entry? (place ++ [part]) with
      | some .folder => tree.makeAlong (place ++ [part]) rest
      | some (.file _) => .error (if rest.isEmpty then .exists else .notFolder)
      | none => (tree.put (place ++ [part]) .folder).makeAlong (place ++ [part]) rest

/-- The tree with a folder at a path, and all folders that lead to it. -/
def makeFolders (tree : FileTree) (p : Path) : Except FileError FileTree :=
  tree.makeAlong (tree.start p) p.parts

/-- Everything inside the folder to which a path leads, with the parts below it, in order of the
joined parts. -/
def below (tree : FileTree) (p : Path) : List (List String × Entry) :=
  match tree.locate p with
  | .error _ => []
  | .ok place =>
    let inside := tree.entries.filterMap fun (here, entry) =>
      if place.isPrefixOf here && place.length < here.length then
        some (here.drop place.length, entry)
      else none
    Text.sortBy (fun (parts, _) => String.intercalate "/" parts) inside

end FileTree

/-- The characters match a pattern, in which a star stands for any characters. -/
def matchesChars : List Char → List Char → Bool
  | [], cs => cs.isEmpty
  | '*' :: pattern, [] => matchesChars pattern []
  | '*' :: pattern, c :: cs => matchesChars pattern (c :: cs) || matchesChars ('*' :: pattern) cs
  | p :: pattern, c :: cs => p == c && matchesChars pattern cs
  | _ :: _, [] => false
termination_by pattern cs => pattern.length + cs.length

/-- A file name matches a pattern. -/
def matchesPattern (pattern name : String) : Bool :=
  matchesChars pattern.toList name.toList

end PsetCompiler
