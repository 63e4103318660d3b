import PsetCompiler.Files.Tree
import PsetCompiler.Text.Letter

/-!
# Folders of definitions

The definitions of a release lie in a folder named `psd`; the folder that holds it is named after
the release. Folders and files are visited in order, so that a catalog does not depend on the order
in which a file system lists them.

## Main definitions

* `findFolders` — the releases and their folders below a root.
* `findFiles` — the files of a folder whose names match one of some patterns.
-/

namespace PsetCompiler

/-- A folder of definitions is named `psd`, in any case. -/
def isDefinitionFolder (name : String) : Bool :=
  Text.asciiLower name == "psd"

/-- The release and the path of a folder of definitions. -/
def releaseOf (folder : Path) : String × Path :=
  (Text.upper folder.parent.name, folder)

/-- The releases and their folders below a root, which may be such a folder itself, in order of
release and path. -/
def findFolders (files : FileTree) (root : Path) : List (String × Path) :=
  let inside := (files.below root).filterMap fun (parts, entry) =>
    if entry == .folder && isDefinitionFolder (parts.getLast?.getD "") then
      some { root with parts := root.parts ++ parts }
    else none
  let folders := (if isDefinitionFolder root.name then [root] else []) ++ inside
  Text.sortBy (·.1) (Text.sortBy (·.2.text) (folders.map releaseOf))

/-- The files at any depth of a folder whose names match one of some patterns, in order. -/
def findFiles (files : FileTree) (folder : Path) (patterns : List String) : List Path :=
  (files.below folder).filterMap fun (parts, entry) =>
    if entry != .folder && patterns.any (matchesPattern · (parts.getLast?.getD "")) then
      some { folder with parts := folder.parts ++ parts }
    else none

end PsetCompiler
