import PsetCompiler.Catalog
import PsetCompiler.Entity.Declaration
import PsetCompiler.Entity.Registry
import PsetCompiler.Json.Parser
import PsetCompiler.Parameter.Merge

/-!
# The workspace of a run

What the stages of a run read and change: the files, the source of fresh identifiers, and the
declarations of schemas that are not read from files.

## Main definitions

* `Workspace` — the state of a run.
* `Workspace.readFile`, `Workspace.writeText`, `Workspace.makeFolders` — the operations on files.
* `Workspace.writeJson` — a record written over several lines.
* `Workspace.readCatalog`, `Workspace.readRegistry` — what earlier stages have left.
-/

namespace PsetCompiler

/-- The state of a run. -/
structure Workspace where
  files : FileTree
  supply : Supply
  /-- The declarations of schemas, by name. -/
  declarations : List (String × List Declaration) := []
  /-- How the seconds that a stage has taken are shown. -/
  seconds : String := "0.0"

namespace Workspace

/-- The workspace with an operation on its files done, unless the operation is refused. -/
def changeFiles (change : FileTree → Except FileError FileTree) : Run Workspace Unit := do
  let workspace ← get
  match change workspace.files with
  | .ok files => set { workspace with files }
  | .error e => throw (.file e)

/-- A folder made, with all folders that lead to it. -/
def makeFolders (p : Path) : Run Workspace Unit :=
  changeFiles (·.makeFolders p)

/-- A text written to a file, in UTF-8. -/
def writeText (p : Path) (text : String) : Run Workspace Unit :=
  changeFiles (·.write p (Text.encodeUtf8 text.toList))

/-- A value written to a file over several lines; the folder of the file is made. -/
def writeJson (p : Path) (value : Json) : Run Workspace Unit := do
  makeFolders p.parent
  writeText p (value.render ++ "\n")

/-- The content of a file. -/
def readFile (p : Path) : Run Workspace Text.Bytes := do
  match (← get).files.read p with
  | .ok content => return content
  | .error e => throw (.file e)

/-- The text of a file in UTF-8. -/
def readText (p : Path) : Run Workspace (List Char) := do
  match Text.decodeUtf8? (← readFile p) with
  | some cs => return cs
  | none => throw .undecodable

/-- A file read as a record. -/
def readRecordFile {α : Type} (p : Path) (read : Json → Checked α) : Run Workspace α := do
  Run.ofExcept (readJsonText read (← readText p)).toExcept

/-- The catalog that an earlier stage has left. -/
def readCatalog (p : Path) : Run Workspace Catalog :=
  readRecordFile p Catalog.read

/-- The registry that an earlier stage has left. -/
def readRegistry (p : Path) : Run Workspace Registry := do
  Registry.ofBundle (← readRecordFile p SchemaBundle.read)

/-- The content of a document, for which it makes no difference why it cannot be read. -/
def readDocument (p : Path) : Run Workspace Text.Bytes := do
  match (← get).files.read p with
  | .ok content => return content
  | .error _ => throw .unreadableMarkup

end Workspace

/-- The written form of a catalog, without fields that hold nothing. -/
def Catalog.written (catalog : Catalog) : Json :=
  catalog.json.dropNulls

/-- The written form of a registry, without fields that hold nothing. -/
def Registry.written (registry : Registry) : Json :=
  registry.bundle.json.dropNulls

end PsetCompiler
