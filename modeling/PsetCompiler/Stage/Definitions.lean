import PsetCompiler.Definition.Folder
import PsetCompiler.Definition.Predefined
import PsetCompiler.Definition.Set
import PsetCompiler.Settings.Definitions
import PsetCompiler.Stage.Course

/-!
# The definitions stage

Reads every definition file of every wanted release into the catalog. A file that cannot be read is
reported and passed over; the rest of the batch goes on.

## Main definitions

* `Batch` — the catalog so far, and how many files were read and passed over.
* `collect` — the batch of all wanted releases.
* `definitionWork` — the stage.
-/

namespace PsetCompiler

/-- The catalog so far, and how many files were read and passed over. -/
structure Batch where
  catalog : Catalog := {}
  readCount : Nat := 0
  skippedCount : Nat := 0

/-- A failure that concerns one file alone. -/
def Failure.isOfFile : Failure → Bool
  | .format _ => true
  | .malformedMarkup => true
  | .unreadableMarkup => true
  | _ => false

namespace DefinitionSettings

/-- The patterns of the names of definition files. -/
def patterns (settings : DefinitionSettings) : List String :=
  "Pset_*.xml" :: if settings.includeQuantities then ["Qto_*.xml"] else []

/-- A release is wanted. -/
def wants (settings : DefinitionSettings) (release : String) : Bool :=
  settings.versions.isEmpty || (settings.versions.map Text.upper).contains release

/-- The folder below which the folders of definitions are found. -/
def folder (settings : DefinitionSettings) (root : Path) (input : DefinitionInput) : Path :=
  underRoot root (input.root.getD (.ofText settings.root))

end DefinitionSettings

/-- The definition of a file in a tree. -/
def definitionOf (files : FileTree) (p : Path) (release : String) : Attempt PropertySet :=
  match files.read p with
  | .ok content => readDefinition content p.name release
  | .error _ => throw .unreadableMarkup

/-- One file of a batch. A failure that concerns it alone is reported, and the file is passed over.
-/
def Batch.addFile (files : FileTree) (release : String) (batch : Batch) (p : Path) :
    Attempt Batch := do
  match ← (definitionOf files p release).outcome with
  | .ok pset =>
    return { batch with
      catalog := batch.catalog.add release pset
      readCount := batch.readCount + 1 }
  | .error failure =>
    if failure.isOfFile then
      report (.skippedFile p.text failure)
      return { batch with skippedCount := batch.skippedCount + 1 }
    else throw failure

/-- The predefined sets of a release added to a batch. -/
def Batch.addPredefined (release : String) (batch : Batch) : Batch :=
  { batch with
    catalog := (predefinedSets release).foldl (fun catalog pset => catalog.add release pset)
      batch.catalog }

/-- One folder of a batch: its files, and then the predefined sets of its release. -/
def Batch.addFolder (files : FileTree) (settings : DefinitionSettings) (batch : Batch)
    (folder : String × Path) : Attempt Batch := do
  let found := findFiles files folder.2 settings.patterns
  report (.releaseFound folder.1 found.length folder.2.text)
  let batch ← found.foldlM (Batch.addFile files folder.1) batch
  return if settings.includePredefined then batch.addPredefined folder.1 else batch

/-- The batch of all wanted releases below a folder. -/
def collect (files : FileTree) (settings : DefinitionSettings) (folder : Path) : Attempt Batch :=
  ((findFolders files folder).filter fun found => settings.wants found.1).foldlM
    (Batch.addFolder files settings) {}

/-- The stage accepts its inputs. -/
def acceptsDefinitions (root : Path) (settings : DefinitionSettings) (input : DefinitionInput) :
    Run Workspace Bool := do
  let folder := settings.folder root input
  let files := (← get).files
  if !files.isFolder folder then
    report (.definitionsMissing folder.text)
    return false
  else if (findFolders files folder).isEmpty then
    report (.releasesMissing folder.text)
    return false
  else return true

/-- The line of a definition in the list of names. -/
def nameLine (entry : VersionedSet) : String :=
  entry.release ++ "\t" ++ entry.definition.name ++ "\t" ++
    String.intercalate ", " entry.definition.applicableClasses

/-- The list of names, written if it is wanted; the path of its file. -/
def writeNames (settings : DefinitionSettings) (folder : Path) (catalog : Catalog) :
    Run Workspace (Option Path) := do
  if settings.writeNames then
    let p := folder.child "pset_names.txt"
    Workspace.writeText p (String.intercalate "\n" (catalog.entries.map nameLine) ++ "\n")
    return some p
  else return none

/-- The work of the stage. -/
def runDefinitions (root : Path) (settings : DefinitionSettings) (input : DefinitionInput) :
    Run Workspace DefinitionOutput := do
  let batch ← (collect (← get).files settings (settings.folder root input)).onState
  let catalog := batch.catalog
  let folder := root.child "interim/s02_psd_parse"
  Workspace.makeFolders folder
  let catalogFile := folder.child "psets.json"
  Workspace.writeJson catalogFile catalog.written
  let namesFile ← writeNames settings folder catalog
  report
    (.definitionsRead batch.readCount batch.skippedCount catalog.definitions.length catalog.size)
  return { catalogFile, namesFile, versions := Text.distinctSorted (catalog.entries.map (·.release))
           fileCount := batch.readCount, skippedCount := batch.skippedCount
           definitionCount := catalog.size }

/-- The stage. -/
def definitionWork : Work DefinitionSettings DefinitionInput DefinitionOutput :=
  { stage := .definitions, accepts := acceptsDefinitions, run := runDefinitions }

end PsetCompiler
