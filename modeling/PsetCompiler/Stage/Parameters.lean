import PsetCompiler.Parameter.File
import PsetCompiler.Settings.Parameters
import PsetCompiler.Stage.Course

/-!
# The parameters stage

Merges every property of the catalog into the tables of parameters and writes both tables. The
tables start from earlier files, so that identifiers survive a regeneration.

## Main definitions

* `seedPath?` — the file from which a table starts, if there is one.
* `seedLedger` — the tables at the start.
* `parameterWork` — the stage.
-/

namespace PsetCompiler

/-- The folder of parameter files. -/
def parameterFolder (root : Path) : Path :=
  root.child "processed/shared_parameters"

/-- A path of the settings that may be empty, which is none. -/
def configuredPath? (root : Path) (configured : Option String) : Option Path :=
  (configured.filter (· ≠ "")).map fun s => underRoot root (.ofText s)

/-- The configured files to start from are all there; the first that is not is reported. -/
def acceptsSeeds (root : Path) : List (Option String) → Run Workspace Bool
  | [] => return true
  | configured :: rest => do
    match configuredPath? root configured with
    | some p =>
      if (← get).files.exists? p then acceptsSeeds root rest
      else
        report (.seedMissing (configured.getD ""))
        return false
    | none => acceptsSeeds root rest

/-- The stage accepts its inputs. -/
def acceptsParameters (root : Path) (settings : ParameterSettings) (input : CatalogInput) :
    Run Workspace Bool := do
  if ← acceptsCatalog .parameters input.catalogFile then
    acceptsSeeds root [settings.instanceSeed, settings.typeSeed]
  else return false

/-- The file from which a table starts: the configured one, or that of an earlier run. -/
def seedPath? (files : FileTree) (root : Path) (settings : ParameterSettings)
    (configured : Option String) (fileName : String) : Option Path :=
  match configuredPath? root configured with
  | some p => some p
  | none =>
    let previous := (parameterFolder root).child fileName
    if settings.seedFromPrevious && files.exists? previous then some previous else none

/-- A table at the start, and how many rows came from a file. -/
def seedTable (p : Option Path) : Run Workspace (ParameterTable × Nat) := do
  match p with
  | none => return ([], 0)
  | some p =>
    let content ← Workspace.readFile p
    seedFile p.name p.text content []

/-- Both tables at the start, and how many rows came from files. -/
def seedLedger (root : Path) (settings : ParameterSettings) : Run Workspace (Ledger × Nat) := do
  let workspace ← get
  let seed := seedPath? workspace.files root settings
  let (instances, fromInstances) ← seedTable (seed settings.instanceSeed settings.instanceFile)
  let (types, fromTypes) ← seedTable (seed settings.typeSeed settings.typeFile)
  return ({ instances, types, supply := workspace.supply }, fromInstances + fromTypes)

/-- Every property of a catalog merged into the tables; identifiers are drawn from the workspace. -/
def mergeInWorkspace (settings : ParameterSettings) (catalog : Catalog) (ledger : Ledger) :
    Run Workspace (Nat × Ledger) :=
  fun workspace => do
    let (result, ledger) ←
      (mergeCatalog catalog settings.qualifiedNames settings.groupId).run ledger
    return (result.map (·, ledger), { workspace with supply := ledger.supply })

/-- A table written to a file; the path of the file. -/
def writeTable (root : Path) (settings : ParameterSettings) (fileName : String)
    (table : ParameterTable) : Run Workspace Path := do
  let p := (parameterFolder root).child fileName
  Workspace.makeFolders p.parent
  let text ← Run.ofExcept (fileText table settings.groupId settings.groupName)
  Workspace.writeText p text
  return p

/-- The work of the stage. -/
def runParameters (root : Path) (settings : ParameterSettings) (input : CatalogInput) :
    Run Workspace ParameterOutput := do
  let catalog ← Workspace.readCatalog input.catalogFile
  let (ledger, seeded) ← seedLedger root settings
  let (merged, ledger) ← mergeInWorkspace settings catalog ledger
  let instanceFile ← writeTable root settings settings.instanceFile ledger.instances
  let typeFile ← writeTable root settings settings.typeFile ledger.types
  report (.merged merged ledger.instances.length ledger.types.length seeded)
  return { instanceFile, typeFile, instanceCount := ledger.instances.length
           typeCount := ledger.types.length, seededCount := seeded, mergedCount := merged }

/-- The stage. -/
def parameterWork : Work ParameterSettings CatalogInput ParameterOutput :=
  { stage := .parameters, accepts := acceptsParameters, run := runParameters }

end PsetCompiler
