import PsetCompiler.Enumeration.Collect
import PsetCompiler.Enumeration.Source
import PsetCompiler.Settings.Enumerations
import PsetCompiler.Stage.Course

/-!
# The enumerations stage

Emits the enumerations of the catalog, one source file for every version.

## Main definitions

* `enumSources` — the names and texts of the files of a collection.
* `enumWork` — the stage.
-/

namespace PsetCompiler

/-- The name of the file of a version. -/
def EnumSettings.fileName (settings : EnumSettings) (version : String) : String :=
  settings.fileStem ++ version ++ "Enum" ++ settings.language.fileEnding

/-- The enumerations of a version as blocks. -/
def enumBlocks (language : SourceLanguage) :
    List (String × List String) → Attempt (List EnumBlock)
  | [] => return []
  | (name, values) :: rest => do
    let block ← buildBlock name values language
    return block :: (← enumBlocks language rest)

/-- The files of the versions written, in order of version; their paths. -/
def writeEnums (settings : EnumSettings) (folder : Path) :
    List (String × List (String × List String)) → Run Workspace (List Path)
  | [] => return []
  | (version, enumerations) :: rest => do
    let blocks ← (enumBlocks settings.language enumerations).onState
    let p := folder.child (settings.fileName version)
    Workspace.writeText p (enumSource settings.language version blocks settings.space)
    report (.enumsWritten version blocks.length p.name)
    return p :: (← writeEnums settings folder rest)

/-- The files of a collection written into a folder; their paths. -/
def writeCollection (settings : EnumSettings) (folder : Path) (collection : Collection) :
    Run Workspace (List Path) := do
  Workspace.makeFolders folder
  writeEnums settings folder (Text.sortBy (·.1) collection.byVersion)

/-- The work of the stage. -/
def runEnums (root : Path) (settings : EnumSettings) (input : CatalogInput) :
    Run Workspace EnumOutput := do
  let catalog ← Workspace.readCatalog input.catalogFile
  let collection ← collectEnums [] catalog
  let enumFiles ← writeCollection settings (root.child "processed/enums") collection
  let count := (collection.byVersion.flatMap (·.2)).length
  report (.enumsEmitted count collection.duplicates)
  return { enumFiles, enumCount := count, duplicateCount := collection.duplicates }

/-- The stage. -/
def enumWork : Work EnumSettings CatalogInput EnumOutput :=
  { stage := .enumerations
    accepts := fun _ _ input => acceptsCatalog .enumerations input.catalogFile
    run := runEnums }

end PsetCompiler
