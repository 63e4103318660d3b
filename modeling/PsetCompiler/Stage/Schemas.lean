import PsetCompiler.Entity.Offered
import PsetCompiler.Entity.SchemaFile
import PsetCompiler.Settings.Schemas
import PsetCompiler.Stage.Course

/-!
# The schemas stage

Reads the schema of every wanted version and leaves them in one file, with an indented list for each
and, if wanted, an enumeration of its entities.

## Main definitions

* `schemaFiles` — the wanted schema files of a folder.
* `loadSchemas` — the registry of the wanted versions.
* `schemaWork` — the stage.
-/

namespace PsetCompiler

namespace SchemaSettings

/-- The folder of schema files. -/
def folder (settings : SchemaSettings) (root : Path) (input : SchemaInput) : Path :=
  underRoot root (input.schemaFolder.getD (.ofText settings.schemaFolder))

/-- A version is wanted. -/
def wants (settings : SchemaSettings) (version : String) : Bool :=
  settings.versions.isEmpty || (settings.versions.map Text.upper).contains (Text.upper version)

end SchemaSettings

/-- The wanted schema files of a folder, in order of their names in capitals. -/
def schemaFiles (files : FileTree) (settings : SchemaSettings) (folder : Path) : List Path :=
  let names := (files.below folder).filterMap fun (parts, _) =>
    match parts with
    | [name] => if matchesPattern "*.xsd" name then some name else none
    | _ => none
  let files := (Text.sortBy Text.upper names).map fun name =>
    { folder with parts := folder.parts ++ [name] }
  files.filter fun p => settings.wants p.stem

/-- The stage accepts its inputs. -/
def acceptsSchemas (root : Path) (settings : SchemaSettings) (input : SchemaInput) :
    Run Workspace Bool := do
  match settings.source with
  | .declarations =>
    if settings.versions.isEmpty then
      report .versionsNeeded
      return false
    else return true
  | .files =>
    let folder := settings.folder root input
    let files := (← get).files
    if !files.isFolder folder then
      report (.schemaFolderMissing folder.text)
      return false
    else if (schemaFiles files settings folder).isEmpty then
      report (.schemaFilesMissing folder.text)
      return false
    else return true

/-- The forest of a version, from declarations. -/
def loadDeclared (version : String) : Run Workspace Forest := do
  match (← get).declarations.lookup version with
  | some declarations => readDeclarations version declarations
  | none => throw (.unknownSchema version)

/-- The forest of a schema file. -/
def loadSchemaFile (p : Path) : Run Workspace Forest := do
  let content ← Workspace.readDocument p
  (readSchemaFile content p.name).onState

/-- The registry of the wanted versions. -/
def loadSchemas (root : Path) (settings : SchemaSettings) (input : SchemaInput) :
    Run Workspace Registry := do
  match settings.source with
  | .declarations =>
    settings.versions.foldlM (fun registry version => do
      return registry.register (← loadDeclared version)) {}
  | .files =>
    (schemaFiles (← get).files settings (settings.folder root input)).foldlM
      (fun registry p => do return registry.register (← loadSchemaFile p)) {}

/-- The folder of what the stage leaves for others. -/
def schemaOutputFolder (root : Path) : Path :=
  root.child "interim/s01_entity_schema"

/-- The indented list of a version, written; the path of its file. -/
def writeTree (root : Path) (forest : Forest) : Run Workspace Path := do
  let p := (schemaOutputFolder root).child (forest.version ++ "_tree.txt")
  Workspace.writeText p forest.dump
  return p

/-- The enumeration of the offered entities of a version, written; the path of its file. -/
def writeEntities (root : Path) (settings : SchemaSettings) (forest : Forest) :
    Run Workspace Path := do
  let folder := root.child "processed"
  Workspace.makeFolders folder
  let language := settings.entityLanguage
  let block ← (entityBlock forest settings.entityRoot settings.excludeDeprecated language).onState
  let p := folder.child (forest.version ++ "EntityType" ++ language.fileEnding)
  Workspace.writeText p (entitySource forest block language)
  report (.entityEnumWritten forest.version block.members.length p.name)
  return p

/-- What is written for one version: the indented list and the enumeration, as far as wanted. -/
def writeVersion (root : Path) (settings : SchemaSettings) (forest : Forest) :
    Run Workspace (List Path × List Path) := do
  let trees ← if settings.writeTree then (do return [← writeTree root forest]) else pure []
  let entities ←
    if settings.writeEntities then (do return [← writeEntities root settings forest]) else pure []
  return (trees, entities)

/-- The work of the stage. -/
def runSchemas (root : Path) (settings : SchemaSettings) (input : SchemaInput) :
    Run Workspace SchemaOutput := do
  let registry ← loadSchemas root settings input
  Workspace.makeFolders (schemaOutputFolder root)
  let written ← registry.sorted.mapM (writeVersion root settings)
  let schemaFile := (schemaOutputFolder root).child "entity_schemas.json"
  Workspace.writeJson schemaFile registry.written
  let entities := (registry.sorted.flatMap (·.entities)).length
  report (.schemasLoaded registry.versions.length entities)
  return { schemaFile, versions := registry.versions, entityCount := entities
           treeFiles := written.flatMap (·.1), entityFiles := written.flatMap (·.2) }

/-- The stage. -/
def schemaWork : Work SchemaSettings SchemaInput SchemaOutput :=
  { stage := .schemas, accepts := acceptsSchemas, run := runSchemas }

end PsetCompiler
