import PsetCompiler.Text.Quoted

/-!
# Stages

The compiler works in six stages, each of which leaves files for those after it. A pipeline names a
stage by the path of its module.

## Main definitions

* `Stage` — the stages.
* `Stage.name`, `Stage.modulePath` — how messages and pipelines name them.
* `ModuleError` — why a path names no stage.
* `Stage.ofModule` — the stage that a path names.
-/

namespace PsetCompiler

/-- The stages of a compile run. -/
inductive Stage where
  /-- Reads entity schemas into inheritance forests. -/
  | schemas
  /-- Reads property set definitions into the catalog. -/
  | definitions
  /-- Merges properties into the tables of shared parameters. -/
  | parameters
  /-- Emits the enumerations of properties as source files. -/
  | enumerations
  /-- Resolves which property sets apply to which entities. -/
  | applicability
  /-- Emits the definitions as initializer source. -/
  | initializer
deriving DecidableEq, Repr

/-- Why a path names no stage. -/
inductive ModuleError where
  /-- Nothing has this path. -/
  | missing (path : String)
  /-- Nothing has this path, as the part before the last one holds no others. -/
  | notFolder (path inside : String)
  /-- The path begins with a point. -/
  | relative (path : String)
deriving DecidableEq, Repr

/-- The text of such an error. -/
def ModuleError.message : ModuleError → String
  | .missing path => "No module named " ++ Text.quoted path
  | .notFolder path inside =>
    "No module named " ++ Text.quoted path ++ "; " ++ Text.quoted inside ++ " is not a package"
  | .relative path =>
    "the 'package' argument is required to perform a relative import for " ++ Text.quoted path

namespace Stage

/-- The name of a stage in messages. -/
def name : Stage → String
  | .schemas => "entity_schema"
  | .definitions => "psd_parse"
  | .parameters => "shared_parameters"
  | .enumerations => "enum_emit"
  | .applicability => "applicability"
  | .initializer => "pset_source"

/-- The folder of a stage below the folder of all stages. -/
def folder : Stage → String
  | .schemas => "s01_entity_schema"
  | .definitions => "s02_psd_parse"
  | .parameters => "s03_shared_parameters"
  | .enumerations => "s04_enum_emit"
  | .applicability => "s05_applicability"
  | .initializer => "s06_pset_source"

/-- The path by which a pipeline names a stage. -/
def modulePath (stage : Stage) : String :=
  "psdgen.steps." ++ stage.folder

/-- All stages, in the order in which they usually run. -/
def all : List Stage :=
  [.schemas, .definitions, .parameters, .enumerations, .applicability, .initializer]

/-- The stage with a name. -/
def ofName? (s : String) : Option Stage :=
  all.find? (·.name == s)

/-- The paths of the folders in which modules are found, stages apart. -/
def folderPaths : List String :=
  ["psdgen", "psdgen.core", "psdgen.utils", "psdgen.steps", "psdgen.templates"]

/-- The modules in the folders that all stages share, each by its folder and its name. -/
def sharedModules : List (String × String) :=
  [("psdgen", "cli")] ++
  ["__init__", "context", "contracts", "logging", "models", "pipeline_runner", "step_base"].map
    ("psdgen.core", ·) ++
  ["codegen", "datatypes", "entity_tree", "io", "xml"].map ("psdgen.utils", ·)

/-- The modules in the folder of a stage: its entry, its settings, its inputs and outputs, and the
parts of its work. -/
def modules (stage : Stage) : List String :=
  ["step", "config", "contracts"] ++
  match stage with
  | .schemas => ["_deprecated", "_ifcopenshell_reader", "_xsd_reader"]
  | .definitions => ["_known_fixes", "_predefined_psets", "_psd_reader"]
  | .parameters => ["_classify", "_merger", "_param_file"]
  | .enumerations => ["_enum_writer"]
  | .applicability => ["_resolver"]
  | .initializer => ["_entries"]

/-- The paths of the modules that hold no others. -/
def leafPaths : List String :=
  (sharedModules ++ all.flatMap fun stage => stage.modules.map (stage.modulePath, ·)).map
    fun (folder, name) => folder ++ "." ++ name

/-- What the first of some growing paths that names nothing is reported as; `inside` is the path
before them. -/
def firstUnknown (inside : String) : List String → Option ModuleError
  | [] => none
  | path :: rest =>
    if leafPaths.contains inside then some (.notFolder path inside)
    else if (folderPaths ++ all.map modulePath ++ leafPaths).contains path then
      firstUnknown path rest
    else some (.missing path)

/-- The beginnings of a path, shortest first: `a`, `a.b`, `a.b.c`. -/
def beginnings (parts : List String) : List String :=
  (List.range parts.length).map fun n => String.intercalate "." (parts.take (n + 1))

/-- The stage that a path names. A path that names none is looked up part by part, down to the part
that would be the stage itself. -/
def ofModule (path : String) : Except ModuleError Stage :=
  match all.find? (·.modulePath == path) with
  | some stage => .ok stage
  | none =>
    let whole := path ++ ".step"
    .error (if whole.startsWith "." then .relative whole
      else (firstUnknown "" (beginnings (whole.splitOn "."))).getD (.missing whole))

end Stage

end PsetCompiler
