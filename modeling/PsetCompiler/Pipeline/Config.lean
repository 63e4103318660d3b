import PsetCompiler.Files.Path
import PsetCompiler.Text.Split

/-!
# Pipelines

A pipeline names the folder of all data and the steps of a run. A step names its stage, the file of
its settings, the steps whose outputs it takes, and inputs of its own.

## Main definitions

* `StepEntry`, `PipelineConfig` — steps and pipelines.
* their `json` and `read` — the written form, and how it is read.
* `plainValue` — a value of a settings file.
-/

namespace PsetCompiler

/-- A step of a pipeline. -/
structure StepEntry where
  name : String
  /-- The path that names the stage. -/
  modulePath : String
  /-- The file of the settings. -/
  settingsFile : String
  /-- The steps whose outputs this one takes. -/
  dependsOn : List String := []
  enabled : Bool := true
  /-- Inputs that count more than the outputs of other steps. -/
  inputs : List (String × Json) := []

/-- A pipeline. -/
structure PipelineConfig where
  projectName : String := "psdgen_project"
  /-- The folder of all data. -/
  dataRoot : Path := .ofText "./data"
  steps : List StepEntry := []

namespace StepEntry

/-- A step as JSON. -/
def json (e : StepEntry) : Json :=
  .obj [("name", .str e.name), ("module", .str e.modulePath), ("config_file", .str e.settingsFile),
    ("depends_on", .texts e.dependsOn), ("enabled", .bool e.enabled), ("inputs", .obj e.inputs)]

/-- A step, read. -/
def read : Json → Checked StepEntry :=
  readRecord fun fields =>
    StepEntry.mk <$> .required "name" readText fields
      <*> .required "module" readText fields
      <*> .required "config_file" readText fields
      <*> .optional "depends_on" [] (readList readText) fields
      <*> .optional "enabled" true readFlag fields
      <*> .optional "inputs" [] (readMap readAny) fields

end StepEntry

namespace PipelineConfig

/-- A pipeline as JSON. -/
def json (c : PipelineConfig) : Json :=
  .obj [("project_name", .str c.projectName), ("data_root", c.dataRoot.json),
    ("steps", .arr (c.steps.map StepEntry.json))]

/-- A pipeline, read. -/
def read : Json → Checked PipelineConfig :=
  readRecord fun fields =>
    PipelineConfig.mk <$> .optional "project_name" "psdgen_project" readText fields
      <*> .optional "data_root" (.ofText "./data") Path.read fields
      <*> .optional "steps" [] (readList StepEntry.read) fields

end PipelineConfig

/-! ### Values of settings files -/

/-- A number with an exponent counts as a number only if it has a point and the exponent a sign. -/
def isPlainDecimal (spelling : String) : Bool :=
  let (mantissa, exponent) := spelling.toList.span fun c => c ≠ 'e' && c ≠ 'E'
  match exponent with
  | [] => true
  | _ :: c :: _ => (c = '+' || c = '-') && mantissa.contains '.'
  | _ => false

mutual

/-- A value of a settings file: what does not count as a number is the text that spells it. -/
def plainValue : Json → Json
  | .decimal d => if d.value.isSome && isPlainDecimal d.text then .decimal d else .str d.text
  | .arr items => .arr (plainItems items)
  | .obj members => .obj (plainMembers members)
  | value => value

/-- Items of a settings file. -/
def plainItems : List Json → List Json
  | [] => []
  | item :: rest => plainValue item :: plainItems rest

/-- Members of a settings file. -/
def plainMembers : List (String × Json) → List (String × Json)
  | [] => []
  | (key, value) :: rest => (key, plainValue value) :: plainMembers rest

end

/-- A value that settings cannot be told from being left out by. -/
def isHollow : Json → Bool
  | .null => true
  | .bool b => !b
  | .int n => n = 0
  | .decimal d => d.value.any (·.1 = 0)
  | .str s => s = ""
  | .arr items => items.isEmpty
  | .obj members => members.isEmpty

end PsetCompiler
