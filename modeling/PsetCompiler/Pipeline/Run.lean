import PsetCompiler.Pipeline.Config
import PsetCompiler.Stage.Job

/-!
# Running a pipeline

The enabled steps of a pipeline run in order. A step takes the outputs of the steps on which it
depends, and then its own inputs; of two values for one input the later one counts.

## Main definitions

* `loadPipeline`, `loadSettings` — the pipeline and the settings of a step, read from files.
* `stepInput` — the inputs of a step.
* `runPipeline` — the outputs of all steps.
-/

namespace PsetCompiler

/-- The word for the kind of a value that is not a map. -/
def kindWord : Json → String
  | .null => "NoneType"
  | .bool _ => "bool"
  | .int _ => "int"
  | .decimal _ => "float"
  | .str _ => "str"
  | .arr _ => "list"
  | .obj _ => "dict"

/-- A control that no settings file may hold, not even inside quotes. -/
def isForbiddenControl (c : Char) : Bool :=
  (c.toNat < 0x20 && c ≠ '\t' && c ≠ '\n' && c ≠ '\r') || c.toNat == 0x7F

/-- The value that a settings file holds; an empty file holds nothing. -/
def readSettingsFile (p : Path) : Run Workspace Json := do
  let cs ← Workspace.readText p
  if cs.any isForbiddenControl then throw .settingsCharacter
  else if cs.all Text.isBlank then return .null
  else
    match Json.parse? cs with
    | some value => return plainValue value
    | none => throw .settingsSyntax

/-- The fields of a record of settings, which have to be a map. -/
def settingsFields (record : String) (value : Json) : Run Workspace Json := do
  match value with
  | .obj fields => return .obj fields
  | value => throw (.settingsShape record (kindWord value))

/-- The pipeline of a file. -/
def loadPipeline (p : Path) : Run Workspace PipelineConfig := do
  let fields ← settingsFields "psdgen.core.contracts.PipelineConfig" (← readSettingsFile p)
  Run.ofExcept (PipelineConfig.read fields).toExcept

/-- The name of the record of settings of a stage. -/
def Stage.settingsName (stage : Stage) : String :=
  stage.modulePath ++ ".config." ++ stage.settingsInfo.title

/-- The settings of a stage from a file. A file that is not there means the defaults, with a report,
and so does an empty one. -/
def loadSettings (stage : Stage) (p : Path) : Run Workspace Json := do
  if (← get).files.exists? p then
    let value ← readSettingsFile p
    settingsFields stage.settingsName (if isHollow value then .obj [] else value)
  else
    report (.settingsMissing p.text)
    return .obj []

/-- The outputs of the steps that have run, under the names of the steps. -/
abbrev StepResults := List (String × Json)

/-- Fields over other fields. -/
def overFields (fields : List (String × Json)) : Json → List (String × Json)
  | .obj more => more.foldl (fun fields (key, value) => insertEntry fields key value) fields
  | _ => fields

/-- The outputs of dependencies over fields; a dependency that has not run is reported. -/
def dependencyFields (step : String) (results : StepResults) :
    List (String × Json) → List String → Report (List (String × Json))
  | fields, [] => return fields
  | fields, dependency :: rest =>
    match results.lookup dependency with
    | some output => dependencyFields step results (overFields fields output) rest
    | none => do
      report (.dependencyMissing step dependency)
      dependencyFields step results fields rest

/-- The inputs of a step: the outputs of its dependencies, and its own inputs over them. -/
def stepInput (entry : StepEntry) (results : StepResults) : Report Json := do
  let fields ← dependencyFields entry.name results [] entry.dependsOn
  return .obj (overFields fields (.obj entry.inputs))

/-- The stage that a step names. -/
def StepEntry.stage (entry : StepEntry) : Run Workspace Stage :=
  match Stage.ofModule entry.modulePath with
  | .ok stage => return stage
  | .error error => throw (.unknownModule error)

/-- The job of a step: its stage, with the settings of its file. -/
def StepEntry.job (root : Path) (entry : StepEntry) : Run Workspace Job := do
  let stage ← entry.stage
  let settings ← loadSettings stage (.ofText entry.settingsFile)
  Run.ofExcept (stage.job root settings).toExcept

/-- A job run on inputs. -/
def Job.runOn (job : Job) (input : Json) : Run Workspace Json := do
  let run ← Run.ofExcept (job.start input).toExcept
  run

/-- The steps of a pipeline run in order, over the outputs of the steps before them. -/
def runSteps (root : Path) : StepResults → List StepEntry → Run Workspace StepResults
  | results, [] => return results
  | results, entry :: rest => do
    report (.stepStarts entry.name)
    let job ← entry.job root
    let input ← stepInput entry results
    let output ← job.runOn input
    runSteps root (insertEntry results entry.name output) rest

/-- The pipeline of a file run: the outputs of its enabled steps. -/
def runPipeline (p : Path) : Run Workspace StepResults := do
  let config ← loadPipeline p
  let steps := config.steps.filter (·.enabled)
  report (.pipelineStarts config.projectName steps.length)
  let results ← runSteps config.dataRoot [] steps
  report .pipelineEnds
  return results

end PsetCompiler
