import PsetCompiler.Stage.Applicability
import PsetCompiler.Stage.Definitions
import PsetCompiler.Stage.Enumerations
import PsetCompiler.Stage.Initializer
import PsetCompiler.Stage.Parameters
import PsetCompiler.Stage.Schemas

/-!
# Stages as jobs

Pipelines handle all stages alike: settings, inputs and outputs are then JSON records. A job is a
stage whose settings were read; given its inputs it can be run.

## Main definitions

* `Stage.settingsInfo`, `Stage.inputInfo`, `Stage.outputInfo` — the descriptions of the records.
* `Stage.readSettings`, `Stage.readOutput` — the records with their defaults filled in.
* `Job`, `Stage.job` — a stage with its settings.
-/

namespace PsetCompiler

/-- A stage with its settings: inputs, when they are read, give a run whose value is the outputs. -/
structure Job where
  start : Json → Checked (Run Workspace Json)

/-- The job of a stage. -/
def Work.job {σ ι ω : Type} (work : Work σ ι ω) (readSettings : Json → Checked σ)
    (readInput : Json → Checked ι) (outputJson : ω → Json) (root : Path) (settings : Json) :
    Checked Job :=
  (readSettings settings).map fun settings =>
    { start := fun input =>
        (readInput input).map fun input => outputJson <$> work.execute root settings input }

namespace Stage

/-- The description of the settings of a stage. -/
def settingsInfo : Stage → RecordInfo
  | .schemas => SchemaSettings.info
  | .definitions => DefinitionSettings.info
  | .parameters => ParameterSettings.info
  | .enumerations => EnumSettings.info
  | .applicability => ApplicabilitySettings.info
  | .initializer => InitializerSettings.info

/-- The description of the inputs of a stage. -/
def inputInfo : Stage → RecordInfo
  | .schemas => SchemaInput.info
  | .definitions => DefinitionInput.info
  | .parameters => parameterInputInfo
  | .enumerations => enumInputInfo
  | .applicability => ApplicabilityInput.info
  | .initializer => initializerInputInfo

/-- The description of the outputs of a stage. -/
def outputInfo : Stage → RecordInfo
  | .schemas => SchemaOutput.info
  | .definitions => DefinitionOutput.info
  | .parameters => ParameterOutput.info
  | .enumerations => EnumOutput.info
  | .applicability => ApplicabilityOutput.info
  | .initializer => InitializerOutput.info

/-- The settings of a stage with their defaults filled in. -/
def readSettings (stage : Stage) (value : Json) : Checked Json :=
  match stage with
  | .schemas => (SchemaSettings.read value).map (·.json)
  | .definitions => (DefinitionSettings.read value).map (·.json)
  | .parameters => (ParameterSettings.read value).map (·.json)
  | .enumerations => (EnumSettings.read value).map (·.json)
  | .applicability => (ApplicabilitySettings.read value).map (·.json)
  | .initializer => (InitializerSettings.read value).map (·.json)

/-- The outputs of a stage with their defaults filled in. -/
def readOutput (stage : Stage) (value : Json) : Checked Json :=
  match stage with
  | .schemas => (SchemaOutput.read value).map (·.json)
  | .definitions => (DefinitionOutput.read value).map (·.json)
  | .parameters => (ParameterOutput.read value).map (·.json)
  | .enumerations => (EnumOutput.read value).map (·.json)
  | .applicability => (ApplicabilityOutput.read value).map (·.json)
  | .initializer => (InitializerOutput.read value).map (·.json)

/-- A stage with its settings, over the folder of all data. -/
def job (stage : Stage) (root : Path) (settings : Json) : Checked Job :=
  match stage with
  | .schemas => schemaWork.job SchemaSettings.read SchemaInput.read SchemaOutput.json root settings
  | .definitions =>
    definitionWork.job DefinitionSettings.read DefinitionInput.read DefinitionOutput.json root
      settings
  | .parameters =>
    parameterWork.job ParameterSettings.read CatalogInput.read ParameterOutput.json root settings
  | .enumerations => enumWork.job EnumSettings.read CatalogInput.read EnumOutput.json root settings
  | .applicability =>
    applicabilityWork.job ApplicabilitySettings.read ApplicabilityInput.read
      ApplicabilityOutput.json root settings
  | .initializer =>
    initializerWork.job InitializerSettings.read CatalogInput.read InitializerOutput.json root
      settings

end Stage

end PsetCompiler
