import PsetCompiler.Settings.Field

/-!
# Settings of the parameters stage

## Main definitions

* `ParameterSettings`, `ParameterOutput` — the records of the stage; its input is a catalog.
-/

namespace PsetCompiler

/-- The name of the file of instance parameters, unless the settings give one. -/
def defaultInstanceFile : String := "IFCSharedParameters-RevitIFCBuiltIn_ALL.txt"

/-- The name of the file of type parameters, unless the settings give one. -/
def defaultTypeFile : String := "IFCSharedParameters-RevitIFCBuiltIn-Type_ALL.txt"

/-- The settings of the stage. -/
structure ParameterSettings where
  instanceFile : String := defaultInstanceFile
  typeFile : String := defaultTypeFile
  /-- A file from which the table of instances starts. -/
  instanceSeed : Option String := none
  /-- A file from which the table of types starts. -/
  typeSeed : Option String := none
  /-- Without such a file a table starts from the file of an earlier run. -/
  seedFromPrevious : Bool := true
  /-- Names of parameters are those of sets and properties, not of properties alone. -/
  qualifiedNames : Bool := false
  groupId : Int := 2
  groupName : String := "IFC Parameters"
deriving DecidableEq, Repr

namespace ParameterSettings

/-- The description of the settings. -/
def info : RecordInfo where
  title := "SharedParametersConfig"
  fields :=
    [{ name := "instance_file_name", shape := .text, default := some (.str defaultInstanceFile)
       meaning := "Instance parameter file name" },
      { name := "type_file_name", shape := .text, default := some (.str defaultTypeFile)
        meaning := "Type parameter file name" },
      { name := "existing_instance_file", shape := .nullable .text, default := some .null
        meaning :=
          "Previously emitted Instance file to seed GUIDs from (relative to data_root)" },
      { name := "existing_type_file", shape := .nullable .text, default := some .null
        meaning := "Previously emitted Type file to seed GUIDs from (relative to data_root)" },
      { name := "seed_from_previous_output", shape := .flag, default := some (.bool true)
        meaning :=
          "Seed from this step's own earlier output when no existing file is given" },
      { name := "qualified_names", shape := .flag, default := some (.bool false)
        meaning := "Name simple parameters <PsetName>.<PropertyName>" },
      { name := "group_id", shape := .number, default := some (.int 2)
        meaning := "Shared parameter group id" },
      { name := "group_name", shape := .text, default := some (.str "IFC Parameters")
        meaning := "Shared parameter group name" }]

/-- The settings, read. -/
def read : Json → Checked ParameterSettings :=
  readRecord fun fields =>
    ParameterSettings.mk <$> .optional "instance_file_name" defaultInstanceFile readText fields
      <*> .optional "type_file_name" defaultTypeFile readText fields
      <*> .optional "existing_instance_file" none (readNullable readText) fields
      <*> .optional "existing_type_file" none (readNullable readText) fields
      <*> .optional "seed_from_previous_output" true readFlag fields
      <*> .optional "qualified_names" false readFlag fields
      <*> .optional "group_id" 2 readWholeNumber fields
      <*> .optional "group_name" "IFC Parameters" readText fields

/-- The settings as JSON. -/
def json (s : ParameterSettings) : Json :=
  .obj [("instance_file_name", .str s.instanceFile), ("type_file_name", .str s.typeFile),
    ("existing_instance_file", .text? s.instanceSeed), ("existing_type_file", .text? s.typeSeed),
    ("seed_from_previous_output", .bool s.seedFromPrevious),
    ("qualified_names", .bool s.qualifiedNames), ("group_id", .int s.groupId),
    ("group_name", .str s.groupName)]

end ParameterSettings

/-- The description of the inputs. -/
def parameterInputInfo : RecordInfo where
  title := "SharedParametersInput"
  fields := [CatalogInput.catalogField]

/-- The outputs of the stage. -/
structure ParameterOutput where
  instanceFile : Path
  typeFile : Path
  instanceCount : Int := 0
  typeCount : Int := 0
  seededCount : Int := 0
  mergedCount : Int := 0
deriving DecidableEq, Repr

namespace ParameterOutput

/-- The description of the outputs. -/
def info : RecordInfo where
  title := "SharedParametersOutput"
  fields :=
    [{ name := "instance_file", shape := .path, isRequired := true
       meaning := "Instance shared-parameter file" },
      { name := "type_file", shape := .path, isRequired := true
        meaning := "Type shared-parameter file" },
      { name := "num_instance", shape := .number, default := some (.int 0)
        meaning := "Rows in the Instance file" },
      { name := "num_type", shape := .number, default := some (.int 0)
        meaning := "Rows in the Type file" },
      { name := "num_seeded", shape := .number, default := some (.int 0)
        meaning := "Rows seeded from earlier files" },
      { name := "num_merged", shape := .number, default := some (.int 0)
        meaning := "Properties merged in this run" }]

/-- The outputs, read. -/
def read : Json → Checked ParameterOutput :=
  readRecord fun fields =>
    ParameterOutput.mk <$> .required "instance_file" Path.read fields
      <*> .required "type_file" Path.read fields
      <*> .optional "num_instance" 0 readWholeNumber fields
      <*> .optional "num_type" 0 readWholeNumber fields
      <*> .optional "num_seeded" 0 readWholeNumber fields
      <*> .optional "num_merged" 0 readWholeNumber fields

/-- The outputs as JSON. -/
def json (o : ParameterOutput) : Json :=
  .obj [("instance_file", o.instanceFile.json), ("type_file", o.typeFile.json),
    ("num_instance", .int o.instanceCount), ("num_type", .int o.typeCount),
    ("num_seeded", .int o.seededCount), ("num_merged", .int o.mergedCount)]

end ParameterOutput

end PsetCompiler
