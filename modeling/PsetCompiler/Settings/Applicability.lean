import PsetCompiler.Settings.Field

/-!
# Settings of the applicability stage

## Main definitions

* `ApplicabilitySettings`, `ApplicabilityInput`, `ApplicabilityOutput` — the records of the stage.
-/

namespace PsetCompiler

/-- The settings of the stage. -/
structure ApplicabilitySettings where
  /-- The name of the file that is written. -/
  outputName : String := "pset_applicability.json"
  /-- Entities without any set are listed too. -/
  includeUnattached : Bool := true
deriving DecidableEq, Repr

namespace ApplicabilitySettings

/-- The description of the settings. -/
def info : RecordInfo where
  title := "ApplicabilityConfig"
  fields :=
    [{ name := "output_name", shape := .text, default := some (.str "pset_applicability.json")
       meaning := "JSON dump file name" },
      { name := "include_unattached", shape := .flag, default := some (.bool true)
        meaning := "List concrete entities that no pset applies to" }]

/-- The settings, read. -/
def read : Json → Checked ApplicabilitySettings :=
  readRecord fun fields =>
    ApplicabilitySettings.mk <$> .optional "output_name" "pset_applicability.json" readText fields
      <*> .optional "include_unattached" true readFlag fields

/-- The settings as JSON. -/
def json (s : ApplicabilitySettings) : Json :=
  .obj [("output_name", .str s.outputName), ("include_unattached", .bool s.includeUnattached)]

end ApplicabilitySettings

/-- The inputs of the stage. -/
structure ApplicabilityInput where
  schemaFile : Path
  catalogFile : Path
deriving DecidableEq, Repr

namespace ApplicabilityInput

/-- The description of the inputs. -/
def info : RecordInfo where
  title := "ApplicabilityInput"
  fields :=
    [{ name := "schema_file", shape := .path, isRequired := true
       meaning := "Path to entity_schemas.json from s01" },
      CatalogInput.catalogField]

/-- The inputs, read. -/
def read : Json → Checked ApplicabilityInput :=
  readRecord fun fields =>
    ApplicabilityInput.mk <$> .required "schema_file" Path.read fields
      <*> .required "psets_file" Path.read fields

end ApplicabilityInput

/-- The outputs of the stage. -/
structure ApplicabilityOutput where
  applicabilityFile : Path
  versions : List String := []
  entityCount : Int := 0
deriving DecidableEq, Repr

namespace ApplicabilityOutput

/-- The description of the outputs. -/
def info : RecordInfo where
  title := "ApplicabilityOutput"
  fields :=
    [{ name := "applicability_file", shape := .path, isRequired := true
       meaning := "JSON dump: per version, entities and psets" },
      { name := "versions", shape := .list .text, meaning := "Versions resolved" },
      { name := "num_entities", shape := .number, default := some (.int 0)
        meaning := "Entities listed across versions" }]

/-- The outputs, read. -/
def read : Json → Checked ApplicabilityOutput :=
  readRecord fun fields =>
    ApplicabilityOutput.mk <$> .required "applicability_file" Path.read fields
      <*> .optional "versions" [] (readList readText) fields
      <*> .optional "num_entities" 0 readWholeNumber fields

/-- The outputs as JSON. -/
def json (o : ApplicabilityOutput) : Json :=
  .obj [("applicability_file", o.applicabilityFile.json), ("versions", .texts o.versions),
    ("num_entities", .int o.entityCount)]

end ApplicabilityOutput

end PsetCompiler
