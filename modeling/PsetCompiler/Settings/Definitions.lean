import PsetCompiler.Settings.Field

/-!
# Settings of the definitions stage

## Main definitions

* `DefinitionSettings`, `DefinitionInput`, `DefinitionOutput` — the records of the stage.
-/

namespace PsetCompiler

/-- The settings of the stage. -/
structure DefinitionSettings where
  /-- The folder below which the folders of definitions are found. -/
  root : String := "raw"
  /-- The wanted releases; none given means all that are found. -/
  versions : List String := []
  includeQuantities : Bool := true
  includePredefined : Bool := true
  writeNames : Bool := true
deriving DecidableEq, Repr

namespace DefinitionSettings

/-- The description of the settings. -/
def info : RecordInfo where
  title := "PsdParseConfig"
  fields :=
    [{ name := "psd_root", shape := .text, default := some (.str "raw")
       meaning :=
        "Root searched for 'psd' folders; a folder's parent names its schema release" },
      { name := "versions", shape := .list .text
        meaning := "Releases to read; empty = all found" },
      { name := "include_quantity_sets", shape := .flag, default := some (.bool true)
        meaning := "Also read Qto_*.xml quantity set definitions" },
      { name := "include_predefined_psets", shape := .flag, default := some (.bool true)
        meaning := "Add door/window lining and panel property sets per release" },
      { name := "write_name_dump", shape := .flag, default := some (.bool true)
        meaning := "Write a text list of all pset names per release" }]

/-- The settings, read. -/
def read : Json → Checked DefinitionSettings :=
  readRecord fun fields =>
    DefinitionSettings.mk <$> .optional "psd_root" "raw" readText fields
      <*> .optional "versions" [] (readList readText) fields
      <*> .optional "include_quantity_sets" true readFlag fields
      <*> .optional "include_predefined_psets" true readFlag fields
      <*> .optional "write_name_dump" true readFlag fields

/-- The settings as JSON. -/
def json (s : DefinitionSettings) : Json :=
  .obj [("psd_root", .str s.root), ("versions", .texts s.versions),
    ("include_quantity_sets", .bool s.includeQuantities),
    ("include_predefined_psets", .bool s.includePredefined),
    ("write_name_dump", .bool s.writeNames)]

end DefinitionSettings

/-- The inputs of the stage. -/
structure DefinitionInput where
  /-- A folder in place of the one of the settings. -/
  root : Option Path := none
deriving DecidableEq, Repr

namespace DefinitionInput

/-- The description of the inputs. -/
def info : RecordInfo where
  title := "PsdParseInput"
  fields :=
    [{ name := "psd_root", shape := .nullable .path, default := some .null
       meaning := "Override of config.psd_root" }]

/-- The inputs, read. -/
def read : Json → Checked DefinitionInput :=
  readRecord fun fields =>
    DefinitionInput.mk <$> .optional "psd_root" none (readNullable Path.read) fields

end DefinitionInput

/-- The outputs of the stage. -/
structure DefinitionOutput where
  catalogFile : Path
  versions : List String := []
  fileCount : Int := 0
  skippedCount : Int := 0
  definitionCount : Int := 0
  namesFile : Option Path := none
deriving DecidableEq, Repr

namespace DefinitionOutput

/-- The description of the outputs. -/
def info : RecordInfo where
  title := "PsdParseOutput"
  fields :=
    [{ name := "psets_file", shape := .path, isRequired := true
       meaning := "Path to psets.json (pset name -> versioned definitions)" },
      { name := "versions", shape := .list .text, meaning := "Schema releases found" },
      { name := "num_files", shape := .number, default := some (.int 0)
        meaning := "PSD files read successfully" },
      { name := "num_failed", shape := .number, default := some (.int 0)
        meaning := "PSD files skipped because they could not be read" },
      { name := "num_psets", shape := .number, default := some (.int 0)
        meaning := "Versioned definitions in the catalog" },
      { name := "name_dump", shape := .nullable .path, default := some .null
        meaning := "Text list of pset names" }]

/-- The outputs, read. -/
def read : Json → Checked DefinitionOutput :=
  readRecord fun fields =>
    DefinitionOutput.mk <$> .required "psets_file" Path.read fields
      <*> .optional "versions" [] (readList readText) fields
      <*> .optional "num_files" 0 readWholeNumber fields
      <*> .optional "num_failed" 0 readWholeNumber fields
      <*> .optional "num_psets" 0 readWholeNumber fields
      <*> .optional "name_dump" none (readNullable Path.read) fields

/-- The outputs as JSON. -/
def json (o : DefinitionOutput) : Json :=
  .obj [("psets_file", o.catalogFile.json), ("versions", .texts o.versions),
    ("num_files", .int o.fileCount), ("num_failed", .int o.skippedCount),
    ("num_psets", .int o.definitionCount), ("name_dump", Path.json? o.namesFile)]

end DefinitionOutput

end PsetCompiler
