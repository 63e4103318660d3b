import PsetCompiler.Settings.Field
import PsetCompiler.Source.Name

/-!
# Settings of the schemas stage

## Main definitions

* `SchemaSource` — where schemas come from.
* `SchemaSettings`, `SchemaInput`, `SchemaOutput` — the records of the stage.
-/

namespace PsetCompiler

/-- Where schemas come from. -/
inductive SchemaSource where
  /-- Schema files of a folder. -/
  | files
  /-- Declarations of named schemas. -/
  | declarations
deriving DecidableEq, Repr

/-- The name of a source in settings. -/
def SchemaSource.name : SchemaSource → String
  | .files => "xsd"
  | .declarations => "ifcopenshell"

/-- The sources by name. -/
def SchemaSource.words : List (String × SchemaSource) :=
  [("xsd", .files), ("ifcopenshell", .declarations)]

/-- The settings of the stage. -/
structure SchemaSettings where
  source : SchemaSource := .files
  schemaFolder : String := "raw/schemas"
  /-- The wanted versions; none given means all that are found. -/
  versions : List String := []
  writeTree : Bool := true
  writeEntities : Bool := false
  entityLanguage : SourceLanguage := .csharp
  /-- The entity whose branch is offered. -/
  entityRoot : String := "IfcProduct"
  excludeDeprecated : Bool := true
deriving DecidableEq, Repr

namespace SchemaSettings

/-- The description of the settings. -/
def info : RecordInfo where
  title := "EntitySchemaConfig"
  fields :=
    [{ name := "source", shape := .word (SchemaSource.words.map (·.1)), default := some (.str "xsd")
       meaning := "Read ifcXML XSD files or ifcopenshell's bundled schemas" },
      { name := "schema_dir", shape := .text, default := some (.str "raw/schemas")
        meaning := "Folder of <VERSION>.xsd files (relative to data_root)" },
      { name := "versions", shape := .list .text
        meaning :=
          "Versions to load; empty = every XSD in schema_dir (ifcopenshell: required)" },
      { name := "write_tree_dump", shape := .flag, default := some (.bool true)
        meaning := "Write an indented entity tree per version" },
      { name := "write_entity_enum", shape := .flag, default := some (.bool false)
        meaning := "Generate an entity-name enumeration per version" },
      { name := "entity_enum_language", shape := .word (SourceLanguage.words.map (·.1))
        default := some (.str "csharp"), meaning := "Entity enum output language" },
      { name := "entity_enum_root", shape := .text, default := some (.str "IfcProduct")
        meaning := "Only entities in this branch go into the enum" },
      { name := "exclude_deprecated", shape := .flag, default := some (.bool true)
        meaning := "Leave deprecated entities out of the entity enum" }]

/-- The settings, read. -/
def read : Json → Checked SchemaSettings :=
  readRecord fun fields =>
    SchemaSettings.mk <$> .optional "source" .files (readLiteral SchemaSource.words) fields
      <*> .optional "schema_dir" "raw/schemas" readText fields
      <*> .optional "versions" [] (readList readText) fields
      <*> .optional "write_tree_dump" true readFlag fields
      <*> .optional "write_entity_enum" false readFlag fields
      <*> .optional "entity_enum_language" .csharp (readLiteral SourceLanguage.words) fields
      <*> .optional "entity_enum_root" "IfcProduct" readText fields
      <*> .optional "exclude_deprecated" true readFlag fields

/-- The settings as JSON. -/
def json (s : SchemaSettings) : Json :=
  .obj [("source", .str s.source.name), ("schema_dir", .str s.schemaFolder),
    ("versions", .texts s.versions), ("write_tree_dump", .bool s.writeTree),
    ("write_entity_enum", .bool s.writeEntities),
    ("entity_enum_language", .str s.entityLanguage.name),
    ("entity_enum_root", .str s.entityRoot), ("exclude_deprecated", .bool s.excludeDeprecated)]

end SchemaSettings

/-- The inputs of the stage. -/
structure SchemaInput where
  /-- A folder in place of the one of the settings. -/
  schemaFolder : Option Path := none
deriving DecidableEq, Repr

namespace SchemaInput

/-- The description of the inputs. -/
def info : RecordInfo where
  title := "EntitySchemaInput"
  fields :=
    [{ name := "schema_dir", shape := .nullable .path, default := some .null
       meaning := "Override of config.schema_dir" }]

/-- The inputs, read. -/
def read : Json → Checked SchemaInput :=
  readRecord fun fields =>
    SchemaInput.mk <$> .optional "schema_dir" none (readNullable Path.read) fields

end SchemaInput

/-- The outputs of the stage. -/
structure SchemaOutput where
  schemaFile : Path
  versions : List String := []
  entityCount : Int := 0
  treeFiles : List Path := []
  entityFiles : List Path := []
deriving DecidableEq, Repr

namespace SchemaOutput

/-- The description of the outputs. -/
def info : RecordInfo where
  title := "EntitySchemaOutput"
  fields :=
    [{ name := "schema_file", shape := .path, isRequired := true
       meaning := "Path to entity_schemas.json (all versions)" },
      { name := "versions", shape := .list .text, meaning := "Schema versions loaded" },
      { name := "num_entities", shape := .number, default := some (.int 0)
        meaning := "Entities across all versions" },
      { name := "tree_dumps", shape := .list .path, meaning := "Per-version tree dump files" },
      { name := "entity_enum_files", shape := .list .path
        meaning := "Generated entity enum sources" }]

/-- The outputs, read. -/
def read : Json → Checked SchemaOutput :=
  readRecord fun fields =>
    SchemaOutput.mk <$> .required "schema_file" Path.read fields
      <*> .optional "versions" [] (readList readText) fields
      <*> .optional "num_entities" 0 readWholeNumber fields
      <*> .optional "tree_dumps" [] (readList Path.read) fields
      <*> .optional "entity_enum_files" [] (readList Path.read) fields

/-- The outputs as JSON. -/
def json (o : SchemaOutput) : Json :=
  .obj [("schema_file", o.schemaFile.json), ("versions", .texts o.versions),
    ("num_entities", .int o.entityCount), ("tree_dumps", .arr (o.treeFiles.map Path.json)),
    ("entity_enum_files", .arr (o.entityFiles.map Path.json))]

end SchemaOutput

end PsetCompiler
