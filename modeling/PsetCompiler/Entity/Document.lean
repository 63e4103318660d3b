import PsetCompiler.Checked

/-!
# Schema documents

The written form of an entity schema: its entities with their parents, and the enumerations of
predefined types. A bundle holds the documents of several versions.

## Main definitions

* `EntityRecord`, `SchemaDocument`, `SchemaBundle` — the written form.
* their `json` and `read` — the form as JSON, and read from it.
-/

namespace PsetCompiler

/-- An entity as it is declared. -/
structure EntityRecord where
  name : String
  parent : Option String := none
  isAbstract : Bool := false
  predefinedTypeEnum : Option String := none
deriving DecidableEq, Repr

/-- The entities of one schema version, and its enumerations of predefined types. -/
structure SchemaDocument where
  version : String
  entities : List EntityRecord := []
  predefinedTypeEnums : List (String × List String) := []
deriving DecidableEq, Repr

/-- The documents of several versions. -/
structure SchemaBundle where
  schemas : List SchemaDocument := []
deriving DecidableEq, Repr

/-- An entity as JSON. -/
def EntityRecord.json (e : EntityRecord) : Json :=
  .obj [("name", .str e.name), ("parent", .text? e.parent), ("is_abstract", .bool e.isAbstract),
    ("predefined_type_enum", .text? e.predefinedTypeEnum)]

/-- An entity, read. -/
def EntityRecord.read : Json → Checked EntityRecord :=
  readRecord fun fields =>
    EntityRecord.mk <$> .required "name" readText fields
      <*> .optional "parent" none (readNullable readText) fields
      <*> .optional "is_abstract" false readFlag fields
      <*> .optional "predefined_type_enum" none (readNullable readText) fields

/-- A document as JSON. -/
def SchemaDocument.json (d : SchemaDocument) : Json :=
  .obj [("version", .str d.version), ("entities", .arr (d.entities.map EntityRecord.json)),
    ("predefined_type_enums", .ofPairs .texts d.predefinedTypeEnums)]

/-- A document, read. -/
def SchemaDocument.read : Json → Checked SchemaDocument :=
  readRecord fun fields =>
    SchemaDocument.mk <$> .required "version" readText fields
      <*> .optional "entities" [] (readList EntityRecord.read) fields
      <*> .optional "predefined_type_enums" [] (readMap (readList readText)) fields

/-- A bundle as JSON. -/
def SchemaBundle.json (b : SchemaBundle) : Json :=
  .obj [("schemas", .arr (b.schemas.map SchemaDocument.json))]

/-- A bundle, read. -/
def SchemaBundle.read : Json → Checked SchemaBundle :=
  readRecord fun fields =>
    SchemaBundle.mk <$> .optional "schemas" [] (readList SchemaDocument.read) fields

end PsetCompiler
