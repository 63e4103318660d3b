import PsetCompiler.Files.Path

/-!
# Records of settings, described

The settings, the inputs and the outputs of a stage are records. Each record has a description that
tells the shape, the default and the meaning of every field; tools show it as a JSON schema.

## Main definitions

* `Shape`, `Field` — the shapes of values, and fields of records.
* `RecordInfo` — the description of a record.
* `RecordInfo.schema` — the description as a JSON schema.
-/

namespace PsetCompiler

/-- The shape of a value. -/
inductive Shape where
  | text
  | number
  | flag
  | path
  /-- One of some words. -/
  | word (words : List String)
  | list (item : Shape)
  /-- Nothing, or a value of a shape. -/
  | nullable (value : Shape)
deriving Repr

/-- A field of a record. -/
structure Field where
  name : String
  shape : Shape
  meaning : String
  /-- The default, if the field has one that can be written down. -/
  default : Option Json := none
  /-- The field has to be there. -/
  isRequired : Bool := false

/-- The description of a record. -/
structure RecordInfo where
  title : String
  fields : List Field

/-- A shape as the members of a JSON schema. -/
def Shape.schema : Shape → List (String × Json)
  | .text => [("type", .str "string")]
  | .number => [("type", .str "integer")]
  | .flag => [("type", .str "boolean")]
  | .path => [("format", .str "path"), ("type", .str "string")]
  | .word words => [("enum", .texts words), ("type", .str "string")]
  | .list item => [("items", .obj item.schema), ("type", .str "array")]
  | .nullable value => [("anyOf", .arr [.obj value.schema, .obj [("type", .str "null")]])]

/-- A word with a capital at its start. -/
def capitalized (word : List Char) : List Char :=
  match word with
  | c :: rest => c.toUpper :: rest
  | [] => []

/-- The words of a name, each with a capital at its start. -/
def titleOf (name : String) : String :=
  String.ofList (List.intercalate [' '] ((Text.splitBy (· = '_') name.toList).map capitalized))

/-- A field as a member of a JSON schema. -/
def Field.schema (f : Field) : String × Json :=
  (f.name, .obj ((f.default.map fun value => ("default", value)).toList ++
    [("description", .str f.meaning), ("title", .str (titleOf f.name))] ++ f.shape.schema))

/-- The names of the fields that have to be there. -/
def RecordInfo.required (info : RecordInfo) : List String :=
  (info.fields.filter (·.isRequired)).map (·.name)

/-- The description of a record as a JSON schema. -/
def RecordInfo.schema (info : RecordInfo) : Json :=
  .obj ([("properties", .obj (info.fields.map Field.schema))] ++
    (if info.required.isEmpty then [] else [("required", .texts info.required)]) ++
    [("title", .str info.title), ("type", .str "object")])

/-- A path or nothing, as JSON. -/
def Path.json? : Option Path → Json
  | some p => p.json
  | none => .null

/-- The catalog as an input, which is all that most stages need. -/
structure CatalogInput where
  /-- The file of the catalog. -/
  catalogFile : Path
deriving DecidableEq, Repr

namespace CatalogInput

/-- The field of the catalog file. -/
def catalogField : Field :=
  { name := "psets_file", shape := .path, meaning := "Path to psets.json from s02"
    isRequired := true }

/-- The input, read. -/
def read : Json → Checked CatalogInput :=
  readRecord fun fields => CatalogInput.mk <$> .required "psets_file" Path.read fields

end CatalogInput

end PsetCompiler
