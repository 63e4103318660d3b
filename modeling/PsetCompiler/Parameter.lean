import PsetCompiler.Checked

/-!
# Shared parameters

A shared parameter is what a property becomes in the host application: a name, an identifier, a
primitive type and some flags.

## Main definitions

* `ParamType` — the primitive types, and their names in parameter files.
* `Parameter` — a parameter; its identifier is assigned when it is merged into a table.
* `Parameter.json`, `Parameter.read` — a parameter as JSON, and read from it.
-/

namespace PsetCompiler

/-- The primitive types of parameters. -/
inductive ParamType where
  | text
  | multilineText
  | integer
  | length
  | area
  | volume
  | angle
  | currency
  | massDensity
  | url
  | yesNo
  | number
deriving DecidableEq, Repr

namespace ParamType

/-- The name of a type in parameter files. -/
def name : ParamType → String
  | .text => "TEXT"
  | .multilineText => "MULTILINETEXT"
  | .integer => "INTEGER"
  | .length => "LENGTH"
  | .area => "AREA"
  | .volume => "VOLUME"
  | .angle => "ANGLE"
  | .currency => "CURRENCY"
  | .massDensity => "MASS_DENSITY"
  | .url => "URL"
  | .yesNo => "YESNO"
  | .number => "NUMBER"

/-- All types. -/
def all : List ParamType :=
  [.text, .multilineText, .integer, .length, .area, .volume, .angle, .currency, .massDensity, .url,
    .yesNo, .number]

/-- The type with a name, spelled exactly. -/
def ofName? (s : String) : Option ParamType :=
  all.find? (·.name == s)

/-- A type, read from its name. -/
def read : Json → Checked ParamType
  | .str s =>
    match ofName? s with
    | some t => .ok t
    | none => .problem .choice
  | _ => .problem .choice

@[simp] theorem ofName?_name (t : ParamType) : ofName? t.name = some t := by
  cases t <;> decide

end ParamType

/-- A shared parameter. -/
structure Parameter where
  name : String
  /-- The identifier in its written form, assigned when the parameter is merged. -/
  guid : Option String := none
  paramType : ParamType
  description : String := ""
  dataCategory : String := ""
  groupId : Int := 2
  visible : Bool := true
  userModifiable : Bool := true
  /-- The property set from which the parameter was made. -/
  owningSet : Option String := none
deriving DecidableEq, Repr

namespace Parameter

/-- A parameter as JSON. -/
def json (p : Parameter) : Json :=
  .obj [("name", .str p.name), ("guid", .text? p.guid), ("param_type", .str p.paramType.name),
    ("description", .str p.description), ("data_category", .str p.dataCategory),
    ("group_id", .int p.groupId), ("visible", .bool p.visible),
    ("user_modifiable", .bool p.userModifiable), ("owning_pset", .text? p.owningSet)]

/-- A parameter, read. -/
def read : Json → Checked Parameter :=
  readRecord fun fields =>
    Parameter.mk <$> .required "name" readText fields
      <*> .optional "guid" none (readNullable readText) fields
      <*> .required "param_type" ParamType.read fields
      <*> .optional "description" "" readText fields
      <*> .optional "data_category" "" readText fields
      <*> .optional "group_id" 2 readWholeNumber fields
      <*> .optional "visible" true readFlag fields
      <*> .optional "user_modifiable" true readFlag fields
      <*> .optional "owning_pset" none (readNullable readText) fields

end Parameter

end PsetCompiler
