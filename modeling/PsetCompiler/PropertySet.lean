import PsetCompiler.Property

/-!
# Property set definitions

A property set names the entity classes to which it applies and lists its properties. It belongs to
a version, and to the schema release in whose folder it was found.

## Main definitions

* `PropertySet` — a definition.
* `PropertySet.qualifiedNames` — the names of its properties behind its own name.
* `PropertySet.json`, `PropertySet.read` — a definition as JSON, and read from it.
-/

namespace PsetCompiler

/-- A property set definition. -/
structure PropertySet where
  name : String
  /-- The normalized version, such as `IFC2X3` or `IFC4_ADD2`. -/
  version : String
  /-- The schema release for which the definition was read. -/
  release : String
  applicableClasses : List String := []
  applicableType : Option String := none
  predefinedType : Option String := none
  ifdGuid : Option String := none
  properties : List Property := []

namespace PropertySet

/-- The names of all leaves behind the name of the set: the parts are joined by points, and members
of complex properties stand in the place of these. -/
def qualifiedNames (pset : PropertySet) : List String :=
  pset.properties.flatMap fun p =>
    if p.isComplex then p.members.map fun m => pset.name ++ "." ++ p.name ++ "." ++ m.name
    else [pset.name ++ "." ++ p.name]

/-- A definition as JSON. -/
def json (pset : PropertySet) : Json :=
  .obj [("name", .str pset.name), ("ifc_version", .str pset.version),
    ("schema_file_version", .str pset.release),
    ("applicable_classes", .texts pset.applicableClasses),
    ("applicable_type_value", .text? pset.applicableType),
    ("predefined_type", .text? pset.predefinedType), ("ifd_guid", .text? pset.ifdGuid),
    ("properties", .arr (membersJson pset.properties))]

/-- A definition, read. -/
def read : Json → Checked PropertySet :=
  readRecord fun fields =>
    let optionalText (key : String) : Checked (Option String) :=
      .optional key none (readNullable readText) fields
    PropertySet.mk <$> .required "name" readText fields
      <*> .required "ifc_version" readText fields
      <*> .required "schema_file_version" readText fields
      <*> .optional "applicable_classes" [] (readList readText) fields
      <*> optionalText "applicable_type_value"
      <*> optionalText "predefined_type"
      <*> optionalText "ifd_guid"
      <*> .optional "properties" [] (readList Property.read) fields

end PropertySet

end PsetCompiler
