import PsetCompiler.Entity.Forest
import PsetCompiler.Markup.Document

/-!
# Schema files

A schema file declares its entities as complex types that extend or restrict one another, and its
enumerations as simple types. Everything else in it is passed over.

## Main definitions

* `schemaEntity?` — the entity that a complex type declares.
* `schemaEnumerations` — the enumerations of a schema and their values.
* `readSchema`, `readSchemaFile` — the forest of a schema.
-/

namespace PsetCompiler

open Markup (Element Found)

/-- The attribute that tells the predefined type of an entity. -/
def predefinedTypeName : String := "PredefinedType"

/-- The type that an element declares, if it declares a predefined type. -/
def predefinedTypeOf? (declaration : Element) : Option String :=
  if declaration.attribute? "name" = some predefinedTypeName then
    (declaration.filledAttribute? "type").map Markup.localPart
  else none

/-- The type of the first declaration of a predefined type among elements of a name. -/
def predefinedTypeAmong (e : Element) (name : String) : Except Failure (Option String) :=
  ((e.descendants name).filterMapM fun declaration => return predefinedTypeOf? declaration).first?

/-- The enumeration of the predefined types of an entity, declared as an attribute or an element. -/
def declaredTypeEnum (e : Element) : Except Failure (Option String) := do
  match ← predefinedTypeAmong e "attribute" with
  | some found => return some found
  | none => predefinedTypeAmong e "element"

/-- The first of two kinds of children. -/
def eitherChild? (e : Element) (first second : String) : Except Failure (Option Element) := do
  match ← e.child? first with
  | some child => return some child
  | none => e.child? second

/-- The element by which a complex type extends or restricts another type. -/
def extension? (e : Element) : Except Failure (Option Element) := do
  match ← eitherChild? e "complexContent" "simpleContent" with
  | some content => eitherChild? content "extension" "restriction"
  | none => return none

/-- The entity that a complex type declares: its name is that of an entity, and it extends or
restricts another type. -/
def schemaEntity? (e : Element) : Except Failure (Option EntityRecord) := do
  let name := (e.attribute? "name").getD ""
  if !isEntityName name then return none
  let some extension ← extension? e | return none
  return some { name, parent := (extension.attribute? "base").map Markup.localPart
                isAbstract := Text.asciiLower ((e.attribute? "abstract").getD "false") == "true"
                predefinedTypeEnum := ← declaredTypeEnum extension }

/-- The name is that of an enumeration of entities. -/
def isEnumerationName (name : String) : Bool :=
  isEntityName name && Text.endsWith "Enum" name

/-- The enumeration that a simple type declares, with its values in capitals. -/
def schemaEnumeration? (e : Element) : Except Failure (Option (String × List String)) := do
  let name := (e.attribute? "name").getD ""
  if !isEnumerationName name then return none
  let some restriction ← e.child? "restriction" | return none
  let values := (← (restriction.children "enumeration").all).filterMap (·.filledAttribute? "value")
  return some (name, values.map Text.upper)

/-- The enumerations of a schema; of two of one name the later one counts. -/
def schemaEnumerations (root : Element) : Except Failure (List (String × List String)) :=
  return (← ((root.children "simpleType").filterMapM schemaEnumeration?).all).foldl
    (fun found (name, values) => insertEntry found name values) []

/-- The forest of a schema that was read from a file. A search that ends early still adds what it
has found. -/
def readSchema (root : Element) (file : String) (version : String) : Attempt Forest := do
  let records := (root.children "complexType").filterMapM schemaEntity?
  let forest ← Forest.ofRecords (Text.upper version) records.values []
  let _ ← records.all
  let forest := { forest with predefinedTypeEnums := ← schemaEnumerations root }
  report (.schemaRead file forest.size forest.predefinedTypeEnums.length)
  return forest

/-- The forest of the content of a schema file. The version defaults to the name of the file without
its ending. -/
def readSchemaFile (content : Text.Bytes) (file : String) (version : Option String := none) :
    Attempt Forest := do
  let root ← liftM (Markup.parseDocument content)
  readSchema root file ((version.filter (· ≠ "")).getD (Path.stemOf file))

end PsetCompiler
