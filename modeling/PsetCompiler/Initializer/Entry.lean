import PsetCompiler.Catalog
import PsetCompiler.Parameter.Inference
import PsetCompiler.Source.Name

/-!
# Entries of the initializer

Each property set becomes a method of the generated initializer. Every definition of the set whose
version can be exported becomes a block of that method, with the entities to which it applies and an
entry for every leaf property.

## Main definitions

* `InitEntry`, `InitBlock`, `InitMethod` — what the initializer is made of.
* `shortTypeName`, `languageType` — data types and languages as the host application names them.
* `buildEntry`, `buildEntries` — the entry of a leaf, and the entries of a property.
* `buildVersionBlock` — the block of a definition, if its version can be exported.
* `buildInitMethods` — the methods of a catalog.
-/

namespace PsetCompiler

/-- A localized name under the host's name of the language. -/
structure LocalizedName where
  language : String
  text : String
deriving DecidableEq, Repr

/-- An entry of a block. -/
structure InitEntry where
  entryClass : String
  typeEnum : String
  paramName : String
  propertyName : String
  propertyType : String
  valueType : Option String := none
  argumentType : Option String := none
  enumType : Option String := none
  localizedNames : List LocalizedName := []
  calculator : String := ""
deriving DecidableEq, Repr

/-- The part of a method for one version. -/
structure InitBlock where
  version : String
  exportFlag : String
  entityTypes : List String := []
  entries : List InitEntry := []
deriving DecidableEq, Repr

/-- The method of a property set. -/
structure InitMethod where
  name : String
  methodName : String
  variableName : String
  allowCheck : String
  blocks : List InitBlock := []
deriving DecidableEq, Repr

/-- The export options of the versions that have one. -/
def exportFlags : List (String × String) :=
  [("IFC2X2", "ExportAs2x2"), ("IFC2X3", "ExportAs2x3"), ("IFC4", "ExportAs4"),
    ("IFC4_ADD1", "ExportAs4_ADD1"), ("IFC4_ADD2", "ExportAs4_ADD2"), ("IFC4X3", "ExportAs4x3")]

/-- The host's names of languages, by folded language code. -/
def languageTypes : List (String × String) :=
  [("en", "English_USA"), ("en-us", "English_USA"), ("ja", "Japanese"), ("ja-jp", "Japanese"),
    ("ko", "Korean"), ("ko-kr", "Korean"), ("zh-cn", "Chinese_Simplified"),
    ("zh-sg", "Chinese_Simplified"), ("zh-hk", "Chinese_Simplified"),
    ("zh-tw", "Chinese_Traditional"), ("fr", "French"), ("fr-fr", "French"), ("de", "German"),
    ("de-de", "German"), ("es", "Spanish"), ("it", "Italian"), ("nl", "Dutch"), ("ru", "Russian"),
    ("cs", "Czech"), ("pl", "Polish"), ("hu", "Hungarian"), ("pt-br", "Brazilian_Portuguese")]

/-- The class that stands in for a class without a name. -/
def proxyEntity : String := "IfcBuildingElementProxy"

/-- The folded name of a set begins with a folded text. -/
def foldedStart (start name : String) : Bool :=
  Text.startsWith start (Text.foldCase name)

/-- The class of entries and the enumeration of their types: for common sets, predefined sets and
quantities. -/
def entryClassFor (set : String) : String × String :=
  if foldedStart "pset" set then ("PropertySetEntry", "PropertyType")
  else if foldedStart "ifc" set then ("PreDefinedPropertySetEntry", "PropertyType")
  else ("QuantityEntry", "QuantityType")

/-- The host's name of a data type: without `Ifc` and `Measure`, and `Label` when nothing is left.
-/
def shortTypeName (dataType : Option String) : String :=
  match dataType with
  | none => "Label"
  | some dataType =>
    if dataType = "" ∨ Text.foldCase (Text.strip dataType) = "ifcvalue" then "Label"
    else
      let name := Text.strip (Text.replaceAll "Measure" "" (Text.replaceAll "Ifc" "" dataType))
      if Text.foldCase name = "string" then "Text"
      else if name = "" then "Label"
      else name

/-- The host's name of a language. -/
def languageType (language : String) : String :=
  (languageTypes.lookup (Text.foldCase (Text.strip language))).getD "Unknown"

/-- Localized names under the host's names of the languages. -/
def localizedNames (aliases : List Alias) : List LocalizedName :=
  aliases.map fun a => { language := languageType a.language, text := a.text }

/-- The enumeration of a version inside a namespace, which may be empty. -/
def enumReference (space version name : String) : String :=
  (if space = "" then "" else space ++ ".") ++ version ++ "." ++ sourceName name

/-- The entry of a leaf under the name of the property that holds it, which may be empty. -/
def buildEntry (pset : PropertySet) (p : Property) (version : String) (parent : String := "")
    (enumSpace : String := "") : Attempt InitEntry := do
  let (entryClass, typeEnum) := entryClassFor pset.name
  let propertyName := if parent = "" then p.name else parent ++ "." ++ p.name
  let entry : InitEntry :=
    { entryClass, typeEnum, propertyName, paramName := pset.name ++ "." ++ propertyName
      propertyType := "Label", localizedNames := localizedNames p.aliases
      calculator := p.name ++ "Calculator" }
  match p.valueType with
  | none => do
    let dataType ← inferDataType p.name (pset.name ++ "(" ++ version ++ ")." ++ propertyName)
    return { entry with propertyType := shortTypeName (some dataType) }
  | some (.single dataType) => return { entry with propertyType := shortTypeName (some dataType) }
  | some (.enumerated name _) =>
    return { entry with
      valueType := some "EnumeratedValue", enumType := some (enumReference enumSpace version name) }
  | some (.reference entity) =>
    return { entry with propertyType := Text.strip entity, valueType := some "ReferenceValue" }
  | some (.list dataType) =>
    return { entry with
      propertyType := shortTypeName (some dataType), valueType := some "ListValue" }
  | some (.bounded dataType) =>
    return { entry with
      propertyType := shortTypeName (some dataType), valueType := some "BoundedValue" }
  | some (.table defining defined _) =>
    return { entry with
      argumentType := some (shortTypeName defining), propertyType := shortTypeName defined
      valueType := some "TableValue" }
  | some (.complex _ _) => throw (.complexEntry (pset.name ++ "." ++ propertyName))

/-- The entries of a property: those of its members under its name if it is complex, else its own. -/
def buildEntries (pset : PropertySet) (version enumSpace : String) (p : Property) :
    Attempt (List InitEntry) :=
  if p.isComplex then p.members.mapM fun m => buildEntry pset m version p.name enumSpace
  else do
    let entry ← buildEntry pset p version "" enumSpace
    return [entry]

/-- The block of a definition, if its version can be exported; else a report. -/
def buildVersionBlock (pset : PropertySet) (release : String) (enumSpace : String := "") :
    Attempt (Option InitBlock) :=
  let version := pset.emitVersion release
  match exportFlags.lookup version with
  | none => do
    report (.unknownVersion pset.name version)
    return none
  | some exportFlag => do
    let entries ← pset.properties.mapM (buildEntries pset version enumSpace)
    return some
      { version, exportFlag, entries := entries.flatten
        entityTypes := pset.applicableClasses.map fun name =>
          if name = "" then proxyEntity else name }

/-- The method of a set without its blocks. -/
def emptyMethod (name : String) : InitMethod :=
  { name
    methodName := "Init" ++ sourceName name
    variableName := Text.replaceAll "Pset_" "propertySet" (sourceName name)
    allowCheck :=
      if foldedStart "ifc" name then "AllowPredefPsetToBeCreated" else "AllowPsetToBeCreated" }

/-- The method of a set, if one of its definitions can be exported; else a report. -/
def buildInitMethod (enumSpace : String) (name : String) (definitions : List VersionedSet) :
    Attempt (Option InitMethod) := do
  let blocks ← definitions.mapM fun entry =>
    buildVersionBlock entry.definition entry.release enumSpace
  let blocks := blocks.filterMap id
  if blocks.isEmpty then do
    report (.nothingExported name)
    return none
  else
    return some { emptyMethod name with blocks }

/-- The methods of a catalog, in order of set name. -/
def buildInitMethods (catalog : Catalog) (enumSpace : String := "") :
    Attempt (List InitMethod) := do
  let methods ← catalog.sorted.mapM fun (name, definitions) =>
    buildInitMethod enumSpace name definitions
  return methods.filterMap id

end PsetCompiler
