import PsetCompiler.Entity.Query
import PsetCompiler.PropertySet

/-!
# Applicability

Which property sets apply to which entities. A set applies to its classes. An entity of instances
and its entity of types, named alike but for an ending, share their sets. A concrete entity below
one of the roots also has the sets of its ancestors, up to and including that root.

## Main definitions

* `pairedEntity` — the other entity of a pair.
* `directApplicability` — the sets of the classes and their pairs.
* `resolveApplicability` — the sets of every concrete entity below the roots.
* `versionApplicability` — the report of one schema version.
-/

namespace PsetCompiler

/-- The names of property sets, under the names of entities. -/
abbrev Applicability := List (String × List String)

/-- The entities at which inheritance of sets ends. -/
def stopRoots : List String := ["IfcProduct", "IfcTypeProduct", "IfcGroup"]

/-- What the names of entities of types end with. -/
def typeEnding : String := "Type"

/-- A name with the ending of types put on, or taken off if it is there. -/
def pairedName (name : String) : String :=
  if Text.endsWith typeEnding name then
    String.ofList (name.toList.take (name.toList.length - typeEnding.toList.length))
  else
    name ++ typeEnding

/-- The other entity of a pair, if the schema has it. -/
def pairedEntity (forest : Forest) (name : String) : Option String :=
  (forest.find? (pairedName name)).map (·.name)

/-- One more set under an entity; a set is listed once. -/
def Applicability.attach (applicability : Applicability) (entity set : String) : Applicability :=
  let sets := (applicability.lookup entity).getD []
  insertEntry applicability entity (if sets.contains set then sets else sets ++ [set])

/-- A set attached to one of its classes, and to the pair of that class. -/
def attachClass (forest : Forest) (set : String) (applicability : Applicability) (name : String) :
    Report Applicability :=
  match forest.find? name with
  | none => do
    report (.unknownClass set name forest.version)
    return applicability.attach name set
  | some e =>
    let applicability := applicability.attach e.name set
    match pairedEntity forest e.name with
    | some pair => return applicability.attach pair set
    | none => return applicability

/-- The sets of the classes and their pairs. -/
def directApplicability (forest : Forest) (psets : List PropertySet) : Report Applicability :=
  psets.foldlM
    (fun applicability pset =>
      pset.applicableClasses.foldlM (attachClass forest pset.name) applicability) []

/-- The sets of an entity and of its ancestors up to the nearest root. -/
def setsFor (forest : Forest) (direct : Applicability) (name : String) : List String :=
  ((name :: forest.supertypes name stopRoots).flatMap fun entity =>
    (direct.lookup entity).getD []).eraseDups

/-- The concrete entities below the roots, each once, in the order in which they are met. -/
def concreteEntities (forest : Forest) : List String :=
  ((stopRoots.flatMap forest.branch).filter fun name =>
    !((forest.find? name).map (·.isAbstract)).getD false).eraseDups

/-- The sets of every concrete entity below the roots. -/
def resolveApplicability (forest : Forest) (psets : List PropertySet) : Report Applicability := do
  let direct ← directApplicability forest psets
  return (concreteEntities forest).map fun name => (name, setsFor forest direct name)

/-! ### The report of a version -/

/-- What applies to an entity. -/
structure EntityApplicability where
  name : String
  predefinedTypes : List String := []
  psets : List String := []
  /-- The sets that are restricted to one predefined type. -/
  predefinedTypePsets : List (String × List String) := []
deriving DecidableEq, Repr

/-- A property set in short. -/
structure SetSummary where
  name : String
  applicableClasses : List String := []
  predefinedType : Option String := none
  properties : List String := []
deriving DecidableEq, Repr

/-- What applies in one schema version. -/
structure VersionApplicability where
  version : String
  entities : List EntityApplicability := []
  propertySets : List SetSummary := []
deriving DecidableEq, Repr

/-- The predefined type to which each restricted set is restricted, in capitals; of two sets of one
name the later one counts. -/
def restrictions (psets : List PropertySet) : List (String × String) :=
  psets.filterMap fun pset =>
    match pset.predefinedType with
    | some t => if t = "" then none else some (pset.name, Text.upper t)
    | none => none

/-- The restricted ones of some sets, under the types to which they are restricted. -/
def restrictedSets (restricted : List (String × String)) (psets : List String) :
    List (String × List String) :=
  psets.foldl
    (fun byType set =>
      match restricted.reverse.lookup set with
      | some t => Applicability.attach byType t set
      | none => byType) []

/-- What applies to an entity, from its resolved sets. -/
def entityApplicability (forest : Forest) (restricted : List (String × String))
    (entry : String × List String) : EntityApplicability :=
  let psets := Text.sortTexts entry.2
  { name := entry.1, predefinedTypes := forest.predefinedTypes entry.1, psets
    predefinedTypePsets := restrictedSets restricted psets }

/-- A property set in short. -/
def PropertySet.summary (pset : PropertySet) : SetSummary :=
  { name := pset.name, applicableClasses := pset.applicableClasses
    predefinedType := pset.predefinedType, properties := pset.qualifiedNames }

/-- What applies in one schema version. -/
def versionApplicability (forest : Forest) (psets : List PropertySet) :
    Report VersionApplicability := do
  let resolved ← resolveApplicability forest psets
  let restricted := restrictions psets
  return { version := forest.version
           entities := (Text.sortBy (·.1) resolved).map (entityApplicability forest restricted)
           propertySets := psets.map PropertySet.summary }

/-! ### As JSON -/

/-- What applies to an entity, as JSON. -/
def EntityApplicability.json (e : EntityApplicability) : Json :=
  .obj [("name", .str e.name), ("predefined_types", .texts e.predefinedTypes),
    ("psets", .texts e.psets),
    ("predefined_type_psets", .ofPairs .texts e.predefinedTypePsets)]

/-- A property set in short, as JSON. -/
def SetSummary.json (s : SetSummary) : Json :=
  .obj [("name", .str s.name), ("applicable_classes", .texts s.applicableClasses),
    ("predefined_type", .text? s.predefinedType), ("properties", .texts s.properties)]

/-- What applies in one schema version, as JSON. -/
def VersionApplicability.json (v : VersionApplicability) : Json :=
  .obj [("version", .str v.version), ("entities", .arr (v.entities.map EntityApplicability.json)),
    ("property_sets", .arr (v.propertySets.map SetSummary.json))]

end PsetCompiler
