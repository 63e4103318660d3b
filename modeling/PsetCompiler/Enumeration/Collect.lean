import PsetCompiler.Catalog
import PsetCompiler.Report
import PsetCompiler.Source.Name

/-!
# Collecting enumerations

An enumeration is known by its version and its name. The first one met under a key is emitted; later
ones are counted, and reported when their items differ.

## Main definitions

* `EnumUse` — an enumerated property with the version under which it is filed.
* `PropertySet.leafProperties` — the properties in which enumerations are looked for.
* `Catalog.enumUses` — the enumerated leaves of a catalog in order.
* `registerEnum` — an enumeration recorded under its key.
* `Collection`, `collectEnums` — the enumerations of each version, and how many were met again.
-/

namespace PsetCompiler

/-- An enumerated property with the version under which it is filed. -/
structure EnumUse where
  version : String
  name : String
  values : List String
deriving DecidableEq, Repr

/-- The enumerations that are recorded, under their keys. -/
abbrev EmittedEnums := List (String × List String)

/-- The enumeration of a property, if it is an enumerated one. -/
def Property.enumUse? (version : String) (p : Property) : Option EnumUse :=
  match p.valueType with
  | some (.enumerated name items) => some { version, name, values := items.map (·.value) }
  | _ => none

/-- The properties of a definition with the members of complex ones in their place. -/
def PropertySet.leafProperties (pset : PropertySet) : List Property :=
  pset.properties.flatMap fun p => if p.isComplex then p.members else [p]

/-- The enumerated leaves of a catalog, in order. -/
def Catalog.enumUses (catalog : Catalog) : List EnumUse :=
  catalog.entries.flatMap fun entry =>
    entry.definition.leafProperties.filterMap fun p =>
      p.enumUse? (entry.definition.emitVersion entry.release)

/-- The key of an enumeration. -/
def EnumUse.key (e : EnumUse) : String :=
  e.version ++ "." ++ e.name

/-- An enumeration that can be emitted: it has a name and items. -/
def EnumUse.isEligible (e : EnumUse) : Bool :=
  e.name ≠ "" && !e.values.isEmpty

/-- An enumeration recorded under its key, unless it cannot be emitted or the key is taken. -/
def registerEnum (emitted : EmittedEnums) (e : EnumUse) : Report (Bool × EmittedEnums) :=
  if e.isEligible then
    match emitted.lookup e.key with
    | some kept => do
      if kept ≠ e.values then
        report (.clashingEnum e.key kept)
      return (false, emitted)
    | none => return (true, emitted ++ [(e.key, e.values)])
  else
    return (false, emitted)

/-- The enumerations of each version in the order in which they were met. -/
structure Collection where
  emitted : EmittedEnums := []
  byVersion : List (String × List (String × List String)) := []
  /-- How many were met again. -/
  duplicates : Nat := 0
deriving DecidableEq, Repr

/-- One more enumeration under its version. -/
def fileUnder (version : String) (enumeration : String × List String) :
    List (String × List (String × List String)) → List (String × List (String × List String))
  | [] => [(version, [enumeration])]
  | (key, found) :: rest =>
    if key = version then (key, found ++ [enumeration]) :: rest
    else (key, found) :: fileUnder version enumeration rest

/-- One more enumerated leaf. -/
def Collection.add (c : Collection) (e : EnumUse) : Report Collection := do
  let (isNew, emitted) ← registerEnum c.emitted e
  if isNew then
    return { c with emitted, byVersion := fileUnder e.version (e.name, e.values) c.byVersion }
  else if e.isEligible then
    return { c with emitted, duplicates := c.duplicates + 1 }
  else
    return { c with emitted }

/-- The enumerations of a catalog, given those that are recorded already. -/
def collectEnums (emitted : EmittedEnums) (catalog : Catalog) : Report Collection :=
  catalog.enumUses.foldlM Collection.add { emitted }

end PsetCompiler
