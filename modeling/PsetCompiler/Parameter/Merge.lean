import PsetCompiler.Catalog
import PsetCompiler.Parameter.Classify

/-!
# Merging parameters

Two tables hold the parameters of a run: one for instances and, under names with a suffix, one for
types. A new name takes the identifier that its property carries, or else a fresh one. A name that
is there keeps its identifier unless its property carries one; everything else of it is replaced.
A parameter of a type cannot share the identifier of its instance, so it takes one derived from it.

## Main definitions

* `ParameterTable`, `Supply`, `Ledger` — the tables and the source of fresh identifiers.
* `typeParameterName`, `typeGuid` — the name and the identifier of the parameter of a type.
* `mergeParameter` — a parameter merged into one table.
* `mergeBoth` — a parameter merged into both tables.
* `mergeCatalog` — every property of a catalog merged.
-/

namespace PsetCompiler

/-- Parameters under their names, in the order in which the names came in. -/
abbrev ParameterTable := List (String × Parameter)

/-- A source of fresh identifiers, and how many were drawn from it. -/
structure Supply where
  fresh : Nat → Guid
  drawn : Nat := 0

/-- The next identifier of a source. -/
def Supply.draw (supply : Supply) : Guid × Supply :=
  (supply.fresh supply.drawn, { supply with drawn := supply.drawn + 1 })

/-- The tables of a run and its source of fresh identifiers. -/
structure Ledger where
  instances : ParameterTable := []
  types : ParameterTable := []
  supply : Supply

/-- What the name of a parameter of a type ends with. -/
def typeSuffix : String := "[Type]"

/-- The name of the parameter of a type. -/
def typeParameterName (name : String) : String :=
  if Text.endsWith typeSuffix name then name else name ++ typeSuffix

/-- The identifier of the parameter of a type, from the one that its property carries. -/
def typeGuid (ifdGuid : String) : Except Failure String :=
  match Guid.read ifdGuid with
  | .ok guid => .ok (guid.derive typeSuffix).text
  | .error e => .error (.guid e)

/-- An identifier that a property carries; the empty text is none. -/
def carried (guid : Option String) : Option String :=
  guid.filter (· ≠ "")

/-- A parameter merged into a table: the entry, the table, and the source after it. -/
def mergeParameter (table : ParameterTable) (p : Parameter) (external : Option String)
    (supply : Supply) : Report (Parameter × ParameterTable × Supply) :=
  let put (guid : Option String) (supply : Supply) : Parameter × ParameterTable × Supply :=
    let entry := { p with guid }
    (entry, insertEntry table p.name entry, supply)
  match carried external, table.lookup p.name with
  | some guid, some existing => do
    if existing.guid ≠ some guid then
      report (.adoptedGuid p.name guid existing.guid)
    return put (some guid) supply
  | some guid, none => return put (some guid) supply
  | none, some existing => return put existing.guid supply
  | none, none =>
    let (guid, supply) := supply.draw
    return put (some guid.text) supply

/-- A parameter merged into the table of instances. -/
def mergeInstance (p : Parameter) (external : Option String) : Run Ledger Parameter := do
  let ledger ← get
  let (entry, instances, supply) ← mergeParameter ledger.instances p external ledger.supply
  set { ledger with instances, supply }
  return entry

/-- A parameter merged into the table of types. -/
def mergeType (p : Parameter) (external : Option String) : Run Ledger Parameter := do
  let ledger ← get
  let (entry, types, supply) ← mergeParameter ledger.types p external ledger.supply
  set { ledger with types, supply }
  return entry

/-- A parameter merged into both tables: the entries of the instance and of the type. -/
def mergeBoth (p : Parameter) (ifdGuid : Option String := none) :
    Run Ledger (Parameter × Parameter) := do
  let entry ← mergeInstance p ifdGuid
  let external ←
    match carried ifdGuid with
    | some guid => some <$> Run.ofExcept (typeGuid guid)
    | none => pure none
  let typeEntry ←
    mergeType { entry with name := typeParameterName entry.name, guid := none } external
  return (entry, typeEntry)

/-- The properties of a catalog that become parameters: the set, the name and the property. -/
def Catalog.occurrences (catalog : Catalog) (qualified : Bool) :
    List (String × String × Property) :=
  catalog.entries.flatMap fun entry =>
    (entry.definition.parameterNames qualified).map fun (name, p) =>
      (entry.definition.name, name, p)

/-- One property merged into both tables. -/
def mergeOccurrence (groupId : Int) (occurrence : String × String × Property) :
    Run Ledger Unit := do
  let (set, name, p) := occurrence
  let parameter ← (buildParameter name p set groupId).onState
  let _ ← mergeBoth parameter p.ifdGuid

/-- Every property of a catalog merged; the number of them. -/
def mergeCatalog (catalog : Catalog) (qualified : Bool := false) (groupId : Int := 2) :
    Run Ledger Nat := do
  let occurrences := catalog.occurrences qualified
  occurrences.forM (mergeOccurrence groupId)
  return occurrences.length

end PsetCompiler
