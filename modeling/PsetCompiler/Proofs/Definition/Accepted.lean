import PsetCompiler.Applicability.Resolve
import PsetCompiler.Proofs.Definition.Set
import PsetCompiler.Proofs.Entity.Query
import PsetCompiler.Proofs.Guid
import PsetCompiler.Proofs.Initializer.Entry
import PsetCompiler.Proofs.Parameter.Identified

/-!
# What is read is accepted

The later stages refuse what they cannot handle: a complex property where a leaf is expected, an
identifier that spells none, a parameter without an identifier.  None of this is ever met in a
catalog of definitions, since reading leaves nothing of the kind: members of complex properties are
not complex, and identifiers are in their written form, so they can be read back and another one can
be derived from them.  Parameters without an identifier come from nowhere else but the tables that
a merge starts from, and groups with too many digits only from there or from the settings.

The stage that resolves applicability looks entities up by the names that it found in the forest,
and it finds them all.

## Main definitions

* `Products`, `laterStages` — the later stages on one catalog, and what they make of it.

## Main results

* `Catalog.isFlat_ofList`, `Catalog.hasReadableGuids_ofList` — catalogs of definitions can be
  merged.
* `laterStages_accept` — **the later stages accept every catalog of definitions.**
-/

namespace PsetCompiler

namespace Catalog

variable {definitions : List (String × PropertySet)}

theorem isFlat_ofList (h : ∀ d ∈ definitions, d.2.IsAdmitted) : (ofList definitions).IsFlat := by
  intro entry hentry p hp m hm
  have hnormal := (h _ (mem_entries_ofList.mp hentry)).isNormal
  exact ((hnormal p hp).2 m hm).2

/-- An identifier in the written form can be read. -/
theorem hasReadableGuids_ofList (h : ∀ d ∈ definitions, d.2.IsAdmitted) :
    (ofList definitions).HasReadableGuids := by
  intro entry hentry leaf hleaf text htext
  have hcarried : leaf.2.ifdGuid = some text := (Option.filter_eq_some_iff.mp htext).1
  obtain ⟨g, rfl⟩ := (leaf_ofList h hentry hleaf).1.guid text hcarried
  rw [Guid.read?_text]
  rfl

end Catalog

/-! ### The later stages -/

/-- What the later stages make of a catalog. -/
structure Products where
  /-- How many parameters were merged. -/
  merged : Nat
  enumerations : Collection
  methods : List InitMethod
  applicability : VersionApplicability

/-- The later stages on a catalog: its parameters are merged into the tables, its enumerations are
collected, its initializer is built, and it is resolved what applies to the entities of a forest. -/
def laterStages (catalog : Catalog) (qualified : Bool) (groupId : Int) (emitted : EmittedEnums)
    (space : String) (forest : Forest) (psets : List PropertySet) : Run Ledger Products := do
  let merged ← mergeCatalog catalog qualified groupId
  let enumerations ← collectEnums emitted catalog
  let methods ← (buildInitMethods catalog space).onState
  let applicability ← versionApplicability forest psets
  return { merged, enumerations, methods, applicability }

/-- On a catalog that can be merged the later stages run to their end. -/
theorem exists_outcome_laterStages {catalog : Catalog} (hflat : catalog.IsFlat)
    (hguids : catalog.HasReadableGuids) (qualified : Bool) (groupId : Int) (emitted : EmittedEnums)
    (space : String) (forest : Forest) (psets : List PropertySet) (ledger : Ledger) :
    ∃ methods,
      (laterStages catalog qualified groupId emitted space forest psets).outcome ledger =
        (.ok { merged := (catalog.occurrences qualified).length
               enumerations := (collectEnums emitted catalog).value
               methods
               applicability := (versionApplicability forest psets).value },
          ledger.postAll (catalog.postings qualified groupId)) := by
  obtain ⟨methods, hmethods, -⟩ := exists_buildInitMethods hflat space
  have hinitializer (s : Ledger) :
      (Attempt.onState (buildInitMethods catalog space)).outcome s = (.ok methods, s) := by
    rw [Run.outcome_onState, hmethods]
  refine ⟨methods, ?_⟩
  rw [laterStages,
    Run.outcome_bind_ok (outcome_mergeCatalog hflat hguids qualified groupId ledger),
    Run.outcome_bind_ok (Run.outcome_liftM _ _), Run.outcome_bind_ok (hinitializer _),
    Run.outcome_bind_ok (Run.outcome_liftM _ _)]
  rfl

/-- **The later stages accept every catalog of definitions.**  Let definitions be read or predefined
and added to a catalog in any order, for any releases.  All later stages run to their end, with any
settings and for every forest that declarations make, and every leaf has been merged then.  If
everything in the tables had an identifier before, everything has one afterwards; and if the groups
had not too many digits, every parameter in the tables has a row.  All entities that are looked up
by a name in a branch are found on the way. -/
theorem laterStages_accept {definitions : List (String × PropertySet)}
    (hadmitted : ∀ d ∈ definitions, d.2.IsAdmitted) {ledger : Ledger}
    (hledger : ledger.IsIdentified) (qualified : Bool) (groupId : Int) (emitted : EmittedEnums)
    (space version : String) (enums : List (String × List String)) (records : List EntityRecord)
    (psets : List PropertySet) :
    let catalog := Catalog.ofList definitions
    let forest := (Forest.addRecords { version, predefinedTypeEnums := enums } records).value
    ∃ products after,
      (laterStages catalog qualified groupId emitted space forest psets).outcome ledger =
          (.ok products, after) ∧
        products.merged = (catalog.occurrences qualified).length ∧
        after.IsIdentified ∧
        (ledger.IsWritable → Text.IsWritable groupId →
          ∀ side, ∀ entry ∈ after.table side, ∃ row, formatRow entry.2 = .ok row) ∧
        ∀ root, ∀ name ∈ forest.branch root, (forest.find? name).isSome := by
  intro catalog forest
  have hforest : forest.WellFormed := (Forest.wellFormed_empty version enums).addRecords records
  have hafter : (ledger.postAll (catalog.postings qualified groupId)).IsIdentified :=
    hledger.postAll Catalog.given_postings_ne_empty
  obtain ⟨methods, houtcome⟩ := exists_outcome_laterStages (Catalog.isFlat_ofList hadmitted)
    (Catalog.hasReadableGuids_ofList hadmitted) qualified groupId emitted space forest psets ledger
  refine ⟨_, _, houtcome, rfl, hafter, ?_, ?_⟩
  · intro hwritable hgroup side entry hentry
    have hgroups : ∀ p ∈ catalog.postings qualified groupId, Text.IsWritable p.parameter.groupId :=
      fun p hp => Catalog.groupId_of_mem_postings p hp ▸ hgroup
    exact exists_formatRow_iff.mpr
      (hwritable.postAll Catalog.given_postings_ne_empty hgroups side entry hentry)
  · intro root name hname
    obtain ⟨key, e, he, rfl⟩ := hforest.exists_entity_of_mem_branch hname
    rw [hforest.find?_name he]
    rfl

/-- A table with one parameter. -/
def seededLedger : Ledger where
  instances := [("Status", { name := "Status", guid := some "given", paramType := .text })]
  supply := { fresh := Guid.ofNat }

theorem laterStages_accept_condition :
    (∀ d ∈ ("IFC2X3", conditionSet) :: (predefinedSets "IFC4").map fun pset => ("IFC4", pset),
        d.2.IsAdmitted) ∧
      seededLedger.IsWritable ∧
      ∃ products after,
        (laterStages (Catalog.ofList
            (("IFC2X3", conditionSet) :: (predefinedSets "IFC4").map fun pset => ("IFC4", pset)))
          true 2 [] "" (Forest.addRecords { version := "IFC4", predefinedTypeEnums := [] }
            [{ name := "IfcDoor", parent := some "IfcProduct" }]).value
          [conditionSet]).outcome seededLedger = (.ok products, after) ∧
        ∀ side, ∀ entry ∈ after.table side, ∃ row, formatRow entry.2 = .ok row := by
  have hadmitted : ∀ d ∈ ("IFC2X3", conditionSet) ::
      (predefinedSets "IFC4").map fun pset => ("IFC4", pset), d.2.IsAdmitted := by
    rw [List.forall_mem_cons]
    refine ⟨.read value_readSet_condition, fun d hd => ?_⟩
    obtain ⟨pset, hpset, rfl⟩ := List.mem_map.mp hd
    exact .predefined hpset
  have hledger : seededLedger.IsWritable := by
    intro side entry hentry
    cases side with
    | instances =>
      obtain rfl := List.mem_singleton.mp hentry
      exact { identified := ⟨"given", rfl, by decide⟩
              group := Text.isWritable_of_lt (by decide) }
    | types => cases hentry
  obtain ⟨products, after, hrun, -, -, hrows, -⟩ := laterStages_accept hadmitted
    hledger.isIdentified true 2 [] "" "IFC4" [] [{ name := "IfcDoor", parent := some "IfcProduct" }]
    [conditionSet]
  exact ⟨hadmitted, hledger, products, after, hrun,
    hrows hledger (Text.isWritable_of_lt (by decide))⟩

end PsetCompiler
