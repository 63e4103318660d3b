import PsetCompiler.Proofs.Definition.Leaves
import PsetCompiler.Proofs.Outcome
import PsetCompiler.Proofs.Parameter.Posting

/-!
# Merging a catalog

A catalog is merged occurrence by occurrence, and each occurrence makes two postings: its parameter
to the table of instances, and the parameter under the name of the type to the table of types.  So
the ledger after a merge is the one after the postings of all occurrences, in order, and the rules
by which identifiers settle are those of postings.

Merging stops at a complex property that is held by a complex one, and at an identifier that cannot
be read as one; the statements here are about catalogs with neither.

## Main definitions

* `PropertySet.parameterName` — the name of the parameter of a leaf.
* `Property.classified`, `derivedGuid?` — what a property is classified as, and the identifier of a
  type, where there are such.
* `Occurrence.parameter`, `Occurrence.postings`, `Occurrence.asks` — what an occurrence makes.
* `Catalog.IsFlat`, `Catalog.HasReadableGuids` — the catalogs that can be merged.

## Main results

* `outcome_mergeCatalog` — merging a catalog posts what its occurrences make.
* `mergeCatalog_settles` — **the identifiers that a merge leaves.**
-/

namespace PsetCompiler

/-! ### Occurrences -/

/-- The name of the parameter of a leaf: qualified for a member of a complex property, and for
other properties as the choice says. -/
def PropertySet.parameterName (pset : PropertySet) (qualified : Bool) :
    Option String × Property → String
  | (none, p) => if qualified then pset.qualifiedName (none, p) else p.name
  | leaf => pset.qualifiedName leaf

/-- The properties that become parameters are the leaves. -/
theorem PropertySet.parameterNames_eq (pset : PropertySet) (qualified : Bool) :
    pset.parameterNames qualified =
      pset.leaves.map fun leaf => (pset.parameterName qualified leaf, leaf.2) := by
  rw [map_leaves, parameterNames]
  cases qualified <;> rfl

/-- The primitive type and the description of a property. -/
def Property.classified (p : Property) : ParamType × String :=
  (p.classify.run.value.toOption).getD (.number, "")

/-- The classification of a property that is not complex never fails, wherever it is reported. -/
theorem Property.value_classify {p : Property} (h : p.isComplex = false) (place : String) :
    (p.classify place).run.value = .ok p.classified := by
  obtain ⟨name, ifdGuid, aliases, valueType⟩ := p
  rcases valueType with _ | (_ | _ | _ | _ | _ | _ | _)
  case some.complex => simp [Property.isComplex, ValueType.isComplex] at h
  all_goals rfl

/-- The identifier of a type, if it can be derived from a text. -/
def derivedGuid? (ifdGuid : String) : Option String :=
  (typeGuid ifdGuid).toOption

/-- A property that becomes a parameter: its set, the name of the parameter, and the property. -/
abbrev Occurrence := String × String × Property

namespace Occurrence

variable (groupId : Int) (o : Occurrence)

/-- The parameter of an occurrence. -/
def parameter : Parameter :=
  { name := o.2.1
    paramType := o.2.2.classified.1
    description := o.2.2.classified.2
    groupId
    owningSet := some o.1 }

/-- The identifier that an occurrence carries. -/
def given : Option String :=
  carried o.2.2.ifdGuid

/-- What an occurrence posts: the parameter of the instance, then that of the type. -/
def postings : List Posting :=
  [{ side := .instances, parameter := o.parameter groupId, given := o.given },
    { side := .types
      parameter := { o.parameter groupId with name := typeParameterName o.2.1 }
      given := o.given.bind derivedGuid? }]

/-- What an occurrence asks for: an identifier for the instance, then one for the type. -/
def asks : List Ask :=
  [((.instances, o.2.1), o.given), ((.types, typeParameterName o.2.1), o.given.bind derivedGuid?)]

@[simp] theorem map_ask_postings : (o.postings groupId).map Posting.ask = o.asks := rfl

end Occurrence

namespace Catalog

variable (catalog : Catalog) (qualified : Bool) (groupId : Int)

/-- No complex property is held by a complex one. -/
def IsFlat : Prop :=
  ∀ entry ∈ catalog.entries, ∀ p ∈ entry.definition.properties, ∀ m ∈ p.members,
    m.isComplex = false

/-- Every identifier that a property carries can be read. -/
def HasReadableGuids : Prop :=
  ∀ entry ∈ catalog.entries, ∀ leaf ∈ entry.definition.leaves, ∀ text ∈ carried leaf.2.ifdGuid,
    (Guid.read? text).isSome

/-- What the occurrences of a catalog post. -/
def postings : List Posting :=
  (catalog.occurrences qualified).flatMap (Occurrence.postings groupId)

/-- What the occurrences of a catalog ask for. -/
def asks : List Ask :=
  (catalog.occurrences qualified).flatMap Occurrence.asks

@[simp] theorem map_ask_postings :
    (catalog.postings qualified groupId).map Posting.ask = catalog.asks qualified := by
  rw [postings, List.map_flatMap]
  rfl

variable {catalog qualified}

/-- The definitions under a single name are in order already. -/
theorem entries_singleton (name : String) (sets : List VersionedSet) :
    (⟨[(name, sets)]⟩ : Catalog).entries = sets := by
  rw [entries, sorted, Text.sortBy, List.mergeSort_singleton]
  exact List.flatMap_singleton _ _

/-- The occurrences are those of the leaves of the definitions. -/
theorem mem_occurrences_iff {o : Occurrence} :
    o ∈ catalog.occurrences qualified ↔
      ∃ entry ∈ catalog.entries, ∃ leaf ∈ entry.definition.leaves,
        (entry.definition.name, entry.definition.parameterName qualified leaf, leaf.2) = o := by
  simp only [occurrences, PropertySet.parameterNames_eq, List.map_map, List.mem_flatMap,
    List.mem_map]
  rfl

/-- In a flat catalog no leaf is complex. -/
theorem IsFlat.leaf (hflat : catalog.IsFlat) {entry : VersionedSet}
    (hentry : entry ∈ catalog.entries) {leaf : Option String × Property}
    (hleaf : leaf ∈ entry.definition.leaves) : leaf.2.isComplex = false :=
  PropertySet.isComplex_eq_false_of_mem_leaves (hflat entry hentry) leaf hleaf

theorem IsFlat.isComplex_eq_false (hflat : catalog.IsFlat) {o : Occurrence}
    (h : o ∈ catalog.occurrences qualified) : o.2.2.isComplex = false := by
  obtain ⟨entry, hentry, leaf, hleaf, rfl⟩ := mem_occurrences_iff.mp h
  exact hflat.leaf hentry hleaf

theorem HasReadableGuids.isSome_read? (hguids : catalog.HasReadableGuids) {o : Occurrence}
    (h : o ∈ catalog.occurrences qualified) {text : String} (hgiven : o.given = some text) :
    (Guid.read? text).isSome := by
  obtain ⟨entry, hentry, leaf, hleaf, rfl⟩ := mem_occurrences_iff.mp h
  exact hguids entry hentry leaf hleaf text hgiven

end Catalog

/-! ### Merging posts -/

namespace Guid

theorem text_ne_empty (g : Guid) : g.text ≠ "" := by
  intro h
  have hnil := congrArg String.toList h
  simp [text, grouped] at hnil

@[simp] theorem carried_text (g : Guid) : carried (some g.text) = some g.text :=
  Option.filter_some_pos (decide_eq_true g.text_ne_empty)

end Guid

theorem value_mergeParameter (ledger : Ledger) (side : Side) (p : Parameter)
    (external : Option String) :
    (mergeParameter (ledger.table side) p external ledger.supply).value =
      (ledger.entryFor ⟨side, p, carried external⟩,
        insertEntry (ledger.table side) p.name (ledger.entryFor ⟨side, p, carried external⟩),
        ledger.supplyAfter ⟨side, p, carried external⟩) := by
  unfold mergeParameter Ledger.entryFor Ledger.guidFor Ledger.supplyAfter
  simp only [Ledger.held?, Posting.slot]
  cases carried external with
  | none => cases (ledger.table side).lookup p.name <;> rfl
  | some guid =>
    cases (ledger.table side).lookup p.name with
    | none => rfl
    | some existing =>
      dsimp only
      split <;> rfl

theorem outcome_mergeInstance (p : Parameter) (external : Option String) (ledger : Ledger) :
    (mergeInstance p external).outcome ledger =
      (.ok (ledger.entryFor ⟨.instances, p, carried external⟩),
        ledger.post ⟨.instances, p, carried external⟩) := by
  rw [mergeInstance, Run.outcome_bind_ok (Run.outcome_get ledger),
    Run.outcome_bind_ok (Run.outcome_liftM _ ledger)]
  have h := value_mergeParameter ledger .instances p external
  rw [Ledger.table] at h
  rw [h]
  rfl

theorem outcome_mergeType (p : Parameter) (external : Option String) (ledger : Ledger) :
    (mergeType p external).outcome ledger =
      (.ok (ledger.entryFor ⟨.types, p, carried external⟩),
        ledger.post ⟨.types, p, carried external⟩) := by
  rw [mergeType, Run.outcome_bind_ok (Run.outcome_get ledger),
    Run.outcome_bind_ok (Run.outcome_liftM _ ledger)]
  have h := value_mergeParameter ledger .types p external
  rw [Ledger.table] at h
  rw [h]
  rfl

theorem typeGuid_eq_ok {text : String} {g : Guid} (h : Guid.read? text = some g) :
    typeGuid text = .ok (g.derive typeSuffix).text := by
  unfold Guid.read? at h
  unfold typeGuid
  cases hread : Guid.read text with
  | error e => rw [hread] at h; cases h
  | ok g' =>
    rw [hread] at h
    cases h
    rfl

theorem derivedGuid?_eq_some {text : String} {g : Guid} (h : Guid.read? text = some g) :
    derivedGuid? text = some (g.derive typeSuffix).text := by
  rw [derivedGuid?, typeGuid_eq_ok h]
  rfl

/-- What merging a parameter posts: the parameter for the instance, then, under the name of the
type, for the type.  An identifier that the parameter may have itself plays no part. -/
def mergePostings (p : Parameter) (ifdGuid : Option String) : List Posting :=
  [⟨.instances, p, carried ifdGuid⟩,
    ⟨.types, { p with name := typeParameterName p.name, guid := none },
      (carried ifdGuid).bind derivedGuid?⟩]

/-- A parameter is merged by what it posts, if the identifier that it carries can be read. -/
theorem outcome_mergeBoth (p : Parameter) {ifdGuid : Option String}
    (hread : ∀ text, carried ifdGuid = some text → (Guid.read? text).isSome) (ledger : Ledger) :
    ∃ entries, (mergeBoth p ifdGuid).outcome ledger =
      (.ok entries, ledger.postAll (mergePostings p ifdGuid)) := by
  rw [mergeBoth, Run.outcome_bind_ok (outcome_mergeInstance p ifdGuid ledger), mergePostings]
  -- an identifier for the type is derived only if one is carried
  cases hgiven : carried ifdGuid with
  | none =>
    rw [Run.outcome_bind_ok (Run.outcome_pure none _),
      Run.outcome_bind_ok (outcome_mergeType _ _ _)]
    exact ⟨_, rfl⟩
  | some text =>
    obtain ⟨g, hg⟩ := Option.isSome_iff_exists.mp (hread text hgiven)
    have hderived (s : Ledger) : (some <$> Run.ofExcept (typeGuid text)).outcome s =
        (.ok (some (g.derive typeSuffix).text), s) := by
      rw [typeGuid_eq_ok hg]
      rfl
    dsimp only
    rw [Run.outcome_bind_ok (hderived _), Run.outcome_bind_ok (outcome_mergeType _ _ _),
      Guid.carried_text, Option.bind_some, derivedGuid?_eq_some hg]
    exact ⟨_, rfl⟩

/-- An occurrence that is not complex and carries nothing unreadable posts what it makes. -/
theorem outcome_mergeOccurrence (groupId : Int) {o : Occurrence}
    (hsimple : o.2.2.isComplex = false)
    (hread : ∀ text, o.given = some text → (Guid.read? text).isSome) (ledger : Ledger) :
    (mergeOccurrence groupId o).outcome ledger = (.ok (), ledger.postAll (o.postings groupId)) := by
  obtain ⟨set, name, p⟩ := o
  have hbuilt : (Attempt.onState (buildParameter name p set groupId)).outcome ledger =
      (.ok (Occurrence.parameter groupId (set, name, p)), ledger) := by
    rw [Run.outcome_onState, buildParameter,
      Attempt.value_bind_ok (Property.value_classify hsimple _)]
    rfl
  rw [mergeOccurrence, Run.outcome_bind_ok hbuilt]
  obtain ⟨entries, hentries⟩ :=
    outcome_mergeBoth (Occurrence.parameter groupId (set, name, p)) hread ledger
  rw [Run.outcome_bind_ok hentries]
  rfl

/-- Merging a catalog posts what its occurrences make, in order. -/
theorem outcome_mergeCatalog {catalog : Catalog} (hflat : catalog.IsFlat)
    (hguids : catalog.HasReadableGuids) (qualified : Bool) (groupId : Int) (ledger : Ledger) :
    (mergeCatalog catalog qualified groupId).outcome ledger =
      (.ok (catalog.occurrences qualified).length,
        ledger.postAll (catalog.postings qualified groupId)) := by
  have hstep : ∀ o ∈ catalog.occurrences qualified, ∀ s : Ledger,
      (mergeOccurrence groupId o).outcome s = (.ok (), s.postAll (Occurrence.postings groupId o)) :=
    fun o ho s => outcome_mergeOccurrence groupId (hflat.isComplex_eq_false ho)
      (fun _ hgiven => hguids.isSome_read? ho hgiven) s
  rw [mergeCatalog, Run.outcome_bind_ok (Run.outcome_forM hstep ledger), Run.outcome_pure,
    Catalog.postings, Ledger.postAll, List.foldl_flatMap]
  rfl

/-! ### What a merge leaves -/

/-- **The identifiers that a merge leaves.**  A flat catalog whose identifiers can be read is merged
to its end, whatever the tables and the source of fresh identifiers are.  A slot that was asked for
holds the last identifier that came with an ask for it, else the one that it held at the start, else
the one that was drawn for it; the entries of other slots stay.  Fresh identifiers are drawn in the
order of the first asks, exactly for the slots that were empty and whose first ask brought none. -/
theorem mergeCatalog_settles {catalog : Catalog} (hflat : catalog.IsFlat)
    (hguids : catalog.HasReadableGuids) (qualified : Bool) (groupId : Int) (ledger : Ledger) :
    ∃ after, (mergeCatalog catalog qualified groupId).outcome ledger =
        (.ok (catalog.occurrences qualified).length, after) ∧
      ledger.Settled (catalog.asks qualified) after ∧
      (∀ slot, slot ∈ ledger.freshSlots (catalog.asks qualified) ↔
        ledger.held? slot = none ∧ (catalog.asks qualified).lookup slot = some none) ∧
      (ledger.freshSlots (catalog.asks qualified)).Pairwise fun s t =>
        ((catalog.asks qualified).map (·.1)).idxOf s <
          ((catalog.asks qualified).map (·.1)).idxOf t := by
  refine ⟨_, outcome_mergeCatalog hflat hguids qualified groupId ledger, ?_,
    fun _ => ledger.mem_freshSlots, ledger.pairwise_freshSlots _⟩
  have h : ledger.Settled ((catalog.postings qualified groupId).map Posting.ask) _ :=
    ledger.postAll_settles _
  rwa [Catalog.map_ask_postings] at h

/-- Two releases of a definition: one property loses its identifier in the later one, and another
is named as the parameter of a type is. -/
def windowCatalog : Catalog where
  definitions := [("Pset_WindowCommon",
    [{ release := "IFC2X3"
       definition :=
        { name := "Pset_WindowCommon", version := "IFC2X3", release := "IFC2X3"
          properties :=
            [{ name := "Infiltration", ifdGuid := some "f1c2e6d0-0a4b-4a53-9d3a-6a2f0c1b7e55" },
              { name := "IsExternal" }] } },
      { release := "IFC4"
        definition :=
          { name := "Pset_WindowCommon", version := "IFC4", release := "IFC4"
            properties := [{ name := "Infiltration" }, { name := "IsExternal[Type]" }] } }])]

theorem entries_windowCatalog : windowCatalog.entries =
    windowCatalog.definitions.flatMap (·.2) := by
  rw [Catalog.entries, Catalog.sorted, Text.sortBy, windowCatalog, List.mergeSort_singleton]

theorem mergeCatalog_settles_windows :
    windowCatalog.IsFlat ∧ windowCatalog.HasReadableGuids ∧
      ∃ after, (mergeCatalog windowCatalog).outcome { supply := { fresh := Guid.ofNat } } =
          (.ok 4, after) ∧
        (after.held? (.instances, "Infiltration")).map (·.guid) =
          some (some "f1c2e6d0-0a4b-4a53-9d3a-6a2f0c1b7e55") ∧
        (after.held? (.types, "IsExternal[Type]")).map (·.guid) =
          some (some (Guid.ofNat 1).text) ∧
        after.supply.drawn = 3 := by
  have hflat : windowCatalog.IsFlat := by
    rw [Catalog.IsFlat, entries_windowCatalog]
    decide
  have hguids : windowCatalog.HasReadableGuids := by
    rw [Catalog.HasReadableGuids, entries_windowCatalog]
    decide +kernel
  obtain ⟨after, hrun, hsettled, -⟩ := mergeCatalog_settles hflat hguids false 2
    { supply := { fresh := Guid.ofNat } }
  rw [Catalog.asks, Catalog.occurrences, entries_windowCatalog] at hsettled
  refine ⟨hflat, hguids, after, hrun.trans ?_, (hsettled.asked _ ?_).trans ?_,
    (hsettled.asked _ ?_).trans ?_, (congrArg Supply.drawn hsettled.supply).trans ?_⟩
  · rw [Catalog.occurrences, entries_windowCatalog]
    rfl
  all_goals decide +kernel

end PsetCompiler
