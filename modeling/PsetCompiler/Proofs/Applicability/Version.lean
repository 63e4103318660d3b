import PsetCompiler.Proofs.Applicability.Resolve
import PsetCompiler.Proofs.Text.Order
import Mathlib.Data.List.Induction
import Mathlib.Data.List.Sort

/-!
# The report of a version

The report lists the entities that were resolved, each with its sets.  Sets whose definitions are
restricted to a predefined type are listed once more, under the type in capitals.  They are put
there one by one, and the type of a set is looked up by its name; so what stands under a type is
said without the order in which that happens, as long as no two definitions share a name.

## Main definitions

* `RestrictedTo` — a set is restricted to a type.
* `StandByType` — sets stand under the types to which they are restricted.
* `IsVersionReport` — what the report lists.

## Main results

* `lookup_reverse_restrictions` — the type that is looked up is that of the definition.
* `lookup_restrictedSets` — under a type stand the sets with this type, in their order.
* `versionApplicability_lists` — **what the report lists, for every forest and all definitions with
  different names.**
-/

namespace PsetCompiler

/-! ### Restrictions -/

/-- A set is restricted to a type: its definition names a type, which is not empty, and this is the
type in capitals. -/
def RestrictedTo (psets : List PropertySet) (set type : String) : Prop :=
  ∃ pset ∈ psets, pset.name = set ∧
    ∃ t, pset.predefinedType = some t ∧ t ≠ "" ∧ Text.upper t = type

theorem mem_restrictions_iff {psets : List PropertySet} {set type : String} :
    (set, type) ∈ restrictions psets ↔ RestrictedTo psets set type := by
  rw [restrictions, List.mem_filterMap, RestrictedTo]
  refine exists_congr fun pset => and_congr_right fun _ => ?_
  cases pset.predefinedType with
  | none => simp
  | some t =>
    by_cases hempty : t = ""
    · simp [hempty]
    · simp [hempty, Prod.ext_iff]

/-- The restrictions are in the order of the definitions. -/
theorem keys_restrictions_sublist (psets : List PropertySet) :
    ((restrictions psets).map (·.1)).Sublist (psets.map (·.name)) := by
  unfold restrictions
  induction psets with
  | nil => exact .slnil
  | cons pset rest ih =>
    rw [List.map_cons, List.filterMap_cons]
    cases pset.predefinedType with
    | none => exact ih.cons pset.name
    | some t =>
      by_cases hempty : t = ""
      · simpa only [hempty, if_true] using ih.cons pset.name
      · simpa only [hempty, if_false, List.map_cons] using ih.cons_cons pset.name

/-- Where no two definitions share a name, the type that is looked up for a set is the one to which
its definition is restricted. -/
theorem lookup_reverse_restrictions {psets : List PropertySet}
    (hnames : (psets.map (·.name)).Nodup) {set type : String} :
    (restrictions psets).reverse.lookup set = some type ↔ RestrictedTo psets set type := by
  have hkeys : ((restrictions psets).reverse.map (·.1)).Nodup := by
    rw [List.map_reverse, List.nodup_reverse]
    exact hnames.sublist (keys_restrictions_sublist psets)
  rw [lookup_eq_some_iff_mem hkeys, List.mem_reverse, mem_restrictions_iff]

/-! ### Sets under their types -/

/-- The sets of a list that are restricted to a type. -/
def setsUnder (restricted : List (String × String)) (type : String) (sets : List String) :
    List String :=
  sets.filter fun set => restricted.reverse.lookup set == some type

theorem mem_setsUnder_iff {restricted : List (String × String)} {type set : String}
    {sets : List String} :
    set ∈ setsUnder restricted type sets ↔
      set ∈ sets ∧ restricted.reverse.lookup set = some type := by
  rw [setsUnder, List.mem_filter, beq_iff_eq]

theorem setsUnder_concat (restricted : List (String × String)) (type : String)
    (sets : List String) (set : String) :
    setsUnder restricted type (sets ++ [set]) =
      setsUnder restricted type sets ++
        if restricted.reverse.lookup set = some type then [set] else [] := by
  rw [setsUnder, List.filter_append, setsUnder]
  congr 1
  by_cases h : restricted.reverse.lookup set = some type
  · rw [if_pos h, List.filter_cons_of_pos (by simpa using h), List.filter_nil]
  · rw [if_neg h, List.filter_cons_of_neg (by simpa using h), List.filter_nil]

/-- One more set is put under its type, if it has one. -/
theorem restrictedSets_concat (restricted : List (String × String)) (sets : List String)
    (set : String) :
    restrictedSets restricted (sets ++ [set]) =
      match restricted.reverse.lookup set with
      | some t => Applicability.attach (restrictedSets restricted sets) t set
      | none => restrictedSets restricted sets := by
  rw [restrictedSets, List.foldl_append]
  rfl

/-- Under a type stand the sets with this type, in their order; where there is none, the type is not
there. -/
theorem lookup_restrictedSets (restricted : List (String × String)) {sets : List String}
    (hnodup : sets.Nodup) (type : String) :
    (restrictedSets restricted sets).lookup type =
      if setsUnder restricted type sets = [] then none
      else some (setsUnder restricted type sets) := by
  induction sets using List.reverseRecOn with
  | nil => rfl
  | append_singleton sets set ih =>
    rw [List.nodup_append] at hnodup
    have hnew : set ∉ sets := by
      intro hmem
      exact hnodup.2.2 set hmem set (List.mem_singleton.mpr rfl) rfl
    have ih := ih hnodup.1
    rw [restrictedSets_concat]
    cases hset : restricted.reverse.lookup set with
    | none =>
      have hsame : setsUnder restricted type (sets ++ [set]) = setsUnder restricted type sets := by
        rw [setsUnder_concat, hset, if_neg nofun, List.append_nil]
      rw [hsame]
      exact ih
    | some t =>
      dsimp only
      rw [Applicability.lookup_attach]
      by_cases htype : type = t
      · subst htype
        -- what stood there is what the earlier sets say, and the new one is not among them
        have hthere : Applicability.setsOf (restrictedSets restricted sets) type =
            setsUnder restricted type sets := by
          rw [Applicability.setsOf, ih]
          split
          · next hnone => exact hnone.symm
          · rfl
        have hfree : (setsUnder restricted type sets).contains set = false := by
          rw [← Bool.not_eq_true, List.contains_iff_mem, mem_setsUnder_iff]
          exact fun hmem => hnew hmem.1
        have hmore : setsUnder restricted type (sets ++ [set]) =
            setsUnder restricted type sets ++ [set] := by
          rw [setsUnder_concat, if_pos hset]
        rw [if_pos (beq_self_eq_true type), hthere, hfree, hmore, if_neg Bool.false_ne_true,
          if_neg (by simp)]
      · have hsame :
            setsUnder restricted type (sets ++ [set]) = setsUnder restricted type sets := by
          rw [setsUnder_concat, hset, if_neg, List.append_nil]
          intro heq
          exact htype (Option.some.inj heq).symm
        rw [if_neg (by simpa using htype), hsame]
        exact ih

theorem nodup_keys_restrictedSets (restricted : List (String × String)) (sets : List String) :
    ((restrictedSets restricted sets).map (·.1)).Nodup := by
  induction sets using List.reverseRecOn with
  | nil => exact .nil
  | append_singleton sets set ih =>
    rw [restrictedSets_concat]
    cases restricted.reverse.lookup set with
    | none => exact ih
    | some t => exact nodup_keys_putEntry ih t _

/-- Sets stand in a table under the types to which they are restricted. -/
structure StandByType (psets : List PropertySet) (sets : List String)
    (table : List (String × List String)) : Prop where
  /-- No type is there twice. -/
  nodup_types : (table.map (·.1)).Nodup
  /-- Under a type stand, in strictly increasing order, those of the sets that are restricted to it,
  and a type with no such set is not there. -/
  lookup_eq_some_iff : ∀ type names, table.lookup type = some names ↔
    names ≠ [] ∧ names.Pairwise (· < ·) ∧
      ∀ set, set ∈ names ↔ set ∈ sets ∧ RestrictedTo psets set type
  /-- So a restricted set stands under one type, -/
  restricted_once : ∀ set ∈ sets, (∃ type, RestrictedTo psets set type) →
    ∃! entry, entry ∈ table ∧ set ∈ entry.2
  /-- a set that is not restricted stands nowhere, -/
  unrestricted_nowhere : ∀ set, (¬∃ type, RestrictedTo psets set type) →
    ∀ entry ∈ table, set ∉ entry.2
  /-- and under every type that is there stands a set. -/
  ne_nil : ∀ entry ∈ table, entry.2 ≠ []

section

variable {psets : List PropertySet} (hnames : (psets.map (·.name)).Nodup) {sets : List String}
  (hsets : sets.Pairwise (· < ·))
include hnames

/-- A set is restricted to one type at most. -/
theorem RestrictedTo.unique {set type type' : String} (h : RestrictedTo psets set type)
    (h' : RestrictedTo psets set type') : type = type' := by
  rw [← lookup_reverse_restrictions hnames] at h h'
  exact Option.some.inj (h.symm.trans h')

include hsets

theorem lookup_restrictedSets_eq_some_iff (type : String) (names : List String) :
    (restrictedSets (restrictions psets) sets).lookup type = some names ↔
      names ≠ [] ∧ names.Pairwise (· < ·) ∧
        ∀ set, set ∈ names ↔ set ∈ sets ∧ RestrictedTo psets set type := by
  have hunder (set : String) : set ∈ setsUnder (restrictions psets) type sets ↔
      set ∈ sets ∧ RestrictedTo psets set type := by
    rw [mem_setsUnder_iff, lookup_reverse_restrictions hnames]
  have hordered : (setsUnder (restrictions psets) type sets).Pairwise (· < ·) := hsets.filter _
  rw [lookup_restrictedSets _ hsets.nodup]
  constructor
  · intro hlookup
    split at hlookup
    · cases hlookup
    · next hne =>
      obtain rfl := Option.some.inj hlookup
      exact ⟨hne, hordered, hunder⟩
  · rintro ⟨hne, hpairwise, hmem⟩
    -- a list in strictly increasing order is told by what is in it
    have heq : setsUnder (restrictions psets) type sets = names :=
      hordered.eq_of_mem_iff hpairwise fun set => (hunder set).trans (hmem set).symm
    rw [heq, if_neg hne]

theorem standByType_restrictedSets :
    StandByType psets sets (restrictedSets (restrictions psets) sets) := by
  have hkeys := nodup_keys_restrictedSets (restrictions psets) sets
  have hlookup := lookup_restrictedSets_eq_some_iff hnames hsets
  have hentry {entry : String × List String}
      (hmem : entry ∈ restrictedSets (restrictions psets) sets) :=
    (hlookup entry.1 entry.2).mp ((lookup_eq_some_iff_mem hkeys).mpr hmem)
  refine
    { nodup_types := hkeys
      lookup_eq_some_iff := hlookup
      restricted_once := ?_
      unrestricted_nowhere := ?_
      ne_nil := fun _ hmem => (hentry hmem).1 }
  · rintro set hset ⟨type, hrestricted⟩
    have hthere : set ∈ setsUnder (restrictions psets) type sets :=
      mem_setsUnder_iff.mpr ⟨hset, (lookup_reverse_restrictions hnames).mpr hrestricted⟩
    have hfound := lookup_restrictedSets (restrictions psets) hsets.nodup type
    rw [if_neg (List.ne_nil_of_mem hthere)] at hfound
    refine ⟨(type, _), ⟨mem_of_lookup hfound, hthere⟩, ?_⟩
    rintro ⟨type', names⟩ ⟨hmem, hin⟩
    -- another entry with the set would be under the same type, and a type is there once
    obtain ⟨-, hrestricted'⟩ := ((hentry hmem).2.2 set).mp hin
    obtain rfl := RestrictedTo.unique hnames hrestricted hrestricted'
    have hsame := (lookup_eq_some_iff_mem hkeys).mpr hmem
    rw [hfound] at hsame
    rw [Option.some.inj hsame]
  · rintro set hnone ⟨type, names⟩ hmem hin
    exact hnone ⟨type, (((hentry hmem).2.2 set).mp hin).2⟩

end

/-! ### The report -/

/-- What the report of a version lists. -/
structure IsVersionReport (forest : Forest) (psets : List PropertySet)
    (found : VersionApplicability) : Prop where
  version_eq : found.version = forest.version
  /-- The entities are those that were resolved, in strictly increasing order of their names. -/
  names_increasing : (found.entities.map (·.name)).Pairwise (· < ·)
  mem_names_iff : ∀ name, name ∈ found.entities.map (·.name) ↔
    name ∈ (resolveApplicability forest psets).value.map (·.1)
  /-- The sets of an entity are those that were resolved, in strictly increasing order. -/
  sets_increasing : ∀ e ∈ found.entities, e.psets.Pairwise (· < ·)
  mem_sets_iff : ∀ e ∈ found.entities, ∀ set,
    set ∈ e.psets ↔ set ∈ (resolveApplicability forest psets).value.setsOf e.name
  /-- The restricted ones among them stand under their types. -/
  standByType : ∀ e ∈ found.entities, StandByType psets e.psets e.predefinedTypePsets
  predefinedTypes_eq : ∀ e ∈ found.entities, e.predefinedTypes = forest.predefinedTypes e.name
  /-- All definitions are listed as they were given, with the qualified names of their
  properties. -/
  propertySets_eq : found.propertySets = psets.map fun pset =>
    { name := pset.name, applicableClasses := pset.applicableClasses
      predefinedType := pset.predefinedType, properties := pset.qualifiedNames }

theorem nodup_keys_resolveApplicability (forest : Forest) (psets : List PropertySet) :
    ((resolveApplicability forest psets).value.map (·.1)).Nodup := by
  rw [value_resolveApplicability, List.map_map]
  exact (List.map_id (concreteEntities forest)).symm ▸ nodup_eraseDups _

theorem nodup_sets_resolveApplicability {forest : Forest} {psets : List PropertySet}
    {entry : String × List String} (h : entry ∈ (resolveApplicability forest psets).value) :
    entry.2.Nodup := by
  rw [value_resolveApplicability] at h
  obtain ⟨name, -, rfl⟩ := List.mem_map.mp h
  exact nodup_eraseDups _

theorem map_name_entities_versionApplicability (forest : Forest) (psets : List PropertySet) :
    (versionApplicability forest psets).value.entities.map (·.name) =
      (Text.sortBy (·.1) (resolveApplicability forest psets).value).map (·.1) := by
  show List.map (·.name) (List.map (entityApplicability forest (restrictions psets)) _) = _
  rw [List.map_map]
  rfl

/-- What is listed for an entity comes from its resolved sets. -/
theorem exists_of_mem_entities {forest : Forest} {psets : List PropertySet}
    {e : EntityApplicability} (he : e ∈ (versionApplicability forest psets).value.entities) :
    ∃ entry ∈ (resolveApplicability forest psets).value,
      entityApplicability forest (restrictions psets) entry = e := by
  obtain ⟨entry, hmem, heq⟩ := List.mem_map.mp he
  exact ⟨entry, (Text.mem_sortBy _).mp hmem, heq⟩

/-- **What the report of a version lists**, for every forest and all definitions with different
names: every resolved entity once and in order, with its sets in order, the restricted ones among
them once more under the type to which their definition restricts them, and all definitions. -/
theorem versionApplicability_lists (forest : Forest) (psets : List PropertySet)
    (hnames : (psets.map (·.name)).Nodup) :
    IsVersionReport forest psets (versionApplicability forest psets).value := by
  have hkeys := nodup_keys_resolveApplicability forest psets
  refine
    { version_eq := rfl
      names_increasing := ?_
      mem_names_iff := ?_
      sets_increasing := ?_
      mem_sets_iff := ?_
      standByType := ?_
      predefinedTypes_eq := ?_
      propertySets_eq := rfl }
  · rw [map_name_entities_versionApplicability, List.pairwise_map]
    exact Text.pairwise_lt_sortBy _ hkeys
  · intro name
    rw [map_name_entities_versionApplicability]
    exact ((Text.perm_sortBy _ _).map _).mem_iff
  · intro e he
    obtain ⟨entry, hmem, rfl⟩ := exists_of_mem_entities he
    exact Text.pairwise_lt_sortTexts (nodup_sets_resolveApplicability hmem)
  · intro e he set
    obtain ⟨⟨name, sets⟩, hmem, rfl⟩ := exists_of_mem_entities he
    have hlookup := (lookup_eq_some_iff_mem hkeys).mpr hmem
    show set ∈ Text.sortTexts sets ↔ set ∈ Applicability.setsOf _ name
    rw [Applicability.setsOf, hlookup, Option.getD_some, Text.mem_sortTexts]
  · intro e he
    obtain ⟨entry, hmem, rfl⟩ := exists_of_mem_entities he
    exact standByType_restrictedSets hnames
      (Text.pairwise_lt_sortTexts (nodup_sets_resolveApplicability hmem))
  · intro e he
    obtain ⟨entry, -, rfl⟩ := exists_of_mem_entities he
    rfl

/-- Of two sets of walls one is restricted, and it stands under its type in capitals. -/
theorem versionApplicability_lists_walls :
    let forest := (Forest.addRecords { version := "IFC4" }
      [{ name := "IfcProduct", isAbstract := true },
        { name := "IfcWall", parent := some "IfcProduct" }]).value
    let common : PropertySet := { name := "Pset_WallCommon", version := "IFC4", release := "IFC4"
                                  applicableClasses := ["IfcWall"] }
    let movable : PropertySet := { common with
      name := "Pset_WallMovable", predefinedType := some "movable" }
    let psets := [movable, common]
    (psets.map (·.name)).Nodup ∧
      IsVersionReport forest psets (versionApplicability forest psets).value ∧
      restrictedSets (restrictions psets) ["Pset_WallCommon", "Pset_WallMovable"] =
        [("MOVABLE", ["Pset_WallMovable"])] := by
  intro forest common movable psets
  have hnames : (psets.map (·.name)).Nodup := by decide
  exact ⟨hnames, versionApplicability_lists forest psets hnames, by decide +kernel⟩

end PsetCompiler
