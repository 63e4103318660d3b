import PsetCompiler.Applicability.Resolve
import PsetCompiler.Proofs.Entity.Query
import PsetCompiler.Proofs.Outcome

/-!
# Which sets are resolved for an entity

Sets are resolved in two passes.  The first attaches every set to its classes and to their pairs;
what is attached to a name is said without the order in which that happens.  The second collects for
every concrete entity below a root what is attached to it and to its ancestors, up to the nearest
root.  Roots may lie below each other, so the nearest one matters, and a root itself inherits
nothing.

A class that the forest does not have is attached to as well, but under a name that no entity has,
and so it never shows.

## Main definitions

* `Forest.InheritsUpTo` — an ancestor that is not behind a stop.
* `ResolvesExactly` — what is resolved, said without the passes.

## Main results

* `mem_sets_directApplicability_iff` — what is attached to a name.
* `Forest.WellFormed.mem_cons_supertypes_iff` — whose sets an entity has.
* `resolvesExactly_addRecords` — **what is resolved in a forest that declarations make.**
-/

namespace PsetCompiler

open Relation (ReflTransGen)

/-! ### What is attached -/

namespace Applicability

/-- The sets that are attached to a name. -/
def setsOf (applicability : Applicability) (name : String) : List String :=
  (applicability.lookup name).getD []

theorem lookup_attach (applicability : Applicability) (entity set name : String) :
    (applicability.attach entity set).lookup name =
      if name == entity then
        some (if (applicability.setsOf entity).contains set then applicability.setsOf entity
          else applicability.setsOf entity ++ [set])
      else applicability.lookup name :=
  lookup_putEntry applicability entity name _

/-- Attaching adds one set to one name. -/
theorem mem_setsOf_attach {applicability : Applicability} {entity set name q : String} :
    q ∈ (applicability.attach entity set).setsOf name ↔
      q ∈ applicability.setsOf name ∨ name = entity ∧ q = set := by
  rw [setsOf, lookup_attach]
  by_cases hname : name = entity
  · subst hname
    rw [beq_self_eq_true, if_pos rfl, Option.getD_some]
    split
    · next hmem =>
      constructor
      · exact .inl
      · rintro (hq | ⟨-, rfl⟩)
        · exact hq
        · exact List.contains_iff_mem.mp hmem
    · simp
  · simp [setsOf, hname]

end Applicability

/-- A fold whose steps add to a property adds for every item of the list. -/
theorem foldl_iff_exists_mem {α β : Type} {f : β → α → β} (holds : β → Prop) (adds : α → Prop)
    (hstep : ∀ b a, holds (f b a) ↔ holds b ∨ adds a) (l : List α) (b : β) :
    holds (l.foldl f b) ↔ holds b ∨ ∃ a ∈ l, adds a := by
  induction l generalizing b with
  | nil => simp
  | cons a l ih => rw [List.foldl_cons, ih, hstep, List.exists_mem_cons_iff, or_assoc]

/-- A class gives its sets to an entity of this name: to its own, and to the pair of that. -/
def GivesTo (forest : Forest) (name entity : String) : Prop :=
  match forest.find? name with
  | none => entity = name
  | some e => entity = e.name ∨ pairedEntity forest e.name = some entity

theorem mem_setsOf_attachClass {forest : Forest} {set : String} {applicability : Applicability}
    {name entity q : String} :
    q ∈ (attachClass forest set applicability name).value.setsOf entity ↔
      q ∈ applicability.setsOf entity ∨ GivesTo forest name entity ∧ set = q := by
  rw [attachClass, GivesTo]
  cases forest.find? name with
  | none =>
    dsimp only
    rw [Report.value_bind, Report.value_pure, Applicability.mem_setsOf_attach, eq_comm (a := q)]
  | some e =>
    dsimp only
    cases pairedEntity forest e.name with
    | none =>
      rw [Report.value_pure, Applicability.mem_setsOf_attach]
      simp [eq_comm]
    | some pair =>
      rw [Report.value_pure, Applicability.mem_setsOf_attach, Applicability.mem_setsOf_attach]
      simp only [Option.some.injEq, eq_comm (a := pair), eq_comm (a := q), or_and_right, or_assoc]

/-- What is attached to a name: the sets with a class that gives to it. -/
theorem mem_sets_directApplicability_iff {forest : Forest} {psets : List PropertySet}
    {entity q : String} :
    q ∈ (directApplicability forest psets).value.setsOf entity ↔
      ∃ pset ∈ psets, pset.name = q ∧
        ∃ name ∈ pset.applicableClasses, GivesTo forest name entity := by
  rw [directApplicability, Report.value_foldlM]
  simp only [Report.value_foldlM]
  rw [foldl_iff_exists_mem (fun a => q ∈ Applicability.setsOf a entity)
    (fun pset => pset.name = q ∧ ∃ name ∈ pset.applicableClasses, GivesTo forest name entity)]
  · simp [Applicability.setsOf]
  · intro applicability pset
    rw [foldl_iff_exists_mem (fun a => q ∈ Applicability.setsOf a entity)
      (fun name => GivesTo forest name entity ∧ pset.name = q)
      fun _ _ => mem_setsOf_attachClass]
    simp only [← and_assoc, exists_and_right, and_comm (a := pset.name = q)]

/-! ### Whose sets an entity has -/

namespace Forest

variable {forest : Forest}

/-- The second key is the first one, or it is above it with no stop before it. -/
abbrev InheritsUpTo (forest : Forest) (stops : List String) : String → String → Prop :=
  ReflTransGen fun child parent =>
    child ∉ stops.map Text.foldCase ∧ forest.HasParent child parent

theorem throughFirst_cons (stop : String → Bool) (a : String) (l : List String) :
    throughFirst stop (a :: l) = a :: if stop a then [] else throughFirst stop l := by
  rw [throughFirst]
  split <;> rfl

theorem throughFirst_map {stop stop' : String → Bool} {f : String → String} {l : List String}
    (h : ∀ a ∈ l, stop (f a) = stop' a) :
    throughFirst stop (l.map f) = (throughFirst stop' l).map f := by
  induction l with
  | nil => rfl
  | cons a l ih =>
    rw [List.map_cons, throughFirst_cons, throughFirst_cons, h a List.mem_cons_self,
      ih fun b hb => h b (List.mem_cons_of_mem _ hb)]
    cases stop' a <;> rfl

/-- The way up, cut behind the first stop, passes the keys that are not behind a stop. -/
theorem Climbs.mem_throughFirst_iff {key : String} {above : List String}
    (h : forest.Climbs key above) (stops : List String) {x : String} :
    (x ∈ key :: if (stops.map Text.foldCase).contains key then []
        else throughFirst (stops.map Text.foldCase).contains above) ↔
      forest.InheritsUpTo stops key x := by
  have hhead (key : String) : forest.InheritsUpTo stops key x ↔ key = x ∨ ∃ parent,
      (key ∉ stops.map Text.foldCase ∧ forest.HasParent key parent) ∧
        forest.InheritsUpTo stops parent x := ReflTransGen.cases_head_iff
  induction h with
  | @root key hroot =>
    rw [hhead]
    simp [HasParent, hroot, throughFirst, eq_comm]
  | @up key parent above hparent _ ih =>
    rw [List.mem_cons, hhead, eq_comm]
    refine or_congr_right ?_
    -- behind a stop nothing is inherited; else the way goes on from the parent, stop or not
    split
    · next hstop =>
      refine iff_of_false List.not_mem_nil ?_
      rintro ⟨-, ⟨hnot, -⟩, -⟩
      exact hnot (List.contains_iff_mem.mp hstop)
    · next hstop =>
      rw [throughFirst_cons]
      refine ih.trans ⟨?_, ?_⟩
      · intro hrest
        exact ⟨parent, ⟨mt List.contains_iff_mem.mpr hstop, hparent⟩, hrest⟩
      · rintro ⟨other, ⟨-, hother⟩, hrest⟩
        obtain rfl : parent = other := Option.some.inj (hparent.symm.trans hother)
        exact hrest

/-- The entity and its supertypes up to the first stop. -/
theorem WellFormed.mem_cons_supertypes_iff (h : forest.WellFormed) {key : String} {e : Entity}
    (he : forest.entity? key = some e) (stops : List String) {name : String} :
    name ∈ e.name :: forest.supertypes e.name stops ↔
      ∃ above, forest.InheritsUpTo stops key above ∧ forest.nameOf above = name := by
  have hkey := mem_keys_of_entity? he
  have hstop {k : String} (hk : k ∈ forest.entities.map (·.1)) :
      (stops.map Text.foldCase).contains (Text.foldCase (forest.nameOf k)) =
        (stops.map Text.foldCase).contains k := by
    rw [h.foldCase_nameOf hk]
  -- the names are those of the keys of the cut way up
  have hnames : e.name :: forest.supertypes e.name stops =
      (key :: if (stops.map Text.foldCase).contains key then []
        else throughFirst (stops.map Text.foldCase).contains (forest.ancestors key)).map
          forest.nameOf := by
    rw [supertypes, h.key?_name he, List.map_cons, nameOf_of_entity? he]
    congr 1
    have hcut : throughFirst (fun name => (stops.map Text.foldCase).contains (Text.foldCase name))
        ((forest.ancestors key).map forest.nameOf) =
          (throughFirst (stops.map Text.foldCase).contains (forest.ancestors key)).map
            forest.nameOf :=
      throughFirst_map fun k hk => hstop (h.ancestors_subset_keys hkey hk)
    simp only [hstop hkey, hcut]
    split <;> rfl
  rw [hnames, List.mem_map]
  simp only [(h.climbs_ancestors key).mem_throughFirst_iff stops]

/-- Who an entity of the forest inherits from is in the forest. -/
theorem WellFormed.mem_keys_of_inheritsUpTo (h : forest.WellFormed) {stops : List String}
    {key above : String} (hinherits : forest.InheritsUpTo stops key above)
    (hkey : key ∈ forest.entities.map (·.1)) : above ∈ forest.entities.map (·.1) := by
  induction hinherits with
  | refl => exact hkey
  | tail _ hstep _ => exact (h.links_stored hstep.2).2

end Forest

/-- The sets of an entity are those of the entities that it inherits from. -/
theorem mem_setsFor_iff {forest : Forest} (h : forest.WellFormed) {key : String} {e : Entity}
    (he : forest.entity? key = some e) {direct : Applicability} {q : String} :
    q ∈ setsFor forest direct e.name ↔
      ∃ above, forest.InheritsUpTo stopRoots key above ∧
        q ∈ direct.setsOf (forest.nameOf above) := by
  rw [setsFor, List.mem_eraseDups, List.mem_flatMap]
  constructor
  · rintro ⟨name, hname, hq⟩
    obtain ⟨above, habove, rfl⟩ := (h.mem_cons_supertypes_iff he stopRoots).mp hname
    exact ⟨above, habove, hq⟩
  · rintro ⟨above, habove, hq⟩
    exact ⟨_, (h.mem_cons_supertypes_iff he stopRoots).mpr ⟨above, habove, rfl⟩, hq⟩

/-- A key is the one that is given to, if it is that of the class or of its pair. -/
theorem givesTo_nameOf_iff {forest : Forest} (h : forest.WellFormed) {above : String}
    (habove : above ∈ forest.entities.map (·.1)) {name : String} :
    GivesTo forest name (forest.nameOf above) ↔ ∃ m, forest.find? name = some m ∧
      ∃ target, (target = m.name ∨ pairedEntity forest m.name = some target) ∧
        forest.key? target = some above := by
  -- a name that was found leads to one key, so it is the name of that key
  have hback {s : String} {e : Entity} (hs : forest.find? s = some e)
      (hkey : forest.key? e.name = some above) : forest.nameOf above = e.name := by
    obtain ⟨key, -, he⟩ := Forest.find?_eq_some_iff.mp hs
    obtain rfl := Option.some.inj ((h.key?_name he).symm.trans hkey)
    exact Forest.nameOf_of_entity? he
  rw [GivesTo]
  cases hname : forest.find? name with
  | none =>
    -- an unknown class is attached to as it is spelled, which is the name of no entity
    refine iff_of_false ?_ (by simp)
    rintro rfl
    obtain ⟨e, he, -⟩ := Forest.exists_find?_of_key? (h.key?_nameOf habove)
    rw [hname] at he
    cases he
  | some m =>
    simp only [Option.some.injEq, exists_eq_left']
    constructor
    · intro hgives
      exact ⟨_, hgives, h.key?_nameOf habove⟩
    · rintro ⟨target, rfl | hpair, hkey⟩
      · exact .inl (hback hname hkey)
      · obtain ⟨e, he, rfl⟩ := Option.map_eq_some_iff.mp hpair
        rw [hback he hkey]
        exact .inr hpair

/-! ### Which entities have sets -/

/-- The concrete entities are those of the branches that are not abstract. -/
theorem mem_concreteEntities_iff {forest : Forest} (h : forest.WellFormed) {name : String} :
    name ∈ concreteEntities forest ↔
      ∃ key e, forest.entity? key = some e ∧ e.name = name ∧ e.isAbstract = false ∧
        ∃ root ∈ stopRoots, ∃ above, forest.key? root = some above ∧ forest.Below key above := by
  rw [concreteEntities, List.mem_eraseDups, List.mem_filter, List.mem_flatMap]
  constructor
  · rintro ⟨⟨root, hroot, hname⟩, hconcrete⟩
    obtain ⟨above, habove, -⟩ := h.mem_branch_iff.mp hname
    obtain ⟨key, e, he, rfl⟩ := h.exists_entity_of_mem_branch hname
    rw [h.find?_name he] at hconcrete
    rw [h.name_mem_branch_iff habove he] at hname
    exact ⟨key, e, he, rfl, by simpa using hconcrete, root, hroot, above, habove, hname⟩
  · rintro ⟨key, e, he, rfl, hconcrete, root, hroot, above, habove, hbelow⟩
    rw [h.find?_name he]
    exact ⟨⟨root, hroot, (h.name_mem_branch_iff habove he).mpr hbelow⟩, by simp [hconcrete]⟩

/-! ### Unknown classes -/

/-- A definition without the classes that a forest does not have. -/
def PropertySet.withKnownClasses (forest : Forest) (pset : PropertySet) : PropertySet :=
  { pset with applicableClasses := pset.applicableClasses.filter forest.contains }

theorem contains_iff {forest : Forest} {name : String} :
    forest.contains name = true ↔ ∃ e, forest.find? name = some e := by
  rw [Forest.contains, Option.isSome_iff_exists]
  constructor
  · rintro ⟨key, hkey⟩
    obtain ⟨e, he, -⟩ := Forest.exists_find?_of_key? hkey
    exact ⟨e, he⟩
  · rintro ⟨e, he⟩
    obtain ⟨key, hkey, -⟩ := Forest.find?_eq_some_iff.mp he
    exact ⟨key, hkey⟩

/-- The same sets are attached to every name that the forest has. -/
def AttachAlike (forest : Forest) (a b : Applicability) : Prop :=
  ∀ name, forest.contains name = true → a.lookup name = b.lookup name

theorem AttachAlike.attach {forest : Forest} {a b : Applicability} (h : AttachAlike forest a b)
    (entity set : String) : AttachAlike forest (a.attach entity set) (b.attach entity set) := by
  intro name hname
  rw [Applicability.lookup_attach, Applicability.lookup_attach]
  by_cases heq : name = entity
  · subst heq
    rw [Applicability.setsOf, Applicability.setsOf, h name hname]
  · rw [if_neg (by simpa using heq), if_neg (by simpa using heq), h name hname]

/-- Attaching to the known classes alone attaches alike. -/
theorem AttachAlike.foldl {forest : Forest} {a b : Applicability} (h : AttachAlike forest a b)
    (set : String) (classes : List String) :
    AttachAlike forest
      (classes.foldl (fun a name => (attachClass forest set a name).value) a)
      ((classes.filter forest.contains).foldl
        (fun a name => (attachClass forest set a name).value) b) := by
  induction classes generalizing a b with
  | nil => exact h
  | cons name classes ih =>
    by_cases hname : forest.contains name = true
    · obtain ⟨e, he⟩ := contains_iff.mp hname
      rw [List.foldl_cons, List.filter_cons_of_pos hname, List.foldl_cons]
      refine ih ?_
      rw [attachClass, attachClass, he]
      dsimp only
      cases pairedEntity forest e.name with
      | none => exact h.attach e.name set
      | some pair => exact (h.attach e.name set).attach pair set
    · rw [List.foldl_cons, List.filter_cons_of_neg hname]
      refine ih fun other hother => ?_
      have hnone : forest.find? name = none :=
        Option.eq_none_iff_forall_ne_some.mpr fun e he => hname (contains_iff.mpr ⟨e, he⟩)
      have hne : (other == name) = false := by
        rw [beq_eq_false_iff_ne]
        rintro rfl
        exact hname hother
      rw [attachClass, hnone]
      dsimp only
      rw [Report.value_bind, Report.value_pure, Applicability.lookup_attach, hne]
      exact h other hother

theorem attachAlike_directApplicability (forest : Forest) (psets : List PropertySet) :
    AttachAlike forest (directApplicability forest psets).value
      (directApplicability forest (psets.map (·.withKnownClasses forest))).value := by
  rw [directApplicability, directApplicability, Report.value_foldlM, Report.value_foldlM,
    List.foldl_map]
  simp only [Report.value_foldlM]
  -- in the middle of a run the tables differ in unknown names, so they cannot be the same here
  have hfold : ∀ a b : Applicability, AttachAlike forest a b → AttachAlike forest
      (psets.foldl (fun a pset => pset.applicableClasses.foldl
        (fun a name => (attachClass forest pset.name a name).value) a) a)
      (psets.foldl (fun a pset => (pset.withKnownClasses forest).applicableClasses.foldl
        (fun a name => (attachClass forest (pset.withKnownClasses forest).name a name).value) a)
        b) := by
    induction psets with
    | nil => exact fun _ _ h => h
    | cons pset psets ih => exact fun a b h => ih _ _ (h.foldl pset.name pset.applicableClasses)
  exact hfold [] [] fun _ _ => rfl

/-! ### What is resolved -/

/-- What is resolved for some definitions in a forest. -/
structure ResolvesExactly (forest : Forest) (psets : List PropertySet)
    (resolved : Applicability) : Prop where
  /-- No entity is listed twice. -/
  nodup_names : (resolved.map (·.1)).Nodup
  /-- Listed are the entities that are not abstract and equal a root or inherit from one. -/
  mem_names_iff : ∀ name, name ∈ resolved.map (·.1) ↔
    ∃ key e, forest.entity? key = some e ∧ e.name = name ∧ e.isAbstract = false ∧
      ∃ root ∈ stopRoots, ∃ above, forest.key? root = some above ∧ forest.Below key above
  /-- No set is listed twice for one entity. -/
  nodup_sets : ∀ entry ∈ resolved, entry.2.Nodup
  /-- Listed for an entity are the sets with a class of which the entity or its pair is the entity
  itself or above it, and not behind the nearest root. -/
  mem_sets_iff : ∀ key e sets, forest.entity? key = some e → (e.name, sets) ∈ resolved →
    ∀ q, q ∈ sets ↔ ∃ pset ∈ psets, pset.name = q ∧ ∃ name ∈ pset.applicableClasses,
      ∃ m, forest.find? name = some m ∧
        ∃ target, (target = m.name ∨ pairedEntity forest m.name = some target) ∧
          ∃ above, forest.key? target = some above ∧ forest.InheritsUpTo stopRoots key above
  /-- Classes that the forest does not have change nothing. -/
  withKnownClasses :
    (resolveApplicability forest (psets.map (·.withKnownClasses forest))).value = resolved

theorem value_resolveApplicability (forest : Forest) (psets : List PropertySet) :
    (resolveApplicability forest psets).value = (concreteEntities forest).map fun name =>
      (name, setsFor forest (directApplicability forest psets).value name) := rfl

/-- What an entity has depends only on what is attached to names of the forest. -/
theorem AttachAlike.setsFor_eq {forest : Forest} {a b : Applicability}
    (halike : AttachAlike forest a b) (h : forest.WellFormed) {key : String} {e : Entity}
    (he : forest.entity? key = some e) : setsFor forest a e.name = setsFor forest b e.name := by
  rw [setsFor, setsFor]
  refine congrArg List.eraseDups (List.flatMap_congr fun name hname => ?_)
  obtain ⟨above, habove, rfl⟩ := (h.mem_cons_supertypes_iff he stopRoots).mp hname
  have hkey := h.key?_nameOf (h.mem_keys_of_inheritsUpTo habove (Forest.mem_keys_of_entity? he))
  rw [halike _ (by rw [Forest.contains, hkey]; rfl)]

theorem Forest.WellFormed.resolvesExactly {forest : Forest} (h : forest.WellFormed)
    (psets : List PropertySet) :
    ResolvesExactly forest psets (resolveApplicability forest psets).value := by
  rw [value_resolveApplicability]
  have hnames : ((concreteEntities forest).map fun name =>
      (name, setsFor forest (directApplicability forest psets).value name)).map (·.1) =
        concreteEntities forest := by
    rw [List.map_map]
    exact List.map_id _
  refine
    { nodup_names := ?_
      mem_names_iff := fun name => ?_
      nodup_sets := ?_
      mem_sets_iff := ?_
      withKnownClasses := ?_ }
  · rw [hnames]
    exact nodup_eraseDups _
  · rw [hnames]
    exact mem_concreteEntities_iff h
  · intro entry hentry
    obtain ⟨name, -, rfl⟩ := List.mem_map.mp hentry
    exact nodup_eraseDups _
  · intro key e sets he hmem q
    obtain ⟨name, -, heq⟩ := List.mem_map.mp hmem
    obtain ⟨rfl, rfl⟩ := Prod.mk.inj heq
    rw [mem_setsFor_iff h he]
    constructor
    · rintro ⟨above, habove, hq⟩
      obtain ⟨pset, hpset, hname, c, hc, hgives⟩ := mem_sets_directApplicability_iff.mp hq
      have hstored := h.mem_keys_of_inheritsUpTo habove (Forest.mem_keys_of_entity? he)
      obtain ⟨m, hm, target, htarget, hkey⟩ := (givesTo_nameOf_iff h hstored).mp hgives
      exact ⟨pset, hpset, hname, c, hc, m, hm, target, htarget, above, hkey, habove⟩
    · rintro ⟨pset, hpset, hname, c, hc, m, hm, target, htarget, above, hkey, habove⟩
      have hstored := h.mem_keys_of_inheritsUpTo habove (Forest.mem_keys_of_entity? he)
      have hgives := (givesTo_nameOf_iff h hstored).mpr ⟨m, hm, target, htarget, hkey⟩
      exact ⟨above, habove,
        mem_sets_directApplicability_iff.mpr ⟨pset, hpset, hname, c, hc, hgives⟩⟩
  · rw [value_resolveApplicability]
    refine List.map_congr_left fun name hname => ?_
    obtain ⟨key, e, he, rfl, -⟩ := (mem_concreteEntities_iff h).mp hname
    rw [(attachAlike_directApplicability forest psets).setsFor_eq h he]

/-- **What is resolved in a forest that declarations make**, whatever their arguments and the
definitions are. -/
theorem resolvesExactly_addRecords (version : String) (enums : List (String × List String))
    (records : List EntityRecord) (psets : List PropertySet) :
    ResolvesExactly (Forest.addRecords { version, predefinedTypeEnums := enums } records).value
      psets (resolveApplicability
        (Forest.addRecords { version, predefinedTypeEnums := enums } records).value psets).value :=
  ((Forest.wellFormed_empty version enums).addRecords records).resolvesExactly psets

end PsetCompiler
