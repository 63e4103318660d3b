import PsetCompiler.Proofs.Entity.Restored

/-!
# The order of declarations

A parent may be declared after its children, or not at all; until then a placeholder stands for it.
So forests on the way differ with the order of the declarations.  When every name is declared once
and the declared parents close no cycle, they come to the same forest in the end, but for the
spelling of names: whoever mentions an entity first gives it its name, and the others may write it
in another case.

What a forest says under a key is read off the declarations without their order.  A declared entity
has the flag, the enumeration and the parent of its declaration; a key that is only mentioned as a
parent has a placeholder, which is a root.  This holds at every moment for the declarations so far,
and since links on the way are declared ones, none is ever refused.

## Main definitions

* `keyedRecords` — the declarations of entities, under their keys.
* `DeclaresParent`, `AreConsistent` — the declared links, and the lists of declarations in which no
  name is there twice and no cycle.
* `declaredTraits`, `declaredParentKey` — what declarations say under a key, whatever their order.
* `Forest.Reflects` — a forest says what some declarations do.
* `Forest.RefusesNothing` — no link is refused in the reports.

## Main results

* `Forest.Reflects.add` — one more declaration is reflected, and no link is refused.
* `Forest.reflects_ofRecords` — what declarations make.
* `Forest.ofRecords_of_perm` — **the order of declarations does not matter.**
-/

namespace PsetCompiler

open Relation (TransGen)

/-! ### Declarations under their keys -/

namespace EntityRecord

/-- The key of the entity that is declared, if the name is that of one. -/
def key? (r : EntityRecord) : Option String :=
  if isEntityName r.name then some (Text.foldCase r.name) else none

theorem key?_eq_some_iff {r : EntityRecord} {key : String} :
    r.key? = some key ↔ isEntityName r.name = true ∧ Text.foldCase r.name = key := by
  unfold key?
  split
  · next h => simp [h]
  · next h => simp [h]

/-- The key of the parent that is declared, if that is an entity. -/
def parentKey? (r : EntityRecord) : Option String :=
  (r.parent.filter isEntityName).map Text.foldCase

/-- The enumeration that is declared; the empty text names none. -/
def enum? (r : EntityRecord) : Option String :=
  r.predefinedTypeEnum.filter (· ≠ "")

end EntityRecord

/-- The declarations of entities, under their keys. -/
def keyedRecords (records : List EntityRecord) : List (String × EntityRecord) :=
  records.filterMap fun r => r.key?.map (·, r)

/-- Some declaration links a key to the one of its parent. -/
def DeclaresParent (records : List EntityRecord) (child parent : String) : Prop :=
  ∃ r, (child, r) ∈ keyedRecords records ∧ r.parentKey? = some parent

/-- No name is declared twice, in whatever case, and the declared parents close no cycle. -/
structure AreConsistent (records : List EntityRecord) : Prop where
  nodup : ((keyedRecords records).map (·.1)).Nodup
  acyclic : ∀ key, ¬ TransGen (DeclaresParent records) key key

/-- The flag and the enumeration that declarations give to a key, if they declare or mention it. -/
def declaredTraits (records : List EntityRecord) (key : String) : Option (Bool × Option String) :=
  match (keyedRecords records).lookup key with
  | some r => some (r.isAbstract, r.enum?)
  | none =>
    if (keyedRecords records).any (·.2.parentKey? == some key) then some (false, none) else none

/-- The key of the parent that declarations give to a key. -/
def declaredParentKey (records : List EntityRecord) (key : String) : Option String :=
  ((keyedRecords records).lookup key).bind (·.parentKey?)

variable {records others : List EntityRecord} {r : EntityRecord} {key : String}

/-! #### One more declaration -/

theorem keyedRecords_concat_of_none (h : r.key? = none) :
    keyedRecords (records ++ [r]) = keyedRecords records := by
  simp [keyedRecords, List.filterMap_append, h]

theorem keyedRecords_concat (h : r.key? = some key) :
    keyedRecords (records ++ [r]) = keyedRecords records ++ [(key, r)] := by
  simp [keyedRecords, List.filterMap_append, h]

section

variable (h : r.key? = some key) (hnew : key ∉ (keyedRecords records).map (·.1))
include h hnew

theorem lookup_keyedRecords_concat (other : String) :
    (keyedRecords (records ++ [r])).lookup other =
      if other = key then some r else (keyedRecords records).lookup other := by
  rw [keyedRecords_concat h, List.lookup_append]
  split
  · next heq => simp [heq, lookup_eq_none_iff_notMem_keys.mpr hnew]
  · next hne => simp [beq_eq_false_iff_ne.mpr hne, List.lookup_cons]

theorem declaredParentKey_concat (other : String) :
    declaredParentKey (records ++ [r]) other =
      if other = key then r.parentKey? else declaredParentKey records other := by
  rw [declaredParentKey, lookup_keyedRecords_concat h hnew, declaredParentKey]
  split <;> rfl

/-- The key gets what is declared; the key of the parent is mentioned at least. -/
theorem declaredTraits_concat (other : String) :
    declaredTraits (records ++ [r]) other =
      if other = key then some (r.isAbstract, r.enum?)
      else if r.parentKey? = some other then
        some ((declaredTraits records other).getD (false, none))
      else declaredTraits records other := by
  unfold declaredTraits
  rw [lookup_keyedRecords_concat h hnew]
  by_cases hkey : other = key
  · rw [if_pos hkey, if_pos hkey]
  · rw [if_neg hkey, if_neg hkey, keyedRecords_concat h, List.any_append]
    cases (keyedRecords records).lookup other with
    | some r' => simp
    | none =>
      dsimp only
      simp only [List.any_cons, List.any_nil, Bool.or_false, Bool.or_eq_true, beq_iff_eq]
      -- mentioned now, before, or not at all
      by_cases hparent : r.parentKey? = some other
      · rw [if_pos (.inr hparent), if_pos hparent]
        split <;> rfl
      · rw [if_neg hparent]
        simp only [hparent, or_false]

end

theorem key_notMem_of_nodup (h : ((keyedRecords (records ++ [r])).map (·.1)).Nodup)
    (hkey : r.key? = some key) : key ∉ (keyedRecords records).map (·.1) := by
  rw [keyedRecords_concat hkey] at h
  exact notMem_keys_of_nodup_append h

/-! #### Declared links -/

theorem declaresParent_of_declaredParentKey {parent : String}
    (h : declaredParentKey records key = some parent) : DeclaresParent records key parent := by
  obtain ⟨r, hr, hparent⟩ := Option.bind_eq_some_iff.mp h
  exact ⟨r, mem_of_lookup hr, hparent⟩

theorem DeclaresParent.append {parent : String} (h : DeclaresParent records key parent)
    (others : List EntityRecord) : DeclaresParent (records ++ others) key parent := by
  obtain ⟨r, hr, hparent⟩ := h
  refine ⟨r, ?_, hparent⟩
  rw [keyedRecords, List.filterMap_append]
  exact List.mem_append_left _ hr

theorem AreConsistent.of_append (h : AreConsistent (records ++ others)) :
    AreConsistent records where
  nodup := by
    have hnodup := h.nodup
    rw [keyedRecords, List.filterMap_append, List.map_append] at hnodup
    exact hnodup.of_append_left
  acyclic := fun key hcycle =>
    h.acyclic key (TransGen.mono (fun _ _ hlink => hlink.append others) key key hcycle)

/-- Links that go up in some order close no cycle. -/
theorem AreConsistent.of_rank (hnodup : ((keyedRecords records).map (·.1)).Nodup)
    (rank : String → Nat)
    (hrank : ∀ e ∈ keyedRecords records, ∀ parent ∈ e.2.parentKey?, rank e.1 < rank parent) :
    AreConsistent records where
  nodup := hnodup
  acyclic := by
    intro key hcycle
    have hlt : TransGen (· < ·) (rank key) (rank key) :=
      hcycle.lift rank fun child parent ⟨r, hr, hparent⟩ => hrank (child, r) hr parent hparent
    rw [Relation.transGen_eq_self] at hlt
    exact Nat.lt_irrefl _ hlt

/-! #### Without their order -/

theorem perm_keyedRecords (h : records.Perm others) :
    (keyedRecords records).Perm (keyedRecords others) :=
  h.filterMap _

theorem AreConsistent.of_perm (h : AreConsistent records) (hperm : records.Perm others) :
    AreConsistent others where
  nodup := ((perm_keyedRecords hperm).map _).nodup_iff.mp h.nodup
  acyclic := by
    have hsub (child parent : String) (hlink : DeclaresParent others child parent) :
        DeclaresParent records child parent := by
      obtain ⟨r, hr, hparent⟩ := hlink
      exact ⟨r, (perm_keyedRecords hperm).mem_iff.mpr hr, hparent⟩
    exact fun key hcycle => h.acyclic key (TransGen.mono hsub key key hcycle)

theorem declaredTraits_of_perm (h : AreConsistent records) (hperm : records.Perm others) :
    declaredTraits others = declaredTraits records := by
  funext key
  unfold declaredTraits
  rw [lookup_eq_of_perm h.nodup (perm_keyedRecords hperm), (perm_keyedRecords hperm).any_eq]

theorem declaredParentKey_of_perm (h : AreConsistent records) (hperm : records.Perm others) :
    declaredParentKey others = declaredParentKey records := by
  funext key
  rw [declaredParentKey, declaredParentKey, lookup_eq_of_perm h.nodup (perm_keyedRecords hperm)]

namespace Forest

variable {forest : Forest}

/-! ### The traits of entities -/

/-- What the entity under a key says but for its name. -/
def traits? (forest : Forest) (key : String) : Option (Bool × Option String) :=
  (forest.entity? key).map fun e => (e.isAbstract, e.predefinedTypeEnum)

theorem traits?_ensure (forest : Forest) (name key : String) :
    (forest.ensure name).traits? key =
      if key = Text.foldCase name then some ((forest.traits? key).getD (false, none))
      else forest.traits? key := by
  rw [traits?, entity?_ensure, traits?]
  split
  · cases forest.entity? key <;> rfl
  · rfl

theorem traits?_link (forest : Forest) (child parent key : String) :
    (forest.link child parent).traits? key = forest.traits? key := by
  rw [traits?, entity?, entities_link, traits?, entity?]

/-- A declaration says everything of an entity that has no enumeration yet. -/
theorem traits?_describe {name : String} {enum : Option String} {isAbstract : Bool}
    (hold : ∀ t, forest.traits? (Text.foldCase name) = some t → t.2 = none) (key : String) :
    (forest.describe name enum isAbstract).traits? key =
      if key = Text.foldCase name then some (isAbstract, enum.filter (· ≠ ""))
      else forest.traits? key := by
  have hdeclared (e : Entity) (he : e.predefinedTypeEnum = none) :
      (Entity.declared e enum isAbstract).predefinedTypeEnum = enum.filter (· ≠ "") := by
    cases enum with
    | none => exact he
    | some text =>
      by_cases htext : text = "" <;> simp [Entity.declared, he, htext, Option.filter]
  rw [traits?, entity?_describe]
  split
  · refine congrArg some (Prod.ext rfl (hdeclared _ ?_))
    cases he : forest.entity? (Text.foldCase name) with
    | none => rfl
    | some e => exact hold _ (by rw [traits?, he]; rfl)
  · rfl

/-! ### Reports -/

/-- No link is refused. -/
def RefusesNothing (log : List Diagnostic) : Prop :=
  ∀ name parent, .refusedCycle name parent ∉ log

theorem refusesNothing_declaredParent (name : String) (parent : Option String) :
    RefusesNothing (declaredParent name parent).log := by
  intro child above
  unfold declaredParent
  cases parent with
  | none => exact List.not_mem_nil
  | some parent =>
    dsimp only
    split
    · exact List.not_mem_nil
    · split
      · exact List.not_mem_nil
      · rw [Report.log_bind, Report.log_pure, List.append_nil]
        exact fun hmem => nomatch List.mem_singleton.mp hmem

theorem value_declaredParent (name : String) (parent : Option String) :
    (declaredParent name parent).value = parent.filter PsetCompiler.isEntityName := by
  cases parent with
  | none => rfl
  | some parent =>
    cases h : PsetCompiler.isEntityName parent with
    | true => rw [declaredParent_of_isEntityName name h, Option.filter_some_pos h]; rfl
    | false =>
      rw [Option.filter_some_neg (by simp [h])]
      unfold declaredParent
      dsimp only
      split
      · rfl
      · rw [h]
        rfl

/-- A declaration of what is no entity changes nothing. -/
theorem add_of_not_isEntityName {name : String} (hname : ¬PsetCompiler.isEntityName name = true)
    (parent enum : Option String) (isAbstract : Bool) :
    forest.add name parent enum isAbstract = ⟨forest, [.ignoredEntity name]⟩ := by
  rw [add, if_neg hname]
  rfl

/-- A declaration whose parent is none that is an entity describes the entity. -/
theorem add_of_filter_eq_none {name : String} {parent : Option String}
    (hname : PsetCompiler.isEntityName name = true)
    (hparent : parent.filter PsetCompiler.isEntityName = none) (enum : Option String)
    (isAbstract : Bool) :
    forest.add name parent enum isAbstract =
      ⟨forest.describe name enum isAbstract, (declaredParent name parent).log⟩ := by
  have hvalue := (value_declaredParent name parent).trans hparent
  rw [add, if_pos hname]
  refine Report.ext ?_ ?_
  · rw [Report.value_bind, hvalue]
    rfl
  · rw [Report.log_bind, hvalue]
    exact List.append_nil _

/-! ### On the way -/

/-- A forest says what some declarations do. -/
structure Reflects (records : List EntityRecord) (forest : Forest) : Prop where
  wellFormed : forest.WellFormed
  traits?_eq : ∀ key, forest.traits? key = declaredTraits records key
  parent?_eq : ∀ key, forest.parent? key = declaredParentKey records key

theorem reflects_nil (version : String) (enums : List (String × List String)) :
    Reflects [] { version, predefinedTypeEnums := enums } where
  wellFormed := wellFormed_empty version enums
  traits?_eq := fun _ => rfl
  parent?_eq := fun _ => rfl

namespace Reflects

variable (h : Reflects records forest)
include h

/-- What was not declared has no parent. -/
theorem parent?_eq_none (hnew : key ∉ (keyedRecords records).map (·.1)) :
    forest.parent? key = none := by
  rw [h.parent?_eq, declaredParentKey, lookup_eq_none_iff_notMem_keys.mpr hnew]
  rfl

/-- What was not declared is a placeholder, if it is there. -/
theorem eq_of_traits? (hnew : key ∉ (keyedRecords records).map (·.1)) :
    ∀ t, forest.traits? key = some t → t = (false, none) := by
  intro t ht
  rw [h.traits?_eq, declaredTraits, lookup_eq_none_iff_notMem_keys.mpr hnew] at ht
  dsimp only at ht
  split at ht
  · exact (Option.some.inj ht).symm
  · cases ht

theorem strictlyBelow {above : String} (hbelow : forest.StrictlyBelow key above) :
    TransGen (DeclaresParent records) key above :=
  TransGen.mono (fun _ _ hparent =>
    declaresParent_of_declaredParentKey ((h.parent?_eq _).symm.trans hparent)) key above hbelow

/-- A name that is not that of an entity is passed over. -/
theorem add_ignored (hkey : r.key? = none) :
    Reflects (records ++ [r]) forest where
  wellFormed := h.wellFormed
  traits?_eq := by
    intro key
    rw [h.traits?_eq, declaredTraits, declaredTraits, keyedRecords_concat_of_none hkey]
  parent?_eq := by
    intro key
    rw [h.parent?_eq, declaredParentKey, declaredParentKey, keyedRecords_concat_of_none hkey]

section

variable (hkey : r.key? = some key) (hnew : key ∉ (keyedRecords records).map (·.1))
include hkey hnew

/-- An entity is declared without a parent. -/
theorem describe (hparent : r.parentKey? = none) :
    Reflects (records ++ [r]) (forest.describe r.name r.predefinedTypeEnum r.isAbstract) := by
  obtain ⟨hname, rfl⟩ := EntityRecord.key?_eq_some_iff.mp hkey
  refine
    { wellFormed := h.wellFormed.describe hname _ _
      traits?_eq := fun other => ?_
      parent?_eq := fun other => ?_ }
  · have hold := fun t ht => congrArg Prod.snd (h.eq_of_traits? hnew t ht)
    rw [traits?_describe hold, declaredTraits_concat hkey hnew, hparent, h.traits?_eq]
    simp only [reduceCtorEq, if_false]
    rfl
  · rw [parent?_describe, declaredParentKey_concat hkey hnew, hparent]
    split
    · next heq => rw [heq, h.parent?_eq_none hnew]
    · exact h.parent?_eq other

/-- An entity is declared with a parent: for that one a placeholder is made, unless it is there, and
the link to it closes no cycle. -/
theorem link {parent : String} (hparent : r.parent = some parent)
    (hentity : PsetCompiler.isEntityName parent = true)
    (hacyclic : ∀ key, ¬ TransGen (DeclaresParent (records ++ [r])) key key) :
    let made := (forest.ensure parent).describe r.name r.predefinedTypeEnum r.isAbstract
    key ∉ Text.foldCase parent :: made.ancestors (Text.foldCase parent) ∧
      Reflects (records ++ [r]) (made.link key (Text.foldCase parent)) := by
  intro made
  obtain ⟨hname, rfl⟩ := EntityRecord.key?_eq_some_iff.mp hkey
  have hparentKey : r.parentKey? = some (Text.foldCase parent) := by
    rw [EntityRecord.parentKey?, hparent, Option.filter_some_pos hentity, Option.map_some]
  have hmade : made.WellFormed :=
    (h.wellFormed.ensure hentity).describe hname _ _
  have hparents (other : String) : made.parent? other = forest.parent? other := by
    rw [parent?_describe, parent?, links_ensure, parent?]
  have hlink : DeclaresParent (records ++ [r]) (Text.foldCase r.name) (Text.foldCase parent) := by
    refine ⟨r, ?_, hparentKey⟩
    rw [keyedRecords_concat hkey]
    exact List.mem_append_right _ List.mem_cons_self
  have hself : Text.foldCase r.name ≠ Text.foldCase parent := fun heq =>
    hacyclic _ (.single (heq ▸ hlink))
  have hcycle : Text.foldCase r.name ∉
      Text.foldCase parent :: made.ancestors (Text.foldCase parent) := by
    rw [List.mem_cons, not_or]
    refine ⟨hself, fun hmem => ?_⟩
    -- a way up from the parent follows declared links, and one more of them comes back to it
    have hbelow : forest.StrictlyBelow (Text.foldCase parent) (Text.foldCase r.name) :=
      TransGen.mono (fun child above habove => (hparents child).symm.trans habove) _ _
        (hmade.mem_ancestors_iff.mp hmem)
    have hdeclared := TransGen.mono (fun _ _ hlink => hlink.append [r]) _ _
      (h.strictlyBelow hbelow)
    exact hacyclic _ (.head hlink hdeclared)
  refine ⟨hcycle, ?_⟩
  refine
    { wellFormed := hmade.link ?_ ?_ hcycle
      traits?_eq := fun other => ?_
      parent?_eq := fun other => ?_ }
  · rw [keys_describe]
    exact mem_keys_ensure _ _
  · rw [keys_describe]
    exact keys_subset_ensure _ _ (mem_keys_ensure _ _)
  · have hold : ∀ t, (forest.ensure parent).traits? (Text.foldCase r.name) = some t →
        t.2 = none := by
      intro t ht
      rw [traits?_ensure, if_neg hself] at ht
      exact congrArg Prod.snd (h.eq_of_traits? hnew t ht)
    rw [traits?_link, traits?_describe hold, traits?_ensure, declaredTraits_concat hkey hnew,
      hparentKey, ← h.traits?_eq]
    simp only [Option.some_inj, @eq_comm _ (Text.foldCase parent) other]
    rfl
  · rw [parent?_link, hparents, h.parent?_eq, declaredParentKey_concat hkey hnew, hparentKey]

end

/-- **One more declaration is reflected**, and no link is refused. -/
theorem add (hrecords : AreConsistent (records ++ [r])) :
    let declared := forest.add r.name r.parent r.predefinedTypeEnum r.isAbstract
    Reflects (records ++ [r]) declared.value ∧ RefusesNothing declared.log := by
  dsimp only
  cases hkey : r.key? with
  | none =>
    have hname : ¬PsetCompiler.isEntityName r.name = true := by
      intro hname
      rw [EntityRecord.key?, if_pos hname] at hkey
      cases hkey
    rw [add_of_not_isEntityName hname]
    exact ⟨h.add_ignored hkey, fun _ _ hmem => nomatch List.mem_singleton.mp hmem⟩
  | some key =>
    obtain ⟨hname, hfold⟩ := EntityRecord.key?_eq_some_iff.mp hkey
    have hnew := key_notMem_of_nodup hrecords.nodup hkey
    cases hparent : r.parent.filter PsetCompiler.isEntityName with
    | none =>
      have hroot : r.parentKey? = none := by rw [EntityRecord.parentKey?, hparent, Option.map_none]
      rw [add_of_filter_eq_none hname hparent]
      exact ⟨h.describe hkey hnew hroot, refusesNothing_declaredParent _ _⟩
    | some parent =>
      obtain ⟨hgiven, hentity⟩ := Option.filter_eq_some_iff.mp hparent
      obtain ⟨hcycle, hreflects⟩ := h.link hkey hnew hgiven hentity hrecords.acyclic
      rw [← hfold] at hcycle hreflects
      rw [hgiven, add_of_some hname hentity _ _ hcycle]
      exact ⟨hreflects, fun _ _ => List.not_mem_nil⟩

/-- Many declarations are reflected, and no link is refused. -/
theorem addRecords (hrecords : AreConsistent (records ++ others)) :
    Reflects (records ++ others) (forest.addRecords others).value ∧
      RefusesNothing (forest.addRecords others).log := by
  induction others generalizing records forest with
  | nil =>
    rw [List.append_nil]
    exact ⟨h, fun _ _ => List.not_mem_nil⟩
  | cons r rest ih =>
    rw [List.append_cons] at hrecords ⊢
    obtain ⟨hfirst, hquiet⟩ := h.add hrecords.of_append
    obtain ⟨hrest, hquiet'⟩ := ih hfirst hrecords
    refine ⟨hrest, fun name parent hmem => ?_⟩
    rw [Forest.addRecords, Report.log_bind, List.mem_append] at hmem
    exact hmem.elim (hquiet name parent) (hquiet' name parent)

end Reflects

/-! ### In the end -/

/-- What declarations make: a forest that says what they do.  No link is refused. -/
theorem reflects_ofRecords (h : AreConsistent records) (version : String)
    (enums : List (String × List String)) :
    Reflects records (ofRecords version records enums).value ∧
      RefusesNothing (ofRecords version records enums).log := by
  have hall : AreConsistent ([] ++ records) := h
  obtain ⟨hmade, hquiet⟩ := (reflects_nil version []).addRecords hall
  refine ⟨⟨hmade.wellFormed.withEnums enums, hmade.traits?_eq, hmade.parent?_eq⟩, ?_⟩
  intro name parent hmem
  rw [ofRecords, Report.log_bind, Report.log_pure, List.append_nil] at hmem
  exact hquiet name parent hmem

/-- Forests that say the same have the same keys and parents. -/
theorem SameShape.of_traits?_eq {forest other : Forest}
    (htraits : ∀ key, other.traits? key = forest.traits? key)
    (hparents : ∀ key, other.parent? key = forest.parent? key) : forest.SameShape other where
  isSome_eq := by
    intro key
    have hkey := congrArg Option.isSome (htraits key)
    rwa [traits?, traits?, Option.isSome_map, Option.isSome_map] at hkey
  parent?_eq := hparents

theorem SameShape.perm_keys {forest other : Forest} (h : forest.SameShape other)
    (hforest : forest.WellFormed) (hother : other.WellFormed) :
    (other.entities.map (·.1)).Perm (forest.entities.map (·.1)) := by
  rw [List.perm_ext_iff_of_nodup hother.nodup_keys hforest.nodup_keys]
  intro key
  rw [← lookup_isSome_iff_mem_keys, ← lookup_isSome_iff_mem_keys]
  exact iff_of_eq (congrArg (· = true) (h.isSome_eq key))

/-- **The order of declarations does not matter**, when no name is declared twice, in whatever case,
and the declared parents close no cycle.  In another order the same keys have entities, each with
the same flag, enumeration and parent; so all questions about inheritance have the same answers.  No
link is refused in either order. -/
theorem ofRecords_of_perm (h : AreConsistent records) (hperm : records.Perm others)
    (version : String) (enums : List (String × List String)) :
    let made := ofRecords version records enums
    let other := ofRecords version others enums
    (other.value.entities.map (·.1)).Perm (made.value.entities.map (·.1)) ∧
      (∀ key, other.value.traits? key = made.value.traits? key) ∧
      (∀ key, other.value.parent? key = made.value.parent? key) ∧
      (∀ entity target strict,
        other.value.isSubtypeOf entity target strict =
            made.value.isSubtypeOf entity target strict ∧
          other.value.isSupertypeOf entity target strict =
            made.value.isSupertypeOf entity target strict) ∧
      RefusesNothing made.log ∧ RefusesNothing other.log := by
  intro made other
  obtain ⟨hmade, hquiet⟩ := reflects_ofRecords h version enums
  obtain ⟨hother, hquiet'⟩ := reflects_ofRecords (h.of_perm hperm) version enums
  have htraits (key : String) : other.value.traits? key = made.value.traits? key := by
    rw [hother.traits?_eq, hmade.traits?_eq, declaredTraits_of_perm h hperm]
  have hparents (key : String) : other.value.parent? key = made.value.parent? key := by
    rw [hother.parent?_eq, hmade.parent?_eq, declaredParentKey_of_perm h hperm]
  have hshape : made.value.SameShape other.value := .of_traits?_eq htraits hparents
  refine ⟨hshape.perm_keys hmade.wellFormed hother.wellFormed, htraits, hparents, ?_, hquiet,
    hquiet'⟩
  intro entity target strict
  exact ⟨hshape.isSubtypeOf_eq hmade.wellFormed hother.wellFormed entity target strict,
    hshape.isSupertypeOf_eq hmade.wellFormed hother.wellFormed entity target strict⟩

/-- A door is declared before what it inherits from, and mentions that in another case; the root of
all is only mentioned. -/
def doorRecords : List EntityRecord :=
  [{ name := "IfcDoor", parent := some "IfcBUILDINGELEMENT"
     predefinedTypeEnum := some "IfcDoorTypeEnum" },
    { name := "IfcBuildingElement", parent := some "IfcElement", isAbstract := true },
    { name := "IfcElement", parent := some "IfcProduct", predefinedTypeEnum := some "" },
    { name := "xs:string", parent := some "IfcDoor" }]

theorem ofRecords_of_perm_doors :
    AreConsistent doorRecords ∧ doorRecords.Perm doorRecords.reverse ∧
      (ofRecords "IFC4" doorRecords.reverse).value.nameOf "ifcbuildingelement" =
        "IfcBuildingElement" ∧
      (ofRecords "IFC4" doorRecords).value.nameOf "ifcbuildingelement" = "IfcBUILDINGELEMENT" ∧
      (∀ key, (ofRecords "IFC4" doorRecords.reverse).value.traits? key =
        (ofRecords "IFC4" doorRecords).value.traits? key) ∧
      RefusesNothing (ofRecords "IFC4" doorRecords.reverse).log := by
  have hconsistent : AreConsistent doorRecords :=
    .of_rank (by decide +kernel)
      (["ifcdoor", "ifcbuildingelement", "ifcelement", "ifcproduct"].idxOf ·) (by decide +kernel)
  have hperm : doorRecords.Perm doorRecords.reverse := (List.reverse_perm _).symm
  obtain ⟨-, htraits, -, -, -, hquiet⟩ := ofRecords_of_perm hconsistent hperm "IFC4" []
  exact ⟨hconsistent, hperm, by decide +kernel, by decide +kernel, htraits, hquiet⟩

end Forest

end PsetCompiler
