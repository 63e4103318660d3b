import PsetCompiler.Proofs.Applicability.Resolve
import PsetCompiler.Proofs.Text.Split

/-!
# Pairs of entities

An entity of instances and its entity of types are named alike but for an ending, and what is
attached to one of them is attached to the other.  Which of the two an entity is, is told by the
ending of its name as it is spelled, while its pair is looked up in any case.  So an entity of types
that is spelled with another ending is found from its entity of instances and does not find it, and
an entity whose name has the ending twice is paired with one that is paired with a third.

What is attached to an entity comes from the classes that are the entity itself or have it for their
pair.  Two entities therefore share all their sets when each of them is the pair of the other and of
nothing else, and this is a matter of the spelling of a few names.

## Main definitions

* `Forest.PairsWith` — an entity has another one for its pair.
* `SharesSets` — the same sets are attached to two entities, whatever the definitions are.
* `Forest.PairsPlainly` — the entities of a pair are spelled as such, and no third one is in the way.

## Main results

* `Forest.WellFormed.pairsWith_iff` — the pair of an entity, by the spelling of its name.
* `Forest.WellFormed.sharesSets_iff` — sharing, by the pairs of all entities.
* `sharesSets_iff_pairsPlainly` — **when the entities of a pair share their sets.**
-/

namespace PsetCompiler

/-! ### Endings of names -/

namespace Text

theorem endsWith_append (start tail : String) : endsWith tail (start ++ tail) = true := by
  rw [endsWith, String.toList_append]
  exact List.isSuffixOf_iff_suffix.mpr (List.suffix_append _ _)

theorem exists_append_of_endsWith {tail s : String} (h : endsWith tail s = true) :
    ∃ start, s = start ++ tail := by
  obtain ⟨start, hstart⟩ := List.isSuffixOf_iff_suffix.mp h
  refine ⟨String.ofList start, String.toList_injective ?_⟩
  rw [String.toList_append, String.toList_ofList, hstart]

theorem foldCase_append_inj {s t tail : String} :
    foldCase (s ++ tail) = foldCase (t ++ tail) ↔ foldCase s = foldCase t := by
  rw [foldCase_append, foldCase_append, ← String.toList_inj, String.toList_append,
    String.toList_append, List.append_left_inj, String.toList_inj]

end Text

/-- A name is longer by the ending, so it folds to something longer. -/
theorem length_foldCase_append_typeEnding (s : String) :
    (Text.foldCase (s ++ typeEnding)).length = (Text.foldCase s).length + 4 := by
  rw [Text.foldCase_append, String.length_append]
  rfl

theorem pairedName_append (start : String) : pairedName (start ++ typeEnding) = start := by
  rw [pairedName, if_pos (Text.endsWith_append _ _), String.toList_append, List.length_append,
    Nat.add_sub_cancel, List.take_left, String.ofList_toList]

/-- The name of the pair, compared without case: it has the ending if the name has it not. -/
theorem foldCase_pairedName_eq_iff {name other : String} :
    Text.foldCase (pairedName name) = Text.foldCase other ↔
      if Text.endsWith typeEnding name then
        Text.foldCase name = Text.foldCase (other ++ typeEnding)
      else Text.foldCase (name ++ typeEnding) = Text.foldCase other := by
  split
  · next hending =>
    obtain ⟨start, rfl⟩ := Text.exists_append_of_endsWith hending
    rw [pairedName_append, Text.foldCase_append_inj]
  · next hending => rw [pairedName, if_neg hending]

/-! ### Pairs of stored entities -/

namespace Forest

/-- The first entity has the second one for its pair. -/
def PairsWith (forest : Forest) (m n : Entity) : Prop :=
  pairedEntity forest m.name = some n.name

namespace WellFormed

variable {forest : Forest} (h : forest.WellFormed) {key : String} {n : Entity}
  (hn : forest.entity? key = some n)
include h hn

theorem foldCase_name_ne_empty : Text.foldCase n.name ≠ "" := by
  obtain ⟨rest, hrest⟩ := Text.exists_append_of_startsWith (h.isEntityName _ (mem_of_lookup hn))
  intro hempty
  have hlength := congrArg String.length hempty
  have hstart : (Text.foldCase "Ifc").length = 3 := by decide
  rw [hrest, Text.foldCase_append, String.length_append, hstart, String.length_empty] at hlength
  omega

/-- An entity is found by the names that differ from its own in case only. -/
theorem find?_eq_some_iff_foldCase {s : String} :
    forest.find? s = some n ↔ Text.foldCase s = Text.foldCase n.name := by
  have hkey : key = Text.foldCase n.name := h.key_eq _ (mem_of_lookup hn)
  constructor
  · intro hfound
    obtain ⟨k, hk, hkn⟩ := find?_eq_some_iff.mp hfound
    have hkey' : k = Text.foldCase n.name := h.key_eq _ (mem_of_lookup hkn)
    rw [← hkey', (key?_eq_some_iff.mp hk).2.1]
  · intro heq
    refine find?_eq_some_iff.mpr ⟨key, key?_eq_some_iff.mpr ⟨?_, ?_, mem_keys_of_entity? hn⟩, hn⟩
    · rintro rfl
      exact h.foldCase_name_ne_empty hn heq.symm
    · rw [hkey, heq]

/-- Entities whose names differ in case only are one. -/
theorem eq_of_foldCase_eq {m : Entity} {key' : String} (hm : forest.entity? key' = some m)
    (hname : Text.foldCase m.name = Text.foldCase n.name) : m = n := by
  have hfound := (h.find?_eq_some_iff_foldCase hn).mpr hname
  rw [h.find?_name hm] at hfound
  exact Option.some.inj hfound

/-- What is stored has a stored entity for its pair if their names say so, and only what it is
spelled as counts for the one, while for the other case does not matter. -/
theorem pairsWith_iff {m : Entity} :
    forest.PairsWith m n ↔
      if Text.endsWith typeEnding m.name then
        Text.foldCase m.name = Text.foldCase (n.name ++ typeEnding)
      else Text.foldCase (m.name ++ typeEnding) = Text.foldCase n.name := by
  rw [← foldCase_pairedName_eq_iff, ← h.find?_eq_some_iff_foldCase hn, PairsWith, pairedEntity,
    Option.map_eq_some_iff]
  constructor
  · rintro ⟨other, hother, hname⟩
    obtain ⟨k, -, hk⟩ := find?_eq_some_iff.mp hother
    rw [hother, h.eq_of_foldCase_eq hn hk (congrArg Text.foldCase hname)]
  · intro hfound
    exact ⟨n, hfound, rfl⟩

end WellFormed

end Forest

/-! ### Shared sets -/

/-- The same sets are attached to two entities, whatever the definitions are. -/
def SharesSets (forest : Forest) (e t : Entity) : Prop :=
  ∀ psets q, q ∈ (directApplicability forest psets).value.setsOf e.name ↔
    q ∈ (directApplicability forest psets).value.setsOf t.name

namespace Forest.WellFormed

variable {forest : Forest} (h : forest.WellFormed)
include h

/-- A class that is stored gives its sets to itself and to its pair. -/
theorem givesTo_name_iff {key key' : String} {m n : Entity} (hm : forest.entity? key = some m)
    (hn : forest.entity? key' = some n) {name : String} (hname : forest.find? name = some m) :
    GivesTo forest name n.name ↔ m = n ∨ forest.PairsWith m n := by
  rw [GivesTo, hname]
  refine or_congr_left ⟨fun heq => ?_, ?_⟩
  · exact h.eq_of_foldCase_eq hn hm (congrArg Text.foldCase heq.symm)
  · rintro rfl
    rfl

/-- A class that is not stored gives nothing to an entity. -/
theorem not_givesTo_name {key : String} {n : Entity} (hn : forest.entity? key = some n)
    {name : String} (hname : forest.find? name = none) : ¬GivesTo forest name n.name := by
  rw [GivesTo, hname]
  rintro rfl
  rw [h.find?_name hn] at hname
  cases hname

/-- Two entities share their sets when the same classes give to both. -/
theorem sharesSets_iff {ke kt : String} {e t : Entity} (he : forest.entity? ke = some e)
    (ht : forest.entity? kt = some t) :
    SharesSets forest e t ↔ ∀ key m, forest.entity? key = some m →
      ((m = e ∨ forest.PairsWith m e) ↔ (m = t ∨ forest.PairsWith m t)) := by
  constructor
  · intro hshares key m hm
    -- a set that has only this class tells whom the class gives to
    have hgives (n : Entity) : "" ∈ (directApplicability forest
        [{ name := "", version := "", release := "", applicableClasses := [m.name] }]).value.setsOf
          n.name ↔ GivesTo forest m.name n.name := by
      rw [mem_sets_directApplicability_iff]
      simp
    have hm' := h.find?_name hm
    rw [← h.givesTo_name_iff hm he hm', ← h.givesTo_name_iff hm ht hm', ← hgives e, ← hgives t]
    exact hshares _ _
  · intro hall psets q
    have hgives (name : String) : GivesTo forest name e.name ↔ GivesTo forest name t.name := by
      cases hname : forest.find? name with
      | none => exact iff_of_false (h.not_givesTo_name he hname) (h.not_givesTo_name ht hname)
      | some m =>
        obtain ⟨key, -, hm⟩ := find?_eq_some_iff.mp hname
        rw [h.givesTo_name_iff hm he hname, h.givesTo_name_iff hm ht hname]
        exact hall key m hm
    rw [mem_sets_directApplicability_iff, mem_sets_directApplicability_iff]
    simp only [hgives]

end Forest.WellFormed

/-! ### Plain pairs -/

/-- An entity of instances and its entity of types are spelled as such, and no third entity has one
of them for its pair. -/
structure Forest.PairsPlainly (forest : Forest) (e t : Entity) : Prop where
  /-- The entity of instances does not end as an entity of types does, -/
  instance_ending : Text.endsWith typeEnding e.name = false
  /-- and the entity of types does, in the same letters. -/
  type_ending : Text.endsWith typeEnding t.name = true
  /-- What would have the entity of instances for its pair is spelled as an entity of types. -/
  none_before : ∀ key m, forest.entity? key = some m →
    Text.foldCase (m.name ++ typeEnding) = Text.foldCase e.name →
      Text.endsWith typeEnding m.name = true
  /-- What would have the entity of types for its pair is spelled as an entity of instances. -/
  none_behind : ∀ key m, forest.entity? key = some m →
    Text.foldCase m.name = Text.foldCase (t.name ++ typeEnding) →
      Text.endsWith typeEnding m.name = false

namespace Forest.WellFormed

variable {forest : Forest} (h : forest.WellFormed) {ke kt : String} {e t : Entity}
  (he : forest.entity? ke = some e) (ht : forest.entity? kt = some t)
  (htype : Text.foldCase t.name = Text.foldCase (e.name ++ typeEnding))
include h he ht htype

/-- A pair that shares all its sets is plain: a class that broke the rules would give to one of the
two entities only. -/
theorem pairsPlainly_of_sharesSets (hshares : SharesSets forest e t) :
    forest.PairsPlainly e t := by
  have hall := (h.sharesSets_iff he ht).mp hshares
  have hlength : (Text.foldCase t.name).length = (Text.foldCase e.name).length + 4 := by
    rw [htype, length_foldCase_append_typeEnding]
  have hne : e ≠ t := by
    rintro rfl
    omega
  -- nothing has both of them for its pair
  have hone {m : Entity} (hme : forest.PairsWith m e) : ¬forest.PairsWith m t := by
    intro hmt
    have hname := Option.some.inj (hme.symm.trans hmt)
    exact hne (h.eq_of_foldCase_eq ht he (congrArg Text.foldCase hname))
  refine
    { instance_ending := ?_
      type_ending := ?_
      none_before := fun key m hm heq => ?_
      none_behind := fun key m hm heq => ?_ }
  · rcases (hall ke e he).mp (.inl rfl) with heq | hpair
    · exact absurd heq hne
    · rw [h.pairsWith_iff ht] at hpair
      cases hending : Text.endsWith typeEnding e.name with
      | false => rfl
      | true =>
        rw [if_pos hending] at hpair
        have hlong := congrArg String.length hpair
        rw [length_foldCase_append_typeEnding] at hlong
        omega
  · rcases (hall kt t ht).mpr (.inl rfl) with heq | hpair
    · exact absurd heq.symm hne
    · rw [h.pairsWith_iff he] at hpair
      cases hending : Text.endsWith typeEnding t.name with
      | true => rfl
      | false =>
        rw [if_neg (by rw [hending]; exact Bool.false_ne_true)] at hpair
        have hlong := congrArg String.length hpair
        rw [length_foldCase_append_typeEnding] at hlong
        omega
  · by_contra hending
    have hme : forest.PairsWith m e := by
      rw [h.pairsWith_iff he, if_neg hending]
      exact heq
    rcases (hall key m hm).mp (.inr hme) with rfl | hmt
    · have hlong := congrArg String.length heq
      rw [length_foldCase_append_typeEnding] at hlong
      omega
    · exact hone hme hmt
  · by_contra hending
    have hmt : forest.PairsWith m t := by
      rw [h.pairsWith_iff ht, if_pos (Bool.not_eq_false _ ▸ hending)]
      exact heq
    rcases (hall key m hm).mpr (.inr hmt) with rfl | hme
    · have hlong := congrArg String.length heq
      rw [length_foldCase_append_typeEnding] at hlong
      omega
    · exact hone hme hmt

/-- A plain pair shares all its sets: each entity is the pair of the other and of nothing else. -/
theorem sharesSets_of_pairsPlainly (hplain : forest.PairsPlainly e t) : SharesSets forest e t := by
  have hinstance : ¬Text.endsWith typeEnding e.name = true := by
    rw [hplain.instance_ending]
    exact Bool.false_ne_true
  have het : forest.PairsWith e t := by
    rw [h.pairsWith_iff ht, if_neg hinstance, htype]
  have hte : forest.PairsWith t e := by
    rw [h.pairsWith_iff he, if_pos hplain.type_ending, htype]
  refine (h.sharesSets_iff he ht).mpr fun key m hm => ?_
  by_cases hme : m = e
  · subst hme
    exact iff_of_true (.inl rfl) (.inr het)
  by_cases hmt : m = t
  · subst hmt
    exact iff_of_true (.inr hte) (.inl rfl)
  refine iff_of_false ?_ ?_
  · rintro (heq | hpair)
    · exact hme heq
    · rw [h.pairsWith_iff he] at hpair
      split at hpair
      · exact hmt (h.eq_of_foldCase_eq ht hm (hpair.trans htype.symm))
      · next hending => exact hending (hplain.none_before key m hm hpair)
  · rintro (heq | hpair)
    · exact hmt heq
    · rw [h.pairsWith_iff ht] at hpair
      split at hpair
      · next hending =>
        rw [hplain.none_behind key m hm hpair] at hending
        cases hending
      · rw [htype, Text.foldCase_append_inj] at hpair
        exact hme (h.eq_of_foldCase_eq he hm hpair)

end Forest.WellFormed

/-- **When the entities of a pair share their sets.**  In every forest that declarations make, let
an entity and one that is named like it with the ending of types be found, in any case.  Whatever
the definitions are, the same sets are attached to both, exactly if they are spelled as entities of
instances and of types and no third entity has one of them for its pair. -/
theorem sharesSets_iff_pairsPlainly (version : String) (enums : List (String × List String))
    (records : List EntityRecord) {name : String} {e t : Entity}
    (he : (Forest.addRecords { version, predefinedTypeEnums := enums } records).value.find? name =
      some e)
    (ht : (Forest.addRecords { version, predefinedTypeEnums := enums } records).value.find?
      (name ++ typeEnding) = some t) :
    SharesSets (Forest.addRecords { version, predefinedTypeEnums := enums } records).value e t ↔
      (Forest.addRecords { version, predefinedTypeEnums := enums } records).value.PairsPlainly
        e t := by
  have h := (Forest.wellFormed_empty version enums).addRecords records
  obtain ⟨ke, -, hke⟩ := Forest.find?_eq_some_iff.mp he
  obtain ⟨kt, -, hkt⟩ := Forest.find?_eq_some_iff.mp ht
  have hname := (h.find?_eq_some_iff_foldCase hke).mp he
  have htype : Text.foldCase t.name = Text.foldCase (e.name ++ typeEnding) := by
    rw [← (h.find?_eq_some_iff_foldCase hkt).mp ht, Text.foldCase_append_inj, hname]
  exact ⟨h.pairsPlainly_of_sharesSets hke hkt htype, h.sharesSets_of_pairsPlainly hke hkt htype⟩

/-- The schema of some entities without parents. -/
def schemaOfNames (names : List String) : Forest :=
  (Forest.addRecords { version := "IFC4" } (names.map ({ name := · }))).value

theorem sharesSets_iff_pairsPlainly_walls :
    (schemaOfNames ["IfcWall", "IfcWallType"]).find? "ifcwall" = some { name := "IfcWall" } ∧
    (schemaOfNames ["IfcWall", "IfcWallType"]).find? ("ifcwall" ++ typeEnding) =
      some { name := "IfcWallType" } ∧
    (SharesSets (schemaOfNames ["IfcWall", "IfcWallType"])
        { name := "IfcWall" } { name := "IfcWallType" } ↔
      (schemaOfNames ["IfcWall", "IfcWallType"]).PairsPlainly
        { name := "IfcWall" } { name := "IfcWallType" }) := by
  have he : (schemaOfNames ["IfcWall", "IfcWallType"]).find? "ifcwall" =
      some { name := "IfcWall" } := by decide +kernel
  have ht : (schemaOfNames ["IfcWall", "IfcWallType"]).find? ("ifcwall" ++ typeEnding) =
      some { name := "IfcWallType" } := by decide +kernel
  exact ⟨he, ht, sharesSets_iff_pairsPlainly "IFC4" [] _ he ht⟩

/-- The sets of an entity of types are not attached to its entity of instances if it is spelled with
another ending, though its pair finds it. -/
theorem not_sharesSets_walls :
    (schemaOfNames ["IfcWall", "IfcWALLTYPE"]).find? "IfcWall" = some { name := "IfcWall" } ∧
    (schemaOfNames ["IfcWall", "IfcWALLTYPE"]).find? ("IfcWall" ++ typeEnding) =
      some { name := "IfcWALLTYPE" } ∧
    ¬SharesSets (schemaOfNames ["IfcWall", "IfcWALLTYPE"])
      { name := "IfcWall" } { name := "IfcWALLTYPE" } := by
  refine ⟨by decide +kernel, by decide +kernel, fun hshares => ?_⟩
  have hset := hshares [{ name := "Pset_WallCommon", version := "IFC4", release := "IFC4"
                          applicableClasses := ["IfcWallType"] }] "Pset_WallCommon"
  exact absurd hset (by decide +kernel)

end PsetCompiler
