import PsetCompiler.Proofs.Entity.Restored

/-!
# Predefined types behind the written form

An entity takes its predefined types from the first enumeration that is there, of the one it names
and of two that are named after it.  Enumerations are found without case, while they are told apart
with it.  Of several spellings of one name the last one counts, in the order of the enumerations.

The written form lists the enumerations in order of their names, and they stay in this order when it
is read.  So behind the written form the greatest spelling counts, whichever was the last one
before.  An entity keeps its predefined types unless these two say something different.

## Main definitions

* `Forest.TakesFrom` — the enumeration that an entity takes its predefined types from.
* `Forest.LastSpelling`, `Forest.GreatestSpelling` — the spelling that counts before and behind.
* `Forest.TypesRestored` — what becomes of the predefined types.

## Main results

* `Forest.predefinedTypes_of_takesFrom` — the last spelling counts.
* `Forest.LastSpelling.greatest_of_sorted` — after sorting it is the greatest one.
* `Forest.IsDeclared.typesRestored_ofDocument` — **which predefined types are there again when the
  written form is read.**
* `Forest.not_typesSurvive_twinSpellings` — where the two differ, the types are others.
-/

namespace PsetCompiler

namespace Forest

variable {forest other : Forest}

/-! ### Enumerations by name -/

/-- There is an enumeration whose name differs from the given one in case at most. -/
def HasSpelling (forest : Forest) (name : String) : Prop :=
  ∃ entry ∈ forest.predefinedTypeEnums, Text.foldCase entry.1 = Text.foldCase name

/-- The last enumeration whose name differs from the given one in case at most. -/
def LastSpelling (forest : Forest) (name : String) (found : String × List String) : Prop :=
  ∃ before after, forest.predefinedTypeEnums = before ++ found :: after ∧
    Text.foldCase found.1 = Text.foldCase name ∧
      ∀ entry ∈ after, Text.foldCase entry.1 ≠ Text.foldCase name

/-- Of the enumerations whose names differ from the given one in case at most, the one with the
greatest name. -/
def GreatestSpelling (forest : Forest) (name : String) (found : String × List String) : Prop :=
  found ∈ forest.predefinedTypeEnums ∧ Text.foldCase found.1 = Text.foldCase name ∧
    ∀ entry ∈ forest.predefinedTypeEnums, Text.foldCase entry.1 = Text.foldCase name →
      entry.1 ≤ found.1

/-- What an entity may take its predefined types from: the enumeration it names, and two that are
named after it. -/
def candidates (e : Entity) : List String :=
  (e.predefinedTypeEnum.toList ++ [e.name ++ "Enum", e.name ++ "TypeEnum"]).filter (· ≠ "")

/-- The entity of a name takes its predefined types from an enumeration: it is the first candidate
that is there. -/
def TakesFrom (forest : Forest) (entity enumeration : String) : Prop :=
  ∃ e, forest.find? entity = some e ∧ ∃ before after,
    candidates e = before ++ enumeration :: after ∧ forest.HasSpelling enumeration ∧
      ∀ candidate ∈ before, ¬forest.HasSpelling candidate

/-! ### The last spelling -/

theorem enumValues?_eq_some_iff {name : String} {values : List String} :
    forest.enumValues? name = some values ↔
      ∃ found, forest.LastSpelling name found ∧ found.2 = values := by
  rw [enumValues?, Option.map_eq_some_iff]
  refine exists_congr fun found => and_congr_left fun _ => ?_
  rw [find?_reverse_eq_some_iff]
  simp only [Text.sameFolded, beq_iff_eq, beq_eq_false_iff_ne]
  constructor
  · rintro ⟨hfound, before, after, hlist, hafter⟩
    exact ⟨before, after, hlist, hfound, hafter⟩
  · rintro ⟨before, after, hlist, hfound, hafter⟩
    exact ⟨hfound, before, after, hlist, hafter⟩

theorem enumValues?_eq_none_iff {name : String} :
    forest.enumValues? name = none ↔ ¬forest.HasSpelling name := by
  rw [enumValues?, Option.map_eq_none_iff, List.find?_eq_none]
  simp [HasSpelling, Text.sameFolded]

/-- A spelling that is there has a last one. -/
theorem HasSpelling.exists_last {name : String} (h : forest.HasSpelling name) :
    ∃ found, forest.LastSpelling name found := by
  have hsome : forest.enumValues? name ≠ none := mt enumValues?_eq_none_iff.mp (not_not.mpr h)
  obtain ⟨values, hvalues⟩ := Option.ne_none_iff_exists'.mp hsome
  obtain ⟨found, hfound, -⟩ := enumValues?_eq_some_iff.mp hvalues
  exact ⟨found, hfound⟩

theorem LastSpelling.mem {name : String} {found : String × List String}
    (h : forest.LastSpelling name found) : found ∈ forest.predefinedTypeEnums := by
  obtain ⟨before, after, hlist, -⟩ := h
  rw [hlist]
  exact List.mem_append_right before List.mem_cons_self

/-- Only one spelling is the last one, so its values are those that are found. -/
theorem LastSpelling.enumValues?_eq {name : String} {found : String × List String}
    (h : forest.LastSpelling name found) : forest.enumValues? name = some found.2 :=
  enumValues?_eq_some_iff.mpr ⟨found, h, rfl⟩

/-! ### The predefined types of an entity -/

theorem predefinedTypes_eq (entity : String) : forest.predefinedTypes entity =
    ((forest.find? entity).bind fun e => (candidates e).findSome? forest.enumValues?).getD [] := by
  rw [predefinedTypes]
  cases forest.find? entity <;> rfl

/-- The last spelling counts of the enumeration that the entity takes its predefined types from. -/
theorem predefinedTypes_of_takesFrom {entity enumeration : String}
    (h : forest.TakesFrom entity enumeration) {found : String × List String}
    (hfound : forest.LastSpelling enumeration found) :
    forest.predefinedTypes entity = found.2 := by
  obtain ⟨e, he, before, after, hcandidates, -, hbefore⟩ := h
  have hfirst : (candidates e).findSome? forest.enumValues? = some found.2 := by
    rw [List.findSome?_eq_some_iff]
    refine ⟨before, enumeration, after, hcandidates, hfound.enumValues?_eq, ?_⟩
    intro candidate hcandidate
    exact enumValues?_eq_none_iff.mpr (hbefore candidate hcandidate)
  rw [predefinedTypes_eq, he, Option.bind_some, hfirst, Option.getD_some]

/-- An entity that takes them from nowhere has none. -/
theorem predefinedTypes_of_takesFrom_none {entity : String}
    (h : ∀ enumeration, ¬forest.TakesFrom entity enumeration) :
    forest.predefinedTypes entity = [] := by
  rw [predefinedTypes_eq]
  cases he : forest.find? entity with
  | none => rfl
  | some e =>
    rw [Option.bind_some]
    cases hfirst : (candidates e).findSome? forest.enumValues? with
    | none => rfl
    | some values =>
      obtain ⟨before, enumeration, after, hcandidates, hvalues, hbefore⟩ :=
        List.findSome?_eq_some_iff.mp hfirst
      refine absurd ⟨e, he, before, after, hcandidates, ?_, ?_⟩ (h enumeration)
      · by_contra hmissing
        rw [enumValues?_eq_none_iff.mpr hmissing] at hvalues
        cases hvalues
      · intro candidate hcandidate
        exact enumValues?_eq_none_iff.mp (hbefore candidate hcandidate)

/-! ### After sorting -/

section

variable (hsorted : other.predefinedTypeEnums = Text.sortBy (·.1) forest.predefinedTypeEnums)
include hsorted

theorem hasSpelling_sorted_iff {name : String} :
    other.HasSpelling name ↔ forest.HasSpelling name := by
  simp only [HasSpelling, hsorted, Text.mem_sortBy]

/-- After sorting, the last spelling is the greatest one. -/
theorem LastSpelling.greatest_of_sorted {name : String} {found : String × List String}
    (h : other.LastSpelling name found) : forest.GreatestSpelling name found := by
  have hmem := h.mem
  obtain ⟨before, after, hlist, hfound, hafter⟩ := h
  rw [hsorted] at hlist hmem
  refine ⟨(Text.mem_sortBy _).mp hmem, hfound, ?_⟩
  intro entry hentry hspelling
  have hordered := Text.pairwise_sortBy (·.1) forest.predefinedTypeEnums
  rw [hlist, List.pairwise_append] at hordered
  have hin : entry ∈ before ++ found :: after := hlist ▸ (Text.mem_sortBy _).mpr hentry
  rcases List.mem_append.mp hin with hbefore | hrest
  · exact hordered.2.2 entry hbefore found List.mem_cons_self
  · rcases List.mem_cons.mp hrest with rfl | hlater
    · exact String.le_refl _
    · exact absurd hspelling (hafter entry hlater)

theorem takesFrom_sorted_iff (hfind : ∀ entity, other.find? entity = forest.find? entity)
    {entity enumeration : String} :
    other.TakesFrom entity enumeration ↔ forest.TakesFrom entity enumeration := by
  simp only [TakesFrom, hfind, hasSpelling_sorted_iff hsorted]

end

/-- Where no name is there twice, one spelling is the greatest. -/
theorem GreatestSpelling.unique (hnodup : (forest.predefinedTypeEnums.map (·.1)).Nodup)
    {name : String} {found found' : String × List String} (h : forest.GreatestSpelling name found)
    (h' : forest.GreatestSpelling name found') : found = found' := by
  obtain ⟨hmem, hspelling, hgreatest⟩ := h
  obtain ⟨hmem', hspelling', hgreatest'⟩ := h'
  have hname : found.1 = found'.1 :=
    String.le_antisymm (hgreatest' found hmem hspelling) (hgreatest found' hmem' hspelling')
  exact List.inj_on_of_nodup_map hnodup hmem hmem' hname

/-! ### Behind the written form -/

theorem Alike.find?_eq (h : forest.Alike other) (entity : String) :
    other.find? entity = forest.find? entity := by
  have hentity : other.entity? = forest.entity? := funext h.entity?_eq
  rw [find?, find?, h.sameShape.key?_eq, hentity]

/-- What becomes of the predefined types, from a forest to the one that is read of its written
form. -/
structure TypesRestored (forest other : Forest) : Prop where
  /-- Where there were none, there are none. -/
  of_none : ∀ entity, (∀ enumeration, ¬forest.TakesFrom entity enumeration) →
    forest.predefinedTypes entity = [] ∧ other.predefinedTypes entity = []
  /-- Otherwise they were those of the last spelling and are those of the greatest one. -/
  of_takesFrom : ∀ entity enumeration, forest.TakesFrom entity enumeration →
    ∃ last greatest, forest.LastSpelling enumeration last ∧
      forest.GreatestSpelling enumeration greatest ∧
      forest.predefinedTypes entity = last.2 ∧ other.predefinedTypes entity = greatest.2
  /-- So they are the same exactly if the two spellings have the same values. -/
  eq_iff : ∀ entity, other.predefinedTypes entity = forest.predefinedTypes entity ↔
    ∀ enumeration last greatest, forest.TakesFrom entity enumeration →
      forest.LastSpelling enumeration last → forest.GreatestSpelling enumeration greatest →
        last.2 = greatest.2
  /-- They are the same for all entities, if enumerations whose names differ in case only have the
  same values. -/
  eq_of_alike : (∀ entry ∈ forest.predefinedTypeEnums, ∀ entry' ∈ forest.predefinedTypeEnums,
      Text.foldCase entry.1 = Text.foldCase entry'.1 → entry.2 = entry'.2) →
    ∀ entity, other.predefinedTypes entity = forest.predefinedTypes entity

section

variable (hsorted : other.predefinedTypeEnums = Text.sortBy (·.1) forest.predefinedTypeEnums)
  (hfind : ∀ entity, other.find? entity = forest.find? entity)
include hsorted hfind

theorem predefinedTypes_sorted_of_none {entity : String}
    (hnone : ∀ enumeration, ¬forest.TakesFrom entity enumeration) :
    forest.predefinedTypes entity = [] ∧ other.predefinedTypes entity = [] := by
  refine ⟨predefinedTypes_of_takesFrom_none hnone, predefinedTypes_of_takesFrom_none ?_⟩
  intro enumeration htaken
  exact hnone enumeration ((takesFrom_sorted_iff hsorted hfind).mp htaken)

theorem predefinedTypes_sorted_of_takesFrom {entity enumeration : String}
    (htaken : forest.TakesFrom entity enumeration) :
    ∃ last greatest, forest.LastSpelling enumeration last ∧
      forest.GreatestSpelling enumeration greatest ∧
      forest.predefinedTypes entity = last.2 ∧ other.predefinedTypes entity = greatest.2 := by
  have hspelled : forest.HasSpelling enumeration := by
    obtain ⟨-, -, -, -, -, hspelled, -⟩ := htaken
    exact hspelled
  have htaken' : other.TakesFrom entity enumeration :=
    (takesFrom_sorted_iff hsorted hfind).mpr htaken
  obtain ⟨last, hlast⟩ := hspelled.exists_last
  obtain ⟨greatest, hgreatest⟩ := ((hasSpelling_sorted_iff hsorted).mpr hspelled).exists_last
  exact ⟨last, greatest, hlast, hgreatest.greatest_of_sorted hsorted,
    predefinedTypes_of_takesFrom htaken hlast, predefinedTypes_of_takesFrom htaken' hgreatest⟩

theorem predefinedTypes_sorted_eq_iff
    (hnodup : (forest.predefinedTypeEnums.map (·.1)).Nodup) (entity : String) :
    other.predefinedTypes entity = forest.predefinedTypes entity ↔
      ∀ enumeration last greatest, forest.TakesFrom entity enumeration →
        forest.LastSpelling enumeration last → forest.GreatestSpelling enumeration greatest →
          last.2 = greatest.2 := by
  constructor
  · intro heq enumeration last greatest htaken hlast hgreatest
    obtain ⟨-, greatest', -, hgreatest', -, hother⟩ :=
      predefinedTypes_sorted_of_takesFrom hsorted hfind htaken
    rw [hgreatest.unique hnodup hgreatest', ← hother, heq,
      predefinedTypes_of_takesFrom htaken hlast]
  · intro hsame
    by_cases htaken : ∃ enumeration, forest.TakesFrom entity enumeration
    · obtain ⟨enumeration, htaken⟩ := htaken
      obtain ⟨last, greatest, hlast, hgreatest, hforest, hother⟩ :=
        predefinedTypes_sorted_of_takesFrom hsorted hfind htaken
      rw [hforest, hother, hsame enumeration last greatest htaken hlast hgreatest]
    · obtain ⟨hforest, hother⟩ :=
        predefinedTypes_sorted_of_none hsorted hfind (not_exists.mp htaken)
      rw [hforest, hother]

theorem typesRestored_of_sorted (hnodup : (forest.predefinedTypeEnums.map (·.1)).Nodup) :
    forest.TypesRestored other where
  of_none := fun _ hnone => predefinedTypes_sorted_of_none hsorted hfind hnone
  of_takesFrom := fun _ _ htaken => predefinedTypes_sorted_of_takesFrom hsorted hfind htaken
  eq_iff := predefinedTypes_sorted_eq_iff hsorted hfind hnodup
  eq_of_alike := by
    intro halike entity
    rw [predefinedTypes_sorted_eq_iff hsorted hfind hnodup]
    rintro enumeration last greatest - hlast ⟨hmem, hspelling, -⟩
    have hlastmem := hlast.mem
    obtain ⟨-, -, -, hspelling', -⟩ := hlast
    exact halike last hlastmem greatest hmem (hspelling'.trans hspelling.symm)

end

/-- **Which predefined types are there again when the written form is read.**  The written form of a
forest that declarations make is read without a report.  An entity that took its predefined types
from the last spelling of an enumeration has those of the greatest spelling, so they are the same
exactly if these two have the same values; and they are the same for all entities, if enumerations
whose names differ in case only have the same values. -/
theorem IsDeclared.typesRestored_ofDocument (h : forest.IsDeclared) :
    ∃ other, ofDocument forest.document = pure other ∧ forest.TypesRestored other := by
  obtain ⟨other, hread, halike, -, -, hsorted⟩ := h.exists_ofDocument_alike
  exact ⟨other, hread, typesRestored_of_sorted hsorted halike.find?_eq h.nodup_enums⟩

/-- A wall with two spellings of its enumeration, the greater one first. -/
def twinSpellings : Forest :=
  (ofRecords "IFC4" [{ name := "IfcWall" }]
    [("IfcWallTypeEnum", ["MOVABLE"]), ("IfcWALLTypeEnum", ["SOLIDWALL"])]).value

theorem isDeclared_twinSpellings : twinSpellings.IsDeclared :=
  ⟨"IFC4", [{ name := "IfcWall" }], _, by decide, rfl⟩

theorem typesRestored_ofDocument_twinSpellings :
    twinSpellings.IsDeclared ∧
      ∃ other, ofDocument twinSpellings.document = pure other ∧
        twinSpellings.TypesRestored other :=
  ⟨isDeclared_twinSpellings, isDeclared_twinSpellings.typesRestored_ofDocument⟩

theorem document_twinSpellings : twinSpellings.document =
    { version := "IFC4", entities := [{ name := "IfcWall" }]
      predefinedTypeEnums :=
        [("IfcWALLTypeEnum", ["SOLIDWALL"]), ("IfcWallTypeEnum", ["MOVABLE"])] } := by
  have hsorted : Text.sortBy (·.1) twinSpellings.predefinedTypeEnums =
      [("IfcWALLTypeEnum", ["SOLIDWALL"]), ("IfcWallTypeEnum", ["MOVABLE"])] := by
    have hswap : twinSpellings.predefinedTypeEnums.Perm
        [("IfcWALLTypeEnum", ["SOLIDWALL"]), ("IfcWallTypeEnum", ["MOVABLE"])] := .swap _ _ []
    rw [Text.sortBy_eq_of_perm _ isDeclared_twinSpellings.nodup_enums hswap]
    exact Text.sortBy_of_pairwise _ (by decide)
  have hentities : twinSpellings.sorted = twinSpellings.entities := List.mergeSort_singleton _
  rw [document, hsorted, hentities]
  decide +kernel

/-- The wall has other predefined types when its written form is read. -/
theorem not_typesSurvive_twinSpellings :
    twinSpellings.IsDeclared ∧ twinSpellings.predefinedTypes "IfcWall" = ["SOLIDWALL"] ∧
      (ofDocument twinSpellings.document).value.predefinedTypes "IfcWall" = ["MOVABLE"] := by
  refine ⟨isDeclared_twinSpellings, by decide +kernel, ?_⟩
  rw [document_twinSpellings]
  decide +kernel

end Forest

end PsetCompiler
