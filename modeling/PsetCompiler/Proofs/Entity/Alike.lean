import PsetCompiler.Proofs.Entity.Outline

/-!
# Forests that are alike

The order in which the entities of a forest came in, and the order in which its links were made, are
kept but never told.  Two well-formed forests with the same entities and the same parents give the
same answers: a way up follows nothing but parents, and wherever entities are listed they are sorted
by names, which differ.

Questions about inheritance read even less.  They look names up by their keys and then follow
parents, so it does not matter for them what the entities say.

## Main definitions

* `Forest.SameShape` — the same keys and the same parents.
* `Forest.Alike` — the same entities and the same parents.
* `Forest.AnswersAlike` — the same written form and the same answers.

## Main results

* `Forest.SameShape.isSubtypeOf_eq`, `Forest.SameShape.isSupertypeOf_eq` — inheritance is a matter
  of the shape.
* `Forest.Alike.sorted_eq`, `Forest.Alike.dump_eq` — sorting forgets the orders.
* `Forest.Alike.answersAlike` — **forests that are alike answer alike.**
-/

namespace PsetCompiler

namespace Forest

/-- Under every key, two forests both have an entity or none, and they have the same parent. -/
structure SameShape (forest other : Forest) : Prop where
  isSome_eq : ∀ key, (other.entity? key).isSome = (forest.entity? key).isSome
  parent?_eq : ∀ key, other.parent? key = forest.parent? key

/-- Under every key, two forests have the same entity and the same parent. -/
structure Alike (forest other : Forest) : Prop where
  entity?_eq : ∀ key, other.entity? key = forest.entity? key
  parent?_eq : ∀ key, other.parent? key = forest.parent? key

/-- What can be learned of the entities of two forests is the same. -/
structure AnswersAlike (forest other : Forest) : Prop where
  document_eq : other.document = forest.document
  dump_eq : ∀ root, other.dump root = forest.dump root
  isSubtypeOf_eq : ∀ entity supertype strict,
    other.isSubtypeOf entity supertype strict = forest.isSubtypeOf entity supertype strict
  isSupertypeOf_eq : ∀ entity subtype strict,
    other.isSupertypeOf entity subtype strict = forest.isSupertypeOf entity subtype strict
  supertypes_eq : ∀ entity stops, other.supertypes entity stops = forest.supertypes entity stops

variable {forest other : Forest}

/-- The written form tells the version. -/
theorem AnswersAlike.version_eq (h : forest.AnswersAlike other) : other.version = forest.version :=
  congrArg SchemaDocument.version h.document_eq

theorem Climbs.of_parent?_eq (hparent : ∀ key, other.parent? key = forest.parent? key)
    {key : String} {above : List String} (h : forest.Climbs key above) :
    other.Climbs key above := by
  induction h with
  | root h => exact .root ((hparent _).trans h)
  | up h _ ih => exact .up ((hparent _).trans h) ih

/-! ### Inheritance -/

namespace SameShape

variable (h : forest.SameShape other)
include h

theorem key?_eq (name : String) : other.key? name = forest.key? name := by
  rw [key?, key?, h.isSome_eq]

variable (hforest : forest.WellFormed) (hother : other.WellFormed)
include hforest hother

theorem ancestors_eq (key : String) : other.ancestors key = forest.ancestors key :=
  (hother.climbs_ancestors key).unique
    ((hforest.climbs_ancestors key).of_parent?_eq h.parent?_eq)

theorem isSubtypeOf_eq (entity supertype : String) (strict : Bool) :
    other.isSubtypeOf entity supertype strict = forest.isSubtypeOf entity supertype strict := by
  simp only [isSubtypeOf, h.key?_eq, h.ancestors_eq hforest hother]

/-- The question downward is the question upward in both forests. -/
theorem isSupertypeOf_eq (entity subtype : String) (strict : Bool) :
    other.isSupertypeOf entity subtype strict = forest.isSupertypeOf entity subtype strict := by
  rw [← hother.isSubtypeOf_eq_isSupertypeOf, ← hforest.isSubtypeOf_eq_isSupertypeOf,
    h.isSubtypeOf_eq hforest hother]

end SameShape

namespace Alike

variable (h : forest.Alike other)
include h

theorem sameShape : forest.SameShape other where
  isSome_eq := fun key => congrArg Option.isSome (h.entity?_eq key)
  parent?_eq := h.parent?_eq

theorem shownAlike : forest.ShownAlike other where
  shown?_eq := fun key => by rw [shown?, shown?, h.entity?_eq]
  parent?_eq := h.parent?_eq

/-! ### Names and keys -/

theorem nameOf_eq : other.nameOf = forest.nameOf :=
  h.shownAlike.nameOf_eq

theorem recordOf_eq (key : String) (e : Entity) :
    other.recordOf key e = forest.recordOf key e := by
  rw [recordOf, recordOf, h.parent?_eq, h.nameOf_eq]

variable (hforest : forest.WellFormed) (hother : other.WellFormed)
include hforest hother

/-! ### Upward -/

theorem supertypes_eq (entity : String) (stops : List String) :
    other.supertypes entity stops = forest.supertypes entity stops := by
  simp only [supertypes, h.sameShape.key?_eq, h.nameOf_eq,
    h.sameShape.ancestors_eq hforest hother]

/-! ### Downward -/

theorem perm_entities : other.entities.Perm forest.entities := by
  rw [List.perm_ext_iff_of_nodup hother.nodup_keys.of_map hforest.nodup_keys.of_map]
  rintro ⟨key, e⟩
  rw [← lookup_eq_some_iff_mem hother.nodup_keys, ← lookup_eq_some_iff_mem hforest.nodup_keys]
  exact iff_of_eq (congrArg (· = some e) (h.entity?_eq key))

theorem sorted_eq : other.sorted = forest.sorted := by
  refine Text.sortBy_eq_of_perm _ ?_ (h.perm_entities hforest hother)
  rw [← hother.map_nameOf_keys]
  exact hother.nodup_map_nameOf hother.nodup_keys (List.Subset.refl _)

theorem dump_eq (root : Option String) : other.dump root = forest.dump root :=
  h.shownAlike.dump_eq hforest hother root

/-! ### The written form -/

/-- The written forms differ at most in the version and the enumerations. -/
theorem document_eq (hversion : other.version = forest.version)
    (henums : Text.sortBy (·.1) other.predefinedTypeEnums =
      Text.sortBy (·.1) forest.predefinedTypeEnums) : other.document = forest.document := by
  rw [document, document, hversion, henums, h.sorted_eq hforest hother]
  simp only [h.recordOf_eq]

/-- **Forests that are alike answer alike.** -/
theorem answersAlike (hversion : other.version = forest.version)
    (henums : Text.sortBy (·.1) other.predefinedTypeEnums =
      Text.sortBy (·.1) forest.predefinedTypeEnums) : forest.AnswersAlike other where
  document_eq := h.document_eq hforest hother hversion henums
  dump_eq := h.dump_eq hforest hother
  isSubtypeOf_eq := h.sameShape.isSubtypeOf_eq hforest hother
  isSupertypeOf_eq := h.sameShape.isSupertypeOf_eq hforest hother
  supertypes_eq := h.supertypes_eq hforest hother

end Alike

end Forest

end PsetCompiler
