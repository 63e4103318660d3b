import PsetCompiler.PropertySet
import Mathlib.Data.List.Forall2

/-!
# The leaves of a definition

Whoever makes something of a definition goes through its properties in order, and in the place of a
complex one through its members.  What is gone through are the leaves: a property that is not
complex, or a member together with the name of the complex property that holds it.  Each of the ways
to go through them makes its own use of that name, so each is compared with the list of leaves.

## Main definitions

* `Property.leaves`, `PropertySet.leaves` — the leaves under one property, and all of a definition.
* `PropertySet.qualifiedName` — the name of a leaf behind the name of its set.

## Main results

* `PropertySet.map_leaves` — **going through the leaves is going through the properties.**
* `PropertySet.forall₂_leaves` — the same when what is made of the properties are lists.
* `PropertySet.qualifiedNames_eq` — the qualified names are those of the leaves.
-/

namespace PsetCompiler

/-- The leaves under one property: its members if it is complex, else itself. Each comes with the
name of the complex property that holds it. -/
def Property.leaves (p : Property) : List (Option String × Property) :=
  if p.isComplex then p.members.map fun m => (some p.name, m) else [(none, p)]

/-- A leaf is a member, or the property itself when that is not complex. -/
theorem Property.mem_leaves {p : Property} {leaf : Option String × Property}
    (h : leaf ∈ p.leaves) : leaf.2 ∈ p.members ∨ leaf.2 = p ∧ p.isComplex = false := by
  rw [leaves] at h
  split at h
  · obtain ⟨m, hm, rfl⟩ := List.mem_map.mp h
    exact .inl hm
  · next hsimple =>
    rw [List.mem_singleton] at h
    exact .inr ⟨congrArg Prod.snd h, Bool.eq_false_iff.mpr hsimple⟩

/-- What holds a leaf is the complex property itself. -/
theorem Property.holder_of_mem_leaves {p : Property} {parent : String} {m : Property}
    (h : (some parent, m) ∈ p.leaves) : p.isComplex = true ∧ p.name = parent ∧ m ∈ p.members := by
  rw [leaves] at h
  split at h
  · next hcomplex =>
    obtain ⟨m', hm', heq⟩ := List.mem_map.mp h
    cases heq
    exact ⟨hcomplex, rfl, hm'⟩
  · exact nomatch List.mem_singleton.mp h

namespace PropertySet

variable {β : Type}

/-- The properties with the members of complex ones in their place, one level down. -/
def leaves (pset : PropertySet) : List (Option String × Property) :=
  pset.properties.flatMap Property.leaves

/-- The name of a leaf behind the name of its set: the parts are joined by points. -/
def qualifiedName (pset : PropertySet) : Option String × Property → String
  | (some parent, p) => pset.name ++ "." ++ parent ++ "." ++ p.name
  | (none, p) => pset.name ++ "." ++ p.name

/-- Where no complex property is held by a complex one, no leaf is complex. -/
theorem isComplex_eq_false_of_mem_leaves {pset : PropertySet}
    (hflat : ∀ p ∈ pset.properties, ∀ m ∈ p.members, m.isComplex = false) :
    ∀ leaf ∈ pset.leaves, leaf.2.isComplex = false := by
  intro leaf hleaf
  obtain ⟨p, hp, hleaf⟩ := List.mem_flatMap.mp hleaf
  rcases Property.mem_leaves hleaf with hm | ⟨heq, hsimple⟩
  · exact hflat p hp _ hm
  · rw [heq, hsimple]

/-- **Going through the leaves is going through the properties**, and through the members of a
complex one in its place. -/
theorem map_leaves (pset : PropertySet) (f : Option String × Property → β) :
    pset.leaves.map f = pset.properties.flatMap fun p =>
      if p.isComplex then p.members.map fun m => f (some p.name, m) else [f (none, p)] := by
  rw [leaves, List.map_flatMap]
  refine List.flatMap_congr fun p _ => ?_
  rw [Property.leaves]
  split
  · exact List.map_map
  · rfl

/-- What is made of the properties, a list of each, is made of the leaves one by one, if it is so
for every property. -/
theorem forall₂_leaves {R : Option String × Property → β → Prop} {pset : PropertySet}
    {made : List (List β)}
    (h : List.Forall₂ (fun p ys => List.Forall₂ R p.leaves ys) pset.properties made) :
    List.Forall₂ R pset.leaves made.flatten :=
  List.rel_flatten (List.forall₂_map_left_iff.mpr h)

/-- The qualified names are those of the leaves. -/
theorem qualifiedNames_eq (pset : PropertySet) :
    pset.qualifiedNames = pset.leaves.map pset.qualifiedName :=
  (pset.map_leaves pset.qualifiedName).symm

end PropertySet

end PsetCompiler
