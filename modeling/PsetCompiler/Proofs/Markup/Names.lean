import PsetCompiler.Proofs.Markup.Without
import PsetCompiler.Proofs.Outcome

/-!
# Elements whose names can be told

Where no name inside an element keeps a colon, no search inside it ends early, at whatever depth it
is made.  What is found then is told by the names alone: the first child of a name, the children of
a name, the elements of a name at any depth.

## Main definitions

* `Element.HasNames` — no name inside an element keeps a colon.

## Main results

* `Element.all_descendants_eq_ok_iff` — what it takes for a search at any depth to come to its end.
* `Element.HasNames.child?_eq`, `Element.HasNames.all_children` — searches for children.
* `Found.all_filterMapM` — what a computation gives for the elements that are found.
-/

namespace PsetCompiler.Markup

/-- A computation that gives something for every value that is found. -/
theorem Found.all_filterMapM {α β : Type} {found : Found α} {f : α → Except Failure (Option β)}
    {g : α → Option β} {values : List α} (hfound : found.all = .ok values)
    (h : ∀ a ∈ values, f a = .ok (g a)) :
    (found.filterMapM f).all = .ok (values.filterMap g) := by
  have heach : ofEach (fun a => ofExcept (f a)) values = { values := values.filterMap g } := by
    clear hfound
    induction values with
    | nil => rfl
    | cons a values ih =>
      rw [List.forall_mem_cons] at h
      rw [ofEach, h.1, ih h.2, List.filterMap_cons]
      cases g a <;> rfl
  rw [all] at hfound
  split at hfound
  · next hfailure =>
    cases hfound
    rw [filterMapM, heach, append, hfailure]
    exact congrArg Except.ok (List.append_nil _)
  · cases hfound

namespace Element

variable {e : Element}

theorem localName_eq_ok_iff : e.localName = .ok e.name ↔ ':' ∉ e.name.toList := by
  rw [localName]
  split
  · next h => simpa using List.contains_iff_mem.mp h
  · next h => simpa using fun hmem => h (List.contains_iff_mem.mpr hmem)

/-! ### Elements inside elements inside -/

theorem mem_insideAll_of_mem_filterMap {content : List (Node Element)} {d : Element}
    (h : d ∈ content.filterMap Node.element?) : d ∈ insideAll content := by
  obtain ⟨node, hnode, hd⟩ := List.mem_filterMap.mp h
  obtain ⟨before, after, rfl⟩ := List.append_of_mem hnode
  cases node with
  | element d' =>
    cases hd
    rw [insideAll_append, insideAll]
    exact List.mem_append_right _ List.mem_cons_self
  | chars text => cases hd
  | opaqueMark => cases hd

theorem mem_inside_of_mem_elements {d : Element} (h : d ∈ e.elements) : d ∈ e.inside := by
  rw [inside_eq]
  exact mem_insideAll_of_mem_filterMap h

mutual

/-- What is inside of an element that is inside of another one is inside of that one, too. -/
theorem inside_subset {d : Element} : (e : Element) → d ∈ e.inside → d.inside ⊆ e.inside
  | ⟨_, _, _, _, content⟩, h => by
    rw [inside] at h ⊢
    exact insideAll_subset content h

theorem insideAll_subset {d : Element} :
    (content : List (Node Element)) → d ∈ insideAll content → d.inside ⊆ insideAll content
  | [], h => by cases h
  | .element e :: rest, h => by
    rw [insideAll] at h ⊢
    rcases List.mem_append.mp h with h | h
    · refine List.Subset.trans ?_ (List.subset_append_left _ _)
      rcases List.mem_cons.mp h with rfl | h
      · exact List.subset_cons_self _ _
      · exact List.Subset.trans (inside_subset e h) (List.subset_cons_self _ _)
    · exact List.Subset.trans (insideAll_subset rest h) (List.subset_append_right _ _)
  | .chars _ :: rest, h => insideAll_subset rest h
  | .opaqueMark :: rest, h => insideAll_subset rest h

end

/-! ### Searches -/

/-- No name inside an element keeps a colon. -/
def HasNames (e : Element) : Prop :=
  ∀ d ∈ e.inside, ':' ∉ d.name.toList

instance (e : Element) : Decidable e.HasNames :=
  inferInstanceAs (Decidable (∀ d ∈ e.inside, ':' ∉ d.name.toList))

/-- A search at any depth comes to its end exactly if all names inside can be told. -/
theorem all_descendants_eq_ok_iff {name : String} {found : List Element} :
    (e.descendants name).all = .ok found ↔
      e.HasNames ∧ found = e.inside.filter (·.name == name) := by
  rw [descendants, all_named_eq_ok_iff]
  exact and_congr_left' (forall₂_congr fun d _ => localName_eq_ok_iff)

namespace HasNames

theorem of_mem_inside (h : e.HasNames) {d : Element} (hd : d ∈ e.inside) : d.HasNames :=
  fun _ hinside => h _ (inside_subset e hd hinside)

theorem localName_of_mem_elements (h : e.HasNames) :
    ∀ d ∈ e.elements, d.localName = .ok d.name :=
  fun d hd => localName_eq_ok_iff.mpr (h d (mem_inside_of_mem_elements hd))

theorem all_children (h : e.HasNames) (name : String) :
    (e.children name).all = .ok (e.elements.filter (·.name == name)) :=
  all_named_eq_ok_iff.mpr ⟨h.localName_of_mem_elements, rfl⟩

theorem child?_eq (h : e.HasNames) (name : String) :
    e.child? name = .ok (e.elements.find? (·.name == name)) := by
  rw [child?, children, named_eq_filter h.localName_of_mem_elements, ← List.head?_filter]
  cases e.elements.filter (·.name == name) <;> rfl

theorem childText?_eq (h : e.HasNames) (name : String) :
    e.childText? name = .ok ((e.elements.find? (·.name == name)).bind trimmedText?) := by
  rw [childText?, h.child?_eq]
  rfl

end HasNames

end Element

end PsetCompiler.Markup
