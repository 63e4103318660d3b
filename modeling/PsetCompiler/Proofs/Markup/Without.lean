import PsetCompiler.Markup.Element

/-!
# Elements without some of their children

A search by name ends at the first element whose name cannot be told.  Where a search comes to its
end, all these names can be told, and it finds the elements of the name and nothing else; then it
does not matter for the search whether other elements are there.

Here one child of an element is put in the place of another one of its name, or loses some children
of its own.  Searches for other names do not tell the difference.

## Main definitions

* `Element.around` — an element with one child, and what stands before and behind the child.
* `Element.without` — an element without some of its children.

## Main results

* `Element.all_named_eq_ok_iff` — what it takes for a search to come to its end.
* `Element.children_around` — searches for children of other names.
* `Element.child?_around` — the search for the child itself.
* `Element.all_descendants_around_without` — **a search that comes to its end does not tell what it
  does not look for.**
-/

namespace PsetCompiler.Markup

namespace Element

/-! ### Searches that come to their end -/

theorem eq_name_of_localName {e : Element} {own : String} (h : e.localName = .ok own) :
    own = e.name := by
  unfold localName at h
  split at h
  · cases h
  · exact (Except.ok.inj h).symm

theorem localName_congr {e e' : Element} (h : e'.name = e.name) : e'.localName = e.localName := by
  rw [localName, h, localName]

/-- A search among some elements and then among others. -/
theorem named_append (name : String) (l m : List Element) :
    named name (l ++ m) = (named name l).append (named name m) := by
  induction l with
  | nil => rfl
  | cons e l ih =>
    rw [List.cons_append, named, named, ih]
    split
    · rfl
    · next own _ =>
      by_cases hown : own = name
      · -- what is found first does not tell whether the search ends later
        simp only [if_pos hown, Found.append]
        split <;> rfl
      · simp only [if_neg hown]

/-- Names that can be told are all that a search needs. -/
theorem named_eq_filter {l : List Element} (h : ∀ e ∈ l, e.localName = .ok e.name)
    (name : String) : named name l = { values := l.filter (·.name == name) } := by
  induction l with
  | nil => rfl
  | cons e l ih =>
    rw [List.forall_mem_cons] at h
    rw [named, h.1, ih h.2]
    by_cases hname : e.name = name
    · simp [hname]
    · simp [hname]

theorem localName_of_all_named {name : String} {l found : List Element}
    (h : (named name l).all = .ok found) : ∀ e ∈ l, e.localName = .ok e.name := by
  induction l generalizing found with
  | nil => exact nofun
  | cons e l ih =>
    rw [named] at h
    split at h
    · cases h
    · next own hown =>
      have hrest : ∃ rest, (named name l).all = .ok rest := by
        by_cases heq : own = name
        · rw [if_pos heq] at h
          cases hfailure : (named name l).failure with
          | none => exact ⟨_, by rw [Found.all, hfailure]⟩
          | some failure => simp [Found.all, hfailure] at h
        · rw [if_neg heq] at h
          exact ⟨found, h⟩
      obtain ⟨rest, hrest⟩ := hrest
      rw [List.forall_mem_cons]
      refine ⟨?_, ih hrest⟩
      rw [hown, eq_name_of_localName hown]

/-- What it takes for a search to come to its end: all names can be told. -/
theorem all_named_eq_ok_iff {name : String} {l found : List Element} :
    (named name l).all = .ok found ↔
      (∀ e ∈ l, e.localName = .ok e.name) ∧ found = l.filter (·.name == name) := by
  constructor
  · intro h
    have hnames := localName_of_all_named h
    rw [named_eq_filter hnames] at h
    exact ⟨hnames, (Except.ok.inj h).symm⟩
  · rintro ⟨hnames, rfl⟩
    rw [named_eq_filter hnames]
    rfl

/-- A search for a name that is not there finds nothing, though it may end early. -/
theorem values_named_eq_nil {name : String} {l : List Element} (h : ∀ e ∈ l, e.name ≠ name) :
    (named name l).values = [] := by
  induction l with
  | nil => rfl
  | cons e l ih =>
    rw [List.forall_mem_cons] at h
    rw [named]
    split
    · rfl
    · next own hown =>
      have hne : own ≠ name := by
        rw [eq_name_of_localName hown]
        exact h.1
      rw [if_neg hne]
      exact ih h.2

/-- The search for a child that does not end early finds the first child of the name. -/
theorem find?_of_child? {e : Element} {name : String} {first? : Option Element}
    (h : e.child? name = .ok first?) : e.elements.find? (·.name == name) = first? := by
  rw [child?, children] at h
  generalize e.elements = l at h
  induction l with
  | nil => exact Except.ok.inj h
  | cons d l ih =>
    rw [named] at h
    split at h
    · cases h
    · next own hown =>
      rw [eq_name_of_localName hown] at h
      by_cases hname : d.name = name
      · rw [if_pos hname] at h
        rw [List.find?_cons_of_pos (by simpa using hname)]
        exact Except.ok.inj h
      · rw [if_neg hname] at h
        rw [List.find?_cons_of_neg (by simpa using hname)]
        exact ih h

/-! ### One child among the others -/

/-- An element with one child, and what stands before and behind the child. -/
def around (root : Element) (before : List (Node Element)) (e : Element)
    (after : List (Node Element)) : Element :=
  { root with content := before ++ .element e :: after }

section

variable (root : Element) (before after : List (Node Element)) {e e' : Element}

omit root in
theorem around_of_content {root : Element} (h : root.content = before ++ .element e :: after) :
    root.around before e after = root := by
  rw [around, ← h]
  cases root
  rfl

theorem elements_around (e : Element) : (root.around before e after).elements =
    before.filterMap Node.element? ++ e :: after.filterMap Node.element? := by
  rw [around, elements, List.filterMap_append]
  rfl

theorem insideAll_append (content other : List (Node Element)) :
    insideAll (content ++ other) = insideAll content ++ insideAll other := by
  induction content with
  | nil => rfl
  | cons node content ih =>
    cases node with
    | element e =>
      rw [List.cons_append, insideAll, insideAll, ih]
      simp
    | chars text => rw [List.cons_append, insideAll, insideAll, ih]
    | opaqueMark => rw [List.cons_append, insideAll, insideAll, ih]

theorem inside_eq (e : Element) : e.inside = insideAll e.content := by
  cases e
  rw [inside]

theorem inside_around (e : Element) : (root.around before e after).inside =
    insideAll before ++ (e :: e.inside ++ insideAll after) := by
  rw [inside_eq, around, insideAll_append, insideAll]

/-- Another child of the same name does not matter to a search for children of other names. -/
theorem children_around (hname : e'.name = e.name) {name : String} (hne : e.name ≠ name) :
    (root.around before e' after).children name = (root.around before e after).children name := by
  have hcons (l : List Element) : named name (e' :: l) = named name (e :: l) := by
    rw [named, named, localName_congr hname]
    split
    · rfl
    · next own hown =>
      have hown' : own ≠ name := by
        rw [eq_name_of_localName hown]
        exact hne
      rw [if_neg hown', if_neg hown']
  rw [children, children, elements_around, elements_around, named_append, named_append, hcons]

theorem child?_around_of_ne (hname : e'.name = e.name) {name : String} (hne : e.name ≠ name) :
    (root.around before e' after).child? name = (root.around before e after).child? name := by
  rw [child?, children_around root before after hname hne, child?]

theorem childText?_around_of_ne (hname : e'.name = e.name) {name : String} (hne : e.name ≠ name) :
    (root.around before e' after).childText? name =
      (root.around before e after).childText? name := by
  rw [childText?, child?_around_of_ne root before after hname hne, childText?]

/-- The first child of a name is found, unless the search ends before it. -/
theorem child?_around {name : String} (he : e.localName = .ok name)
    (hbefore : ∀ b ∈ before.filterMap Node.element?, b.name ≠ name) :
    (root.around before e after).child? name =
      match (named name (before.filterMap Node.element?)).failure with
      | none => .ok (some e)
      | some failure => .error failure := by
  have hvalues := values_named_eq_nil hbefore
  have hfirst (l : List Element) : (named name (e :: l)).values =
      e :: (named name l).values := by
    rw [named, he]
    simp
  rw [child?, children, elements_around, named_append, Found.append]
  cases hfailure : (named name (before.filterMap Node.element?)).failure with
  | none => simp [Found.first?, hvalues, hfirst]
  | some failure => simp [Found.first?, hvalues, hfailure]

end

/-! ### Fewer children -/

/-- An element without some of its children. -/
def without (gone : Element → Bool) (e : Element) : Element :=
  { e with content := e.content.filter fun node => !node.element?.any gone }

theorem elements_without (gone : Element → Bool) (e : Element) :
    (e.without gone).elements = e.elements.filter (!gone ·) := by
  rw [without, elements, elements]
  induction e.content with
  | nil => rfl
  | cons node content ih =>
    cases node with
    | element e =>
      cases hgone : gone e with
      | true => simpa [Node.element?, hgone] using ih
      | false => simpa [Node.element?, hgone] using ih
    | chars text => exact ih
    | opaqueMark => exact ih

/-- What is inside parts of content after some elements are taken from it was inside before. -/
theorem insideAll_filter_subset (keeps : Node Element → Bool) (content : List (Node Element)) :
    insideAll (content.filter keeps) ⊆ insideAll content := by
  induction content with
  | nil => exact List.Subset.refl _
  | cons node content ih =>
    have hrest : insideAll (content.filter keeps) ⊆ insideAll (node :: content) := by
      cases node with
      | element e => exact List.Subset.trans ih (List.subset_append_right _ _)
      | chars text => exact ih
      | opaqueMark => exact ih
    by_cases hkeep : keeps node = true
    · rw [List.filter_cons_of_pos hkeep]
      cases node with
      | element e =>
        rw [insideAll, insideAll]
        exact List.append_subset.mpr ⟨List.subset_append_left _ _,
          List.Subset.trans ih (List.subset_append_right _ _)⟩
      | chars text => exact hrest
      | opaqueMark => exact hrest
    · rw [List.filter_cons_of_neg hkeep]
      exact hrest

/-- Elements of a kind are missed nowhere if none of them was taken away. -/
theorem filter_inside_without {gone kind : Element → Bool} {e : Element}
    (h : ∀ child ∈ e.elements, gone child = true →
      kind child = false ∧ ∀ d ∈ child.inside, kind d = false) :
    (e.without gone).inside.filter kind = e.inside.filter kind := by
  rw [inside_eq, inside_eq, without]
  rw [elements] at h
  generalize e.content = content at h
  induction content with
  | nil => rfl
  | cons node content ih =>
    cases node with
    | element child =>
      have hchild := h child (by simp [Node.element?])
      have hrest := ih fun other hother => h other (List.mem_cons_of_mem _ hother)
      rw [insideAll, List.filter_append]
      cases hgone : gone child with
      | true =>
        -- nothing that was taken away is of the kind
        obtain ⟨hkind, hinside⟩ := hchild hgone
        have hnone : (child :: child.inside).filter kind = [] := by
          simpa [List.filter_eq_nil_iff, hkind] using hinside
        rw [hnone, List.nil_append, ← hrest]
        simp [Node.element?, hgone]
      | false =>
        rw [← hrest, ← List.filter_append, ← insideAll]
        simp [Node.element?, hgone]
    | chars text => exact ih h
    | opaqueMark => exact ih h

/-- **A search that comes to its end does not tell what it does not look for**: at any depth inside
an element, a search by name finds the same after some grandchildren are taken away, if none of them
is of that name or has such an element inside. -/
theorem all_descendants_around_without {root e : Element} {before after : List (Node Element)}
    {name : String} {gone : Element → Bool} {found : List Element}
    (h : ((root.around before e after).descendants name).all = .ok found) (hname : e.name ≠ name)
    (hgone : ∀ child ∈ e.elements, gone child = true →
      child.name ≠ name ∧ ∀ d ∈ child.inside, d.name ≠ name) :
    ((root.around before (e.without gone) after).descendants name).all = .ok found := by
  rw [descendants, all_named_eq_ok_iff, inside_around] at h ⊢
  obtain ⟨hnames, rfl⟩ := h
  have hsubset : (e.without gone).inside ⊆ e.inside := by
    rw [inside_eq, inside_eq]
    exact insideAll_filter_subset _ _
  have hinside : (e.without gone).inside.filter (·.name == name) =
      e.inside.filter (·.name == name) := by
    apply filter_inside_without
    intro child hchild hgone'
    obtain ⟨hne, hnone⟩ := hgone child hchild hgone'
    simpa [hne] using hnone
  refine ⟨?_, ?_⟩
  · simp only [List.forall_mem_append, List.forall_mem_cons] at hnames ⊢
    obtain ⟨hbefore, ⟨he, hin⟩, hafter⟩ := hnames
    refine ⟨hbefore, ⟨?_, ?_⟩, hafter⟩
    · have hlocal : (e.without gone).localName = e.localName := localName_congr rfl
      rw [hlocal, he]
      rfl
    · intro d hd
      exact hin d (hsubset hd)
  · have hwithout : ((e.without gone).name == name) = false := beq_eq_false_iff_ne.mpr hname
    have hsame : (e.name == name) = false := beq_eq_false_iff_ne.mpr hname
    simp only [List.filter_append, List.filter_cons, hwithout, hsame, hinside,
      Bool.false_eq_true, if_false]

end Element

end PsetCompiler.Markup
