import PsetCompiler.Proofs.Entries
import PsetCompiler.Text.Order

/-!
# Sorting by a text

The order of texts is the linear order of strings, so a list whose items have different keys can be
sorted in one way only.

## Main results

* `perm_sortBy`, `pairwise_sortBy` — a sorted list is a reordering, and in order.
* `sortBy_eq_of_perm` — **the sorted list does not depend on the order before**, when keys differ.
* `exists_sortBy_cons`, `filter_sortBy` — sorting is stable.
* `eq_sortBy_of_filter_key` — **a list in order that has the items under every key in their order is
  the sorted one.**
-/

namespace PsetCompiler

/-- A list is cut in one way only into items that have a property and items that have it not. -/
theorem append_inj_of_forall {α : Type} {P : α → Prop} {l₁ l₂ m₁ m₂ : List α}
    (h : l₁ ++ l₂ = m₁ ++ m₂) (hl₁ : ∀ a ∈ l₁, P a) (hl₂ : ∀ a ∈ l₂, ¬P a) (hm₁ : ∀ a ∈ m₁, P a)
    (hm₂ : ∀ a ∈ m₂, ¬P a) : l₁ = m₁ ∧ l₂ = m₂ := by
  induction l₁ generalizing m₁ with
  | nil =>
    cases m₁ with
    | nil => exact ⟨rfl, h⟩
    | cons a m₁ =>
      have ha : a ∈ l₂ := by simp [show l₂ = a :: (m₁ ++ m₂) from h]
      exact absurd (hm₁ a List.mem_cons_self) (hl₂ a ha)
  | cons a l₁ ih =>
    cases m₁ with
    | nil =>
      have ha : a ∈ m₂ := by simp [← show a :: (l₁ ++ l₂) = m₂ from h]
      exact absurd (hl₁ a List.mem_cons_self) (hm₂ a ha)
    | cons b m₁ =>
      rw [List.cons_append, List.cons_append, List.cons.injEq] at h
      rw [List.forall_mem_cons] at hl₁ hm₁
      obtain ⟨rfl, rfl⟩ := ih h.2 hl₁.2 hm₁.2
      exact ⟨by rw [h.1], rfl⟩

namespace Text

theorem precedes_iff {s t : String} : precedes s t = true ↔ s ≤ t := by
  rw [precedes, Bool.not_eq_true', decide_eq_false_iff_not]
  exact String.not_lt

variable {α β : Type} (key : α → String)

theorem precedes_trans (a b c : α) (hab : precedes (key a) (key b))
    (hbc : precedes (key b) (key c)) : precedes (key a) (key c) :=
  precedes_iff.mpr (String.le_trans (precedes_iff.mp hab) (precedes_iff.mp hbc))

theorem precedes_total (a b : α) : precedes (key a) (key b) || precedes (key b) (key a) := by
  rw [Bool.or_eq_true, precedes_iff, precedes_iff]
  exact String.le_total _ _

theorem perm_sortBy (l : List α) : (sortBy key l).Perm l :=
  List.mergeSort_perm l _

@[simp] theorem mem_sortBy {l : List α} {a : α} : a ∈ sortBy key l ↔ a ∈ l :=
  List.mem_mergeSort

@[simp] theorem length_sortBy (l : List α) : (sortBy key l).length = l.length :=
  (perm_sortBy key l).length_eq

theorem pairwise_sortBy (l : List α) : (sortBy key l).Pairwise fun a b => key a ≤ key b :=
  (List.pairwise_mergeSort (precedes_trans key) (precedes_total key) l).imp fun hab =>
    precedes_iff.mp hab

/-- The order is strict when no key is there twice. -/
theorem pairwise_lt_sortBy {l : List α} (hl : (l.map key).Nodup) :
    (sortBy key l).Pairwise fun a b => key a < key b := by
  have hne : (sortBy key l).Pairwise fun a b => key a ≠ key b :=
    List.pairwise_map.mp (((perm_sortBy key l).map key).nodup_iff.mpr hl)
  refine ((pairwise_sortBy key l).and hne).imp fun ⟨hle, hne⟩ => ?_
  exact Decidable.byContradiction fun hlt => hne (String.le_antisymm hle (String.not_lt.mp hlt))

theorem mem_sortTexts {l : List String} {s : String} : s ∈ sortTexts l ↔ s ∈ l :=
  mem_sortBy _

/-- Texts of which none is there twice are in strict order when they are sorted. -/
theorem pairwise_lt_sortTexts {l : List String} (hl : l.Nodup) :
    (sortTexts l).Pairwise (· < ·) := by
  apply pairwise_lt_sortBy
  rwa [List.map_id']

theorem map_sortBy {key' : β → String} {f : α → β} (l : List α)
    (h : ∀ a ∈ l, key' (f a) = key a) : (sortBy key l).map f = sortBy key' (l.map f) :=
  List.map_mergeSort fun a ha b hb => by rw [h a ha, h b hb]

/-- Items with different keys can be sorted in one way only. -/
theorem sortBy_eq_of_perm {l m : List α} (hl : (l.map key).Nodup) (h : l.Perm m) :
    sortBy key l = sortBy key m := by
  have hperm : (sortBy key l).Perm (sortBy key m) :=
    (perm_sortBy key l).trans (h.trans (perm_sortBy key m).symm)
  refine hperm.eq_of_pairwise ?_ (pairwise_sortBy key l) (pairwise_sortBy key m)
  intro a b ha hb hab hba
  rw [mem_sortBy] at ha hb
  exact List.inj_on_of_nodup_map hl ha (h.mem_iff.mpr hb) (String.le_antisymm hab hba)

/-- One more item in front of a list comes behind the items with smaller keys and before all others,
those with its own key among them. -/
theorem exists_sortBy_cons (a : α) (l : List α) :
    ∃ smaller others, sortBy key (a :: l) = smaller ++ a :: others ∧
      sortBy key l = smaller ++ others ∧ (∀ b ∈ smaller, key b < key a) ∧
      ∀ b ∈ others, ¬key b < key a := by
  obtain ⟨smaller, others, hsorted, hrest, hsmaller⟩ :=
    List.mergeSort_cons (precedes_trans key) (precedes_total key) a l
  refine ⟨smaller, others, hsorted, hrest, ?_, ?_⟩
  · intro b hb
    have h := hsmaller b hb
    rwa [precedes, Bool.not_not, decide_eq_true_eq] at h
  · intro b hb
    have h : (smaller ++ a :: others).Pairwise fun a b => key a ≤ key b :=
      hsorted ▸ pairwise_sortBy key (a :: l)
    rw [List.pairwise_append, List.pairwise_cons] at h
    exact String.not_lt.mpr (h.2.1.1 b hb)

/-- Sorting is stable, so items can be left out before it or after it. -/
theorem filter_sortBy (keeps : α → Bool) (l : List α) :
    (sortBy key l).filter keeps = sortBy key (l.filter keeps) := by
  induction l with
  | nil => simp [sortBy]
  | cons a l ih =>
    obtain ⟨smaller, others, hsorted, hrest, hsmaller, hothers⟩ := exists_sortBy_cons key a l
    rw [hrest, List.filter_append] at ih
    rw [hsorted, List.filter_append]
    by_cases ha : keeps a
    · obtain ⟨smaller', others', hsorted', hrest', hsmaller', hothers'⟩ :=
        exists_sortBy_cons key a (l.filter keeps)
      -- where the item stands is decided by the keys, so both lists are cut at the same place
      obtain ⟨hleft, hright⟩ := append_inj_of_forall (P := fun b => key b < key a)
        (ih.trans hrest') (fun b hb => hsmaller b (List.mem_filter.mp hb).1)
        (fun b hb => hothers b (List.mem_filter.mp hb).1) hsmaller' hothers'
      rw [List.filter_cons_of_pos ha, List.filter_cons_of_pos ha, hsorted', hleft, hright]
    · rw [List.filter_cons_of_neg ha, List.filter_cons_of_neg ha]
      exact ih

/-- A list that is in order stays as it is. -/
theorem sortBy_of_pairwise {l : List α} (h : l.Pairwise fun a b => key a ≤ key b) :
    sortBy key l = l :=
  List.mergeSort_of_pairwise (h.imp fun hab => precedes_iff.mpr hab)

/-- Items with one key keep their order. -/
theorem filter_key_sortBy (l : List α) (k : String) :
    (sortBy key l).filter (key · == k) = l.filter (key · == k) := by
  rw [filter_sortBy]
  have hkey {a : α} (ha : a ∈ l.filter (key · == k)) : key a = k :=
    beq_iff_eq.mp (List.mem_filter.mp ha).2
  refine sortBy_of_pairwise key (List.pairwise_of_forall_mem_list fun a ha b hb => ?_)
  have hsame : key a = key b := (hkey ha).trans (hkey hb).symm
  exact hsame ▸ String.le_refl (key a)

theorem mem_iff_of_filter_key {l m : List α}
    (h : ∀ k, l.filter (key · == k) = m.filter (key · == k)) (a : α) : a ∈ l ↔ a ∈ m := by
  have ha := congrArg (a ∈ ·) (h (key a))
  simpa using ha

/-- Two lists in order are the same if they have the same items under every key, in one order. -/
theorem eq_of_filter_key {l m : List α} (hl : l.Pairwise fun a b => key a ≤ key b)
    (hm : m.Pairwise fun a b => key a ≤ key b)
    (h : ∀ k, l.filter (key · == k) = m.filter (key · == k)) : l = m := by
  have hmem := mem_iff_of_filter_key key h
  induction l generalizing m with
  | nil =>
    cases m with
    | nil => rfl
    | cons b m => exact absurd ((hmem b).mpr List.mem_cons_self) List.not_mem_nil
  | cons a l ih =>
    cases m with
    | nil => exact absurd ((hmem a).mp List.mem_cons_self) List.not_mem_nil
    | cons b m =>
      rw [List.pairwise_cons] at hl hm
      -- either first item is in the other list, so neither key is before the other
      have hab : key a ≤ key b := by
        rcases List.mem_cons.mp ((hmem b).mpr List.mem_cons_self) with rfl | hb
        · exact String.le_refl _
        · exact hl.1 b hb
      have hba : key b ≤ key a := by
        rcases List.mem_cons.mp ((hmem a).mp List.mem_cons_self) with rfl | ha
        · exact String.le_refl _
        · exact hm.1 a ha
      have hkey : key a = key b := String.le_antisymm hab hba
      have hfirst := h (key a)
      rw [List.filter_cons_of_pos (by simp), List.filter_cons_of_pos (by simp [hkey])] at hfirst
      obtain ⟨rfl, -⟩ := List.cons.inj hfirst
      have hrest (k : String) : l.filter (key · == k) = m.filter (key · == k) := by
        have hk := h k
        rw [List.filter_cons, List.filter_cons] at hk
        split at hk
        · exact (List.cons.inj hk).2
        · exact hk
      exact congrArg (a :: ·) (ih hl.2 hm.2 hrest (mem_iff_of_filter_key key hrest))

/-- **A list in order that has the items under every key in their order is the sorted one.** -/
theorem eq_sortBy_of_filter_key {l m : List α} (hm : m.Pairwise fun a b => key a ≤ key b)
    (h : ∀ k, m.filter (key · == k) = l.filter (key · == k)) : m = sortBy key l :=
  eq_of_filter_key key hm (pairwise_sortBy key l) fun k => by rw [h, filter_key_sortBy]

end Text

/-- Sorting by keys changes no lookup, when no key is there twice. -/
theorem lookup_sortBy {α : Type} {l : List (String × α)} (hl : (l.map (·.1)).Nodup) (k : String) :
    (Text.sortBy (·.1) l).lookup k = l.lookup k :=
  lookup_eq_of_perm hl (Text.perm_sortBy _ l).symm k

/-- Lists in which every key is found alike are sorted into one list, when no key is there twice. -/
theorem sortBy_eq_of_lookup {α : Type} {l m : List (String × α)} (hl : (l.map (·.1)).Nodup)
    (hm : (m.map (·.1)).Nodup) (h : ∀ k, l.lookup k = m.lookup k) :
    Text.sortBy (·.1) l = Text.sortBy (·.1) m := by
  refine Text.sortBy_eq_of_perm _ hl ?_
  rw [List.perm_ext_iff_of_nodup hl.of_map hm.of_map]
  rintro ⟨k, a⟩
  rw [← lookup_eq_some_iff_mem hl, ← lookup_eq_some_iff_mem hm, h]

end PsetCompiler
