import PsetCompiler.Checked
import PsetCompiler.Proofs.Json.Parsed

/-!
# How deep values lie in one another

A text that spells a record is read only if its lists and objects do not lie in one another too
deep.  A value without numbers is within the limits exactly if it is no deeper than that; so the
record that is read from a text is said by the value that was written and by its depth.

## Main definitions

* `Json.depth` — how many lists and objects that hold something lie in one another.

## Main results

* `Json.fits_iff` — a value fits into the levels that are left when it is no deeper.
* `readJsonText_render` — **what is read from the text of a value.**
-/

namespace PsetCompiler

namespace Json

mutual

/-- How many lists and objects that hold something lie in one another. -/
def depth : Json → Nat
  | .arr items => itemsDepth items
  | .obj members => membersDepth members
  | _ => 0

/-- The depth of a list of these items. -/
def itemsDepth : List Json → Nat
  | [] => 0
  | item :: rest => max (item.depth + 1) (itemsDepth rest)

/-- The depth of an object of these members. -/
def membersDepth : List (String × Json) → Nat
  | [] => 0
  | (_, value) :: rest => max (value.depth + 1) (membersDepth rest)

end

@[simp] theorem depth_bool (b : Bool) : (Json.bool b).depth = 0 := rfl

@[simp] theorem depth_str (s : String) : (Json.str s).depth = 0 := rfl

@[simp] theorem depth_text? (s : Option String) : (Json.text? s).depth = 0 := by
  cases s <;> rfl

/-- A list is deeper than its items, and no deeper than it has to be for them. -/
@[simp] theorem depth_arr_le_iff {items : List Json} {n : Nat} :
    (Json.arr items).depth ≤ n ↔ ∀ item ∈ items, item.depth < n := by
  rw [depth]
  induction items with
  | nil => simp [itemsDepth]
  | cons item items ih => rw [itemsDepth, Nat.max_le, ih, List.forall_mem_cons, Nat.succ_le_iff]

/-- So is an object. -/
@[simp] theorem depth_obj_le_iff {members : List (String × Json)} {n : Nat} :
    (Json.obj members).depth ≤ n ↔ ∀ e ∈ members, e.2.depth < n := by
  rw [depth]
  induction members with
  | nil => simp [membersDepth]
  | cons e members ih =>
    rw [membersDepth, Nat.max_le, ih, List.forall_mem_cons, Nat.succ_le_iff]

@[simp] theorem depth_ofPairs_le_iff {α : Type} {value : α → Json} {pairs : List (String × α)}
    {n : Nat} : (ofPairs value pairs).depth ≤ n ↔ ∀ e ∈ pairs, (value e.2).depth < n := by
  rw [ofPairs, depth_obj_le_iff, List.forall_mem_map]

@[simp] theorem depth_arr_lt_iff {items : List Json} {n : Nat} :
    (Json.arr items).depth < n ↔ 0 < n ∧ ∀ item ∈ items, item.depth + 1 < n := by
  cases n with
  | zero => simp
  | succ n => rw [Nat.lt_succ_iff, depth_arr_le_iff]; simp

@[simp] theorem depth_obj_lt_iff {members : List (String × Json)} {n : Nat} :
    (Json.obj members).depth < n ↔ 0 < n ∧ ∀ e ∈ members, e.2.depth + 1 < n := by
  cases n with
  | zero => simp
  | succ n => rw [Nat.lt_succ_iff, depth_obj_le_iff]; simp

@[simp] theorem depth_ofPairs_lt_iff {α : Type} {value : α → Json} {pairs : List (String × α)}
    {n : Nat} :
    (ofPairs value pairs).depth < n ↔ 0 < n ∧ ∀ e ∈ pairs, (value e.2).depth + 1 < n := by
  rw [ofPairs, depth_obj_lt_iff, List.forall_mem_map]

theorem itemsFit_iff {items : List Json} {levels : Nat}
    (h : ∀ item ∈ items, ∀ n, item.fits n = true ↔ item.depth ≤ n) :
    itemsFit levels items = true ↔ ∀ item ∈ items, item.depth < levels := by
  induction items with
  | nil => cases levels <;> simp [itemsFit]
  | cons item items ih =>
    rw [List.forall_mem_cons] at h
    cases levels with
    | zero => exact ⟨nofun, fun hnone => absurd (hnone item List.mem_cons_self) (Nat.not_lt_zero _)⟩
    | succ levels =>
      rw [itemsFit, Bool.and_eq_true, h.1, ih h.2, List.forall_mem_cons, Nat.lt_succ_iff]

theorem membersFit_iff {members : List (String × Json)} {levels : Nat}
    (h : ∀ e ∈ members, ∀ n, e.2.fits n = true ↔ e.2.depth ≤ n) :
    membersFit levels members = true ↔ ∀ e ∈ members, e.2.depth < levels := by
  induction members with
  | nil => cases levels <;> simp [membersFit]
  | cons e members ih =>
    rw [List.forall_mem_cons] at h
    cases levels with
    | zero => exact ⟨nofun, fun hnone => absurd (hnone e List.mem_cons_self) (Nat.not_lt_zero _)⟩
    | succ levels =>
      rw [membersFit, Bool.and_eq_true, h.1, ih h.2, List.forall_mem_cons, Nat.lt_succ_iff]

/-- A value without numbers fits into the levels that are left exactly if it is no deeper. -/
theorem fits_iff {v : Json} (h : v.Numberless) (levels : Nat) :
    v.fits levels = true ↔ v.depth ≤ levels := by
  induction v using induction_on generalizing levels with
  | int n => exact h.elim
  | decimal d => exact h.elim
  | null => simp [fits, depth]
  | bool b => simp [fits, depth]
  | str s => simp [fits]
  | arr items ih =>
    rw [numberless_arr] at h
    rw [fits, itemsFit_iff fun item hitem => ih item hitem (h item hitem), depth_arr_le_iff]
  | obj members ih =>
    rw [numberless_obj] at h
    rw [fits, membersFit_iff fun e he => ih e he (h e he), depth_obj_le_iff]

end Json

/-- **What is read from the text of a value.**  A value that is not too deep is read as itself, and
no other can be read. -/
theorem readJsonText_render {α : Type} (read : Json → Checked α) {v : Json} (h : v.Numberless) :
    readJsonText read (v.render ++ "\n").toList =
      if v.depth ≤ Json.deepest then (read v).asText else .problem .jsonInvalid := by
  rw [readJsonText, Json.parse?_render h]
  have hlimits : v.isWithinLimits = true ↔ v.depth ≤ Json.deepest := Json.fits_iff h _
  by_cases hdeep : v.depth ≤ Json.deepest
  · rw [Option.filter_some_pos (hlimits.mpr hdeep), if_pos hdeep]
  · rw [Option.filter_some_neg (Bool.eq_false_iff.mpr (mt hlimits.mp hdeep)), if_neg hdeep]

end PsetCompiler
