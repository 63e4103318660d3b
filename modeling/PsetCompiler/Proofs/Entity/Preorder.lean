import PsetCompiler.Proofs.Entity.Walk
import Mathlib.Data.List.TakeWhile

/-!
# Depths in walks

A walk down lists keys with their depths, and the depths alone tell what stands below what.  Behind a
key comes first all that is below it, which is deeper; so the walk from a key ends where the next
line is no deeper.  In front of a key, the nearest line that is one step higher is that of the key
from which the walk came to it, as everything between the two is below that one.

Where a walk starts makes no difference but to its depths, so the part of a walk that starts with a
key is the walk from that key, only deeper.

## Main results

* `WalksAll.walks_takeWhile` — the part of a walk that is the walk from one of its keys.
* `WalksAll.exists_above` — **the key from which a walk came to another one.**
* `WalksAll.unique`, `Walks.map_deeper` — there is one walk, at every depth.
-/

namespace PsetCompiler

variable {next : String → List String}

/-! ### Depths -/

mutual

/-- No line of a walk is higher than the first. -/
theorem Walks.le_depth : ∀ {depth : Nat} {key : String} {walk : List (Nat × String)},
    Walks next depth key walk → ∀ line ∈ walk, depth ≤ line.1
  | _, _, _, .node hbelow, line, hline => by
    rcases List.mem_cons.mp hline with rfl | hline
    · exact Nat.le_refl _
    · exact Nat.le_of_succ_le (hbelow.le_depth line hline)

theorem WalksAll.le_depth : ∀ {depth : Nat} {keys : List String} {walk : List (Nat × String)},
    WalksAll next depth keys walk → ∀ line ∈ walk, depth ≤ line.1
  | _, _, _, .nil, _, hline => nomatch hline
  | _, _, _, .cons hfirst hothers, line, hline => by
    rcases List.mem_append.mp hline with hline | hline
    · exact hfirst.le_depth line hline
    · exact hothers.le_depth line hline

end

/-- Walks begin no deeper than they are, so nothing of them is taken along with deeper lines. -/
theorem WalksAll.takeWhile_eq_nil {depth : Nat} {keys : List String} {walk : List (Nat × String)}
    (h : WalksAll next depth keys walk) {top : Nat} (htop : depth ≤ top) :
    walk.takeWhile (top < ·.1) = [] := by
  cases h with
  | nil => rfl
  | cons hfirst _ =>
    cases hfirst with
    | node _ =>
      rw [List.cons_append, List.takeWhile_cons_of_neg]
      simp only [decide_eq_true_eq]
      omega

/-- Among lines that are no higher than some depth none is one step above it. -/
theorem find?_above_eq_none {depth : Nat} {lines : List (Nat × String)}
    (h : ∀ line ∈ lines, depth ≤ line.1) : lines.find? (·.1 + 1 == depth) = none := by
  rw [List.find?_eq_none]
  intro line hline
  have hle := h line hline
  simp only [beq_iff_eq]
  omega

/-! ### The lines around one line -/

/-- A line of two lists in a row is a line of the second one, or of the first. -/
theorem append_eq_append_cons {α : Type} {first others before after : List α} {line : α}
    (h : first ++ others = before ++ line :: after) :
    (∃ middle, before = first ++ middle ∧ others = middle ++ line :: after) ∨
      ∃ middle, first = before ++ line :: middle ∧ after = middle ++ others := by
  rcases List.append_eq_append_iff.mp h with ⟨middle, hbefore, hothers⟩ | ⟨middle, hfirst, hafter⟩
  · exact .inl ⟨middle, hbefore, hothers⟩
  · cases middle with
    | nil =>
      refine .inl ⟨[], ?_, hafter.symm⟩
      rw [hfirst, List.append_nil, List.append_nil]
    | cons line' middle =>
      obtain ⟨rfl, hrest⟩ := List.cons.inj hafter
      exact .inr ⟨middle, hfirst, hrest⟩

mutual

/-- The lines behind a line that are deeper, up to the first that is not, are what the walk from its
key passes below it. -/
theorem Walks.walks_takeWhile : ∀ {depth : Nat} {key : String} {walk : List (Nat × String)},
    Walks next depth key walk →
      ∀ {before : List (Nat × String)} {line : Nat × String} {after : List (Nat × String)},
        walk = before ++ line :: after →
        Walks next line.1 line.2 (line :: after.takeWhile (line.1 < ·.1))
  | depth, _, _, @Walks.node _ _ _ below hbelow, before, line, after, heq => by
    cases before with
    | nil =>
      -- everything behind the first line is deeper
      obtain ⟨rfl, rfl⟩ := List.cons.inj heq
      have hdeeper : below.takeWhile (depth < ·.1) = below := by
        rw [List.takeWhile_eq_self_iff]
        intro line hline
        exact decide_eq_true (hbelow.le_depth line hline)
      rw [hdeeper]
      exact .node hbelow
    | cons _ before => exact hbelow.walks_takeWhile (List.cons.inj heq).2

theorem WalksAll.walks_takeWhile : ∀ {depth : Nat} {keys : List String}
    {walk : List (Nat × String)}, WalksAll next depth keys walk →
      ∀ {before : List (Nat × String)} {line : Nat × String} {after : List (Nat × String)},
        walk = before ++ line :: after →
        Walks next line.1 line.2 (line :: after.takeWhile (line.1 < ·.1))
  | _, _, _, .nil, _, _, _, heq => by simp at heq
  | _, _, _, @WalksAll.cons _ _ _ _ first others hfirst hothers, before, line, after, heq => by
    rcases append_eq_append_cons heq with ⟨middle, -, hlines⟩ | ⟨middle, hlines, rfl⟩
    · exact hothers.walks_takeWhile hlines
    · have hmem : line ∈ first := by
        rw [hlines]
        exact List.mem_append_right _ List.mem_cons_self
      -- the walk that comes next begins no deeper than this line
      have hnext : others.takeWhile (line.1 < ·.1) = [] :=
        hothers.takeWhile_eq_nil (hfirst.le_depth line hmem)
      have htake : (middle ++ others).takeWhile (line.1 < ·.1) =
          middle.takeWhile (line.1 < ·.1) := by
        rw [List.takeWhile_append, hnext, List.append_nil]
        split
        · next hall => exact ((List.takeWhile_prefix _).eq_of_length hall).symm
        · rfl
      rw [htake]
      exact hfirst.walks_takeWhile hlines

end

mutual

/-- A line of a walk is the first one, or the nearest line in front of it that is one step higher is
that of a key that leads to its own. -/
theorem Walks.exists_above : ∀ {depth : Nat} {key : String} {walk : List (Nat × String)},
    Walks next depth key walk →
      ∀ {before : List (Nat × String)} {line : Nat × String} {after : List (Nat × String)},
        walk = before ++ line :: after →
        (before = [] ∧ line = (depth, key)) ∨
          ∃ above, before.reverse.find? (·.1 + 1 == line.1) = some above ∧ line.2 ∈ next above.2
  | depth, key, _, .node hbelow, before, line, after, heq => by
    cases before with
    | nil => exact .inl ⟨rfl, (List.cons.inj heq).1.symm⟩
    | cons first before =>
      obtain ⟨rfl, hlines⟩ := List.cons.inj heq
      right
      rw [List.reverse_cons, List.find?_append]
      rcases hbelow.exists_above hlines with ⟨hdepth, hnone, hkey⟩ | ⟨above, habove, hkey⟩
      · refine ⟨(depth, key), ?_, hkey⟩
        rw [hnone, hdepth]
        simp
      · exact ⟨above, by rw [habove]; rfl, hkey⟩

theorem WalksAll.exists_above : ∀ {depth : Nat} {keys : List String}
    {walk : List (Nat × String)}, WalksAll next depth keys walk →
      ∀ {before : List (Nat × String)} {line : Nat × String} {after : List (Nat × String)},
        walk = before ++ line :: after →
        (line.1 = depth ∧ before.reverse.find? (·.1 + 1 == line.1) = none ∧ line.2 ∈ keys) ∨
          ∃ above, before.reverse.find? (·.1 + 1 == line.1) = some above ∧ line.2 ∈ next above.2
  | _, _, _, .nil, _, _, _, heq => by simp at heq
  | depth, _, _, @WalksAll.cons _ _ key keys first _ hfirst hothers, before, line, after, heq => by
    rcases append_eq_append_cons heq with ⟨middle, rfl, hlines⟩ | ⟨middle, hlines, -⟩
    · rw [List.reverse_append, List.find?_append]
      rcases hothers.exists_above hlines with ⟨hdepth, hnone, hkey⟩ | ⟨above, habove, hkey⟩
      · refine .inl ⟨hdepth, ?_, List.mem_cons_of_mem _ hkey⟩
        rw [hnone, hdepth, Option.none_or, find?_above_eq_none]
        intro line hline
        exact hfirst.le_depth line (List.mem_reverse.mp hline)
      · exact .inr ⟨above, by rw [habove]; rfl, hkey⟩
    · rcases hfirst.exists_above hlines with ⟨rfl, rfl⟩ | ⟨above, habove, hkey⟩
      · exact .inl ⟨rfl, rfl, List.mem_cons_self⟩
      · exact .inr ⟨above, habove, hkey⟩

end

/-! ### One walk at every depth -/

mutual

/-- There is one walk from a key. -/
theorem Walks.unique : ∀ {depth : Nat} {key : String} {walk : List (Nat × String)},
    Walks next depth key walk → ∀ {other : List (Nat × String)}, Walks next depth key other →
      walk = other
  | _, _, _, .node hbelow, _, .node hother => by rw [hbelow.unique hother]

theorem WalksAll.unique : ∀ {depth : Nat} {keys : List String} {walk : List (Nat × String)},
    WalksAll next depth keys walk → ∀ {other : List (Nat × String)},
      WalksAll next depth keys other → walk = other
  | _, _, _, .nil, _, .nil => rfl
  | _, _, _, .cons hfirst hothers, _, .cons hfirst' hothers' => by
    rw [hfirst.unique hfirst', hothers.unique hothers']

end

/-- A line moved down by some steps. -/
def deeper (steps : Nat) (line : Nat × String) : Nat × String :=
  (line.1 + steps, line.2)

mutual

/-- The walk from a key that stands deeper. -/
theorem Walks.map_deeper (steps : Nat) : ∀ {depth : Nat} {key : String}
    {walk : List (Nat × String)}, Walks next depth key walk →
      Walks next (depth + steps) key (walk.map (deeper steps))
  | _, _, _, .node hbelow => by
    have hmoved := hbelow.map_deeper steps
    rw [Nat.succ_add_eq_add_succ] at hmoved
    exact .node hmoved

theorem WalksAll.map_deeper (steps : Nat) : ∀ {depth : Nat} {keys : List String}
    {walk : List (Nat × String)}, WalksAll next depth keys walk →
      WalksAll next (depth + steps) keys (walk.map (deeper steps))
  | _, _, _, .nil => .nil
  | _, _, _, .cons hfirst hothers => by
    rw [List.map_append]
    exact .cons (hfirst.map_deeper steps) (hothers.map_deeper steps)

end

end PsetCompiler
