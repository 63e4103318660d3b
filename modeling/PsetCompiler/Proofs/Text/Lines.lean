import PsetCompiler.Parameter.Row
import PsetCompiler.Proofs.Text.Split
import PsetCompiler.Text.Encoding
import Mathlib.Data.List.Basic

/-!
# Lines and columns

A text is cut into lines and a line into columns.  Two things are needed of either cut: pieces hold
no separator, whatever was cut; and pieces without separators that were joined come out again.

## Main definitions

* `IsLine`, `IsColumn` — what can stand on one line, and in one column of a line.
* `completeLines` — the lines of a text that have their line ends.
* `cells` — the columns that a text takes up, one more than it has tabs.

## Main results

* `isLine_of_mem_lines`, `isColumn_of_mem_columnsOf` — what a cut gives.
* `columnsOf_joinColumns_eq_flatMap` — what was joined comes out in cells.
* `linesOf_unlines`, `columnsOf_joinColumns_concat` — **what was joined comes out again.**
* `completeLines_isPrefix` — complete lines stay what they are when a text goes on.
-/

namespace PsetCompiler.Text

/-- What can stand on one line. -/
def IsLine (cs : List Char) : Prop :=
  '\r' ∉ cs ∧ '\n' ∉ cs

/-- What can stand in one column. -/
def IsColumn (s : String) : Prop :=
  '\t' ∉ s.toList ∧ IsLine s.toList

instance (cs : List Char) : Decidable (IsLine cs) :=
  inferInstanceAs (Decidable (_ ∧ _))

instance (s : String) : Decidable (IsColumn s) :=
  inferInstanceAs (Decidable (_ ∧ _))

theorem IsLine.of_subset {cs ds : List Char} (h : IsLine cs) (hsub : ds ⊆ cs) : IsLine ds :=
  ⟨fun hr => h.1 (hsub hr), fun hn => h.2 (hsub hn)⟩

theorem isLine_append {cs ds : List Char} : IsLine (cs ++ ds) ↔ IsLine cs ∧ IsLine ds := by
  simp only [IsLine, List.mem_append, not_or]
  exact and_and_and_comm

theorem isColumn_append {s t : String} : IsColumn (s ++ t) ↔ IsColumn s ∧ IsColumn t := by
  simp only [IsColumn, String.toList_append, isLine_append, List.mem_append, not_or]
  exact and_and_and_comm

/-! ### Lines -/

/-- Lines, each with its line end. -/
def unlines (lines : List (List Char)) : List Char :=
  lines.flatMap (· ++ ['\n'])

theorem notMem_unifyLineEnds (cs : List Char) : '\r' ∉ unifyLineEnds cs := by
  fun_induction unifyLineEnds cs with
  | case1 => exact List.not_mem_nil
  | case2 rest ih => simpa using ih
  | case3 rest _ ih => simpa using ih
  | case4 c rest hc hother ih =>
    rw [List.mem_cons, not_or]
    exact ⟨fun hr => hother hr.symm, ih⟩

theorem unifyLineEnds_of_notMem {cs : List Char} (h : '\r' ∉ cs) : unifyLineEnds cs = cs := by
  fun_induction unifyLineEnds cs with
  | case1 => rfl
  | case2 rest ih => simp at h
  | case3 rest _ ih => simp at h
  | case4 c rest hc _ ih => rw [ih fun hr => h (List.mem_cons_of_mem _ hr)]

theorem cutLines_cons (c : Char) (cs : List Char) :
    cutLines (c :: cs) =
      if c = '\n' then ([] :: (cutLines cs).1, (cutLines cs).2)
      else
        match (cutLines cs).1 with
        | [] => ([], c :: (cutLines cs).2)
        | line :: more => ((c :: line) :: more, (cutLines cs).2) := rfl

/-- Nothing is lost by a cut. -/
theorem unlines_cutLines (cs : List Char) :
    unlines (cutLines cs).1 ++ (cutLines cs).2 = cs := by
  induction cs with
  | nil => rfl
  | cons c cs ih =>
    rw [cutLines_cons]
    split
    · next hc =>
      rw [hc]
      exact congrArg (List.cons '\n') ih
    · split
      · next hlines =>
        rw [hlines] at ih
        exact congrArg (List.cons c) ih
      · next hlines =>
        rw [hlines] at ih
        exact congrArg (List.cons c) ih

theorem notMem_of_mem_cutLines (cs : List Char) :
    (∀ line ∈ (cutLines cs).1, '\n' ∉ line) ∧ '\n' ∉ (cutLines cs).2 := by
  induction cs with
  | nil => simp [cutLines]
  | cons c cs ih =>
    rw [cutLines_cons]
    split
    · next hc => simpa using ih
    · next hc =>
      have hc' : '\n' ≠ c := fun h => hc h.symm
      split
      · next hlines => simpa [hc'] using ih.2
      · next line more hlines =>
        rw [hlines, List.forall_mem_cons] at ih
        simpa [hc', List.forall_mem_cons] using ih

/-- What a cut of a text without carriage returns gives can stand on one line each. -/
theorem isLine_cutLines {cs : List Char} (h : '\r' ∉ cs) :
    (∀ line ∈ (cutLines cs).1, IsLine line) ∧ IsLine (cutLines cs).2 := by
  rw [← unlines_cutLines cs, List.mem_append, not_or] at h
  obtain ⟨hlines, hlast⟩ := notMem_of_mem_cutLines cs
  refine ⟨fun line hmem => ⟨fun hr => h.1 ?_, hlines line hmem⟩, h.2, hlast⟩
  exact List.mem_flatMap.mpr ⟨line, hmem, List.mem_append_left _ hr⟩

/-- What is read line by line can stand on one line each. -/
theorem isLine_of_mem_lines {text : BlockText} {line : List Char} (h : line ∈ text.lines) :
    IsLine line := by
  rw [BlockText.lines] at h
  split at h
  · obtain ⟨hlines, hlast⟩ := isLine_cutLines (notMem_unifyLineEnds text.chars)
    unfold linesOf at h
    dsimp only at h
    split at h
    · exact hlines line h
    · rcases List.mem_append.mp h with h | h
      · exact hlines line h
      · rw [List.mem_singleton.mp h]
        exact hlast
  · exact (isLine_cutLines (notMem_unifyLineEnds _)).1 line h

theorem cutLines_append {line : List Char} (h : '\n' ∉ line) (rest : List Char) :
    cutLines (line ++ '\n' :: rest) = (line :: (cutLines rest).1, (cutLines rest).2) := by
  induction line with
  | nil => rfl
  | cons c line ih =>
    rw [List.mem_cons, not_or] at h
    rw [List.cons_append, cutLines, ih h.2]
    exact if_neg fun hc => h.1 hc.symm

theorem cutLines_unlines {lines : List (List Char)} (h : ∀ line ∈ lines, '\n' ∉ line) :
    cutLines (unlines lines) = (lines, []) := by
  induction lines with
  | nil => rfl
  | cons line lines ih =>
    rw [List.forall_mem_cons] at h
    rw [unlines, List.flatMap_cons, List.append_assoc]
    show cutLines (line ++ '\n' :: unlines lines) = _
    rw [cutLines_append h.1, ih h.2]

/-- Lines that were joined are cut again. -/
theorem linesOf_unlines {lines : List (List Char)} (h : ∀ line ∈ lines, IsLine line) :
    linesOf (unlines lines) = lines := by
  have hunify : unifyLineEnds (unlines lines) = unlines lines := by
    refine unifyLineEnds_of_notMem fun hr => ?_
    obtain ⟨line, hline, hmem⟩ := List.mem_flatMap.mp hr
    rcases List.mem_append.mp hmem with hmem | hmem
    · exact (h line hline).1 hmem
    · simp at hmem
  unfold linesOf
  rw [hunify, cutLines_unlines fun line hline => (h line hline).2]
  rfl

/-- Texts that are joined by line feeds, with one more at the end, are lines. -/
theorem toList_intercalate_newline {lines : List String} (h : lines ≠ []) :
    (String.intercalate "\n" lines ++ "\n").toList = unlines (lines.map String.toList) := by
  induction lines with
  | nil => exact absurd rfl h
  | cons line lines ih =>
    cases lines with
    | nil => simp [unlines]
    | cons next lines =>
      rw [String.intercalate_cons_cons, String.append_assoc, String.append_assoc,
        String.toList_append, String.toList_append, ih (List.cons_ne_nil _ _)]
      simp [unlines]

/-! ### Complete lines -/

/-- The lines of a text that have their line ends. -/
def completeLines (cs : List Char) : List (List Char) :=
  (cutLines (unifyLineEnds cs)).1

theorem completeLines_isPrefix_linesOf (cs : List Char) : completeLines cs <+: linesOf cs := by
  unfold completeLines linesOf
  dsimp only
  split
  · exact List.prefix_refl _
  · exact List.prefix_append _ _

theorem unifyLineEnds_return {cs : List Char} (h : cs.head? ≠ some '\n') :
    unifyLineEnds ('\r' :: cs) = '\n' :: unifyLineEnds cs := by
  rw [unifyLineEnds]
  rintro rest rfl
  exact h rfl

theorem unifyLineEnds_cons {c : Char} (h : c ≠ '\r') (cs : List Char) :
    unifyLineEnds (c :: cs) = c :: unifyLineEnds cs := by
  rw [unifyLineEnds]
  · rintro rest rfl
    exact absurd rfl h
  · rintro rfl
    exact absurd rfl h

/-- The line ends of a text stay line ends when the text goes on. -/
theorem unifyLineEnds_isPrefix {cs ds : List Char} (h : cs <+: ds) :
    unifyLineEnds cs <+: unifyLineEnds ds := by
  obtain ⟨ts, rfl⟩ := h
  fun_induction unifyLineEnds cs with
  | case1 => exact List.nil_prefix
  | case2 rest ih => exact (List.prefix_cons_inj '\n').mpr ih
  | case3 rest hrest ih =>
    by_cases hnext : (rest ++ ts).head? = some '\n'
    · -- a carriage return at the end gets its line feed
      rcases rest with _ | ⟨c, rest⟩
      · obtain ⟨ts, rfl⟩ := List.head?_eq_some_iff.mp hnext
        exact List.prefix_append ['\n'] _
      · rw [List.cons_append, List.head?_cons, Option.some_inj] at hnext
        exact absurd (congrArg (· :: rest) hnext) (hrest rest)
    · rw [List.cons_append, unifyLineEnds_return hnext]
      exact (List.prefix_cons_inj '\n').mpr ih
  | case4 c rest hpair hreturn ih =>
    rw [List.cons_append, unifyLineEnds_cons hreturn]
    exact (List.prefix_cons_inj c).mpr ih

/-- The complete lines of a text stay its lines when the text goes on. -/
theorem cutLines_isPrefix {cs ds : List Char} (h : cs <+: ds) :
    (cutLines cs).1 <+: (cutLines ds).1 := by
  induction cs generalizing ds with
  | nil => exact List.nil_prefix
  | cons c cs ih =>
    obtain ⟨ts, rfl⟩ := h
    obtain ⟨more, hmore⟩ := ih (List.prefix_append cs ts)
    rw [List.cons_append, cutLines_cons, cutLines_cons, ← hmore]
    split
    · exact List.prefix_append ([] :: (cutLines cs).1) more
    · split
      · exact List.nil_prefix
      · next line lines hlines =>
        rw [hlines]
        exact List.prefix_append ((c :: line) :: lines) more

theorem completeLines_isPrefix {cs ds : List Char} (h : cs <+: ds) :
    completeLines cs <+: completeLines ds :=
  cutLines_isPrefix (unifyLineEnds_isPrefix h)

theorem dropPendingReturn_isPrefix (cs : List Char) : dropPendingReturn cs <+: cs := by
  rw [dropPendingReturn]
  split
  · next rest hrest =>
    rw [← List.reverse_reverse cs, hrest, List.reverse_cons]
    exact List.prefix_append _ _
  · exact List.prefix_refl _

/-! ### Columns -/

theorem trimEndBy_of_isLine {cs : List Char} (h : IsLine cs) :
    trimEndBy (fun c => c = '\r' ∨ c = '\n') cs = cs := by
  refine trimEndBy_eq_self fun c hc => ?_
  rw [decide_eq_false_iff_not, not_or]
  exact ⟨fun hr => h.1 (hr ▸ hc), fun hn => h.2 (hn ▸ hc)⟩

/-- No column of a line holds a tab. -/
theorem tab_notMem_of_mem_columnsOf {line : List Char} {column : String}
    (hmem : column ∈ columnsOf line) : '\t' ∉ column.toList := by
  obtain ⟨part, hpart, rfl⟩ := List.mem_map.mp hmem
  rw [String.toList_ofList]
  intro ht
  simpa using (mem_of_mem_splitBy hpart ht).2

/-- What stands between tabs of one line can stand in one column. -/
theorem isColumn_of_mem_columnsOf {line : List Char} (h : IsLine line) {column : String}
    (hmem : column ∈ columnsOf line) : IsColumn column := by
  refine ⟨tab_notMem_of_mem_columnsOf hmem, ?_⟩
  rw [columnsOf, trimEndBy_of_isLine h] at hmem
  obtain ⟨part, hpart, rfl⟩ := List.mem_map.mp hmem
  rw [String.toList_ofList]
  exact h.of_subset fun c hc => (mem_of_mem_splitBy hpart hc).1

/-- Columns that are joined stand on one line. -/
theorem isLine_joinColumns {columns : List String} (h : ∀ column ∈ columns, IsLine column.toList) :
    IsLine (joinColumns columns).toList := by
  induction columns with
  | nil => exact ⟨List.not_mem_nil, List.not_mem_nil⟩
  | cons column columns ih =>
    rw [List.forall_mem_cons] at h
    cases columns with
    | nil => simpa [joinColumns] using h.1
    | cons next columns =>
      rw [joinColumns, String.intercalate_cons_cons, String.toList_append, String.toList_append,
        isLine_append, isLine_append]
      exact ⟨⟨h.1, by decide⟩, ih h.2⟩

/-- Columns without tabs are cut again where they were joined. -/
theorem splitOn_joinColumns {columns : List String} (hne : columns ≠ [])
    (h : ∀ column ∈ columns, '\t' ∉ column.toList) :
    (joinColumns columns).toList.splitOn '\t' = columns.map String.toList := by
  rw [joinColumns, String.toList_intercalate]
  refine List.splitOn_intercalate '\t' (fun cs hcs => ?_) (by simpa using hne)
  obtain ⟨column, hmem, rfl⟩ := List.mem_map.mp hcs
  exact h column hmem

/-- Joined columns end as the last of them. -/
theorem exists_joinColumns_concat (columns : List String) (last : String) :
    ∃ front, joinColumns (columns ++ [last]) = front ++ last := by
  induction columns with
  | nil => exact ⟨"", by simp [joinColumns]⟩
  | cons column columns ih =>
    obtain ⟨front, hfront⟩ := ih
    refine ⟨column ++ "\t" ++ front, ?_⟩
    rw [String.append_assoc, ← hfront]
    cases columns <;> simp [joinColumns, String.intercalate_cons_cons, String.append_assoc]

/-- Columns without tabs come out again, and line ends inside of them do no harm, if the last one
ends in some other character. -/
theorem columnsOf_joinColumns_concat {columns : List String} {last : String}
    (h : ∀ column ∈ columns ++ [last], '\t' ∉ column.toList) {cs : List Char} {c : Char}
    (hlast : last.toList = cs ++ [c]) (hc : c ≠ '\r' ∧ c ≠ '\n') :
    columnsOf (joinColumns (columns ++ [last])).toList = columns ++ [last] := by
  have hcut := splitOn_joinColumns (by simp) h
  obtain ⟨front, hfront⟩ := exists_joinColumns_concat columns last
  -- the line ends as the last column does, so nothing is trimmed
  have htrim : trimEndBy (fun c => c = '\r' ∨ c = '\n') (joinColumns (columns ++ [last])).toList =
      (joinColumns (columns ++ [last])).toList := by
    rw [hfront, String.toList_append, hlast, ← List.append_assoc]
    exact trimEndBy_concat (by simp [hc]) _
  rw [columnsOf, htrim, splitBy_eq_splitOn, hcut, List.map_map]
  exact (List.map_congr_left fun column _ => String.ofList_toList).trans (List.map_id _)

/-- The parts of a text between its tabs. -/
def cells (s : String) : List String :=
  (s.toList.splitOn '\t').map String.ofList

theorem cells_of_isColumn {s : String} (h : IsColumn s) : cells s = [s] := by
  rw [cells, List.splitOn_eq_singleton h.1, List.map_singleton, String.ofList_toList]

theorem isPrefix_of_splitOn {a : Char} {cs first : List Char} {parts : List (List Char)}
    (h : cs.splitOn a = first :: parts) : first <+: cs := by
  induction cs generalizing first parts with
  | nil =>
    cases h
    exact List.nil_prefix
  | cons c cs ih =>
    rw [List.splitOn_cons_eq_if_modifyHead] at h
    split at h
    · cases h
      exact List.nil_prefix
    · cases hrest : cs.splitOn a with
      | nil => exact absurd hrest (List.splitOn_ne_nil a cs)
      | cons next parts =>
        rw [hrest, List.modifyHead_cons] at h
        cases h
        exact List.cons_prefix_cons.mpr ⟨rfl, ih hrest⟩

/-- There is a first cell, and it is not behind the text in the order of texts. -/
theorem exists_cells_eq_cons (s : String) : ∃ first rest, cells s = first :: rest ∧ first ≤ s := by
  cases hsplit : s.toList.splitOn '\t' with
  | nil => exact absurd hsplit (List.splitOn_ne_nil _ _)
  | cons first parts =>
    refine ⟨String.ofList first, parts.map String.ofList, ?_, ?_⟩
    · rw [cells, hsplit, List.map_cons]
    · rw [← String.not_lt, String.lt_iff, String.toList_ofList]
      exact (isPrefix_of_splitOn hsplit).le

theorem splitOn_joinColumns_eq_flatMap {columns : List String} (hne : columns ≠ []) :
    (joinColumns columns).toList.splitOn '\t' =
      columns.flatMap fun column => column.toList.splitOn '\t' := by
  induction columns with
  | nil => exact absurd rfl hne
  | cons column columns ih =>
    cases columns with
    | nil => simp [joinColumns]
    | cons next columns =>
      have hcons : (joinColumns (column :: next :: columns)).toList =
          column.toList ++ '\t' :: (joinColumns (next :: columns)).toList := by
        rw [joinColumns, String.intercalate_cons_cons, String.toList_append, String.toList_append,
          List.append_assoc]
        rfl
      rw [hcons, List.splitOn_append_cons_self, ih (List.cons_ne_nil _ _)]
      rfl

/-- Joined columns on one line are cut at all tabs, those inside of them included. -/
theorem columnsOf_joinColumns_eq_flatMap {columns : List String} (hne : columns ≠ [])
    (h : ∀ column ∈ columns, IsLine column.toList) :
    columnsOf (joinColumns columns).toList = columns.flatMap cells := by
  rw [columnsOf, trimEndBy_of_isLine (isLine_joinColumns h), splitBy_eq_splitOn,
    splitOn_joinColumns_eq_flatMap hne, List.map_flatMap]
  rfl

end PsetCompiler.Text
