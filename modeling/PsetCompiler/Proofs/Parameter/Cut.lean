import PsetCompiler.Proofs.Parameter.File

/-!
# Rows that are cut

Nothing is escaped in a row: a text with tabs takes up several columns, and one with line ends takes
up several lines of the file.  The description of a parameter stands behind everything that the name
and the identifier are read from, so tabs in it do no harm.  Tabs in the name do: the name that is
read is its first cell.

So a row may be read under the name of another parameter.  But that name begins the one that was
cut, so it is before it in the order of the file, and the first row of a name counts.  As long as
every row is a line of its own, what becomes of a name does therefore not depend on the others.

## Main definitions

* `ParameterTable.IsLinewise` — the tables every row of which is a line of the file.

## Main results

* `IsOneLine.exists_parseRow`, `IsOneLine.name_le_of_parseRow` — what is read from a row.
* `IsLinewise.exists_lookup_seedFile` — **a name that fits into a column comes back with its
  identifier**, whatever the other names are.
* `isColumn_of_lookup_seedFile` — no other name comes back.
-/

namespace PsetCompiler

open Text (IsLine IsColumn cells)

/-! ### Rows -/

namespace Parameter.IsOneLine

variable {p : Parameter} (h : p.IsOneLine)
include h

/-- The columns that a row is cut into: the name and the description may take up several. -/
theorem columnsOf_row {g : Guid} (hg : p.guid = some g.text) :
    columnsOf p.row.toList =
      rowMark :: g.text :: (cells p.name ++ p.paramType.name :: p.dataCategory ::
        toString p.groupId :: flagColumn p.visible ::
          (cells p.description ++ [flagColumn p.userModifiable])) := by
  rw [row, hg]
  have hlines := h.isLine_columns g
  refine (Text.columnsOf_joinColumns_eq_flatMap (List.cons_ne_nil _ _) hlines).trans ?_
  simp only [List.flatMap_cons, List.flatMap_nil,
    Text.cells_of_isColumn (Text.isColumn_guidText g),
    Text.cells_of_isColumn (Text.isColumn_paramTypeName _), Text.cells_of_isColumn h.category,
    Text.cells_of_isColumn (Text.isColumn_toString _),
    Text.cells_of_isColumn (Text.isColumn_flagColumn _)]
  rfl

/-- A name without tabs is read from its row, with the identifier. -/
theorem exists_parseRow (hname : IsColumn p.name) :
    ∃ q, (parseRow p.row.toList).value = some q ∧ q.name = p.name ∧ q.guid = p.guid := by
  obtain ⟨g, hg⟩ := h.guid
  obtain ⟨first, rest, hcells, -⟩ := Text.exists_cells_eq_cons p.description
  -- behind the flag stands a cell of the description, and behind that another column
  obtain ⟨modifiable, others, hothers⟩ : ∃ modifiable others,
      rest ++ [flagColumn p.userModifiable] = modifiable :: others := by
    cases rest with
    | nil => exact ⟨_, _, rfl⟩
    | cons cell rest => exact ⟨_, _, rfl⟩
  have hcolumns := h.columnsOf_row hg
  rw [Text.cells_of_isColumn hname, List.singleton_append, hcells, List.cons_append,
    hothers] at hcolumns
  rw [parseRow, hcolumns]
  simp only [ne_eq, not_true_eq_false, if_false, h.named,
    Bool.false_eq_true, Guid.strip_text, Guid.read?_text, Text.readNumber_toString h.group,
    Report.value_bind]
  exact ⟨_, rfl, rfl, hg.symm⟩

/-- Whatever is read from a row, its name is not behind that of the parameter. -/
theorem name_le_of_parseRow {q : Parameter} (hq : (parseRow p.row.toList).value = some q) :
    q.name ≤ p.name := by
  obtain ⟨g, hg⟩ := h.guid
  obtain ⟨first, rest, hcells, hle⟩ := Text.exists_cells_eq_cons p.name
  obtain ⟨⟨guid, rawType, group, visible, modifiable, others, hcolumns⟩, -⟩ :=
    columnsOf_of_parseRow hq
  rw [h.columnsOf_row hg, hcells] at hcolumns
  obtain ⟨-, -, hname, -⟩ : rowMark = rowMark ∧ g.text = guid ∧ first = q.name ∧ _ := by
    simpa only [List.cons_append, List.cons.injEq] using hcolumns
  rwa [← hname]

end Parameter.IsOneLine

/-! ### Files -/

/-- No name is there twice, and every row is a line of the file. -/
structure ParameterTable.IsLinewise (table : ParameterTable) : Prop where
  nodup : (table.map (·.1)).Nodup
  keyed : ∀ e ∈ table, e.2.name = e.1
  oneLine : ∀ e ∈ table, e.2.IsOneLine

/-- Of the parameters of a name the first counts, unless the name is in the table. -/
theorem lookup_foldl_keepFirst (table : ParameterTable) (ps : List Parameter) (name : String) :
    (ps.foldl keepFirst table).lookup name =
      (table.lookup name).or (ps.find? (·.name == name)) := by
  induction ps generalizing table with
  | nil => rw [List.foldl_nil, List.find?_nil, Option.or_none]
  | cons p ps ih =>
    rw [List.foldl_cons, ih, List.find?_cons, keepFirst]
    by_cases hname : p.name = name
    · subst hname
      rw [beq_self_eq_true]
      cases hold : table.lookup p.name with
      | some old => simp [hold]
      | none => simp [hold, List.lookup_append]
    · have hother : (name == p.name) = false := by
        rw [beq_eq_false_iff_ne]
        exact Ne.symm hname
      rw [beq_eq_false_iff_ne.mpr hname]
      split
      · rfl
      · rw [List.lookup_append, List.lookup_cons, hother, List.lookup_nil, Option.or_none]

/-- A table that is started from a file has names that fit into a column. -/
theorem isColumn_of_lookup_seedFile {file path name : String} {content : Text.Bytes}
    (h : ((seedFile file path content []).value.1.lookup name).isSome) : IsColumn name := by
  obtain ⟨q, hq⟩ := Option.isSome_iff_exists.mp h
  have hrecordable := isRecordable_seedFile file path content
  have hname : q.name = name := hrecordable.keyed _ (mem_of_lookup hq)
  rw [← hname]
  exact (hrecordable.recordable _ (mem_of_lookup hq)).name

namespace ParameterTable.IsLinewise

variable {table : ParameterTable} (h : table.IsLinewise)
include h

/-- In the order of the file, the first row that is read under a name is that of its entry, if the
name fits into a column. -/
theorem find?_rows_eq_some {name : String} {p : Parameter} (hp : table.lookup name = some p)
    (hname : IsColumn name) :
    (Text.sortBy (·.1) table).find?
      (fun e => (parseRow e.2.row.toList).value.any (·.name == name)) = some (name, p) := by
  have hmem : (name, p) ∈ table := mem_of_lookup hp
  have hkey : p.name = name := h.keyed _ hmem
  obtain ⟨q, hq, hqname, -⟩ := (h.oneLine _ hmem).exists_parseRow (hkey ▸ hname)
  obtain ⟨before, after, hsorted⟩ := List.append_of_mem ((Text.mem_sortBy Prod.fst).mpr hmem)
  have horder := Text.pairwise_lt_sortBy Prod.fst h.nodup
  rw [hsorted] at horder
  rw [List.find?_eq_some_iff_append]
  refine ⟨?_, before, after, hsorted, fun e he => ?_⟩
  · rw [hq, Option.any_some, hqname, hkey, beq_self_eq_true]
  · -- what is read before comes from a smaller name, so it is smaller itself
    have hlt : e.1 < name := (List.pairwise_append.mp horder).2.2 e he _ List.mem_cons_self
    have hmem' : e ∈ table := by
      rw [← Text.mem_sortBy Prod.fst, hsorted]
      exact List.mem_append_left _ he
    rw [Bool.not_eq_true', Option.any_eq_false]
    intro r hr
    have hle : r.name ≤ e.1 := h.keyed e hmem' ▸ (h.oneLine e hmem').name_le_of_parseRow hr
    rw [beq_eq_false_iff_ne]
    rintro rfl
    exact String.not_lt.mpr hle hlt

/-- **A name that fits into a column comes back with its identifier**, whatever the other names
are. -/
theorem exists_lookup_seedFile (groupId : Int) {groupName : String}
    (hgroup : IsLine groupName.toList) (file path : String) {name : String} {p : Parameter}
    (hp : table.lookup name = some p) (hname : IsColumn name) :
    ∃ q, (seedFile file path (Text.encodeUtf8 (tableText table groupId groupName).toList)
        []).value.1.lookup name = some q ∧ q.guid = p.guid := by
  have hmem : (name, p) ∈ table := mem_of_lookup hp
  have hkey : p.name = name := h.keyed _ hmem
  obtain ⟨q, hq, -, hguid⟩ := (h.oneLine _ hmem).exists_parseRow (hkey ▸ hname)
  refine ⟨q, ?_, hguid⟩
  rw [value_seedFile, (value_seedLines _ _ _ _).1, lookup_foldl_keepFirst,
    lines_tableText (fun e he => (h.oneLine e he).isLine_row) groupId hgroup,
    readRows_fileLines_eq_filterMap table groupId hgroup, List.find?_filterMap,
    h.find?_rows_eq_some hp hname]
  exact hq

end ParameterTable.IsLinewise

end PsetCompiler
