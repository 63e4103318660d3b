import PsetCompiler.Parameter.File
import PsetCompiler.Proofs.Parameter.Row
import PsetCompiler.Proofs.Text.Encoding
import PsetCompiler.Proofs.Text.Order

/-!
# Reading back parameter files

A table is written row by row in order of name, and a table that is started from the file holds the
same parameters in that order.  Whatever a file holds, a table that is started from it can be
written: the tables of all runs are of one kind.

## Main definitions

* `ParameterTable.IsRecordable` — the tables that a file keeps.
* `ParameterTable.HasGuids`, `ParameterTable.HasWritableGroups` — the tables that can be written.
* `ParameterTable.recorded` — what a file keeps of a table.
* `tableText` — the file of a table that can be written.

## Main results

* `isRecordable_seedFile` — a table that is started from a file is recordable.
* `value_seedFile_tableText` — **a recordable table is read back from its file.**
* `tableText_congr` — the file depends on what is kept of the entries only.
-/

namespace PsetCompiler

open Text (IsLine IsColumn)

/-! ### Starting a table -/

/-- The parameters in the rows among some lines. -/
def readRows (lines : List (List Char)) : List Parameter :=
  lines.filterMap fun line => (parseRow line).value

/-- The table with a parameter under its name, unless the name is there. -/
def keepFirst (table : ParameterTable) (p : Parameter) : ParameterTable :=
  if (table.lookup p.name).isSome then table else table ++ [(p.name, p)]

/-- A table takes the first row of every name. -/
theorem value_seedLines (file : String) (table : ParameterTable) (number : Nat)
    (lines : List (List Char)) :
    (seedLines file table number lines).value.1 = (readRows lines).foldl keepFirst table ∧
      table.length + (seedLines file table number lines).value.2 =
        ((readRows lines).foldl keepFirst table).length := by
  induction lines generalizing table number with
  | nil => exact ⟨rfl, rfl⟩
  | cons line lines ih =>
    rw [seedLines, Report.value_bind, value_parseRow, readRows, List.filterMap_cons]
    cases (parseRow line).value with
    | none => exact ih table (number + 1)
    | some p =>
      dsimp only
      rw [List.foldl_cons, keepFirst]
      split
      · exact ih table (number + 1)
      · obtain ⟨htable, hadded⟩ := ih (table ++ [(p.name, p)]) (number + 1)
        refine ⟨htable, ?_⟩
        rw [← readRows, ← hadded, List.length_append, List.length_singleton, Nat.add_assoc,
          Nat.add_comm 1]
        rfl

/-! ### Recordable tables -/

namespace ParameterTable

/-- A file keeps the table: no name is there twice, and every entry can be kept by a row. -/
structure IsRecordable (table : ParameterTable) : Prop where
  nodup : (table.map (·.1)).Nodup
  keyed : ∀ e ∈ table, e.2.name = e.1
  recordable : ∀ e ∈ table, e.2.IsRecordable

/-- Every entry has an identifier in the written form. -/
def HasGuids (table : ParameterTable) : Prop :=
  ∀ e ∈ table, ∃ g : Guid, e.2.guid = some g.text

/-- The groups of all entries can be written. -/
def HasWritableGroups (table : ParameterTable) : Prop :=
  ∀ e ∈ table, Text.IsWritable e.2.groupId

/-- What a file keeps of a table. -/
def recorded (table : ParameterTable) : ParameterTable :=
  table.map fun e => (e.1, e.2.recorded)

theorem lookup_recorded (table : ParameterTable) (name : String) :
    table.recorded.lookup name = (table.lookup name).map Parameter.recorded := by
  induction table with
  | nil => rfl
  | cons e table ih =>
    rw [recorded, List.map_cons, List.lookup_cons, List.lookup_cons]
    cases name == e.1 with
    | true => rfl
    | false => exact ih

theorem keys_recorded (table : ParameterTable) :
    table.recorded.map (·.1) = table.map (·.1) := by
  rw [recorded, List.map_map]
  rfl

theorem isRecordable_nil : IsRecordable [] :=
  { nodup := List.nodup_nil, keyed := by simp, recordable := by simp }

theorem IsRecordable.hasGuids {table : ParameterTable} (h : table.IsRecordable) : table.HasGuids :=
  fun e he => (h.recordable e he).guid

theorem IsRecordable.hasWritableGroups {table : ParameterTable} (h : table.IsRecordable) :
    table.HasWritableGroups :=
  fun e he => (h.recordable e he).group

theorem IsRecordable.isLine_row {table : ParameterTable} (h : table.IsRecordable) :
    ∀ e ∈ table, IsLine e.2.row.toList :=
  fun e he => (h.recordable e he).isOneLine.isLine_row

theorem IsRecordable.keepFirst {table : ParameterTable} (h : table.IsRecordable) {p : Parameter}
    (hp : p.IsRecordable) : (keepFirst table p).IsRecordable := by
  rw [PsetCompiler.keepFirst]
  split
  · exact h
  · next hnew =>
    rw [lookup_isSome_iff_mem_keys] at hnew
    refine { nodup := ?_, keyed := ?_, recordable := ?_ }
    · exact nodup_keys_concat hnew h.nodup
    · exact List.forall_mem_append.mpr ⟨h.keyed, List.forall_mem_singleton.mpr rfl⟩
    · exact List.forall_mem_append.mpr ⟨h.recordable, List.forall_mem_singleton.mpr hp⟩

theorem IsRecordable.foldl_keepFirst {table : ParameterTable} (h : table.IsRecordable)
    {ps : List Parameter} (hps : ∀ p ∈ ps, p.IsRecordable) :
    (ps.foldl PsetCompiler.keepFirst table).IsRecordable := by
  induction ps generalizing table with
  | nil => exact h
  | cons p ps ih =>
    rw [List.forall_mem_cons] at hps
    exact ih (h.keepFirst hps.1) hps.2

end ParameterTable

theorem value_seedFile (file path : String) (content : Text.Bytes) (table : ParameterTable) :
    (seedFile file path content table).value =
      (seedLines file table 1 (Text.readBlocks content).lines).value := by
  rw [seedFile, Report.value_bind]
  split
  next seeded added heq =>
  rw [heq]
  split <;> rfl

/-- A table that is started from a file is recordable, whatever the file holds. -/
theorem isRecordable_seedFile (file path : String) (content : Text.Bytes) :
    (seedFile file path content []).value.1.IsRecordable := by
  rw [value_seedFile, (value_seedLines file [] 1 _).1]
  refine ParameterTable.isRecordable_nil.foldl_keepFirst fun p hp => ?_
  obtain ⟨line, hline, hp⟩ := List.mem_filterMap.mp hp
  exact isRecordable_of_parseRow (Text.isLine_of_mem_lines hline) hp

/-! ### Files of tables -/

/-- The lines of the file of a table. -/
def fileLines (table : ParameterTable) (groupId : Int) (groupName : String) : List String :=
  headerLines groupId groupName ++ (Text.sortBy (·.1) table).map (·.2.row)

/-- The file of a table. -/
def tableText (table : ParameterTable) (groupId : Int) (groupName : String) : String :=
  String.intercalate "\n" (fileLines table groupId groupName) ++ "\n"

theorem formatRows_eq_ok {entries : ParameterTable} (h : entries.HasGuids)
    (hgroups : entries.HasWritableGroups) :
    formatRows entries = .ok (entries.map (·.2.row)) := by
  induction entries with
  | nil => rfl
  | cons e entries ih =>
    obtain ⟨⟨g, hg⟩, hentries⟩ := List.forall_mem_cons.mp h
    obtain ⟨hgroup, hgroups⟩ := List.forall_mem_cons.mp hgroups
    rw [formatRows, formatRow_eq_ok hg hgroup, ih hentries hgroups]
    rfl

theorem fileText_eq_ok {table : ParameterTable} (h : table.HasGuids)
    (hgroups : table.HasWritableGroups) {groupId : Int} (hgroup : Text.IsWritable groupId)
    (groupName : String) :
    fileText table groupId groupName = .ok (tableText table groupId groupName) := by
  have hrows : formatRows (Text.sortBy (·.1) table) = _ :=
    formatRows_eq_ok (fun e he => h e ((Text.mem_sortBy _).mp he))
      fun e he => hgroups e ((Text.mem_sortBy _).mp he)
  rw [fileText, formatHeader_eq_ok hgroup, hrows]
  rfl

theorem isLine_of_mem_headerLines (groupId : Int) {groupName : String}
    (hgroup : IsLine groupName.toList) {line : String} (h : line ∈ headerLines groupId groupName) :
    IsLine line.toList ∧ line.toList.head? ≠ some 'P' := by
  have hgroupLine : IsLine (joinColumns ["GROUP", toString groupId, groupName]).toList ∧
      (joinColumns ["GROUP", toString groupId, groupName]).toList.head? ≠ some 'P' := by
    constructor
    · refine Text.isLine_joinColumns fun column hcolumn => ?_
      rcases List.mem_cons.mp hcolumn with rfl | hcolumn
      · decide
      · rcases List.mem_cons.mp hcolumn with rfl | hcolumn
        · exact (Text.isColumn_toString groupId).2
        · rwa [List.mem_singleton.mp hcolumn]
    · rw [joinColumns, String.intercalate_cons_cons, String.toList_append, String.toList_append]
      show some 'G' ≠ some 'P'
      decide
  simp only [headerLines, List.mem_cons, List.not_mem_nil, or_false] at h
  rcases h with rfl | rfl | rfl | rfl | rfl | rfl | rfl
  case inr.inr.inr.inr.inr.inl => exact hgroupLine
  all_goals decide

theorem isLine_of_mem_fileLines {table : ParameterTable} (h : ∀ e ∈ table, IsLine e.2.row.toList)
    (groupId : Int) {groupName : String} (hgroup : IsLine groupName.toList) {line : String}
    (hline : line ∈ fileLines table groupId groupName) : IsLine line.toList := by
  rcases List.mem_append.mp hline with hline | hline
  · exact (isLine_of_mem_headerLines groupId hgroup hline).1
  · obtain ⟨e, he, rfl⟩ := List.mem_map.mp hline
    exact h e ((Text.mem_sortBy _).mp he)

theorem toList_tableText (table : ParameterTable) (groupId : Int) (groupName : String) :
    (tableText table groupId groupName).toList =
      Text.unlines ((fileLines table groupId groupName).map String.toList) :=
  Text.toList_intercalate_newline (List.cons_ne_nil _ _)

/-- A file is read to its end, and gives back its text. -/
theorem readBlocks_tableText (table : ParameterTable) (groupId : Int) (groupName : String) :
    Text.readBlocks (Text.encodeUtf8 (tableText table groupId groupName).toList) =
      ⟨(tableText table groupId groupName).toList, true⟩ := by
  have hhead : (tableText table groupId groupName).toList.head? ≠ some Text.byteOrderMark := by
    rw [toList_tableText]
    show some '#' ≠ some Text.byteOrderMark
    decide
  exact Text.readBlocks_of_spells (Text.spells_encode .utf8 hhead)

/-- The lines of a file are read back, if every row is one of them. -/
theorem lines_tableText {table : ParameterTable} (h : ∀ e ∈ table, IsLine e.2.row.toList)
    (groupId : Int) {groupName : String} (hgroup : IsLine groupName.toList) :
    (Text.readBlocks (Text.encodeUtf8 (tableText table groupId groupName).toList)).lines =
      (fileLines table groupId groupName).map String.toList := by
  rw [readBlocks_tableText, Text.BlockText.lines, if_pos rfl, toList_tableText,
    Text.linesOf_unlines]
  intro line hline
  obtain ⟨line, hmem, rfl⟩ := List.mem_map.mp hline
  exact isLine_of_mem_fileLines h groupId hgroup hmem

/-- The header has no rows, so that what is read comes from the rows of the entries. -/
theorem readRows_fileLines_eq_filterMap (table : ParameterTable) (groupId : Int)
    {groupName : String} (hgroup : IsLine groupName.toList) :
    readRows ((fileLines table groupId groupName).map String.toList) =
      (Text.sortBy (·.1) table).filterMap fun e => (parseRow e.2.row.toList).value := by
  have hheader : readRows ((headerLines groupId groupName).map String.toList) = [] := by
    rw [readRows, List.filterMap_eq_nil_iff]
    intro cs hcs
    obtain ⟨line, hline, rfl⟩ := List.mem_map.mp hcs
    obtain ⟨hline, hhead⟩ := isLine_of_mem_headerLines groupId hgroup hline
    rw [parseRow_of_head hline hhead, Report.value_pure]
  rw [readRows] at hheader ⊢
  rw [fileLines, List.map_append, List.filterMap_append, hheader, List.nil_append, List.map_map,
    List.filterMap_map]
  rfl

/-- Every row gives back its parameter. -/
theorem readRows_fileLines {table : ParameterTable} (h : table.IsRecordable) (groupId : Int)
    {groupName : String} (hgroup : IsLine groupName.toList) :
    readRows ((fileLines table groupId groupName).map String.toList) =
      (Text.sortBy (·.1) table).map (·.2.recorded) := by
  rw [readRows_fileLines_eq_filterMap table groupId hgroup, ← List.filterMap_eq_map]
  refine List.filterMap_congr fun e he => ?_
  have hrow := (h.recordable e ((Text.mem_sortBy _).mp he)).parseRow_row ""
  exact congrArg Report.value hrow

theorem foldl_keepFirst_of_nodup (table : ParameterTable) {ps : List Parameter}
    (h : (table.map (·.1) ++ ps.map (·.name)).Nodup) :
    ps.foldl keepFirst table = table ++ ps.map fun p => (p.name, p) := by
  induction ps generalizing table with
  | nil => rw [List.foldl_nil, List.map_nil, List.append_nil]
  | cons p ps ih =>
    rw [List.map_cons] at h
    have hnew : p.name ∉ table.map (·.1) :=
      mt (List.mem_append_left _) (List.nodup_middle.mp h).notMem
    rw [List.append_cons] at h
    rw [List.foldl_cons, keepFirst, if_neg (mt lookup_isSome_iff_mem_keys.mp hnew), ih,
      List.map_cons, List.append_assoc]
    · rfl
    · rwa [List.map_append, List.map_singleton]

/-- No name is there twice in the parameters that a file keeps. -/
theorem ParameterTable.IsRecordable.nodup_names_recorded {table : ParameterTable}
    (h : table.IsRecordable) :
    (((Text.sortBy (·.1) table).map (·.2.recorded)).map (·.name)).Nodup := by
  have heq : ((Text.sortBy (·.1) table).map (·.2.recorded)).map (·.name) =
      (Text.sortBy (·.1) table).map (·.1) := by
    rw [List.map_map]
    exact List.map_congr_left fun e he => h.keyed e ((Text.mem_sortBy _).mp he)
  rw [heq]
  exact ((Text.perm_sortBy _ table).map _).nodup_iff.mpr h.nodup

/-- A recordable table is read back from its file, in order of name. -/
theorem value_seedFile_tableText {table : ParameterTable} (h : table.IsRecordable) (groupId : Int)
    {groupName : String} (hgroup : IsLine groupName.toList) (file path : String) :
    (seedFile file path (Text.encodeUtf8 (tableText table groupId groupName).toList) []).value =
      (ParameterTable.recorded (Text.sortBy (·.1) table), table.length) := by
  have hread := value_seedLines file [] 1 ((fileLines table groupId groupName).map String.toList)
  have hkeyed : ((Text.sortBy (·.1) table).map (·.2.recorded)).map (fun p => (p.name, p)) =
      ParameterTable.recorded (Text.sortBy (·.1) table) := by
    rw [List.map_map]
    refine List.map_congr_left fun e he => ?_
    rw [← h.keyed e ((Text.mem_sortBy _).mp he)]
    rfl
  -- no name is read twice, so that every row is kept
  rw [readRows_fileLines h groupId hgroup, foldl_keepFirst_of_nodup [] h.nodup_names_recorded,
    List.nil_append,
    hkeyed] at hread
  rw [value_seedFile, lines_tableText h.isLine_row groupId hgroup]
  refine Prod.ext hread.1 ?_
  have hlength := hread.2
  rw [ParameterTable.recorded, List.length_map, Text.length_sortBy, List.length_nil,
    Nat.zero_add] at hlength
  exact hlength

/-- The file of a table depends on what is kept of its entries only. -/
theorem tableText_congr {t u : ParameterTable} (ht : (t.map (·.1)).Nodup) (hu : (u.map (·.1)).Nodup)
    (h : ∀ name, (t.lookup name).map Parameter.recorded = (u.lookup name).map Parameter.recorded)
    (groupId : Int) (groupName : String) :
    tableText t groupId groupName = tableText u groupId groupName := by
  have hsorted (v : ParameterTable) : (Text.sortBy (·.1) v).map (·.2.row) =
      (Text.sortBy (·.1) v.recorded).map (·.2.row) := by
    rw [ParameterTable.recorded, ← Text.map_sortBy (·.1) (f := fun e => (e.1, e.2.recorded)) v
      fun _ _ => rfl, List.map_map]
    rfl
  have hsame : Text.sortBy (·.1) t.recorded = Text.sortBy (·.1) u.recorded := by
    refine sortBy_eq_of_lookup ?_ ?_ fun name => ?_
    · rwa [t.keys_recorded]
    · rwa [u.keys_recorded]
    · rw [t.lookup_recorded, u.lookup_recorded, h]
  rw [tableText, tableText, fileLines, fileLines, hsorted t, hsorted u, hsame]

/-! ### Rows of a file -/

/-- The columns of a line are those of the row of a name. -/
def isRowOf (name : String) (columns : List (List Char)) : Bool :=
  columns[0]? == some rowMark.toList && columns[2]? == some name.toList

/-- The row of a name in a file. -/
def rowOf? (content : Text.Bytes) (name : String) : Option (List Char) :=
  (Text.decodeUtf8? content).bind fun cs =>
    (cs.splitOn '\n').find? fun line => isRowOf name (line.splitOn '\t')

/-- The identifier in the row of a name in a file. -/
def guidOf? (content : Text.Bytes) (name : String) : Option String :=
  (rowOf? content name).bind fun row => (row.splitOn '\t')[1]?.map String.ofList

theorem splitOn_unlines {lines : List (List Char)} (h : ∀ line ∈ lines, '\n' ∉ line) :
    (Text.unlines lines).splitOn '\n' = lines ++ [[]] := by
  induction lines with
  | nil => rfl
  | cons line lines ih =>
    rw [List.forall_mem_cons] at h
    rw [Text.unlines, List.flatMap_cons, List.append_assoc]
    show (line ++ '\n' :: Text.unlines lines).splitOn '\n' = _
    rw [List.splitOn_append_cons_self_of_not_mem h.1, ih h.2, List.cons_append]

theorem splitOn_row {p : Parameter} (h : p.IsRecordable) {g : Guid} (hg : p.guid = some g.text) :
    p.row.toList.splitOn '\t' = (p.columns g.text).map String.toList := by
  rw [Parameter.row, hg]
  exact Text.splitOn_joinColumns (List.cons_ne_nil _ _) fun column hmem =>
    (h.isColumn_columns column hmem).1

theorem isRowOf_row {p : Parameter} (h : p.IsRecordable) (name : String) :
    isRowOf name (p.row.toList.splitOn '\t') = (name == p.name) := by
  obtain ⟨g, hg⟩ := h.guid
  rw [splitOn_row h hg]
  show (some rowMark.toList == some rowMark.toList && some p.name.toList == some name.toList) = _
  rw [beq_self_eq_true, Bool.true_and, Bool.eq_iff_iff, beq_iff_eq, beq_iff_eq, Option.some_inj,
    String.toList_inj, eq_comm]

theorem isRowOf_of_head {line : List Char} (h : line.head? ≠ some 'P') (name : String) :
    isRowOf name (line.splitOn '\t') = false := by
  cases hsplit : line.splitOn '\t' with
  | nil => exact absurd hsplit (List.splitOn_ne_nil _ _)
  | cons first parts =>
    rw [isRowOf, Bool.and_eq_false_iff]
    left
    rw [← Text.splitBy_eq_splitOn] at hsplit
    rw [beq_eq_false_iff_ne]
    intro hmark
    have hfirst : first = "PARAM".toList := Option.some.inj hmark
    rw [hfirst] at hsplit
    exact h (Text.head?_of_splitBy hsplit (by decide)).symm

theorem find?_rows {entries : List (String × Parameter)}
    (h : ∀ e ∈ entries, e.2.name = e.1 ∧ e.2.IsRecordable) (name : String) :
    (entries.map (·.2.row.toList)).find? (fun line => isRowOf name (line.splitOn '\t')) =
      (entries.lookup name).map (·.row.toList) := by
  induction entries with
  | nil => rfl
  | cons e entries ih =>
    rw [List.forall_mem_cons] at h
    rw [List.map_cons, List.find?_cons, isRowOf_row h.1.2, List.lookup_cons, h.1.1]
    cases name == e.1 with
    | true => rfl
    | false => exact ih h.2

/-- The row of a name in the file of a table is that of its entry. -/
theorem rowOf?_tableText {table : ParameterTable} (h : table.IsRecordable) (groupId : Int)
    {groupName : String} (hgroup : IsLine groupName.toList) (name : String) :
    rowOf? (Text.encodeUtf8 (tableText table groupId groupName).toList) name =
      (table.lookup name).map (·.row.toList) := by
  -- the search passes over the header, and behind the last row there is nothing
  have hheader : ((headerLines groupId groupName).map String.toList).find?
      (fun line => isRowOf name (line.splitOn '\t')) = none := by
    rw [List.find?_eq_none]
    intro cs hcs
    obtain ⟨line, hline, rfl⟩ := List.mem_map.mp hcs
    rw [isRowOf_of_head (isLine_of_mem_headerLines groupId hgroup hline).2]
    decide
  have hsorted : ∀ e ∈ Text.sortBy (·.1) table, e.2.name = e.1 ∧ e.2.IsRecordable := by
    intro e he
    rw [Text.mem_sortBy] at he
    exact ⟨h.keyed e he, h.recordable e he⟩
  have hlines : ∀ line ∈ (fileLines table groupId groupName).map String.toList, '\n' ∉ line := by
    intro cs hcs
    obtain ⟨line, hline, rfl⟩ := List.mem_map.mp hcs
    exact (isLine_of_mem_fileLines h.isLine_row groupId hgroup hline).2
  rw [rowOf?, Text.decodeUtf8?_encodeUtf8, Option.bind_some, toList_tableText,
    splitOn_unlines hlines, fileLines, List.map_append, List.find?_append, List.find?_append,
    hheader, Option.none_or, List.map_map]
  show (((Text.sortBy (·.1) table).map (·.2.row.toList)).find? _).or _ = _
  rw [find?_rows hsorted, lookup_sortBy h.nodup]
  cases table.lookup name <;> rfl

/-- The identifier of a name in the file of a table is that of its entry. -/
theorem guidOf?_tableText {table : ParameterTable} (h : table.IsRecordable) (groupId : Int)
    {groupName : String} (hgroup : IsLine groupName.toList) (name : String) :
    guidOf? (Text.encodeUtf8 (tableText table groupId groupName).toList) name =
      (table.lookup name).bind (·.guid) := by
  rw [guidOf?, rowOf?_tableText h groupId hgroup]
  cases hold : table.lookup name with
  | none => rfl
  | some p =>
    have hp : p.IsRecordable := h.recordable _ (mem_of_lookup hold)
    obtain ⟨g, hg⟩ := hp.guid
    rw [Option.map_some, Option.bind_some, Option.bind_some, splitOn_row hp hg, hg]
    simp [Parameter.columns]

end PsetCompiler
