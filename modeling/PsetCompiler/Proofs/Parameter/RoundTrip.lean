import PsetCompiler.Proofs.Stage.Parameters

/-!
# From a table to its file and back

A table that a file keeps is written to a file, and an empty table that is started from the file
holds the same entries but for the owning sets.  They come in the order of their names, and as no
name comes twice the order is strict.  On the way back no row is passed over, so nothing is reported
but how many rows were read.

## Main results

* `log_seedLines_eq_nil` — rows that say nothing themselves and are of different names are taken in
  without a report.
* `seedFile_tableText` — **reading the file of a table**, with the reports.
* `seedTable_writeTable` — **a table is written, and read back.**
-/

namespace PsetCompiler

open Text (IsLine)

/-- Lines that are read without reports, and whose parameters are all new to the table, are taken in
without reports. -/
theorem log_seedLines_eq_nil {lines : List (List Char)}
    (hquiet : ∀ line ∈ lines, ∀ place, (parseRow line place).log = []) (file : String)
    {table : ParameterTable} (hnew : (table.map (·.1) ++ (readRows lines).map (·.name)).Nodup)
    (number : Nat) : (seedLines file table number lines).log = [] := by
  induction lines generalizing table number with
  | nil => rfl
  | cons line lines ih =>
    rw [List.forall_mem_cons] at hquiet
    rw [readRows, List.filterMap_cons] at hnew
    rw [seedLines, Report.log_bind, hquiet.1, List.nil_append, value_parseRow]
    cases hline : (parseRow line).value with
    | none =>
      rw [hline] at hnew
      exact ih hquiet.2 hnew (number + 1)
    | some p =>
      rw [hline] at hnew
      dsimp only at hnew ⊢
      rw [List.map_cons] at hnew
      have hp : p.name ∉ table.map (·.1) :=
        mt (List.mem_append_left _) (List.nodup_middle.mp hnew).notMem
      rw [List.append_cons] at hnew
      have hrest : ((table ++ [(p.name, p)]).map (·.1) ++ (readRows lines).map (·.name)).Nodup := by
        rwa [List.map_append, List.map_singleton]
      rw [if_neg (mt lookup_isSome_iff_mem_keys.mp hp), Report.log_bind, ih hquiet.2 hrest]
      rfl

/-- Neither the header nor the rows of a table are reported. -/
theorem log_parseRow_of_mem_fileLines {table : ParameterTable} (h : table.IsRecordable)
    (groupId : Int) {groupName : String} (hgroup : IsLine groupName.toList) {line : String}
    (hline : line ∈ fileLines table groupId groupName) (place : String) :
    (parseRow line.toList place).log = [] := by
  rcases List.mem_append.mp hline with hline | hline
  · obtain ⟨hline, hhead⟩ := isLine_of_mem_headerLines groupId hgroup hline
    rw [parseRow_of_head hline hhead, Report.log_pure]
  · obtain ⟨e, he, rfl⟩ := List.mem_map.mp hline
    rw [(h.recordable e ((Text.mem_sortBy _).mp he)).parseRow_row, Report.log_pure]

/-- **Reading the file of a table.**  The entries come back in order of name, and it is reported how
many there are. -/
theorem seedFile_tableText {table : ParameterTable} (h : table.IsRecordable) (groupId : Int)
    {groupName : String} (hgroup : IsLine groupName.toList) (file path : String) :
    seedFile file path (Text.encodeUtf8 (tableText table groupId groupName).toList) [] =
      ⟨(ParameterTable.recorded (Text.sortBy (·.1) table), table.length),
        [.seeded table.length path]⟩ := by
  have hvalue := value_seedFile_tableText h groupId hgroup file path
  refine Report.ext hvalue ?_
  -- no row is passed over, and none is repeated
  have hquiet : ∀ line ∈ (fileLines table groupId groupName).map String.toList, ∀ place,
      (parseRow line place).log = [] := by
    intro cs hcs place
    obtain ⟨line, hline, rfl⟩ := List.mem_map.mp hcs
    exact log_parseRow_of_mem_fileLines h groupId hgroup hline place
  have hnew : (List.map (·.1) ([] : ParameterTable) ++
      (readRows ((fileLines table groupId groupName).map String.toList)).map (·.name)).Nodup := by
    rw [readRows_fileLines h groupId hgroup]
    exact h.nodup_names_recorded
  rw [← lines_tableText h.isLine_row groupId hgroup] at hquiet hnew
  have hlines := log_seedLines_eq_nil hquiet file hnew 1
  rw [value_seedFile] at hvalue
  rw [seedFile, Report.log_bind, hlines, hvalue, readBlocks_tableText]
  rfl

/-- The names that a file keeps come in their order, none of them twice. -/
theorem ParameterTable.IsRecordable.pairwise_recorded {table : ParameterTable}
    (h : table.IsRecordable) :
    ((ParameterTable.recorded (Text.sortBy (·.1) table)).map (·.1)).Pairwise (· < ·) := by
  rw [ParameterTable.keys_recorded, List.pairwise_map]
  exact Text.pairwise_lt_sortBy _ h.nodup

/-- What is reported on the way to a table that is started from a file is said by the file. -/
theorem result_seedTable {workspace : Workspace} {p : Path} {content : Text.Bytes}
    (h : workspace.files.read p = .ok content) :
    (seedTable (some p)).result workspace =
      ⟨(.ok (seedFile p.name p.text content []).value, workspace),
        (seedFile p.name p.text content []).log⟩ := by
  rw [seedTable, Run.result_bind_pure (result_readFile h), Run.result_liftM]

/-- **A table is written, and read back.**  Where a file can be written, a recordable table is
written without a report, for every group whose number and name can stand in the header; an empty
table that is started from the file takes in as many entries as the table has, in the strict order
of their names and each as it was but for the owning set.  Their number is all that is reported, and
that is no warning. -/
theorem seedTable_writeTable {table : ParameterTable} (h : table.IsRecordable)
    {settings : ParameterSettings} (hid : Text.IsWritable settings.groupId)
    (hgroup : IsLine settings.groupName.toList) {workspace : Workspace} {root : Path}
    {fileName : String}
    (hplace : workspace.files.HasPlaceFor ((parameterFolder root).child fileName)) :
    ∃ p after entries,
      (writeTable root settings fileName table).result workspace = pure (.ok p, after) ∧
      (seedTable (some p)).result after =
        ⟨(.ok (entries, table.length), after), [.seeded table.length p.text]⟩ ∧
      (∀ d ∈ ((seedTable (some p)).result after).log, d.level = .info) ∧
      (entries.map (·.1)).Pairwise (· < ·) ∧
      ∀ name, entries.lookup name = (table.lookup name).map Parameter.recorded := by
  obtain ⟨files, hstore, hread⟩ := hplace.exists_store
    (Text.encodeUtf8 (tableText table settings.groupId settings.groupName).toList)
  have hwrite := result_writeTable h hid hstore
  have hseed : (seedTable (some ((parameterFolder root).child fileName))).result
      { workspace with files } = _ := result_seedTable hread
  rw [seedFile_tableText h settings.groupId hgroup] at hseed
  refine ⟨_, _, _, hwrite, hseed, ?_, h.pairwise_recorded, fun name => ?_⟩
  · rw [hseed, List.forall_mem_singleton]
    rfl
  · rw [ParameterTable.lookup_recorded, lookup_sortBy h.nodup]

/-- Two entries that are not in the order of their names; one name is in another script, and one
category is quoted. -/
def glazingTable : ParameterTable :=
  [("Überdämmung", { name := "Überdämmung", guid := some (Guid.ofNat 7).text
                     paramType := .number, groupId := -3, dataCategory := "\"A\""
                     visible := false, owningSet := some "Pset_Wall" }),
    ("Glazing", { name := "Glazing", guid := some (Guid.ofNat 1).text, paramType := .text
                  description := " of a window\u2028", owningSet := some "Pset_WindowCommon" })]

theorem isRecordable_glazingTable : glazingTable.IsRecordable where
  nodup := by decide
  keyed := by simp [glazingTable]
  recordable := by
    rw [glazingTable, List.forall_mem_cons, List.forall_mem_singleton]
    exact ⟨{ name := by decide, named := by decide, description := by decide
             category := by decide, group := Text.isWritable_of_lt (by decide), guid := ⟨_, rfl⟩ },
      { name := by decide, named := by decide, description := by decide
        category := by decide, group := Text.isWritable_of_lt (by decide), guid := ⟨_, rfl⟩ }⟩

/-- Settings with a tab in the name of the group. -/
def glazingSettings : ParameterSettings where
  groupName := "IFC\tParameters"

theorem seedTable_writeTable_glazing :
    ∃ p after entries,
      (writeTable {} glazingSettings "glazing.txt" glazingTable).result bareWorkspace =
        pure (.ok p, after) ∧
      (seedTable (some p)).result after = ⟨(.ok (entries, 2), after), [.seeded 2 p.text]⟩ ∧
      entries.lookup "Glazing" = some
        { name := "Glazing", guid := some (Guid.ofNat 1).text, paramType := .text
          description := " of a window\u2028" } := by
  have hid : Text.IsWritable glazingSettings.groupId := Text.isWritable_of_lt (by decide)
  have hgroup : IsLine glazingSettings.groupName.toList := by decide
  have hplace : bareWorkspace.files.HasPlaceFor ((parameterFolder {}).child "glazing.txt") :=
    ⟨_, rfl⟩
  obtain ⟨p, after, entries, hwrite, hseed, -, -, hentries⟩ :=
    seedTable_writeTable isRecordable_glazingTable hid hgroup hplace
  exact ⟨p, after, entries, hwrite, hseed, hentries "Glazing"⟩

end PsetCompiler
