import PsetCompiler.Proofs.Parameter.Distinct
import PsetCompiler.Proofs.Parameter.Identified
import PsetCompiler.Proofs.Stage.Regeneration

/-!
# The parameters stage is all or nothing

A run of the stage first reads, then merges, and writes at the end.  Reading and merging leave the
files alone, whether they come to an end or not.  Once they have come to an end, everything in both
tables has an identifier: rows without one are not read, and merging puts one in.  A group with too
many digits to be written can come from the settings only.  If theirs can be written, then both
tables have a text, and unless a file cannot be written, nothing stops the run between its two files.
If it cannot, then the run ends in front of its first file, for want of a header.

## Main definitions

* `ParameterSettings.outputPath` — the file of a table.
* `ReachesTables` — the tables that a run ends with.
* `WritesTables` — both files hold the tables afterwards.
* `LeavesFiles` — all files are as before.

## Main results

* `isWritable_of_reachesTables` — **the tables that a run ends with can be written.**
* `execute_all_or_nothing` — **a run changes both files or none.**
-/

namespace PsetCompiler

open Run (Keeps)
open Regeneration (doorRun)

variable {root : Path} {settings : ParameterSettings} {input : CatalogInput} {workspace : Workspace}

/-! ### What leaves the files alone -/

theorem keeps_readText (p : Path) : Keeps id (Workspace.readText p) := by
  refine .bind (.bind .get fun w => ?_) fun content => ?_
  · split
    · exact .pure _
    · exact .fails _
  · split
    · exact .pure _
    · exact .fails _

theorem keeps_readCatalog (p : Path) : Keeps id (Workspace.readCatalog p) :=
  .bind (keeps_readText p) fun _ => .ofExcept _

theorem keeps_acceptsSeeds (seeds : List (Option String)) : Keeps id (acceptsSeeds root seeds) := by
  induction seeds with
  | nil => exact .pure _
  | cons configured rest ih =>
    rw [acceptsSeeds]
    split
    · refine .bind .get fun w => ?_
      split
      · exact ih
      · exact .bind (.ofReport _) fun _ => .pure _
    · exact ih

theorem keeps_acceptsParameters : Keeps id (acceptsParameters root settings input) := by
  refine .bind (.bind .get fun w => ?_) fun accepted => ?_
  · split
    · exact .pure _
    · exact .bind (.ofReport _) fun _ => .pure _
  · split
    · exact keeps_acceptsSeeds _
    · exact .pure _

theorem keeps_seedTable (p : Option Path) : Keeps id (seedTable p) := by
  unfold seedTable
  split
  · exact .pure _
  · refine .bind (.bind .get fun w => ?_) fun content => .ofReport _
    split
    · exact .pure _
    · exact .fails _

theorem keeps_seedLedger : Keeps id (seedLedger root settings) :=
  .bind .get fun _ => .bind (keeps_seedTable _) fun _ => .bind (keeps_seedTable _) fun _ => .pure _

/-! ### The tables at the end -/

/-- A run comes to its tables: the catalog is read, the tables are started, and all is merged. -/
def ReachesTables (root : Path) (settings : ParameterSettings) (input : CatalogInput)
    (workspace : Workspace) (tables : Ledger) (seeded merged : Nat) : Prop :=
  ∃ catalog start,
    (Workspace.readCatalog input.catalogFile).outcome workspace = (.ok catalog, workspace) ∧
    (seedLedger root settings).outcome workspace = (.ok (start, seeded), workspace) ∧
    (mergeCatalog catalog settings.qualifiedNames settings.groupId).outcome start =
      (.ok merged, tables)

theorem ParameterTable.IsRecordable.isWritable {table : ParameterTable} (h : table.IsRecordable) :
    ∀ entry ∈ table, entry.2.IsWritable := by
  intro entry hentry
  obtain ⟨g, hg⟩ := h.hasGuids entry hentry
  exact { identified := ⟨g.text, hg, g.text_ne_empty⟩, group := h.hasWritableGroups entry hentry }

/-- A table is started with rows that were read, and these can be written. -/
theorem isWritable_of_seedTable {p : Option Path} {table : ParameterTable} {count : Nat}
    {after : Workspace} (h : (seedTable p).outcome workspace = (.ok (table, count), after)) :
    ∀ entry ∈ table, entry.2.IsWritable := by
  unfold seedTable at h
  split at h
  · cases h
    exact ParameterTable.isRecordable_nil.isWritable
  · next p =>
    obtain ⟨content, _, -, h⟩ := Run.outcome_bind_eq_ok_iff.mp h
    rw [Run.outcome_liftM, Prod.mk.injEq, Except.ok.injEq] at h
    have hrecordable := isRecordable_seedFile p.name p.text content
    rw [h.1] at hrecordable
    exact hrecordable.isWritable

theorem isWritable_of_seedLedger {start : Ledger} {seeded : Nat} {after : Workspace}
    (h : (seedLedger root settings).outcome workspace = (.ok (start, seeded), after)) :
    start.IsWritable := by
  obtain ⟨_, _, -, h⟩ := Run.outcome_bind_eq_ok_iff.mp h
  obtain ⟨⟨instances, fromInstances⟩, _, hinstances, h⟩ := Run.outcome_bind_eq_ok_iff.mp h
  obtain ⟨⟨types, fromTypes⟩, _, htypes, h⟩ := Run.outcome_bind_eq_ok_iff.mp h
  cases h
  intro side
  cases side with
  | instances => exact isWritable_of_seedTable hinstances
  | types => exact isWritable_of_seedTable htypes

/-- Everything in the tables of a run can be written, if the group of the settings can. -/
theorem isWritable_of_reachesTables {tables : Ledger} {seeded merged : Nat}
    (h : ReachesTables root settings input workspace tables seeded merged)
    (hid : Text.IsWritable settings.groupId) : tables.IsWritable := by
  obtain ⟨catalog, start, -, hseed, hmerge⟩ := h
  -- what was merged to its end was posted
  obtain ⟨hflat, hguids⟩ := exists_outcome_mergeCatalog_iff.mp ⟨merged, tables, hmerge⟩
  have hposted := hmerge.symm.trans (outcome_mergeCatalog hflat hguids _ _ start)
  rw [Prod.mk.injEq] at hposted
  rw [hposted.2]
  exact (isWritable_of_seedLedger hseed).postAll Catalog.given_postings_ne_empty fun p hp =>
    Catalog.groupId_of_mem_postings p hp ▸ hid

/-! ### Writing both files -/

/-- The file of a table. -/
def ParameterSettings.outputPath (settings : ParameterSettings) (root : Path) (side : Side) :
    Path :=
  (parameterFolder root).child (settings.fileName side)

/-- The files of both tables can be written, one after the other, whatever they hold. -/
def CanWriteTables (root : Path) (settings : ParameterSettings) (files : FileTree) : Prop :=
  ∀ a b, ∃ t u, files.store (settings.outputPath root .instances) a = .ok t ∧
    t.store (settings.outputPath root .types) b = .ok u

/-- Both files are written anew, each from its table.  They are both read back unless their paths
lead to one place, which then holds the table of types. -/
def WritesTables (root : Path) (settings : ParameterSettings) (tables : Ledger)
    (before after : FileTree) : Prop :=
  ∃ instances types between,
    fileText tables.instances settings.groupId settings.groupName = .ok instances ∧
    fileText tables.types settings.groupId settings.groupName = .ok types ∧
    before.store (settings.outputPath root .instances) (Text.encodeUtf8 instances.toList) =
      .ok between ∧
    between.store (settings.outputPath root .types) (Text.encodeUtf8 types.toList) = .ok after ∧
    (after.locate (settings.outputPath root .instances) ≠
        after.locate (settings.outputPath root .types) →
      after.read (settings.outputPath root .instances) =
        .ok (Text.encodeUtf8 instances.toList)) ∧
    after.read (settings.outputPath root .types) = .ok (Text.encodeUtf8 types.toList)

/-- All files are as before.  There may be new folders, but none if the group of the settings can be
written. -/
structure LeavesFiles (settings : ParameterSettings) (before after : FileTree) : Prop where
  sameFiles : before.SameFiles after
  eq_of_isWritable : Text.IsWritable settings.groupId → after = before

theorem LeavesFiles.refl (settings : ParameterSettings) (files : FileTree) :
    LeavesFiles settings files files where
  sameFiles := .refl files
  eq_of_isWritable _ := rfl

/-- Without a header there is no file; its folder is made all the same. -/
theorem exists_outcome_writeTable (hid : ¬Text.IsWritable settings.groupId) {fileName : String}
    (table : ParameterTable) {made : FileTree}
    (hmake : workspace.files.makeFolders ((parameterFolder root).child fileName).parent =
      .ok made) :
    ∃ failure, (writeTable root settings fileName table).outcome workspace =
      (.error failure, { workspace with files := made }) := by
  cases htext : fileText table settings.groupId settings.groupName with
  | ok text => exact absurd (exists_fileText_iff.mp ⟨text, htext⟩).1 hid
  | error failure =>
    have hfails (w : Workspace) : Run.outcome (Run.ofExcept
        (fileText table settings.groupId settings.groupName)) w = (.error failure, w) := by
      rw [Run.outcome_ofExcept, htext]
    refine ⟨failure, ?_⟩
    rw [writeTable, Run.outcome_bind_ok (Run.outcome_of_result (result_makeFolders hmake)),
      Run.outcome_bind_error (hfails _)]

/-- Tables in which everything can be written are written. -/
theorem exists_writesTables {tables : Ledger} (h : tables.IsWritable)
    (hid : Text.IsWritable settings.groupId) (workspace : Workspace)
    (hwrites : CanWriteTables root settings workspace.files) :
    ∃ between after, WritesTables root settings tables workspace.files after ∧
      (writeTable root settings settings.instanceFile tables.instances).outcome workspace =
        (.ok (settings.outputPath root .instances), { workspace with files := between }) ∧
      (writeTable root settings settings.typeFile tables.types).outcome
          { workspace with files := between } =
        (.ok (settings.outputPath root .types), { workspace with files := after }) := by
  obtain ⟨instances, hinstances⟩ := exists_fileText_iff.mpr ⟨hid, h .instances⟩
  obtain ⟨types, htypes⟩ := exists_fileText_iff.mpr ⟨hid, h .types⟩
  obtain ⟨between, after, hfirst, hsecond⟩ :=
    hwrites (Text.encodeUtf8 instances.toList) (Text.encodeUtf8 types.toList)
  refine ⟨between, after, ⟨instances, types, between, hinstances, htypes, hfirst, hsecond, ?_, ?_⟩,
    Run.outcome_of_result (result_writeTable_of_fileText hinstances hfirst),
    Run.outcome_of_result (result_writeTable_of_fileText htypes hsecond)⟩
  · intro hne
    exact (FileTree.storeBoth_spec hfirst hsecond hne).2.1
  · obtain ⟨-, place, hlocate, hholds, -⟩ := FileTree.store_spec hsecond
    exact FileTree.read_eq_ok_iff.mpr ⟨place, hlocate, hholds⟩

/-! ### Runs -/

/-- What a run gives that ends with some tables. -/
def outputOf (root : Path) (settings : ParameterSettings) (tables : Ledger) (seeded merged : Nat) :
    ParameterOutput where
  instanceFile := settings.outputPath root .instances
  typeFile := settings.outputPath root .types
  instanceCount := tables.instances.length
  typeCount := tables.types.length
  seededCount := seeded
  mergedCount := merged

/-- The work of the stage fails and leaves the files alone, or it writes the tables to which it
comes. -/
theorem outcome_runParameters (input : CatalogInput)
    (hwrites : CanWriteTables root settings workspace.files) :
    (∃ failure after, (runParameters root settings input).outcome workspace =
        (.error failure, after) ∧ LeavesFiles settings workspace.files after.files) ∨
      ∃ tables seeded merged after,
        ReachesTables root settings input workspace tables seeded merged ∧
        WritesTables root settings tables workspace.files after.files ∧
        (runParameters root settings input).outcome workspace =
          (.ok (outputOf root settings tables seeded merged), after) := by
  unfold runParameters
  rcases (keeps_readCatalog input.catalogFile).error_or_ok workspace with
    ⟨e, hread⟩ | ⟨catalog, hread⟩
  · rw [Run.outcome_bind_error hread]
    exact .inl ⟨e, workspace, rfl, .refl _ _⟩
  rw [Run.outcome_bind_ok hread]
  have hkeeps : Keeps id (seedLedger root settings) := keeps_seedLedger
  rcases hkeeps.error_or_ok workspace with ⟨e, hseed⟩ | ⟨⟨start, seeded⟩, hseed⟩
  · rw [Run.outcome_bind_error hseed]
    exact .inl ⟨e, workspace, rfl, .refl _ _⟩
  rw [Run.outcome_bind_ok hseed]
  have hworkspace := outcome_mergeInWorkspace settings catalog start workspace
  rcases hmerge : (mergeCatalog catalog settings.qualifiedNames settings.groupId).outcome start with
    ⟨e | merged, tables⟩
  · rw [hmerge] at hworkspace
    rw [Run.outcome_bind_error hworkspace]
    exact .inl ⟨e, _, rfl, .refl _ _⟩
  rw [hmerge] at hworkspace
  rw [Run.outcome_bind_ok hworkspace]
  have hreaches : ReachesTables root settings input workspace tables seeded merged :=
    ⟨catalog, start, hread, hseed, hmerge⟩
  by_cases hid : Text.IsWritable settings.groupId
  · -- from here on nothing fails any more
    obtain ⟨between, after, hafter, hfirst, hsecond⟩ :=
      exists_writesTables (isWritable_of_reachesTables hreaches hid) hid
        { workspace with supply := tables.supply } hwrites
    rw [Run.outcome_bind_ok hfirst, Run.outcome_bind_ok hsecond]
    exact .inr ⟨tables, seeded, merged, _, hreaches, hafter, rfl⟩
  · obtain ⟨_, _, hstore, -⟩ := hwrites [] []
    obtain ⟨made, hmake, -⟩ := FileTree.store_eq_ok_iff.mp hstore
    obtain ⟨e, hfirst⟩ : ∃ e,
        (writeTable root settings settings.instanceFile tables.instances).outcome
          { workspace with supply := tables.supply } =
            (.error e, { workspace with files := made, supply := tables.supply }) :=
      exists_outcome_writeTable hid _ hmake
    rw [Run.outcome_bind_error hfirst]
    exact .inl ⟨e, _, rfl,
      { sameFiles := FileTree.sameFiles_makeAlong hmake
        eq_of_isWritable := fun h => absurd h hid }⟩

/-- Around the work of a run stand a check that only reads, and reports. -/
theorem outcome_execute_parameters (hwrites : CanWriteTables root settings workspace.files) :
    (∃ failure after, (parameterWork.execute root settings input).outcome workspace =
        (.error failure, after) ∧ LeavesFiles settings workspace.files after.files) ∨
      ∃ tables seeded merged after,
        ReachesTables root settings input workspace tables seeded merged ∧
        WritesTables root settings tables workspace.files after.files ∧
        (parameterWork.execute root settings input).outcome workspace =
          (.ok (outputOf root settings tables seeded merged), after) := by
  have hkeeps : Keeps id (parameterWork.accepts root settings input) := keeps_acceptsParameters
  rw [Work.execute, Run.outcome_bind_ok (Run.outcome_liftM _ _)]
  rcases hkeeps.error_or_ok workspace with ⟨e, haccepted⟩ | ⟨accepted, haccepted⟩
  · rw [Run.outcome_bind_error haccepted]
    exact .inl ⟨e, workspace, rfl, .refl _ _⟩
  rw [Run.outcome_bind_ok haccepted]
  cases accepted with
  | false => exact .inl ⟨_, workspace, rfl, .refl _ _⟩
  | true =>
    rw [if_pos rfl, Run.outcome_bind_ok (Run.outcome_liftM _ _)]
    rcases outcome_runParameters input hwrites with
      ⟨failure, after, houtcome, hfiles⟩ |
      ⟨tables, seeded, merged, after, hreaches, hafter, houtcome⟩
    · have hwork : (parameterWork.run root settings input).outcome workspace = _ := houtcome
      rw [Run.outcome_bind_error hwork]
      exact .inl ⟨failure, after, rfl, hfiles⟩
    · have hwork : (parameterWork.run root settings input).outcome workspace = _ := houtcome
      rw [Run.outcome_bind_ok hwork]
      exact .inr ⟨tables, seeded, merged, after, hreaches, hafter, rfl⟩

/-- **A run changes both files or none.**  Let both files be writable.  A run that fails, for
whatever reason, leaves all files as they were.  A run that gives its output has come to its tables,
has written both of them, and counts what is in them; file names that differ lead to different places
then, so that both tables are read back. -/
theorem execute_all_or_nothing (root : Path) (settings : ParameterSettings) (input : CatalogInput)
    (before : Workspace) (hwrites : CanWriteTables root settings before.files) :
    (∀ failure after, (parameterWork.execute root settings input).outcome before =
        (.error failure, after) → LeavesFiles settings before.files after.files) ∧
      ∀ output after, (parameterWork.execute root settings input).outcome before =
        (.ok output, after) →
        (∃ tables seeded merged,
          ReachesTables root settings input before tables seeded merged ∧
          WritesTables root settings tables before.files after.files ∧
          output = outputOf root settings tables seeded merged) ∧
        (Path.IsFileName settings.instanceFile → Path.IsFileName settings.typeFile →
          settings.instanceFile ≠ settings.typeFile →
          after.files.locate (settings.outputPath root .instances) ≠
            after.files.locate (settings.outputPath root .types)) := by
  constructor
  · intro failure after h
    rcases outcome_execute_parameters hwrites with
      ⟨failure', after', houtcome, hfiles⟩ | ⟨tables, seeded, merged, after', -, -, houtcome⟩
    · cases h.symm.trans houtcome
      exact hfiles
    · cases h.symm.trans houtcome
  · intro output after h
    rcases outcome_execute_parameters hwrites with
      ⟨failure, after', houtcome, -⟩ | ⟨tables, seeded, merged, after', hreaches, hafter, houtcome⟩
    · cases h.symm.trans houtcome
    cases h.symm.trans houtcome
    refine ⟨⟨tables, seeded, merged, hreaches, hafter, rfl⟩, fun hname hname' hne => ?_⟩
    obtain ⟨instances, types, between, -, -, hfirst, hsecond, -⟩ := hafter
    obtain ⟨-, x, hx, -⟩ := FileTree.store_spec hfirst
    obtain ⟨hgrows, y, hy, -⟩ := FileTree.store_spec hsecond
    have hx' := FileTree.locate_of_grows hgrows hx
    rw [hx', hy]
    exact fun hsame => FileTree.locate_child_ne hname hname' hne hx' hy (Except.ok.inj hsame)

/-- The run of the doors writes both files; without its catalog it would be refused. -/
theorem execute_all_or_nothing_doors :
    CanWriteTables {} {} doorRun.before.files ∧
      (∃ after, (parameterWork.execute {} {} ⟨{ parts := ["missing.json"] }⟩).outcome
          doorRun.before = (.error (.refusedInputs (.stage .parameters)), after) ∧
        after.files = doorRun.before.files) ∧
      ∃ tables, WritesTables {} {} tables doorRun.before.files doorRun.after.files ∧
        doorRun.output.instanceCount = tables.instances.length := by
  have hid : Text.IsWritable ({} : ParameterSettings).groupId := Text.isWritable_of_lt (by decide)
  have hwrites : CanWriteTables {} {} doorRun.before.files := by
    intro a b
    obtain ⟨t, u, hfirst, hsecond, -⟩ := doorRun.room a b
    exact ⟨t, u, hfirst, hsecond⟩
  have hrefused : (parameterWork.execute {} {} ⟨{ parts := ["missing.json"] }⟩).outcome
      doorRun.before = (.error (.refusedInputs (.stage .parameters)), doorRun.before) := rfl
  refine ⟨hwrites, ⟨_, hrefused, ?_⟩, ?_⟩
  · exact ((execute_all_or_nothing {} {} _ _ hwrites).1 _ _ hrefused).eq_of_isWritable hid
  · obtain ⟨⟨tables, seeded, merged, -, hafter, houtput⟩, -⟩ :=
      (execute_all_or_nothing {} {} _ _ hwrites).2 _ _ doorRun.outcome_execute
    exact ⟨tables, hafter, congrArg ParameterOutput.instanceCount houtput⟩

end PsetCompiler
