import PsetCompiler.Proofs.Files.Stored
import PsetCompiler.Proofs.Parameter.Ledger
import PsetCompiler.Stage.Parameters

/-!
# A run of the parameters stage

A run that starts from the files of an earlier one reads two tables, posts what the catalog makes,
and writes two tables.  What can stop it is outside of its own work: a catalog that cannot be read,
or a file that cannot be written.  With these out of the way the run gives its outputs, and what it
leaves is said by the postings alone.

## Main definitions

* `Regeneration` — a run that starts from the files of an earlier run, if they are there.
* `Regeneration.start`, `Regeneration.ledger` — the ledger before and after the catalog is merged.
* `Regeneration.output`, `Regeneration.after` — what the run gives and leaves.

## Main results

* `Regeneration.outcome_execute` — **the run gives its outputs.**
* `Regeneration.leaves_after` — **both files hold the tables of the ledger**, and nothing else goes.
-/

namespace PsetCompiler

open Text (IsLine)

/-! ### Parts of a run -/

section Parts

variable {root p : Path} {settings : ParameterSettings} {workspace : Workspace}

/-- The table that is started from a file, if there is one, and how many rows came from it. -/
def startTable (files : FileTree) (p : Path) : ParameterTable × Nat :=
  match files.read p with
  | .ok content => (seedFile p.name p.text content []).value
  | .error _ => ([], 0)

theorem startTable_of_read {files : FileTree} {content : Text.Bytes}
    (h : files.read p = .ok content) :
    startTable files p = (seedFile p.name p.text content []).value := by
  rw [startTable, h]

theorem isRecordable_startTable (files : FileTree) (p : Path) :
    (startTable files p).1.IsRecordable := by
  unfold startTable
  split
  · exact isRecordable_seedFile _ _ _
  · exact ParameterTable.isRecordable_nil

/-- The catalog that a file holds. -/
def catalogOf (content : Text.Bytes) : Except Failure Catalog :=
  match Text.decodeUtf8? content with
  | some cs => (readJsonText Catalog.read cs).toExcept
  | none => .error .undecodable

/-- What is read as a catalog is said by the file alone. -/
theorem outcome_readCatalog {content : Text.Bytes} (h : workspace.files.read p = .ok content) :
    (Workspace.readCatalog p).outcome workspace = (catalogOf content, workspace) := by
  have htext : (Workspace.readText p).outcome workspace =
      ((Text.decodeUtf8? content).elim (.error .undecodable) .ok, workspace) := by
    rw [Workspace.readText, Run.outcome_bind_ok (outcome_readFile h)]
    cases Text.decodeUtf8? content <;> rfl
  rw [Workspace.readCatalog, Workspace.readRecordFile, catalogOf]
  cases hdecode : Text.decodeUtf8? content with
  | none =>
    rw [hdecode] at htext
    rw [Run.outcome_bind_error htext]
  | some cs =>
    rw [hdecode] at htext
    rw [Run.outcome_bind_ok htext, Run.outcome_ofExcept]

/-- What a catalog is read from is there. -/
theorem exists_read_of_readCatalog {catalog : Catalog}
    (h : (Workspace.readCatalog p).outcome workspace = (.ok catalog, workspace)) :
    ∃ content, workspace.files.read p = .ok content := by
  cases hread : workspace.files.read p with
  | ok content => exact ⟨content, rfl⟩
  | error e =>
    have hfile : (Workspace.readFile p).outcome workspace = (.error (.file e), workspace) := by
      rw [Workspace.readFile, Run.outcome_bind_ok (Run.outcome_get workspace), hread]
      rfl
    rw [Workspace.readCatalog, Workspace.readRecordFile, Workspace.readText, Run.outcome_bind,
      Run.outcome_bind_error hfile] at h
    cases h

/-- Starting a table from a file that is there and can be read, or is not there. -/
theorem outcome_seedTable
    (hread : workspace.files.exists? p = true → ∃ content, workspace.files.read p = .ok content) :
    (seedTable (if workspace.files.exists? p then some p else none)).outcome workspace =
      (.ok (startTable workspace.files p), workspace) := by
  by_cases hexists : workspace.files.exists? p = true
  · obtain ⟨content, hcontent⟩ := hread hexists
    rw [if_pos hexists, startTable_of_read hcontent, seedTable,
      Run.outcome_bind_ok (outcome_readFile hcontent)]
    rfl
  · rw [if_neg hexists, startTable]
    split
    · next content hcontent => exact absurd (FileTree.exists?_of_read hcontent) hexists
    · rfl

theorem seedPath?_eq {files : FileTree} {configured : Option String} {fileName : String}
    (hprevious : settings.seedFromPrevious = true) (h : configuredPath? root configured = none) :
    seedPath? files root settings configured fileName =
      if files.exists? ((parameterFolder root).child fileName) then
        some ((parameterFolder root).child fileName)
      else none := by
  rw [seedPath?, h]
  dsimp only
  rw [hprevious, Bool.true_and]

/-- Merging in a workspace is merging into a ledger that draws from the supply of the workspace. -/
theorem outcome_mergeInWorkspace (settings : ParameterSettings) (catalog : Catalog) (ledger : Ledger)
    (workspace : Workspace) :
    let merged := (mergeCatalog catalog settings.qualifiedNames settings.groupId).outcome ledger
    (mergeInWorkspace settings catalog ledger).outcome workspace =
      (merged.1.map (·, merged.2), { workspace with supply := merged.2.supply }) :=
  rfl

/-- A table that has a text is written to its file. -/
theorem result_writeTable_of_fileText {fileName : String} {table : ParameterTable} {text : String}
    (htext : fileText table settings.groupId settings.groupName = .ok text) {files : FileTree}
    (hstore : workspace.files.store ((parameterFolder root).child fileName)
      (Text.encodeUtf8 text.toList) = .ok files) :
    (writeTable root settings fileName table).result workspace =
      pure (.ok ((parameterFolder root).child fileName), { workspace with files }) := by
  obtain ⟨made, hmake, hwrite⟩ := FileTree.store_eq_ok_iff.mp hstore
  have hmade (w : Workspace) : (Run.ofExcept
      (fileText table settings.groupId settings.groupName)).result w = pure (.ok text, w) := by
    rw [Run.result_ofExcept, htext]
  rw [writeTable, Run.result_bind_pure (result_makeFolders hmake), Run.result_bind_pure (hmade _),
    Run.result_bind_pure (result_writeText hwrite), Run.result_pure]

/-- A table that can be written is written to its file. -/
theorem result_writeTable_of_hasGuids {fileName : String} {table : ParameterTable}
    (h : table.HasGuids) (hgroups : table.HasWritableGroups)
    (hgroup : Text.IsWritable settings.groupId) {files : FileTree}
    (hstore : workspace.files.store ((parameterFolder root).child fileName)
      (Text.encodeUtf8 (tableText table settings.groupId settings.groupName).toList) =
        .ok files) :
    (writeTable root settings fileName table).result workspace =
      pure (.ok ((parameterFolder root).child fileName), { workspace with files }) :=
  result_writeTable_of_fileText (fileText_eq_ok h hgroups hgroup _) hstore

theorem result_writeTable {fileName : String} {table : ParameterTable} (h : table.IsRecordable)
    (hgroup : Text.IsWritable settings.groupId) {files : FileTree}
    (hstore : workspace.files.store ((parameterFolder root).child fileName)
      (Text.encodeUtf8 (tableText table settings.groupId settings.groupName).toList) =
        .ok files) :
    (writeTable root settings fileName table).result workspace =
      pure (.ok ((parameterFolder root).child fileName), { workspace with files }) :=
  result_writeTable_of_hasGuids h.hasGuids h.hasWritableGroups hgroup hstore

end Parts

/-! ### Runs -/

namespace ParameterSettings

/-- The name of the file of a table. -/
def fileName (settings : ParameterSettings) : Side → String
  | .instances => settings.instanceFile
  | .types => settings.typeFile

/-- The tables start from the files of an earlier run, the number of the group can be written, and
its name fits on its line. -/
structure Reseeds (settings : ParameterSettings) (root : Path) : Prop where
  previous : settings.seedFromPrevious = true
  instanceSeed : configuredPath? root settings.instanceSeed = none
  typeSeed : configuredPath? root settings.typeSeed = none
  groupId : Text.IsWritable settings.groupId
  groupName : IsLine settings.groupName.toList

end ParameterSettings

/-- A run that starts from the files of an earlier run, if they are there: its catalog can be read
and recorded, and both files can be written. -/
structure Regeneration where
  root : Path
  settings : ParameterSettings
  input : CatalogInput
  /-- What the run finds. -/
  before : Workspace
  catalog : Catalog
  reseeds : settings.Reseeds root
  readable : (Workspace.readCatalog input.catalogFile).outcome before = (.ok catalog, before)
  recordable : catalog.IsRecordable settings.qualifiedNames
  room : before.files.HasRoomFor ((parameterFolder root).child settings.instanceFile)
    ((parameterFolder root).child settings.typeFile)

namespace Regeneration

variable (r : Regeneration)

/-- The file of a table. -/
def path (side : Side) : Path :=
  (parameterFolder r.root).child (r.settings.fileName side)

/-- What the run asks for. -/
def asks : List Ask :=
  r.catalog.asks r.settings.qualifiedNames

/-- The ledger before the catalog is merged. -/
def start : Ledger where
  instances := (startTable r.before.files (r.path .instances)).1
  types := (startTable r.before.files (r.path .types)).1
  supply := r.before.supply

/-- The ledger after the catalog is merged. -/
def ledger : Ledger :=
  r.start.postAll (r.catalog.postings r.settings.qualifiedNames r.settings.groupId)

/-- The file that the run writes for a table. -/
def content (side : Side) : Text.Bytes :=
  Text.encodeUtf8 (tableText (r.ledger.table side) r.settings.groupId r.settings.groupName).toList

/-- What the run gives. -/
def output : ParameterOutput where
  instanceFile := r.path .instances
  typeFile := r.path .types
  instanceCount := r.ledger.instances.length
  typeCount := r.ledger.types.length
  seededCount := ((startTable r.before.files (r.path .instances)).2 +
    (startTable r.before.files (r.path .types)).2 : Nat)
  mergedCount := (r.catalog.occurrences r.settings.qualifiedNames).length

/-- What the run leaves. -/
def after : Workspace :=
  ((parameterWork.execute r.root r.settings r.input).outcome r.before).2

theorem isRecordable_start : r.start.IsRecordable := by
  intro side
  cases side <;> exact isRecordable_startTable _ _

theorem isRecordable_ledger : r.ledger.IsRecordable :=
  r.isRecordable_start.postAll (r.recordable.postings r.reseeds.groupId)

theorem outcome_accepts : (acceptsParameters r.root r.settings r.input).outcome r.before =
    (.ok true, r.before) := by
  obtain ⟨content, hcontent⟩ := exists_read_of_readCatalog r.readable
  have hcatalog : (acceptsCatalog .parameters r.input.catalogFile).outcome r.before =
      (.ok true, r.before) := by
    rw [acceptsCatalog, Run.outcome_bind_ok (Run.outcome_get r.before),
      if_pos (FileTree.exists?_of_read hcontent)]
    rfl
  rw [acceptsParameters, Run.outcome_bind_ok hcatalog, if_pos rfl, acceptsSeeds,
    r.reseeds.instanceSeed]
  dsimp only
  rw [acceptsSeeds, r.reseeds.typeSeed]
  rfl

theorem outcome_seedLedger : (seedLedger r.root r.settings).outcome r.before =
    (.ok (r.start, (startTable r.before.files (r.path .instances)).2 +
      (startTable r.before.files (r.path .types)).2), r.before) := by
  obtain ⟨hinstances, htypes⟩ := r.room.exists_read
  rw [seedLedger, Run.outcome_bind_ok (Run.outcome_get r.before)]
  dsimp only
  rw [seedPath?_eq r.reseeds.previous r.reseeds.instanceSeed,
    seedPath?_eq r.reseeds.previous r.reseeds.typeSeed,
    Run.outcome_bind_ok (outcome_seedTable hinstances),
    Run.outcome_bind_ok (outcome_seedTable htypes)]
  rfl

theorem outcome_mergeInWorkspace :
    (mergeInWorkspace r.settings r.catalog r.start).outcome r.before =
      (.ok ((r.catalog.occurrences r.settings.qualifiedNames).length, r.ledger),
        { r.before with supply := r.ledger.supply }) := by
  have h := outcome_mergeCatalog r.recordable.flat r.recordable.hasReadableGuids
    r.settings.qualifiedNames r.settings.groupId r.start
  rw [PsetCompiler.outcome_mergeInWorkspace, h]
  rfl

/-- The run gives its outputs; it writes its two files and draws from the supply. -/
theorem exists_outcome_execute :
    ∃ made files, r.before.files.store (r.path .instances) (r.content .instances) = .ok made ∧
      made.store (r.path .types) (r.content .types) = .ok files ∧
      files.locate (r.path .instances) ≠ files.locate (r.path .types) ∧
      (parameterWork.execute r.root r.settings r.input).outcome r.before =
        (.ok r.output, { r.before with files, supply := r.ledger.supply }) := by
  obtain ⟨made, files, hinstances, htypes, hne⟩ := r.room (r.content .instances) (r.content .types)
  refine ⟨made, files, hinstances, htypes, hne, ?_⟩
  have hfirst : (writeTable r.root r.settings r.settings.instanceFile r.ledger.instances).outcome
      { r.before with supply := r.ledger.supply } =
        (.ok (r.path .instances), { r.before with files := made, supply := r.ledger.supply }) :=
    Run.outcome_of_result
      (result_writeTable (r.isRecordable_ledger .instances) r.reseeds.groupId hinstances)
  have hsecond : (writeTable r.root r.settings r.settings.typeFile r.ledger.types).outcome
      { r.before with files := made, supply := r.ledger.supply } =
        (.ok (r.path .types), { r.before with files, supply := r.ledger.supply }) :=
    Run.outcome_of_result
      (result_writeTable (r.isRecordable_ledger .types) r.reseeds.groupId htypes)
  have hrun : (runParameters r.root r.settings r.input).outcome r.before =
      (.ok r.output, { r.before with files, supply := r.ledger.supply }) := by
    rw [runParameters, Run.outcome_bind_ok r.readable, Run.outcome_bind_ok r.outcome_seedLedger,
      Run.outcome_bind_ok r.outcome_mergeInWorkspace]
    dsimp only
    rw [Run.outcome_bind_ok hfirst, Run.outcome_bind_ok hsecond]
    rfl
  -- around the work stand only reports
  have haccepts : (parameterWork.accepts r.root r.settings r.input).outcome r.before =
      (.ok true, r.before) := r.outcome_accepts
  have hwork : (parameterWork.run r.root r.settings r.input).outcome r.before = _ := hrun
  rw [Work.execute, Run.outcome_bind_ok (Run.outcome_liftM _ _), Run.outcome_bind_ok haccepts,
    if_pos rfl, Run.outcome_bind_ok (Run.outcome_liftM _ _), Run.outcome_bind_ok hwork]
  rfl

/-- The run gives its outputs. -/
theorem outcome_execute :
    (parameterWork.execute r.root r.settings r.input).outcome r.before =
      (.ok r.output, r.after) := by
  obtain ⟨made, files, -, -, -, h⟩ := r.exists_outcome_execute
  rw [after, h]

/-- What a run leaves: its two files, with room for the next run's, what was in other places, and
the supply of the ledger. -/
structure Leaves (after : Workspace) : Prop where
  read : ∀ side, after.files.read (r.path side) = .ok (r.content side)
  room : after.files.HasRoomFor (r.path .instances) (r.path .types)
  grows : r.before.files.Grows after.files
  other : ∀ p content, after.files.locate p ≠ after.files.locate (r.path .instances) →
    after.files.locate p ≠ after.files.locate (r.path .types) →
    r.before.files.read p = .ok content → after.files.read p = .ok content
  supply : after.supply = r.ledger.supply

theorem leaves_after : r.Leaves r.after := by
  obtain ⟨made, files, hinstances, htypes, hne, h⟩ := r.exists_outcome_execute
  have hafter : r.after = { r.before with files, supply := r.ledger.supply } := by rw [after, h]
  obtain ⟨hgrows, hread, hread', hother⟩ := FileTree.storeBoth_spec hinstances htypes hne
  rw [hafter]
  refine { read := fun side => ?_, grows := hgrows, other := hother, supply := rfl
           room := FileTree.hasRoomFor_of_store hinstances htypes hne }
  cases side
  · exact hread
  · exact hread'

end Regeneration

end PsetCompiler
