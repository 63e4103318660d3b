import PsetCompiler.Proofs.Stage.Parameters
import Mathlib.Data.List.Chain

/-!
# Regeneration

Parameters keep their identifiers while the catalog changes.  A run starts from what the run before
has written, so everything that is said of a run and of the one after it is said of the ledger that
the one leaves and the ledger that the other starts from; over a history of runs it follows from
run to run.  All statements are about the files themselves: about the rows in them, and about the
second column of a row.

## Main definitions

* `Regeneration.Continues` — a run finds what another one has left.
* `Regeneration.row?`, `Regeneration.guid?` — the row of a name in the files that a run leaves, and
  the identifier in it.
* `Regeneration.next` — the run after a run.
* `Regeneration.RetainedBy` — what one run writes is written by another.

## Main results

* `Continues.resumes` — the ledger of the next run holds what is kept of the ledger.
* `guids_persist` — **names and identifiers persist over all runs.**
* `regenerate_again` — **a run on the same catalog changes nothing.**
-/

namespace PsetCompiler

namespace Regeneration

/-- A run finds in its files what another run has left in its own. -/
def Continues (r s : Regeneration) : Prop :=
  ∀ side, s.before.files.read (s.path side) = r.after.files.read (r.path side)

/-- The row of a name in the files that a run leaves. -/
def row? (r : Regeneration) (slot : Slot) : Option (List Char) :=
  (r.after.files.read (r.path slot.1)).toOption.bind fun content => rowOf? content slot.2

/-- The identifier of a name in the files that a run leaves. -/
def guid? (r : Regeneration) (slot : Slot) : Option String :=
  (r.after.files.read (r.path slot.1)).toOption.bind fun content => guidOf? content slot.2

variable {r s : Regeneration}

theorem row?_eq (r : Regeneration) (slot : Slot) :
    r.row? slot = (r.ledger.held? slot).map (·.row.toList) := by
  rw [row?, r.leaves_after.read]
  exact rowOf?_tableText (r.isRecordable_ledger slot.1) _ r.reseeds.groupName slot.2

theorem guid?_eq (r : Regeneration) (slot : Slot) :
    r.guid? slot = (r.ledger.held? slot).bind (·.guid) := by
  rw [guid?, r.leaves_after.read]
  exact guidOf?_tableText (r.isRecordable_ledger slot.1) _ r.reseeds.groupName slot.2

theorem isSome_row?_iff (r : Regeneration) (slot : Slot) :
    (r.row? slot).isSome ↔ (r.ledger.held? slot).isSome := by
  rw [row?_eq, Option.isSome_map]

theorem table_start (r : Regeneration) (side : Side) :
    r.start.table side = (startTable r.before.files (r.path side)).1 := by
  cases side <;> rfl

theorem map_ask_postings (r : Regeneration) :
    (r.catalog.postings r.settings.qualifiedNames r.settings.groupId).map Posting.ask = r.asks :=
  Catalog.map_ask_postings _ _ _

/-- A table that is started from what another run has left. -/
theorem Continues.startTable_eq (h : r.Continues s) (side : Side) :
    startTable s.before.files (s.path side) =
      (ParameterTable.recorded (Text.sortBy (·.1) (r.ledger.table side)),
        (r.ledger.table side).length) := by
  rw [startTable_of_read ((h side).trans (r.leaves_after.read side))]
  exact value_seedFile_tableText (r.isRecordable_ledger side) _ r.reseeds.groupName _ _

/-- The ledger of the next run holds what is kept of the ledger. -/
theorem Continues.resumes (h : r.Continues s) : s.start.Resumes r.ledger := by
  intro slot
  rw [Ledger.held?, Ledger.held?, s.table_start, h.startTable_eq, ParameterTable.lookup_recorded,
    lookup_sortBy (r.isRecordable_ledger slot.1).nodup, Option.map_map]
  rfl

/-! ### One run after another -/

/-- A name that is written is written again. -/
theorem Continues.isSome_row? (h : r.Continues s) {slot : Slot} (hslot : (r.row? slot).isSome) :
    (s.row? slot).isSome := by
  rw [isSome_row?_iff] at hslot ⊢
  exact Ledger.isSome_held?_postAll h.resumes hslot _

/-- The identifier of a name that was written is the last one that the catalog carries for it, else
the one that it had. -/
theorem Continues.guid?_eq (h : r.Continues s) {slot : Slot} (hslot : (r.row? slot).isSome) :
    s.guid? slot = (lastGiven s.asks slot).or (r.guid? slot) := by
  rw [isSome_row?_iff] at hslot
  rw [s.guid?_eq, r.guid?_eq, ← s.map_ask_postings]
  exact Ledger.guid_postAll_of_resumes h.resumes hslot _

/-- The row of a name that no property produces stays. -/
theorem Continues.row?_eq (h : r.Continues s) {slot : Slot}
    (hslot : slot ∉ s.asks.map (·.1)) : s.row? slot = r.row? slot := by
  rw [← s.map_ask_postings] at hslot
  have hkept := Ledger.held?_postAll_of_notMem h.resumes hslot
  -- a row shows nothing of an entry but what is kept of it
  have hrow (o : Option Parameter) :
      o.map (·.row.toList) = (o.map Parameter.recorded).map (·.row.toList) := by
    rw [Option.map_map]
    rfl
  rw [s.row?_eq, r.row?_eq, hrow, hrow (r.ledger.held? slot)]
  exact congrArg _ hkept

/-! ### A run and the run after it -/

/-- The run that follows, on another catalog that can be read. -/
def next (r : Regeneration) (input : CatalogInput) (catalog : Catalog)
    (readable : (Workspace.readCatalog input.catalogFile).outcome r.after = (.ok catalog, r.after))
    (recordable : catalog.IsRecordable r.settings.qualifiedNames) : Regeneration :=
  { r with
    input, before := r.after, catalog, readable, recordable, room := r.leaves_after.room }

theorem continues_next (r : Regeneration) {input : CatalogInput} {catalog : Catalog}
    (readable : (Workspace.readCatalog input.catalogFile).outcome r.after = (.ok catalog, r.after))
    (recordable : catalog.IsRecordable r.settings.qualifiedNames) :
    r.Continues (r.next input catalog readable recordable) :=
  fun _ => rfl

/-- A catalog of one property. -/
def doorCatalog : Catalog where
  definitions := [("Doors",
    [{ release := "IFC4"
       definition := { name := "Doors", version := "IFC4", release := "IFC4"
                       properties := [{ name := "FireExit" }] } }])]

/-- The same catalog as JSON, without what may be left out. -/
def doorJson : Json :=
  .obj [("definitions", .obj [("Doors", .arr [.obj [("schema_file_version", .str "IFC4"),
    ("definition", .obj [("name", .str "Doors"), ("ifc_version", .str "IFC4"),
      ("schema_file_version", .str "IFC4"),
      ("properties", .arr [.obj [("name", .str "FireExit")]])])]])])]

/-- The empty catalog as JSON. -/
def noJson : Json :=
  .obj []

theorem catalogOf_line {value : Json} (hparse : Json.parse? value.line.toList = some value)
    (hlimits : value.isWithinLimits = true) {catalog : Catalog}
    (hread : (Catalog.read value).asText.toExcept = .ok catalog) :
    catalogOf (Text.encodeUtf8 value.line.toList) = .ok catalog := by
  rw [catalogOf, Text.decodeUtf8?_encodeUtf8]
  dsimp only
  rw [readJsonText, hparse, Option.filter_some_pos hlimits]
  exact hread

theorem catalogOf_doors : catalogOf (Text.encodeUtf8 doorJson.line.toList) = .ok doorCatalog :=
  catalogOf_line (by cbv) (by cbv) (by with_unfolding_all rfl)

theorem catalogOf_none : catalogOf (Text.encodeUtf8 noJson.line.toList) = .ok {} :=
  catalogOf_line (by cbv) (by cbv) (by with_unfolding_all rfl)

theorem entries_doorCatalog : doorCatalog.entries = doorCatalog.definitions.flatMap (·.2) := by
  rw [Catalog.entries, Catalog.sorted, Text.sortBy, doorCatalog, List.mergeSort_singleton]

theorem isRecordable_doorCatalog : doorCatalog.IsRecordable false := by
  refine { flat := ?_, occurrences := ?_ }
  · rw [Catalog.IsFlat, entries_doorCatalog]
    decide
  · rw [Catalog.occurrences, entries_doorCatalog]
    intro o ho
    obtain rfl := List.mem_singleton.mp ho
    refine { name := by decide, named := by decide, description := by decide, given := ?_ }
    intro _ hgiven
    cases hgiven

theorem entries_none : Catalog.entries {} = [] := by
  rw [Catalog.entries, Catalog.sorted, Text.sortBy, List.mergeSort_nil]
  rfl

theorem isRecordable_none : Catalog.IsRecordable {} false := by
  refine { flat := ?_, occurrences := ?_ }
  · rw [Catalog.IsFlat, entries_none]
    simp
  · rw [Catalog.occurrences, entries_none]
    simp

/-- Two catalogs, and the folder of parameter files. -/
def catalogFiles (doors none : Text.Bytes) : FileTree where
  entries :=
    [(["processed"], .folder), (["processed", "shared_parameters"], .folder),
      (["doors.json"], .file doors), (["none.json"], .file none)]

theorem locate_catalogFiles (doors none : Text.Bytes) (side : Side) :
    (catalogFiles doors none).locate
        ((parameterFolder {}).child (ParameterSettings.fileName {} side)) =
      .ok ["processed", "shared_parameters", ParameterSettings.fileName {} side] := by
  cases side <;> rfl

theorem hasRoomFor_catalogFiles (doors none : Text.Bytes) :
    (catalogFiles doors none).HasRoomFor ((parameterFolder {}).child defaultInstanceFile)
      ((parameterFolder {}).child defaultTypeFile) := by
  refine FileTree.hasRoomFor_of_locate ?_ ?_ (locate_catalogFiles _ _ .instances)
    (locate_catalogFiles _ _ .types) (by decide) ?_ ?_
  · rfl
  · rfl
  all_goals
    unfold FileTree.Holds
    nofun

/-- A first run: the folder of parameter files is there, and nothing is in it. -/
def doorRun : Regeneration where
  root := {}
  settings := {}
  input := ⟨{ parts := ["doors.json"] }⟩
  before :=
    { files := catalogFiles (Text.encodeUtf8 doorJson.line.toList)
        (Text.encodeUtf8 noJson.line.toList)
      supply := { fresh := Guid.ofNat } }
  catalog := doorCatalog
  reseeds :=
    { previous := rfl, instanceSeed := rfl, typeSeed := rfl
      groupId := Text.isWritable_of_lt (by decide), groupName := by decide }
  readable := by
    rw [← catalogOf_doors]
    exact outcome_readCatalog (FileTree.read_eq_ok_iff.mpr ⟨["doors.json"], rfl, rfl⟩)
  recordable := isRecordable_doorCatalog
  room := hasRoomFor_catalogFiles _ _

/-- The catalogs stay where they are, and are read as before. -/
theorem outcome_readCatalog_after {name : String} {content : Text.Bytes}
    (hlocate : doorRun.before.files.locate { parts := [name] } = .ok [name])
    (hholds : doorRun.before.files.Holds [name] (.file content)) :
    (Workspace.readCatalog { parts := [name] }).outcome doorRun.after =
      (catalogOf content, doorRun.after) := by
  have hgrows := doorRun.leaves_after.grows
  have hpath (side : Side) : doorRun.after.files.locate (doorRun.path side) =
      .ok ["processed", "shared_parameters", doorRun.settings.fileName side] :=
    FileTree.locate_of_grows hgrows (locate_catalogFiles _ _ side)
  have hread := FileTree.read_eq_ok_iff.mpr ⟨_, hlocate, hholds⟩
  refine outcome_readCatalog (doorRun.leaves_after.other _ _ ?_ ?_ hread)
  all_goals
    rw [FileTree.locate_of_grows hgrows hlocate, hpath]
    simp

/-- A run on the empty catalog, after the first run. -/
def emptyRun : Regeneration :=
  doorRun.next ⟨{ parts := ["none.json"] }⟩ {}
    (by rw [← catalogOf_none]; exact outcome_readCatalog_after rfl rfl) isRecordable_none

/-- A run on the same catalog, after the first run. -/
def doorRunAgain : Regeneration :=
  doorRun.next ⟨{ parts := ["doors.json"] }⟩ doorCatalog
    (by rw [← catalogOf_doors]; exact outcome_readCatalog_after rfl rfl) isRecordable_doorCatalog

theorem asks_doorRun : doorRun.asks =
    [((.instances, "FireExit"), none), ((.types, "FireExit[Type]"), none)] := by
  show (doorCatalog.entries.flatMap _).flatMap _ = _
  rw [entries_doorCatalog]
  rfl

theorem asks_emptyRun : emptyRun.asks = [] := by
  show ((Catalog.entries {}).flatMap _).flatMap _ = _
  rw [entries_none]
  rfl

/-! ### Histories -/

/-- Every name that one run writes is written by another one. -/
def RetainedBy (r s : Regeneration) : Prop :=
  ∀ slot, (r.row? slot).isSome → (s.row? slot).isSome

instance : Trans RetainedBy RetainedBy RetainedBy :=
  ⟨fun h h' slot hslot => h' slot (h slot hslot)⟩

/-- **Names and identifiers persist over all runs.**  Every run of a history gives its outputs, and
a name that one run writes is written by all runs after it.  From a run to the next one the
identifier of a name is the last one that the catalog carries for it, if it carries any, and else
stays; and the row of a name that no property produces stays as it is. -/
theorem guids_persist {runs : List Regeneration} (hruns : runs.IsChain Continues) :
    (∀ r ∈ runs, (parameterWork.execute r.root r.settings r.input).outcome r.before =
      (.ok r.output, r.after)) ∧
    runs.Pairwise RetainedBy ∧
    runs.IsChain fun r s =>
      (∀ slot, (r.row? slot).isSome →
        s.guid? slot = (lastGiven s.asks slot).or (r.guid? slot)) ∧
      ∀ slot ∉ s.asks.map (·.1), s.row? slot = r.row? slot := by
  have hretained : runs.IsChain RetainedBy := hruns.imp fun r s h _ hslot => h.isSome_row? hslot
  refine ⟨fun r _ => r.outcome_execute, hretained.pairwise, ?_⟩
  exact hruns.imp fun r s h => ⟨fun _ hslot => h.guid?_eq hslot, fun _ hslot => h.row?_eq hslot⟩

theorem guids_persist_doors :
    [doorRun, emptyRun].IsChain Continues ∧ (doorRun.row? (.types, "FireExit[Type]")).isSome ∧
      emptyRun.row? (.types, "FireExit[Type]") = doorRun.row? (.types, "FireExit[Type]") := by
  have hruns : [doorRun, emptyRun].IsChain Continues :=
    List.isChain_pair.mpr (doorRun.continues_next _ _)
  obtain ⟨-, -, hstep⟩ := guids_persist hruns
  refine ⟨hruns, ?_, (List.isChain_pair.mp hstep).2 _ (by simp [asks_emptyRun])⟩
  have hasks : ((.types, "FireExit[Type]") : Slot) ∈ (doorRun.asks).map (·.1) := by
    rw [asks_doorRun]
    decide
  rw [← doorRun.map_ask_postings] at hasks
  have hasked := (doorRun.start.postAll_settles _).asked _ hasks
  rw [isSome_row?_iff]
  exact (Option.isSome_map ..).symm.trans (congrArg Option.isSome hasked)

/-- **A run on the same catalog changes nothing.**  It writes the files that the run before has
written, draws no identifier, and starts from as many rows as that run has counted. -/
theorem regenerate_again (h : r.Continues s) (hsettings : s.settings = r.settings)
    (hcatalog : s.catalog = r.catalog) :
    (parameterWork.execute r.root r.settings r.input).outcome r.before = (.ok r.output, r.after) ∧
    (parameterWork.execute s.root s.settings s.input).outcome s.before = (.ok s.output, s.after) ∧
    (∀ side, ∃ content, r.after.files.read (r.path side) = .ok content ∧
      s.after.files.read (s.path side) = .ok content) ∧
    s.after.supply = s.before.supply ∧
    s.output.seededCount = r.output.instanceCount + r.output.typeCount := by
  have hledger : s.ledger = s.start.postAll
      (r.catalog.postings r.settings.qualifiedNames r.settings.groupId) := by
    rw [ledger, hcatalog, hsettings]
  have hsame : s.ledger.Resumes r.ledger := by
    rw [hledger]
    exact Ledger.resumes_postAll_again h.resumes
  have hcontent (side : Side) : s.content side = r.content side := by
    have htext := tableText_congr (s.isRecordable_ledger side).nodup
      (r.isRecordable_ledger side).nodup (fun name => hsame (side, name)) r.settings.groupId
      r.settings.groupName
    rw [content, content, hsettings, htext]
  refine ⟨r.outcome_execute, s.outcome_execute, fun side => ⟨r.content side, ?_, ?_⟩, ?_, ?_⟩
  · exact r.leaves_after.read side
  · rw [s.leaves_after.read, hcontent]
  · rw [s.leaves_after.supply, hledger, Ledger.supply_postAll_again h.resumes]
    rfl
  · rw [output, h.startTable_eq, h.startTable_eq]
    exact Int.natCast_add _ _

theorem regenerate_again_doors :
    doorRun.Continues doorRunAgain ∧ doorRunAgain.settings = doorRun.settings ∧
      doorRunAgain.catalog = doorRun.catalog ∧
      doorRunAgain.after.supply = doorRunAgain.before.supply := by
  have h : doorRun.Continues doorRunAgain := doorRun.continues_next _ _
  obtain ⟨-, -, -, hsupply, -⟩ := regenerate_again h rfl rfl
  exact ⟨h, rfl, rfl, hsupply⟩

end Regeneration

end PsetCompiler
