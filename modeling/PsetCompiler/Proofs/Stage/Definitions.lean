import PsetCompiler.Proofs.Definition.Folder
import PsetCompiler.Proofs.Definition.Reports
import PsetCompiler.Proofs.Definition.Set
import PsetCompiler.Stage.Definitions

/-!
# A batch of definition files

A batch visits the files of every wanted folder, a file below two such folders once for each of
them.  What it collects is said by its visits: the definitions that were read and those that are
predefined, in order.  A file that fails leaves nothing behind but a count and a report, and so a
batch collects what it would collect without the file.

## Main definitions

* `Batch.visits` — the files that a batch visits, each with its release.
* `Batch.definition?`, `Batch.skip?` — what comes of a visit, a definition or a report.
* `Batch.IsContained` — a visit gives a definition or a failure of its file alone.
* `Batch.withoutFailing` — the tree without the files that fail.

## Main results

* `Batch.run_collect` — **what a batch collects, counts and reports.**
* `Batch.exists_value_collect_iff` — when a batch comes to its end.
* `Batch.collect_withoutFailing` — **a failing file takes nothing else with it.**
-/

namespace PsetCompiler

/-- The report of a file that is passed over. -/
def Diagnostic.isSkip : Diagnostic → Bool
  | .skippedFile .. => true
  | _ => false

theorem Diagnostic.isSkip_eq_false_of_channel {d : Diagnostic} (h : d.channel = .definitionFile) :
    d.isSkip = false := by
  cases d <;> first | rfl | cases h

namespace Batch

variable {files : FileTree} {settings : DefinitionSettings} {folder : Path}

/-! ### Visits -/

/-- The folders that a batch goes through, each with its release. -/
def folders (files : FileTree) (settings : DefinitionSettings) (folder : Path) :
    List (String × Path) :=
  (findFolders files folder).filter fun found => settings.wants found.1

/-- The files that are visited in a folder, each with the release. -/
def visitsIn (files : FileTree) (settings : DefinitionSettings) (found : String × Path) :
    List (String × Path) :=
  (findFiles files found.2 settings.patterns).map (found.1, ·)

/-- The files that a batch visits, each with its release. -/
def visits (files : FileTree) (settings : DefinitionSettings) (folder : Path) :
    List (String × Path) :=
  (folders files settings folder).flatMap (visitsIn files settings)

/-- What comes of a visit. -/
def reading (files : FileTree) (visit : String × Path) : Report (Except Failure PropertySet) :=
  (definitionOf files visit.2 visit.1).run

/-- The definition that a visit gives, for its release. -/
def definition? (files : FileTree) (visit : String × Path) : Option (String × PropertySet) :=
  match (reading files visit).value with
  | .ok pset => some (visit.1, pset)
  | .error _ => none

/-- The report of a visit to a file that fails. -/
def skip? (files : FileTree) (visit : String × Path) : Option Diagnostic :=
  match (reading files visit).value with
  | .ok _ => none
  | .error failure => some (.skippedFile visit.2.text failure)

/-- A visit gives a definition or a failure of its file alone. -/
def IsContained (files : FileTree) (visit : String × Path) : Prop :=
  ∀ failure, (reading files visit).value = .error failure → failure.isOfFile = true

/-! ### What a batch takes in -/

/-- A batch with more definitions, of which some were read, and with some files passed over. -/
def take (batch : Batch) (added read : List (String × PropertySet)) (skips : List Diagnostic) :
    Batch where
  catalog := added.foldl (fun catalog d => catalog.add d.1 d.2) batch.catalog
  readCount := batch.readCount + read.length
  skippedCount := batch.skippedCount + skips.length

theorem take_take (batch : Batch) (added read added' read' : List (String × PropertySet))
    (skips skips' : List Diagnostic) :
    (batch.take added read skips).take added' read' skips' =
      batch.take (added ++ added') (read ++ read') (skips ++ skips') := by
  simp only [take, List.foldl_append, List.length_append, Nat.add_assoc]

/-- A loop whose steps take something in takes in all of it, one after the other. -/
theorem foldl_take {α : Type} (added read : α → List (String × PropertySet))
    (skips : α → List Diagnostic) (xs : List α) (batch : Batch) :
    xs.foldl (fun batch x => batch.take (added x) (read x) (skips x)) batch =
      batch.take (xs.flatMap added) (xs.flatMap read) (xs.flatMap skips) := by
  induction xs generalizing batch with
  | nil => rfl
  | cons x xs ih =>
    rw [List.foldl_cons, ih, take_take]
    rfl

/-- What a folder adds: the definitions of its files, and then the predefined ones. -/
def addedIn (files : FileTree) (settings : DefinitionSettings) (found : String × Path) :
    List (String × PropertySet) :=
  (visitsIn files settings found).filterMap (definition? files) ++
    if settings.includePredefined then (predefinedSets found.1).map (found.1, ·) else []

/-- What a visit reports: what reading the file reports, and that it is passed over if it fails. -/
def notes (files : FileTree) (visit : String × Path) : List Diagnostic :=
  (reading files visit).log ++ (skip? files visit).toList

theorem run_addFile {visit : String × Path} (h : IsContained files visit) (batch : Batch) :
    (batch.addFile files visit.1 visit.2).run =
      ⟨.ok (batch.take (definition? files visit).toList (definition? files visit).toList
        (skip? files visit).toList), notes files visit⟩ := by
  unfold addFile notes
  rw [Attempt.run_bind_ok (a := (reading files visit).value) rfl]
  have hlog : (definitionOf files visit.2 visit.1).outcome.run.log = (reading files visit).log :=
    List.append_nil _
  rw [hlog]
  unfold definition? skip?
  cases hvalue : (reading files visit).value with
  | ok pset => rfl
  | error failure =>
    dsimp only
    rw [if_pos (h failure hvalue)]
    rfl

/-- What a folder reports: that it was found, and then what its visits report. -/
def folderNotes (files : FileTree) (settings : DefinitionSettings) (found : String × Path) :
    List Diagnostic :=
  .releaseFound found.1 (findFiles files found.2 settings.patterns).length found.2.text ::
    (visitsIn files settings found).flatMap (notes files)

theorem take_addPredefined (batch : Batch) (added read : List (String × PropertySet))
    (skips : List Diagnostic) (release : String) :
    (batch.take added read skips).addPredefined release =
      batch.take (added ++ (predefinedSets release).map (release, ·)) read skips := by
  rw [addPredefined, take, take, List.foldl_append, List.foldl_map]

theorem run_addFolder {found : String × Path}
    (h : ∀ visit ∈ visitsIn files settings found, IsContained files visit) (batch : Batch) :
    (batch.addFolder files settings found).run =
      ⟨.ok (batch.take (addedIn files settings found)
        ((visitsIn files settings found).filterMap (definition? files))
        ((visitsIn files settings found).filterMap (skip? files))),
        folderNotes files settings found⟩ := by
  have hloop : ((findFiles files found.2 settings.patterns).foldlM
      (addFile files found.1) batch).run =
        ⟨.ok (batch.take ((visitsIn files settings found).filterMap (definition? files))
          ((visitsIn files settings found).filterMap (definition? files))
          ((visitsIn files settings found).filterMap (skip? files))),
          (visitsIn files settings found).flatMap (notes files)⟩ := by
    refine (Attempt.run_foldlM (fun p hp batch =>
      run_addFile (h _ (List.mem_map_of_mem hp)) batch) batch).trans ?_
    rw [foldl_take]
    simp only [visitsIn, List.filterMap_eq_flatMap_toList, List.flatMap_map]
  unfold addFolder
  rw [Attempt.run_bind_ok (a := ()) rfl, Attempt.run_bind_ok (congrArg Report.value hloop), hloop]
  refine Report.ext ?_ (congrArg (_ :: ·) (List.append_nil _))
  unfold addedIn
  split
  · exact congrArg Except.ok (take_addPredefined _ _ _ _ _)
  · rw [List.append_nil]
    rfl

/-- The definitions that a batch adds, in order. -/
def added (files : FileTree) (settings : DefinitionSettings) (folder : Path) :
    List (String × PropertySet) :=
  (folders files settings folder).flatMap (addedIn files settings)

/-- What a batch collects, counts and reports when every failure concerns one file alone. -/
theorem run_collect (h : ∀ visit ∈ visits files settings folder, IsContained files visit) :
    (collect files settings folder).run =
      ⟨.ok { catalog := Catalog.ofList (added files settings folder)
             readCount := ((visits files settings folder).filterMap (definition? files)).length
             skippedCount := ((visits files settings folder).filterMap (skip? files)).length },
        (folders files settings folder).flatMap (folderNotes files settings)⟩ := by
  refine (Attempt.run_foldlM (fun found hfound batch => run_addFolder (fun visit hvisit =>
    h visit (List.mem_flatMap.mpr ⟨found, hfound, hvisit⟩)) batch) {}).trans ?_
  rw [foldl_take, ← List.filterMap_flatMap, ← List.filterMap_flatMap]
  refine congrArg (fun batch => (⟨.ok batch, _⟩ : Report (Except Failure Batch))) ?_
  rw [take, Nat.zero_add, Nat.zero_add]
  rfl

/-! ### When a batch comes to its end -/

theorem isContained_of_addFile {visit : String × Path} {batch batch' : Batch}
    (h : (batch.addFile files visit.1 visit.2).run.value = .ok batch') :
    IsContained files visit := by
  unfold addFile at h
  obtain ⟨outcome, houtcome, h⟩ := Attempt.value_bind_eq_ok_iff.mp h
  intro failure hfails
  have heq : outcome = .error failure := (Except.ok.inj houtcome).symm.trans hfails
  rw [heq] at h
  dsimp only at h
  split at h
  · assumption
  · cases h

/-- A batch comes to its end exactly when every visit gives a definition or a failure of its file
alone. -/
theorem exists_value_collect_iff :
    (∃ batch, (collect files settings folder).run.value = .ok batch) ↔
      ∀ visit ∈ visits files settings folder, IsContained files visit := by
  constructor
  · rintro ⟨batch, h⟩ visit hvisit
    obtain ⟨found, hfound, hvisit⟩ := List.mem_flatMap.mp hvisit
    obtain ⟨p, hp, rfl⟩ := List.mem_map.mp hvisit
    -- the loop over the folders came to its end, and so did the loop over the files of this one
    obtain ⟨before, after, hfolder⟩ := Attempt.exists_value_of_foldlM h found hfound
    unfold addFolder at hfolder
    obtain ⟨_, -, hfolder⟩ := Attempt.value_bind_eq_ok_iff.mp hfolder
    obtain ⟨_, hloop, -⟩ := Attempt.value_bind_eq_ok_iff.mp hfolder
    obtain ⟨_, _, hfile⟩ := Attempt.exists_value_of_foldlM hloop p hp
    exact isContained_of_addFile hfile
  · intro h
    exact ⟨_, congrArg Report.value (run_collect h)⟩

/-! ### Reports of files that are passed over -/

theorem filter_isSkip_notes (visit : String × Path) :
    (notes files visit).filter Diagnostic.isSkip = (skip? files visit).toList := by
  rw [notes, List.filter_append, List.filter_eq_nil_iff.mpr, List.nil_append]
  · unfold skip?
    split <;> rfl
  · intro d hd
    rw [Diagnostic.isSkip_eq_false_of_channel (logs_definitionOf files _ _ d hd)]
    exact Bool.false_ne_true

/-- Of the reports of a batch that comes to its end, those of files that are passed over are one for
each visit that fails, in order. -/
theorem filter_isSkip_collect (h : ∀ visit ∈ visits files settings folder, IsContained files visit) :
    (collect files settings folder).run.log.filter Diagnostic.isSkip =
      (visits files settings folder).filterMap (skip? files) := by
  rw [congrArg Report.log (run_collect h), List.filter_flatMap, visits, List.filterMap_flatMap]
  refine congrArg (List.flatMap · _) (funext fun found => ?_)
  rw [folderNotes, List.filter_cons_of_neg (by exact Bool.false_ne_true), List.filter_flatMap,
    List.filterMap_eq_flatMap_toList]
  exact congrArg (List.flatMap · _) (funext filter_isSkip_notes)

/-! ### Without the files that fail -/

/-- A visit fails. -/
def fails (files : FileTree) (visit : String × Path) : Bool :=
  (skip? files visit).isSome

/-- The places of the files that fail. -/
def failingPlaces (files : FileTree) (settings : DefinitionSettings) (folder : Path) : List Place :=
  ((visits files settings folder).filter (fails files)).filterMap fun visit =>
    (files.locate visit.2).toOption

/-- The tree without the files that fail. -/
def withoutFailing (files : FileTree) (settings : DefinitionSettings) (folder : Path) : FileTree :=
  files.without fun place => (failingPlaces files settings folder).contains place

/-- Where a visited file is: below the folder of the batch, by the parts of its path. -/
theorem exists_parts_of_mem_visits (hproper : files.IsProper) {visit : String × Path}
    (h : visit ∈ visits files settings folder) :
    ∃ base parts content, files.locate folder = .ok base ∧
      visit.2 = { folder with parts := folder.parts ++ parts } ∧
      files.locate visit.2 = .ok (base ++ parts) ∧
      files.Holds (base ++ parts) (.file content) := by
  obtain ⟨found, hfound, hvisit⟩ := List.mem_flatMap.mp h
  obtain ⟨p, hp, rfl⟩ := List.mem_map.mp hvisit
  obtain ⟨place, rest, content, hplace, hpath, hlocate, hholds⟩ :=
    exists_parts_of_mem_findFiles hproper hp
  obtain ⟨base, parts, hbase, hfolder, rfl⟩ :=
    exists_parts_of_mem_findFolders hproper (List.mem_of_mem_filter hfound) hplace
  rw [List.append_assoc] at hlocate hholds
  refine ⟨base, parts ++ rest, content, hbase, ?_, hlocate, hholds⟩
  rw [hpath, hfolder, List.append_assoc]

/-- Two visits to one place are visits to one path. -/
theorem path_eq_of_locate_eq (hproper : files.IsProper) {visit visit' : String × Path}
    (h : visit ∈ visits files settings folder) (h' : visit' ∈ visits files settings folder)
    (hplace : files.locate visit.2 = files.locate visit'.2) : visit.2 = visit'.2 := by
  obtain ⟨base, parts, -, hbase, hpath, hlocate, -⟩ := exists_parts_of_mem_visits hproper h
  obtain ⟨base', parts', -, hbase', hpath', hlocate', -⟩ := exists_parts_of_mem_visits hproper h'
  cases hbase.symm.trans hbase'
  rw [hlocate, hlocate'] at hplace
  rw [hpath, hpath', List.append_cancel_left (Except.ok.inj hplace)]

/-- A file that fails for one release fails for every release. -/
theorem fails_iff_of_path_eq {visit visit' : String × Path} (h : visit.2 = visit'.2) :
    fails files visit = true ↔ fails files visit' = true := by
  have hfails (visit : String × Path) :
      fails files visit = true ↔ ∃ e, (reading files visit).value = .error e := by
    unfold fails skip?
    cases (reading files visit).value <;> simp
  rw [hfails, hfails]
  refine exists_congr fun e => ?_
  unfold reading
  rw [h]
  exact definitionOf_eq_error_iff files _ _ _ e

/-- The files that are gone are those of the visits that fail. -/
theorem leadsInto_failingPlaces (hproper : files.IsProper) {visit : String × Path}
    (h : visit ∈ visits files settings folder) :
    files.leadsInto (fun place => (failingPlaces files settings folder).contains place) visit.2 =
      fails files visit := by
  obtain ⟨base, parts, -, -, -, hlocate, -⟩ := exists_parts_of_mem_visits hproper h
  rw [FileTree.leadsInto_of_locate hlocate, Bool.eq_iff_iff, List.contains_iff_mem, failingPlaces,
    List.mem_filterMap]
  constructor
  · rintro ⟨visit', hvisit', hplace⟩
    rw [List.mem_filter] at hvisit'
    have hlocate' : files.locate visit'.2 = .ok (base ++ parts) := by
      cases hfound : files.locate visit'.2 with
      | ok place =>
        rw [hfound] at hplace
        exact congrArg _ (Option.some.inj hplace)
      | error e =>
        rw [hfound] at hplace
        cases hplace
    have hpath := path_eq_of_locate_eq hproper h hvisit'.1 (hlocate.trans hlocate'.symm)
    exact (fails_iff_of_path_eq hpath).mpr hvisit'.2
  · intro hfails
    refine ⟨visit, List.mem_filter.mpr ⟨h, hfails⟩, ?_⟩
    rw [hlocate]
    rfl

theorem not_failing_of_folder (hproper : files.IsProper) (place : Place)
    (h : files.Holds place .folder) :
    (failingPlaces files settings folder).contains place = false := by
  rw [Bool.eq_false_iff, ne_eq, List.contains_iff_mem, failingPlaces, List.mem_filterMap]
  rintro ⟨visit, hvisit, hplace⟩
  obtain ⟨base, parts, content, -, -, hlocate, hholds⟩ :=
    exists_parts_of_mem_visits hproper (List.mem_of_mem_filter hvisit)
  rw [hlocate] at hplace
  cases hplace
  exact absurd (h.unique hholds) (by simp)

theorem folders_withoutFailing (hproper : files.IsProper) :
    folders (withoutFailing files settings folder) settings folder =
      folders files settings folder := by
  rw [folders, withoutFailing, findFolders_without hproper (not_failing_of_folder hproper)]
  rfl

theorem visitsIn_withoutFailing (hproper : files.IsProper) {found : String × Path}
    (hfound : found ∈ folders files settings folder) :
    visitsIn (withoutFailing files settings folder) settings found =
      (visitsIn files settings found).filter fun visit => !fails files visit := by
  rw [visitsIn, withoutFailing, findFiles_without hproper (not_failing_of_folder hproper), visitsIn,
    List.filter_map]
  refine congrArg _ (List.filter_congr fun p hp => ?_)
  have hvisit : (found.1, p) ∈ visits files settings folder :=
    List.mem_flatMap.mpr ⟨found, hfound, List.mem_map_of_mem hp⟩
  exact congrArg (! ·) (leadsInto_failingPlaces hproper hvisit)

/-- Without the files that fail, a batch visits the others, in the same order. -/
theorem visits_withoutFailing (hproper : files.IsProper) :
    visits (withoutFailing files settings folder) settings folder =
      (visits files settings folder).filter fun visit => !fails files visit := by
  rw [visits, folders_withoutFailing hproper, visits, List.filter_flatMap]
  exact List.flatMap_congr fun found hfound => visitsIn_withoutFailing hproper hfound

/-- The definition of a file depends on the tree by the content of the file. -/
theorem definitionOf_congr {files' : FileTree} {p : Path}
    (h : ∀ content, files'.read p = .ok content ↔ files.read p = .ok content) (release : String) :
    definitionOf files' p release = definitionOf files p release := by
  unfold definitionOf
  cases hread : files.read p with
  | ok content => rw [(h content).mpr hread]
  | error e =>
    cases hread' : files'.read p with
    | ok content => cases hread.symm.trans ((h content).mp hread')
    | error e' => rfl

/-- A file that does not fail is read as before. -/
theorem reading_withoutFailing (hproper : files.IsProper) {visit : String × Path}
    (h : visit ∈ visits files settings folder) (hkept : fails files visit = false) :
    reading (withoutFailing files settings folder) visit = reading files visit := by
  refine congrArg ExceptT.run (definitionOf_congr (fun content => ?_) visit.1)
  exact FileTree.read_without_iff (not_failing_of_folder hproper)
    ((leadsInto_failingPlaces hproper h).trans hkept)

theorem definition?_eq_none_of_fails {visit : String × Path} (h : fails files visit = true) :
    definition? files visit = none := by
  unfold fails skip? at h
  unfold definition?
  cases hvalue : (reading files visit).value with
  | ok pset =>
    rw [hvalue] at h
    cases h
  | error failure => rfl

theorem filterMap_definition?_filter (l : List (String × Path)) :
    (l.filter fun visit => !fails files visit).filterMap (definition? files) =
      l.filterMap (definition? files) := by
  rw [List.filterMap_filter]
  refine List.filterMap_congr fun visit _ => ?_
  split
  · rfl
  · next hfails =>
    rw [Bool.not_eq_true', Bool.not_eq_false] at hfails
    exact (definition?_eq_none_of_fails hfails).symm

/-- The definitions of visits are those of the visits that do not fail. -/
theorem filterMap_definition?_withoutFailing (hproper : files.IsProper)
    {l : List (String × Path)} (hl : ∀ visit ∈ l, visit ∈ visits files settings folder) :
    (l.filter fun visit => !fails files visit).filterMap
        (definition? (withoutFailing files settings folder)) =
      l.filterMap (definition? files) := by
  refine Eq.trans ?_ (filterMap_definition?_filter l)
  refine List.filterMap_congr fun visit hvisit => ?_
  rw [List.mem_filter, Bool.not_eq_true'] at hvisit
  unfold definition?
  rw [reading_withoutFailing hproper (hl visit hvisit.1) hvisit.2]

theorem added_withoutFailing (hproper : files.IsProper) :
    added (withoutFailing files settings folder) settings folder = added files settings folder := by
  rw [added, folders_withoutFailing hproper]
  refine List.flatMap_congr fun found hfound => ?_
  rw [addedIn, addedIn, visitsIn_withoutFailing hproper hfound,
    filterMap_definition?_withoutFailing hproper]
  intro visit hvisit
  exact List.mem_flatMap.mpr ⟨found, hfound, hvisit⟩

/-- Without the files that fail, no visit fails. -/
theorem filterMap_skip?_withoutFailing (hproper : files.IsProper) :
    (visits (withoutFailing files settings folder) settings folder).filterMap
      (skip? (withoutFailing files settings folder)) = [] := by
  rw [visits_withoutFailing hproper, List.filterMap_eq_nil_iff]
  intro visit hvisit
  rw [List.mem_filter, Bool.not_eq_true'] at hvisit
  have hnone : skip? files visit = none := by
    rw [← Option.isNone_iff_eq_none, ← Option.isSome_eq_false_iff]
    exact hvisit.2
  unfold skip? at hnone ⊢
  rwa [reading_withoutFailing hproper hvisit.1 hvisit.2]

theorem length_filterMap_skip? (l : List (String × Path)) :
    (l.filterMap (skip? files)).length = (l.filter (fails files)).length := by
  rw [← List.countP_eq_length_filter]
  exact List.length_filterMap_eq_countP

/-- A failing file takes nothing else with it: the batch comes to its end exactly when no visit
fails for a reason beyond its file, and it collects then what it collects without the files that
fail.  Every visit to such a file is counted and reported once. -/
theorem collect_withoutFailing (hproper : files.IsProper) (settings : DefinitionSettings)
    (folder : Path) :
    ((∃ batch, (collect files settings folder).run.value = .ok batch) ↔
        ∀ visit ∈ visits files settings folder, IsContained files visit) ∧
      ∀ batch, (collect files settings folder).run.value = .ok batch →
        (∃ kept, (collect (withoutFailing files settings folder) settings folder).run.value =
            .ok kept ∧ batch.catalog = kept.catalog ∧ batch.readCount = kept.readCount ∧
            kept.skippedCount = 0) ∧
          batch.skippedCount = ((visits files settings folder).filter (fails files)).length ∧
          (collect files settings folder).run.log.filter Diagnostic.isSkip =
            (visits files settings folder).filterMap (skip? files) := by
  refine ⟨exists_value_collect_iff, fun batch hbatch => ?_⟩
  have hcontained := exists_value_collect_iff.mp ⟨batch, hbatch⟩
  have hcontained' : ∀ visit ∈ visits (withoutFailing files settings folder) settings folder,
      IsContained (withoutFailing files settings folder) visit := by
    intro visit hvisit failure hfailure
    rw [visits_withoutFailing hproper, List.mem_filter, Bool.not_eq_true'] at hvisit
    rw [reading_withoutFailing hproper hvisit.1 hvisit.2] at hfailure
    exact hcontained visit hvisit.1 failure hfailure
  obtain rfl := Except.ok.inj (hbatch.symm.trans (congrArg Report.value (run_collect hcontained)))
  refine ⟨⟨_, congrArg Report.value (run_collect hcontained'), ?_, ?_, ?_⟩, ?_, ?_⟩
  · rw [added_withoutFailing hproper]
  · rw [visits_withoutFailing hproper,
      filterMap_definition?_withoutFailing hproper fun visit hvisit => hvisit]
  · rw [filterMap_skip?_withoutFailing hproper]
    rfl
  · exact length_filterMap_skip? _
  · exact filter_isSkip_collect hcontained

/-! A release with one file, which breaks off after the first character of its markup. -/

def cutTree : FileTree where
  entries :=
    [(["IFC4"], .folder), (["IFC4", "psd"], .folder),
      (["IFC4", "psd", "Pset_Cut.xml"], .file [60])]

theorem isProper_cutTree : cutTree.IsProper where
  nodup := by decide
  named := by decide
  held := by unfold FileTree.Holds; decide
  home := rfl

theorem visits_cutTree :
    visits cutTree {} {} = [("IFC4", { parts := ["IFC4", "psd", "Pset_Cut.xml"] })] := by
  have hbelow : cutTree.below {} = cutTree.entries :=
    Text.sortBy_of_pairwise _ (by decide)
  have hfolders : folders cutTree {} {} = [("IFC4", { parts := ["IFC4", "psd"] })] := by
    unfold folders findFolders
    rw [hbelow]
    show (Text.sortBy _ (Text.sortBy _
      [("IFC4", ({ parts := ["IFC4", "psd"] } : Path))])).filter _ = _
    rw [Text.sortBy_of_pairwise _ (List.pairwise_singleton _ _),
      Text.sortBy_of_pairwise _ (List.pairwise_singleton _ _)]
    rfl
  rw [visits, hfolders]
  decide +kernel

/-- The file is passed over, and the predefined sets of its release are collected all the same. -/
theorem collect_cutTree : cutTree.IsProper ∧ ∃ batch kept,
    (collect cutTree {} {}).run.value = .ok batch ∧
      (collect (withoutFailing cutTree {} {}) {} {}).run.value = .ok kept ∧
      batch.catalog = kept.catalog ∧ batch.skippedCount = 1 := by
  refine ⟨isProper_cutTree, ?_⟩
  obtain ⟨hends, hcollects⟩ := collect_withoutFailing isProper_cutTree {} {}
  obtain ⟨batch, hbatch⟩ := hends.mpr <| by
    rw [visits_cutTree]
    intro visit hvisit failure hfailure
    rw [List.mem_singleton.mp hvisit] at hfailure
    cases hfailure
    rfl
  obtain ⟨⟨kept, hkept, hcatalog, -, -⟩, hskipped, -⟩ := hcollects batch hbatch
  refine ⟨batch, kept, hbatch, hkept, hcatalog, ?_⟩
  rw [hskipped, visits_cutTree]
  rfl

end Batch

end PsetCompiler
