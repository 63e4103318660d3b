import PsetCompiler.Files.Tree
import PsetCompiler.Proofs.Entries

/-!
# Writing files

A file is written by making the folders that lead to it and then putting it in its place.  Neither
step takes a folder away, and so a path leads to one place as long as files are written: what was
written is read back, and a file in another place stays as it is.

## Main definitions

* `FileTree.Holds` — something is at a place.
* `FileTree.Grows` — the folders of one tree are folders of another.
* `FileTree.SameFiles` — two trees differ in folders only.
* `FileTree.store` — a file written, with the folders that lead to it.
* `FileTree.HasRoomFor` — two files can be written.
* `Path.IsFileName` — a text is the name of a file.

## Main results

* `store_spec` — **what writing a file does.**
* `read_eq_ok_iff` — what is read is what is at the place of a path.
* `locate_child_ne` — files of one folder with different names are in different places.
* `storeBoth_spec` — what writing two files does.
* `hasRoomFor_of_locate`, `hasRoomFor_of_store` — when two files can be written, and that they can
  be written again.
-/

namespace PsetCompiler

/-- A text is the name of a file: it spells one part of a path, and that part leads down. -/
def Path.IsFileName (name : String) : Prop :=
  Path.ofText name = { parts := [name] } ∧ name ≠ ".."

namespace FileTree

open Text (Bytes)

variable {t u v : FileTree}

/-! ### Places -/

/-- Something is at a place. -/
def Holds (tree : FileTree) (place : Place) (entry : Entry) : Prop :=
  tree.entry? place = some entry

theorem Holds.unique {place : Place} {e e' : Entry} (h : t.Holds place e) (h' : t.Holds place e') :
    e = e' :=
  Option.some.inj (h.symm.trans h')

theorem put_eq (tree : FileTree) (place : Place) (entry : Entry) :
    tree.put place entry = { tree with entries := putEntry tree.entries place entry } := by
  unfold put putEntry
  split <;> rfl

theorem holds_iff_lookup {place : Place} (hne : place ≠ []) {e : Entry} :
    t.Holds place e ↔ t.entries.lookup place = some e := by
  cases place with
  | nil => exact absurd rfl hne
  | cons part rest => rfl

theorem holds_nil_iff {e : Entry} : t.Holds [] e ↔ e = .folder := by
  refine ⟨fun h => (Option.some.inj h).symm, fun h => ?_⟩
  rw [h]
  rfl

/-- Something put at a place changes that place only. -/
theorem holds_put {place : Place} (hne : place ≠ []) (entry : Entry) (place' : Place)
    (e : Entry) : (t.put place entry).Holds place' e ↔
      if place' = place then e = entry else t.Holds place' e := by
  by_cases hnil : place' = []
  · rw [hnil, holds_nil_iff, if_neg hne.symm, holds_nil_iff]
  · rw [holds_iff_lookup hnil, put_eq, lookup_putEntry]
    by_cases hplace : place' = place
    · simp [hplace, eq_comm]
    · simp [hplace, holds_iff_lookup hnil]

/-! ### Growing trees -/

/-- The folders of one tree are folders of another. -/
structure Grows (t u : FileTree) : Prop where
  working : u.working = t.working
  folders : ∀ place, t.Holds place .folder → u.Holds place .folder

theorem Grows.trans (h : t.Grows u) (h' : u.Grows v) : t.Grows v :=
  { working := h'.working.trans h.working
    folders := fun place hplace => h'.folders place (h.folders place hplace) }

theorem grows_put {place : Place} (hne : place ≠ []) {entry : Entry}
    (h : t.Holds place .folder → entry = .folder) : t.Grows (t.put place entry) := by
  refine { working := by rw [put_eq], folders := fun place' hfolder => ?_ }
  rw [holds_put hne]
  split
  · next heq => exact (h (heq ▸ hfolder)).symm
  · exact hfolder

theorem follow_append (t : FileTree) (place : Place) (parts rest : List String) :
    t.follow place (parts ++ rest) = t.follow place parts >>= fun next => t.follow next rest := by
  induction parts generalizing place with
  | nil => rfl
  | cons part parts ih =>
    rw [List.cons_append, follow, follow]
    split
    · rfl
    · rfl
    · split
      · exact ih _
      · exact ih _

/-- A path that leads somewhere leads there for as long as the tree grows. -/
theorem follow_of_grows (h : t.Grows u) {place place' : Place} {parts : List String}
    (hfollow : t.follow place parts = .ok place') : u.follow place parts = .ok place' := by
  induction parts generalizing place with
  | nil => exact hfollow
  | cons part parts ih =>
    rw [follow] at hfollow ⊢
    split at hfollow
    · cases hfollow
    · cases hfollow
    · next hfolder =>
      -- a path goes on in folders only, and these stay
      have hfolder' : u.entry? place = some .folder := h.folders place hfolder
      rw [hfolder']
      dsimp only
      split at hfollow
      · next hup =>
        rw [if_pos hup]
        exact ih hfollow
      · next hdown =>
        rw [if_neg hdown]
        exact ih hfollow

theorem start_of_grows (h : t.Grows u) (p : Path) : u.start p = t.start p := by
  rw [start, start, h.working]

theorem locate_of_grows (h : t.Grows u) {p : Path} {place : Place}
    (hlocate : t.locate p = .ok place) : u.locate p = .ok place := by
  rw [locate, start_of_grows h]
  exact follow_of_grows h hlocate

/-! ### Folders -/

/-- Making folders adds folders: everything else stays. -/
theorem makeAlong_adds {place : Place} {parts : List String}
    (h : t.makeAlong place parts = .ok u) :
    u.working = t.working ∧ ∀ place' e, t.Holds place' e → u.Holds place' e := by
  induction parts generalizing t place with
  | nil =>
    cases h
    exact ⟨rfl, fun _ _ hold => hold⟩
  | cons part parts ih =>
    rw [makeAlong] at h
    split at h
    · exact ih h
    · split at h
      · exact ih h
      · cases h
      · next hnone =>
        obtain ⟨hworking, hkeep⟩ := ih h
        refine ⟨hworking.trans (by rw [put_eq]), fun place' e hold => hkeep place' e ?_⟩
        rw [holds_put (by simp), if_neg]
        · exact hold
        · rintro rfl
          exact absurd (hnone.symm.trans hold) (by simp)

theorem grows_makeAlong {place : Place} {parts : List String}
    (h : t.makeAlong place parts = .ok u) : t.Grows u :=
  { working := (makeAlong_adds h).1
    folders := fun place' hfolder => (makeAlong_adds h).2 place' _ hfolder }

/-- Two trees have the same files in the same places. -/
def SameFiles (t u : FileTree) : Prop :=
  ∀ place content, u.Holds place (.file content) ↔ t.Holds place (.file content)

theorem SameFiles.refl (t : FileTree) : t.SameFiles t :=
  fun _ _ => Iff.rfl

theorem SameFiles.trans (h : t.SameFiles u) (h' : u.SameFiles v) : t.SameFiles v :=
  fun place content => (h' place content).trans (h place content)

/-- A folder where nothing was does no harm to files. -/
theorem sameFiles_put_folder {place : Place} (hne : place ≠ []) (hnone : t.entry? place = none) :
    t.SameFiles (t.put place .folder) := by
  intro place' content
  rw [holds_put hne]
  split
  · next heq =>
    rw [heq, Holds, hnone]
    exact iff_of_false nofun nofun
  · exact Iff.rfl

theorem sameFiles_makeAlong {place : Place} {parts : List String}
    (h : t.makeAlong place parts = .ok u) : t.SameFiles u := by
  induction parts generalizing t place with
  | nil =>
    cases h
    exact .refl _
  | cons part parts ih =>
    rw [makeAlong] at h
    split at h
    · exact ih h
    · split at h
      · exact ih h
      · cases h
      · next hnone => exact (sameFiles_put_folder (by simp) hnone).trans (ih h)

/-- Folders that were made need not be made again. -/
theorem makeAlong_again {place : Place} {parts : List String}
    (h : t.makeAlong place parts = .ok u) (hgrows : u.Grows v) :
    v.makeAlong place parts = .ok v := by
  induction parts generalizing t place with
  | nil => rfl
  | cons part parts ih =>
    rw [makeAlong] at h ⊢
    split at h
    · next hup =>
      rw [if_pos hup]
      exact ih h
    · next hdown =>
      rw [if_neg hdown]
      -- the part is a folder at the end, whether it was there or was made
      have hstep {t' : FileTree} (h : t'.makeAlong (place ++ [part]) parts = .ok u)
          (hmade : t'.Holds (place ++ [part]) .folder) :
          v.entry? (place ++ [part]) = some .folder :=
        hgrows.folders _ ((grows_makeAlong h).folders _ hmade)
      split at h
      · next hfolder =>
        rw [hstep h hfolder]
        exact ih h
      · cases h
      · rw [hstep h ((holds_put (by simp) _ _ _).mpr (by rw [if_pos rfl]))]
        exact ih h

/-! ### Files -/

/-- What is read is what is at the place of a path. -/
theorem read_eq_ok_iff {p : Path} {content : Bytes} :
    t.read p = .ok content ↔ ∃ place, t.locate p = .ok place ∧ t.Holds place (.file content) := by
  unfold read
  cases hlocate : t.locate p with
  | error e => simp [bind, Except.bind]
  | ok place =>
    dsimp only [bind, Except.bind]
    constructor
    · intro h
      refine ⟨place, rfl, ?_⟩
      split at h
      · cases h
      · cases h
      · next heq =>
        cases h
        exact heq
    · rintro ⟨place', heq, hfile⟩
      cases heq
      unfold Holds at hfile
      rw [hfile]

/-- A file is put at the place to which its path leads, where no folder is. -/
theorem write_eq_ok_iff {p : Path} {content : Bytes} :
    t.write p content = .ok u ↔
      ∃ place, t.locate p = .ok place ∧ ¬t.Holds place .folder ∧
        u = t.put place (.file content) := by
  unfold write
  cases hlocate : t.locate p with
  | error e => simp [bind, Except.bind]
  | ok place =>
    dsimp only [bind, Except.bind]
    constructor
    · intro h
      refine ⟨place, rfl, ?_⟩
      split at h
      · cases h
      · next hother =>
        cases h
        exact ⟨hother, rfl⟩
    · rintro ⟨place', heq, hfile, rfl⟩
      cases heq
      split
      · next hfolder => exact absurd hfolder hfile
      · rfl

/-- The tree with a file and the folders that lead to it. -/
def store (tree : FileTree) (p : Path) (content : Bytes) : Except FileError FileTree :=
  tree.makeFolders p.parent >>= fun made => made.write p content

theorem store_eq_ok_iff {p : Path} {content : Bytes} :
    t.store p content = .ok u ↔
      ∃ made, t.makeFolders p.parent = .ok made ∧ made.write p content = .ok u := by
  unfold store
  cases t.makeFolders p.parent with
  | error e => simp [bind, Except.bind]
  | ok made => exact ⟨fun h => ⟨made, rfl, h⟩, fun ⟨_, heq, h⟩ => by cases heq; exact h⟩

theorem ne_nil_of_not_holds {place : Place} (h : ¬t.Holds place .folder) : place ≠ [] := by
  rintro rfl
  exact h rfl

theorem grows_write {p : Path} {content : Bytes} (h : t.write p content = .ok u) : t.Grows u := by
  obtain ⟨place, -, hfile, rfl⟩ := write_eq_ok_iff.mp h
  exact grows_put (ne_nil_of_not_holds hfile) fun hfolder => absurd hfolder hfile

/-- What writing a file does: its path leads to it, no folder goes, and what is elsewhere stays. -/
theorem store_spec {p : Path} {content : Bytes} (h : t.store p content = .ok u) :
    t.Grows u ∧ ∃ place, u.locate p = .ok place ∧ u.Holds place (.file content) ∧
      ∀ place' ≠ place, ∀ e, t.Holds place' e → u.Holds place' e := by
  obtain ⟨made, hmake, hwrite⟩ := store_eq_ok_iff.mp h
  obtain ⟨place, hlocate, hfile, rfl⟩ := write_eq_ok_iff.mp hwrite
  have hne := ne_nil_of_not_holds hfile
  have hput := grows_write hwrite
  refine ⟨(grows_makeAlong hmake).trans hput, place, locate_of_grows hput hlocate, ?_, ?_⟩
  · rw [holds_put hne, if_pos rfl]
  · intro place' hother e hold
    rw [holds_put hne, if_neg hother]
    exact (makeAlong_adds hmake).2 place' e hold

/-- Folders that were made need not be made again. -/
theorem makeFolders_again {p : Path} (h : t.makeFolders p = .ok u) (hgrows : u.Grows v) :
    v.makeFolders p = .ok v := by
  rw [makeFolders] at h ⊢
  rw [start_of_grows hgrows, start_of_grows (grows_makeAlong h)]
  exact makeAlong_again h hgrows

/-- Where the folders are made, a file is put in its place. -/
theorem store_eq_put {p : Path} (hmake : t.makeFolders p.parent = .ok t) {place : Place}
    (hlocate : t.locate p = .ok place) (hfile : ¬t.Holds place .folder) (content : Bytes) :
    t.store p content = .ok (t.put place (.file content)) :=
  store_eq_ok_iff.mpr ⟨t, hmake, write_eq_ok_iff.mpr ⟨place, hlocate, hfile, rfl⟩⟩

theorem Holds.not_folder {place : Place} {content : Bytes} (h : t.Holds place (.file content)) :
    ¬t.Holds place .folder :=
  fun hfolder => absurd (h.unique hfolder) (by simp)

/-! ### Two files -/

theorem locate_child_eq {folder : Path} {name : String}
    (hname : Path.IsFileName name) {place : Place}
    (h : t.locate (folder.child name) = .ok place) :
    ∃ base, t.locate folder = .ok base ∧ place = base ++ [name] := by
  have hchild : folder.child name = { folder with parts := folder.parts ++ [name] } := by
    rw [Path.child, hname.1]
    rfl
  rw [hchild] at h
  have hfollow : t.follow (t.start folder) (folder.parts ++ [name]) = .ok place := h
  rw [follow_append] at hfollow
  cases hbase : t.locate folder with
  | error e =>
    rw [show t.follow (t.start folder) folder.parts = .error e from hbase] at hfollow
    cases hfollow
  | ok base =>
    rw [show t.follow (t.start folder) folder.parts = .ok base from hbase] at hfollow
    have hlast : t.follow base [name] = .ok place := hfollow
    rw [follow] at hlast
    split at hlast
    · cases hlast
    · cases hlast
    · rw [if_neg hname.2] at hlast
      cases hlast
      exact ⟨base, rfl, rfl⟩

/-- Files of one folder with different names are in different places. -/
theorem locate_child_ne {folder : Path} {name name' : String}
    (hname : Path.IsFileName name) (hname' : Path.IsFileName name') (hne : name ≠ name')
    {place place' : Place} (h : t.locate (folder.child name) = .ok place)
    (h' : t.locate (folder.child name') = .ok place') : place ≠ place' := by
  obtain ⟨base, hbase, rfl⟩ := locate_child_eq hname h
  obtain ⟨base', hbase', rfl⟩ := locate_child_eq hname' h'
  cases hbase.symm.trans hbase'
  intro hsame
  exact hne (List.cons.inj (List.append_cancel_left hsame)).1

/-- Two files can be written one after the other, and they are not one. -/
def HasRoomFor (tree : FileTree) (p q : Path) : Prop :=
  ∀ a b, ∃ t u, tree.store p a = .ok t ∧ t.store q b = .ok u ∧ u.locate p ≠ u.locate q

/-- What writing two files does: both are read back, no folder goes, and a file that is read in
another place is read as before. -/
theorem storeBoth_spec {p q : Path} {a b : Bytes} (hp : t.store p a = .ok u)
    (hq : u.store q b = .ok v) (hne : v.locate p ≠ v.locate q) :
    t.Grows v ∧ v.read p = .ok a ∧ v.read q = .ok b ∧
      ∀ r c, v.locate r ≠ v.locate p → v.locate r ≠ v.locate q → t.read r = .ok c →
        v.read r = .ok c := by
  obtain ⟨hgrows, x, hx, hholds, hother⟩ := store_spec hp
  obtain ⟨hgrows', y, hy, hholds', hother'⟩ := store_spec hq
  have hx' := locate_of_grows hgrows' hx
  rw [hx', hy] at hne
  have hxy : x ≠ y := fun h => hne (congrArg _ h)
  -- the second file is in another place, so that the first one is not written over
  refine ⟨hgrows.trans hgrows', read_eq_ok_iff.mpr ⟨x, hx', hother' x hxy _ hholds⟩,
    read_eq_ok_iff.mpr ⟨y, hy, hholds'⟩, fun r c hrp hrq hread => ?_⟩
  obtain ⟨z, hz, hfile⟩ := read_eq_ok_iff.mp hread
  have hz' := locate_of_grows (hgrows.trans hgrows') hz
  rw [hz', hx'] at hrp
  rw [hz', hy] at hrq
  refine read_eq_ok_iff.mpr ⟨z, hz', ?_⟩
  exact hother' z (fun h => hrq (congrArg _ h)) _ (hother z (fun h => hrp (congrArg _ h)) _ hfile)

/-- What is where a file can be written is a file. -/
theorem exists_read_of_store {p : Path} {a : Bytes} (h : t.Grows u) {place : Place}
    (hlocate : u.locate p = .ok place) (hholds : u.Holds place (.file a))
    (hexists : t.exists? p = true) : ∃ content, t.read p = .ok content := by
  obtain ⟨e, he⟩ := Option.isSome_iff_exists.mp hexists
  rw [find?] at he
  split at he
  · next place' heq =>
    -- the path still leads there, so that a folder would stand in the place of the file
    have hsame := (locate_of_grows h heq).symm.trans hlocate
    cases hsame
    cases e with
    | folder => exact absurd ((h.folders place he).unique hholds) (by simp)
    | file content => exact ⟨content, read_eq_ok_iff.mpr ⟨place, heq, he⟩⟩
  · cases he

/-- Where there is room for two files, each of them is there and can be read, or is not there. -/
theorem HasRoomFor.exists_read {p q : Path} (h : t.HasRoomFor p q) :
    (t.exists? p = true → ∃ content, t.read p = .ok content) ∧
      (t.exists? q = true → ∃ content, t.read q = .ok content) := by
  obtain ⟨u, v, hp, hq, -⟩ := h [] []
  obtain ⟨hgrows, x, hx, hholds, -⟩ := store_spec hp
  obtain ⟨hgrows', y, hy, hholds', -⟩ := store_spec hq
  exact ⟨exists_read_of_store hgrows hx hholds,
    exists_read_of_store (hgrows.trans hgrows') hy hholds'⟩

theorem exists?_of_read {p : Path} {content : Bytes} (h : t.read p = .ok content) :
    t.exists? p = true := by
  obtain ⟨place, hlocate, hholds⟩ := read_eq_ok_iff.mp h
  unfold Holds at hholds
  rw [exists?, find?, hlocate]
  dsimp only
  rw [hholds]
  rfl

/-- Where the folders are made, there is room for two files in different places unless one of these
is a folder. -/
theorem hasRoomFor_of_locate {p q : Path} (hp : t.makeFolders p.parent = .ok t)
    (hq : t.makeFolders q.parent = .ok t) {x y : Place} (hx : t.locate p = .ok x)
    (hy : t.locate q = .ok y) (hxy : x ≠ y) (hxfile : ¬t.Holds x .folder)
    (hyfile : ¬t.Holds y .folder) : t.HasRoomFor p q := by
  intro a b
  have hput : t.Grows (t.put x (.file a)) :=
    grows_put (ne_nil_of_not_holds hxfile) fun hfolder => absurd hfolder hxfile
  have hyfile' : ¬(t.put x (.file a)).Holds y .folder := by
    rwa [holds_put (ne_nil_of_not_holds hxfile), if_neg hxy.symm]
  have hput' : (t.put x (.file a)).Grows ((t.put x (.file a)).put y (.file b)) :=
    grows_put (ne_nil_of_not_holds hyfile') fun hfolder => absurd hfolder hyfile'
  refine ⟨_, _, store_eq_put hp hx hxfile a,
    store_eq_put (makeFolders_again hq hput) (locate_of_grows hput hy) hyfile' b, ?_⟩
  rw [locate_of_grows (hput.trans hput') hx, locate_of_grows (hput.trans hput') hy]
  exact fun h => hxy (Except.ok.inj h)

/-- After two files were written there is room for them again. -/
theorem hasRoomFor_of_store {p q : Path} {a b : Bytes} (hp : t.store p a = .ok u)
    (hq : u.store q b = .ok v) (hne : v.locate p ≠ v.locate q) : v.HasRoomFor p q := by
  obtain ⟨-, x, hx, hholds, -⟩ := store_spec hp
  obtain ⟨hgrows, y, hy, hholds', hother⟩ := store_spec hq
  obtain ⟨made, hmake, hwrite⟩ := store_eq_ok_iff.mp hp
  obtain ⟨made', hmake', hwrite'⟩ := store_eq_ok_iff.mp hq
  have hx' := locate_of_grows hgrows hx
  rw [hx', hy] at hne
  have hxy : x ≠ y := fun h => hne (congrArg _ h)
  exact hasRoomFor_of_locate (makeFolders_again hmake ((grows_write hwrite).trans hgrows))
    (makeFolders_again hmake' (grows_write hwrite')) hx' hy hxy (hother x hxy _ hholds).not_folder
    hholds'.not_folder

end FileTree

end PsetCompiler
