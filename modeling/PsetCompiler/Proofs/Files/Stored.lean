import PsetCompiler.Proofs.Files.Tree
import PsetCompiler.Proofs.Outcome
import PsetCompiler.Proofs.Text.Utf8
import PsetCompiler.Workspace

/-!
# Files of a workspace

Reading and writing files report nothing, so their results are said whole.  Whether a file can be
written does not depend on what is written; and what was written as a text is read as that text.

## Main definitions

* `FileTree.HasPlaceFor` — a file can be written to a path, the folders on the way being made.

## Main results

* `FileTree.HasPlaceFor.exists_store` — what is written there is read from there.
* `result_writeJson`, `result_readRecordFile` — **a value is written, and what is read is a function
  of the text.**
-/

namespace PsetCompiler

namespace FileTree

variable {tree : FileTree} {p : Path}

/-- A file can be written to a path. -/
def HasPlaceFor (tree : FileTree) (p : Path) : Prop :=
  ∃ u, tree.store p [] = .ok u

/-- What was put at the place of a path is read from it. -/
theorem read_put {place : Place} (hplace : tree.locate p = .ok place)
    (hfree : ¬tree.Holds place .folder) (content : Text.Bytes) :
    (tree.put place (.file content)).read p = .ok content := by
  have hwrite : tree.write p content = .ok (tree.put place (.file content)) :=
    write_eq_ok_iff.mpr ⟨place, hplace, hfree, rfl⟩
  have hholds : (tree.put place (.file content)).Holds place (.file content) := by
    rw [holds_put (ne_nil_of_not_holds hfree), if_pos rfl]
  exact read_eq_ok_iff.mpr ⟨place, locate_of_grows (grows_write hwrite) hplace, hholds⟩

/-- Whatever is written to a path is read from it. -/
theorem HasPlaceFor.exists_store (h : tree.HasPlaceFor p) (content : Text.Bytes) :
    ∃ u, tree.store p content = .ok u ∧ u.read p = .ok content := by
  obtain ⟨_, hempty⟩ := h
  obtain ⟨made, hmake, hwrite⟩ := store_eq_ok_iff.mp hempty
  obtain ⟨place, hlocate, hfile, -⟩ := write_eq_ok_iff.mp hwrite
  have hstore : tree.store p content = .ok (made.put place (.file content)) :=
    store_eq_ok_iff.mpr ⟨made, hmake, write_eq_ok_iff.mpr ⟨place, hlocate, hfile, rfl⟩⟩
  exact ⟨_, hstore, read_put hlocate hfile content⟩

end FileTree

variable {workspace : Workspace} {p : Path}

theorem result_readFile {content : Text.Bytes} (h : workspace.files.read p = .ok content) :
    (Workspace.readFile p).result workspace = pure (.ok content, workspace) := by
  rw [Workspace.readFile, Run.result_bind_pure (Run.result_get workspace), h]
  rfl

theorem outcome_readFile {content : Text.Bytes} (h : workspace.files.read p = .ok content) :
    (Workspace.readFile p).outcome workspace = (.ok content, workspace) :=
  Run.outcome_of_result (result_readFile h)

theorem result_changeFiles {change : FileTree → Except FileError FileTree} {files : FileTree}
    (h : change workspace.files = .ok files) :
    (Workspace.changeFiles change).result workspace = pure (.ok (), { workspace with files }) := by
  rw [Workspace.changeFiles, Run.result_bind_pure (Run.result_get workspace), h]
  rfl

theorem result_makeFolders {files : FileTree} (h : workspace.files.makeFolders p = .ok files) :
    (Workspace.makeFolders p).result workspace = pure (.ok (), { workspace with files }) :=
  result_changeFiles h

theorem result_writeText {text : String} {files : FileTree}
    (h : workspace.files.write p (Text.encodeUtf8 text.toList) = .ok files) :
    (Workspace.writeText p text).result workspace = pure (.ok (), { workspace with files }) :=
  result_changeFiles h

/-- A value is written as its text, with a line end. -/
theorem result_writeJson {value : Json} {files : FileTree}
    (h : workspace.files.store p (Text.encodeUtf8 (value.render ++ "\n").toList) = .ok files) :
    (Workspace.writeJson p value).result workspace = pure (.ok (), { workspace with files }) := by
  obtain ⟨made, hmake, hwrite⟩ := FileTree.store_eq_ok_iff.mp h
  rw [Workspace.writeJson, Run.result_bind_pure (result_makeFolders hmake),
    result_writeText hwrite]

theorem result_readText {cs : List Char} (h : workspace.files.read p = .ok (Text.encodeUtf8 cs)) :
    (Workspace.readText p).result workspace = pure (.ok cs, workspace) := by
  rw [Workspace.readText, Run.result_bind_pure (result_readFile h), Text.decodeUtf8?_encodeUtf8]
  rfl

/-- What is read from a text is a function of the text. -/
theorem result_readRecordFile {α : Type} {cs : List Char} (read : Json → Checked α)
    (h : workspace.files.read p = .ok (Text.encodeUtf8 cs)) :
    (Workspace.readRecordFile p read).result workspace =
      pure ((readJsonText read cs).toExcept, workspace) := by
  rw [Workspace.readRecordFile, Run.result_bind_pure (result_readText h), Run.result_ofExcept]

/-- No files are there, and no folders. -/
def bareWorkspace : Workspace where
  files := {}
  supply := { fresh := Guid.ofNat }

end PsetCompiler
