import PsetCompiler.Proofs.Entity.Document
import PsetCompiler.Proofs.Entity.Restored
import PsetCompiler.Proofs.Files.Stored

/-!
# From a registry to its file and back

A registry is written as the documents of its forests, in order of version, and read as the forests
of these documents.  Every one of them is registered under the version of the forest that it was
written from, and the versions of a registry differ; so nothing replaces anything, and each version
is there again with a forest that answers alike.  The order in which the versions came in is not
written, and after reading it is the order of the versions.

## Main definitions

* `Registry.IsDeclared` — the registry holds forests that declarations make.
* `Registry.Restored` — two registries hold forests that answer alike, under the same versions.

## Main results

* `Registry.IsDeclared.register` — the registries that can be built.
* `Registry.exists_registerAll` — documents are registered one after the other.
* `readRegistry_writeJson` — **a registry is written and read back**, and nothing is reported.
-/

namespace PsetCompiler

namespace Registry

variable {registry : Registry}

/-! ### Declared registries -/

/-- The registry holds forests that declarations make, each under its version in capitals. -/
structure IsDeclared (registry : Registry) : Prop where
  /-- No version is there twice. -/
  nodup_keys : (registry.forests.map (·.1)).Nodup
  key_eq : ∀ entry ∈ registry.forests, entry.1 = Text.upper entry.2.version
  isDeclared : ∀ entry ∈ registry.forests, entry.2.IsDeclared

theorem isDeclared_empty : IsDeclared {} where
  nodup_keys := .nil
  key_eq := by simp
  isDeclared := by simp

/-- A registry stays declared when a forest is registered that declarations make. -/
theorem IsDeclared.register (h : registry.IsDeclared) {forest : Forest}
    (hforest : forest.IsDeclared) : (registry.register forest).IsDeclared where
  nodup_keys := nodup_keys_putEntry h.nodup_keys _ forest
  key_eq := by
    intro entry hentry
    rcases mem_putEntry hentry with hold | rfl
    · exact h.key_eq entry hold
    · rfl
  isDeclared := by
    intro entry hentry
    rcases mem_putEntry hentry with hold | rfl
    · exact h.isDeclared entry hold
    · exact hforest

/-! ### The written form -/

theorem numberless_written (registry : Registry) : registry.written.Numberless :=
  registry.bundle.numberless_json.dropNulls

theorem depth_written_le (registry : Registry) : registry.written.depth ≤ Json.deepest :=
  ((Json.depth_dropNulls_le _).trans registry.bundle.depth_json_le).trans (by decide)

/-- The bundle is read back from what is written of the registry. -/
theorem read_written (h : registry.IsDeclared) :
    SchemaBundle.read registry.written = .ok registry.bundle := by
  refine SchemaBundle.read_json fun d hd => ?_
  obtain ⟨forest, hforest, rfl⟩ := List.mem_map.mp hd
  obtain ⟨entry, hentry, rfl⟩ := List.mem_map.mp hforest
  have hdeclared := h.isDeclared entry ((Text.mem_sortBy _).mp hentry)
  exact ((Text.perm_sortBy _ _).map _).nodup_iff.mpr hdeclared.nodup_enums

/-! ### The registry of a written form -/

/-- A version has a forest again that answers alike. -/
def Restored (entry other : String × Forest) : Prop :=
  other.1 = entry.1 ∧ entry.2.AnswersAlike other.2

theorem keys_of_restored {entries others : List (String × Forest)}
    (h : List.Forall₂ Restored entries others) : others.map (·.1) = entries.map (·.1) := by
  induction h with
  | nil => rfl
  | cons hentry _ ih => rw [List.map_cons, List.map_cons, hentry.1, ih]

theorem exists_lookup_of_restored {entries others : List (String × Forest)}
    (h : List.Forall₂ Restored entries others) {key : String} {forest : Forest}
    (hforest : entries.lookup key = some forest) :
    ∃ other, others.lookup key = some other ∧ forest.AnswersAlike other := by
  induction h with
  | nil => cases hforest
  | @cons entry other entries others hentry _ ih =>
    rw [List.lookup_cons] at hforest ⊢
    rw [hentry.1]
    cases hkey : key == entry.1 with
    | true =>
      rw [hkey] at hforest
      obtain rfl := Option.some.inj hforest
      exact ⟨other.2, rfl, hentry.2⟩
    | false =>
      rw [hkey] at hforest
      exact ih hforest

/-- A forest of a new version comes last. -/
theorem register_of_notMem {forest : Forest}
    (h : Text.upper forest.version ∉ registry.forests.map (·.1)) :
    registry.register forest = ⟨registry.forests ++ [(Text.upper forest.version, forest)]⟩ := by
  rw [register, insertEntry, if_neg (mt any_key_eq_true_iff.mp h)]

/-- **Documents are registered one after the other**, when their versions are new and differ. -/
theorem exists_registerAll (registry : Registry) {entries : List (String × Forest)}
    (hkeys : ((registry.forests ++ entries).map (·.1)).Nodup)
    (hversions : ∀ entry ∈ entries, entry.1 = Text.upper entry.2.version)
    (hdeclared : ∀ entry ∈ entries, entry.2.IsDeclared) :
    ∃ others,
      registry.registerAll (entries.map (·.2.document)) = pure ⟨registry.forests ++ others⟩ ∧
        List.Forall₂ Restored entries others := by
  induction entries generalizing registry with
  | nil => exact ⟨[], by rw [List.append_nil]; rfl, .nil⟩
  | cons entry entries ih =>
    rw [List.forall_mem_cons] at hversions hdeclared
    obtain ⟨other, hread, halike⟩ := hdeclared.1.exists_ofDocument
    have hversion : Text.upper other.version = entry.1 := by
      rw [hversions.1, halike.version_eq]
    have hnew : entry.1 ∉ registry.forests.map (·.1) := notMem_keys_of_nodup_append hkeys
    -- the forest that was read has the version of the one that was written, so nothing is replaced
    have hregister : registry.register other = ⟨registry.forests ++ [(entry.1, other)]⟩ := by
      rw [register_of_notMem (by rwa [hversion]), hversion]
    have hkeys' : ((registry.forests ++ [(entry.1, other)] ++ entries).map (·.1)).Nodup := by
      simpa using hkeys
    obtain ⟨others, hothers, hrestored⟩ := ih _ hkeys' hversions.2 hdeclared.2
    refine ⟨(entry.1, other) :: others, ?_, .cons ⟨rfl, halike⟩ hrestored⟩
    rw [List.map_cons, registerAll, hread, pure_bind, hregister, hothers, List.append_assoc,
      List.singleton_append]

end Registry

/-- **A registry is written and read back.**  Where a file can be written, a registry of schemas is
written that were made by declarations in any order, with any enumerations; what is read has the
same versions, every one with a schema that has the same written form, the same indented list and
the same answers to all questions about inheritance.  Neither writing nor reading reports anything,
a cycle least of all. -/
theorem readRegistry_writeJson {registry : Registry} (h : registry.IsDeclared)
    {workspace : Workspace} {p : Path} (hplace : workspace.files.HasPlaceFor p) :
    ∃ after restored,
      (Workspace.writeJson p registry.written).result workspace = pure (.ok (), after) ∧
      (Workspace.readRegistry p).result after = pure (.ok restored, after) ∧
      (restored.forests.map (·.1)).Perm (registry.forests.map (·.1)) ∧
      ∀ version forest, registry.get? version = some forest →
        ∃ other, restored.get? version = some other ∧ forest.AnswersAlike other := by
  obtain ⟨files, hstore, hfile⟩ := hplace.exists_store
    (Text.encodeUtf8 (registry.written.render ++ "\n").toList)
  have hperm := Text.perm_sortBy (·.1) registry.forests
  have hsorted : ∀ entry ∈ Text.sortBy (·.1) registry.forests, entry ∈ registry.forests :=
    fun entry => (Text.mem_sortBy _).mp
  have hkeys : ((Text.sortBy (·.1) registry.forests).map (·.1)).Nodup :=
    (hperm.map _).nodup_iff.mpr h.nodup_keys
  obtain ⟨others, hothers, hrestored⟩ := Registry.exists_registerAll {} hkeys
    (fun entry hentry => h.key_eq entry (hsorted entry hentry))
    fun entry hentry => h.isDeclared entry (hsorted entry hentry)
  have hbundle : Registry.ofBundle registry.bundle = pure ⟨others⟩ := by
    rw [Registry.ofBundle, Registry.bundle, Registry.sorted, List.map_map]
    exact hothers
  have hrecord : (Workspace.readRecordFile p SchemaBundle.read).result { workspace with files } =
      pure (.ok registry.bundle, { workspace with files }) := by
    rw [result_readRecordFile SchemaBundle.read hfile,
      readJsonText_render SchemaBundle.read registry.numberless_written,
      if_pos registry.depth_written_le, Registry.read_written h]
    rfl
  refine ⟨{ workspace with files }, ⟨others⟩, result_writeJson hstore, ?_, ?_, ?_⟩
  · rw [Workspace.readRegistry, Run.result_bind_pure hrecord, Run.result_liftM, hbundle]
    rfl
  · rw [Registry.keys_of_restored hrestored]
    exact hperm.map _
  · intro version forest hforest
    exact Registry.exists_lookup_of_restored hrestored
      ((lookup_sortBy h.nodup_keys _).trans hforest)

/-- A schema in which a parent is declared after its child, and a link back to the child is
refused. -/
def wallSchema : Forest :=
  (Forest.ofRecords "IFC4"
    [{ name := "IfcWall", parent := some "IfcBuildingElement",
       predefinedTypeEnum := some "IfcWallTypeEnum" },
      { name := "IfcBuildingElement", parent := some "IfcWall", isAbstract := true }]
    [("IfcWallTypeEnum", ["MOVABLE", "PARTITIONING"])]).value

theorem isDeclared_wallSchema : wallSchema.IsDeclared :=
  ⟨_, _, _, by simp, rfl⟩

theorem readRegistry_writeJson_walls :
    ∃ after restored other,
      (Workspace.writeJson { parts := ["schemas.json"] }
        (Registry.register {} wallSchema).written).result bareWorkspace = pure (.ok (), after) ∧
      (Workspace.readRegistry { parts := ["schemas.json"] }).result after =
        pure (.ok restored, after) ∧
      restored.get? "ifc4" = some other ∧
      other.isSubtypeOf "ifcwall" "IfcBuildingElement" = true ∧
      other.supertypes "IFCWALL" [] = ["IfcBuildingElement"] := by
  have hdeclared := Registry.isDeclared_empty.register isDeclared_wallSchema
  have hplace : bareWorkspace.files.HasPlaceFor { parts := ["schemas.json"] } := ⟨_, rfl⟩
  obtain ⟨after, restored, hwrite, hread, -, hanswers⟩ := readRegistry_writeJson hdeclared hplace
  have hfound : (Registry.register {} wallSchema).get? "ifc4" = some wallSchema := by decide
  obtain ⟨other, hother, halike⟩ := hanswers "ifc4" wallSchema hfound
  refine ⟨after, restored, other, hwrite, hread, hother, ?_, ?_⟩
  · rw [halike.isSubtypeOf_eq]
    decide
  · rw [halike.supertypes_eq]
    decide

end PsetCompiler
