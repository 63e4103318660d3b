import PsetCompiler.Proofs.Catalog.Property
import PsetCompiler.Proofs.Files.Stored

/-!
# From a catalog to its file and back

A catalog is written as a text, and whatever the text holds is read back: names in their order,
under every name the versioned definitions in theirs, and so on down to the aliases.  What can be
lost is the whole catalog.  A text is read only if its lists and objects lie in one another no
deeper than the reader goes; so a catalog is read back exactly if its text is not deeper than that.
A writer has a bound of its own, which lies well above that of the reader; what is said of writing
is said of catalogs that stay below it.

## Main definitions

* `Catalog.IsNestedUpTo` — no more than so many complex properties lie in one another.
* `Catalog.safeNesting` — so many of them can be written.

## Main results

* `Catalog.read_written` — a catalog is read back from what is written of it.
* `Catalog.depth_written_le` — how deep it is written.
* `readCatalog_writeJson` — **a catalog is written, and read back unless it is too deep.**
* `not_readCatalog_writeJson_nested` — a catalog that is too deep.
-/

namespace PsetCompiler

namespace PropertySet

theorem numberless_json (pset : PropertySet) : pset.json.Numberless := by
  simp [json, Json.texts, Property.membersJson_eq, Property.numberless_json]

theorem read_json (pset : PropertySet) : read pset.json.dropNulls = .ok pset := by
  obtain ⟨name, version, release, classes, applicableType, predefinedType, ifdGuid, properties⟩ :=
    pset
  have hkeys : ([("name", Json.str name), ("ifc_version", .str version),
      ("schema_file_version", .str release), ("applicable_classes", .texts classes),
      ("applicable_type_value", .text? applicableType), ("predefined_type", .text? predefinedType),
      ("ifd_guid", .text? ifdGuid),
      ("properties", .arr (properties.map Property.json))].map (·.1)).Nodup := by
    simp
  rw [read, json, Property.membersJson_eq, readRecord_written]
  refine Checked.seq_ok (Checked.seq_ok (Checked.seq_ok (Checked.seq_ok (Checked.seq_ok
    (Checked.seq_ok (Checked.seq_ok (Checked.map_ok _ ?name) ?version) ?release) ?classes)
    ?applicableType) ?predefinedType) ?ifdGuid) ?properties
  case name => exact Checked.requiredText_written hkeys rfl
  case version => exact Checked.requiredText_written hkeys rfl
  case release => exact Checked.requiredText_written hkeys rfl
  case classes => exact Checked.optionalList_written hkeys rfl fun _ _ => rfl
  case applicableType => exact Checked.optionalText_written hkeys rfl
  case predefinedType => exact Checked.optionalText_written hkeys rfl
  case ifdGuid => exact Checked.optionalText_written hkeys rfl
  case properties => exact Checked.optionalList_written hkeys rfl fun p _ => p.read_json

end PropertySet

theorem VersionedSet.numberless_json (entry : VersionedSet) : entry.json.Numberless := by
  simp [VersionedSet.json, PropertySet.numberless_json]

theorem VersionedSet.read_json (entry : VersionedSet) : read entry.json.dropNulls = .ok entry := by
  have hkeys : ([("schema_file_version", Json.str entry.release),
      ("definition", entry.definition.json)].map (·.1)).Nodup := by
    simp
  have hdefinition : Checked.required "definition" PropertySet.read
      (Json.dropNullsMembers [("schema_file_version", Json.str entry.release),
        ("definition", entry.definition.json)]) = .ok entry.definition :=
    Checked.required_written hkeys rfl rfl entry.definition.read_json
  rw [read, json, readRecord_written]
  exact Checked.seq_ok (Checked.map_ok _ (Checked.requiredText_written hkeys rfl)) hdefinition

namespace Catalog

variable {catalog : Catalog}

theorem numberless_written (catalog : Catalog) : catalog.written.Numberless := by
  refine Json.Numberless.dropNulls ?_
  simp [json, VersionedSet.numberless_json]

/-- A catalog is read back from what is written of it, if no name is there twice. -/
theorem read_written (hkeys : (catalog.definitions.map (·.1)).Nodup) :
    read catalog.written = .ok catalog := by
  have hdefinitions : Checked.optional "definitions" [] (readMap (readList VersionedSet.read))
      (Json.dropNullsMembers [("definitions", .ofPairs
        (fun entries => .arr (entries.map VersionedSet.json)) catalog.definitions)]) =
        .ok catalog.definitions := by
    refine Checked.optional_written (by simp) rfl rfl (readMap_written hkeys (fun _ _ => rfl) ?_)
    exact fun e _ => readList_written fun entry _ => entry.read_json
  rw [read, written, json, readRecord_written]
  exact Checked.map_ok _ hdefinitions

/-- No more than so many complex properties lie in one another. -/
def IsNestedUpTo (catalog : Catalog) (n : Nat) : Prop :=
  ∀ named ∈ catalog.definitions, ∀ entry ∈ named.2, ∀ p ∈ entry.definition.properties,
    p.nesting ≤ n

/-- So many complex properties in one another can be written. -/
def safeNesting : Nat := 200

/-- A catalog is written six levels above its properties. -/
theorem depth_written_le {n : Nat} (h : catalog.IsNestedUpTo n) :
    catalog.written.depth ≤ 3 * n + 12 := by
  refine (Json.depth_dropNulls_le _).trans ?_
  have hproperty : ∀ named ∈ catalog.definitions, ∀ entry ∈ named.2,
      ∀ p ∈ entry.definition.properties, p.json.depth < 3 * n + 7 := by
    intro named hnamed entry hentry p hp
    have hnesting := h named hnamed entry hentry p hp
    have hdepth := p.depth_json_le
    omega
  simpa [json, VersionedSet.json, PropertySet.json, Json.texts,
    Property.membersJson_eq] using hproperty

end Catalog

/-- What is read as a catalog from the file of one. -/
theorem result_readCatalog {catalog : Catalog} (hkeys : (catalog.definitions.map (·.1)).Nodup)
    {workspace : Workspace} {p : Path} (hread : workspace.files.read p =
      .ok (Text.encodeUtf8 (catalog.written.render ++ "\n").toList)) :
    (Workspace.readCatalog p).result workspace =
      pure (if catalog.written.depth ≤ Json.deepest then .ok catalog
        else .error (.invalid [{ kind := .jsonInvalid }]), workspace) := by
  rw [Workspace.readCatalog, result_readRecordFile Catalog.read hread,
    readJsonText_render Catalog.read catalog.numberless_written, Catalog.read_written hkeys]
  split <;> rfl

/-- **A catalog is written, and read back unless it is too deep.**  Let no name be there twice in a
catalog, and let no more complex properties lie in one another than can be written.  Where a file
can be written, the catalog is written, in a text with at most 612 lists and objects in one another.
It is read back as it was, in the same order throughout, exactly if these lie in one another no
deeper than a reader goes, and else nothing is read.  They do not lie too deep if no more than 62
complex properties lie in one another. -/
theorem readCatalog_writeJson {catalog : Catalog} (hkeys : (catalog.definitions.map (·.1)).Nodup)
    (hsafe : catalog.IsNestedUpTo Catalog.safeNesting) {workspace : Workspace} {p : Path}
    (hplace : workspace.files.HasPlaceFor p) :
    ∃ after,
      (Workspace.writeJson p catalog.written).result workspace = pure (.ok (), after) ∧
      catalog.written.depth ≤ 612 ∧
      (Workspace.readCatalog p).result after =
        pure (if catalog.written.depth ≤ Json.deepest then .ok catalog
          else .error (.invalid [{ kind := .jsonInvalid }]), after) ∧
      (catalog.IsNestedUpTo 62 → catalog.written.depth ≤ Json.deepest) := by
  obtain ⟨files, hstore, hread⟩ := hplace.exists_store
    (Text.encodeUtf8 (catalog.written.render ++ "\n").toList)
  have hdepth : catalog.written.depth ≤ 3 * Catalog.safeNesting + 12 :=
    Catalog.depth_written_le hsafe
  refine ⟨{ workspace with files }, result_writeJson hstore, hdepth,
    result_readCatalog hkeys hread, ?_⟩
  intro hnested
  exact (Catalog.depth_written_le hnested).trans (by decide)

/-! ### Nested properties -/

/-- Complex properties in one another, with one property in the innermost. -/
def nestedGroups : Nat → Property
  | 0 => { name := "Width", valueType := some (.single "IfcLengthMeasure") }
  | n + 1 => { name := "Group", valueType := some (.complex "Group" [nestedGroups n]) }

/-- A catalog of one definition, which has one property. -/
def catalogWith (p : Property) : Catalog where
  definitions := [("Pset_Nested",
    [{ release := "IFC4"
       definition :=
        { name := "Pset_Nested", version := "IFC4", release := "IFC4", properties := [p] } }])]

theorem nodup_catalogWith (p : Property) : ((catalogWith p).definitions.map (·.1)).Nodup :=
  List.nodup_singleton _

theorem nesting_nestedGroups (n : Nat) : (nestedGroups n).nesting = n := by
  induction n with
  | zero => rfl
  | succ n ih => simp [nestedGroups, Property.nesting, membersNesting, ih]

theorem isNestedUpTo_catalogWith {n m : Nat} (h : n ≤ m) :
    (catalogWith (nestedGroups n)).IsNestedUpTo m := by
  simpa [Catalog.IsNestedUpTo, catalogWith, nesting_nestedGroups] using h

theorem readCatalog_writeJson_nested :
    (catalogWith (nestedGroups 62)).IsNestedUpTo Catalog.safeNesting ∧
      ∃ after, (Workspace.writeJson { parts := ["catalog.json"] }
          (catalogWith (nestedGroups 62)).written).result bareWorkspace = pure (.ok (), after) ∧
        (Workspace.readCatalog { parts := ["catalog.json"] }).result after =
          pure (.ok (catalogWith (nestedGroups 62)), after) := by
  have hplace : bareWorkspace.files.HasPlaceFor { parts := ["catalog.json"] } := ⟨_, rfl⟩
  have hsafe : (catalogWith (nestedGroups 62)).IsNestedUpTo Catalog.safeNesting :=
    isNestedUpTo_catalogWith (by decide)
  obtain ⟨after, hwrite, -, hread, hdeep⟩ :=
    readCatalog_writeJson (nodup_catalogWith _) hsafe hplace
  rw [if_pos (hdeep (isNestedUpTo_catalogWith (Nat.le_refl _)))] at hread
  exact ⟨hsafe, after, hwrite, hread⟩

theorem depth_nestedGroups (n : Nat) : (nestedGroups n).json.dropNulls.depth = 3 * n + 2 := by
  induction n with
  | zero => rfl
  | succ n ih =>
    have hwritten : (nestedGroups (n + 1)).json.dropNulls =
        .obj [("name", .str "Group"), ("aliases", .arr []),
          ("property_type", .obj [("kind", .str "complex_property"), ("name", .str "Group"),
            ("members", .arr [(nestedGroups n).json.dropNulls])])] := rfl
    simp [hwritten, Json.depth, Json.membersDepth, Json.itemsDepth, ih]
    omega

theorem depth_catalogWith (p : Property) :
    (catalogWith p).written.depth = p.json.dropNulls.depth + 6 := by
  have hwritten : (catalogWith p).written = .obj [("definitions", .obj [("Pset_Nested",
      .arr [.obj [("schema_file_version", .str "IFC4"),
        ("definition", .obj [("name", .str "Pset_Nested"), ("ifc_version", .str "IFC4"),
          ("schema_file_version", .str "IFC4"), ("applicable_classes", .arr []),
          ("properties", .arr [p.json.dropNulls])])]])])] := rfl
  simp [hwritten, Json.depth, Json.membersDepth, Json.itemsDepth]

/-- A catalog with 65 complex properties in one another is written, and nothing is read. -/
theorem not_readCatalog_writeJson_nested :
    ∃ after, (Workspace.writeJson { parts := ["catalog.json"] }
        (catalogWith (nestedGroups 65)).written).result bareWorkspace = pure (.ok (), after) ∧
      (Workspace.readCatalog { parts := ["catalog.json"] }).result after =
        pure (.error (.invalid [{ kind := .jsonInvalid }]), after) := by
  have hplace : bareWorkspace.files.HasPlaceFor { parts := ["catalog.json"] } := ⟨_, rfl⟩
  obtain ⟨files, hstore, hread⟩ := hplace.exists_store
    (Text.encodeUtf8 ((catalogWith (nestedGroups 65)).written.render ++ "\n").toList)
  have hdeep : ¬(catalogWith (nestedGroups 65)).written.depth ≤ Json.deepest := by
    rw [depth_catalogWith, depth_nestedGroups]
    decide
  have hresult : (Workspace.readCatalog { parts := ["catalog.json"] }).result
      { bareWorkspace with files } = _ := result_readCatalog (nodup_catalogWith _) hread
  rw [if_neg hdeep] at hresult
  exact ⟨_, result_writeJson hstore, hresult⟩

end PsetCompiler
