import PsetCompiler.Entity.Document
import PsetCompiler.Proofs.Checked

/-!
# Schema documents that were written

The documents of schemas are flat: a bundle lists documents, a document lists entities, and an
entity holds texts and a flag.  So a bundle is read back whatever its documents hold, provided that
no two enumerations of a document have one name; and its text is never too deep for the reader.

## Main results

* `EntityRecord.read_json`, `SchemaDocument.read_json` — an entity and a document are read back.
* `SchemaBundle.read_json` — **a bundle is read back.**
* `SchemaBundle.depth_json_le` — how deep it is written.
-/

namespace PsetCompiler

/-! ### Entities -/

theorem EntityRecord.numberless_json (e : EntityRecord) : e.json.Numberless := by
  simp [EntityRecord.json]

theorem EntityRecord.depth_json_le (e : EntityRecord) : e.json.depth ≤ 1 := by
  simp [EntityRecord.json]

theorem EntityRecord.read_json (e : EntityRecord) : read e.json.dropNulls = .ok e := by
  obtain ⟨name, parent, isAbstract, enum⟩ := e
  have hkeys : ([("name", Json.str name), ("parent", .text? parent),
      ("is_abstract", .bool isAbstract),
      ("predefined_type_enum", .text? enum)].map (·.1)).Nodup := by
    simp
  rw [read, json, readRecord_written]
  refine Checked.seq_ok (Checked.seq_ok (Checked.seq_ok (Checked.map_ok _ ?name) ?parent)
    ?isAbstract) ?enum
  case name => exact Checked.requiredText_written hkeys rfl
  case parent => exact Checked.optionalText_written hkeys rfl
  case isAbstract => exact Checked.optional_written hkeys rfl rfl rfl
  case enum => exact Checked.optionalText_written hkeys rfl

/-! ### Documents -/

theorem SchemaDocument.numberless_json (d : SchemaDocument) : d.json.Numberless := by
  simp [SchemaDocument.json, Json.texts, EntityRecord.numberless_json]

theorem SchemaDocument.depth_json_le (d : SchemaDocument) : d.json.depth ≤ 3 := by
  simp [SchemaDocument.json, Json.texts, Nat.lt_succ_iff, EntityRecord.depth_json_le]

/-- A document is read back if no two of its enumerations have one name. -/
theorem SchemaDocument.read_json {d : SchemaDocument}
    (hnames : (d.predefinedTypeEnums.map (·.1)).Nodup) : read d.json.dropNulls = .ok d := by
  obtain ⟨version, entities, enums⟩ := d
  have hkeys : ([("version", Json.str version), ("entities", .arr (entities.map EntityRecord.json)),
      ("predefined_type_enums", .ofPairs .texts enums)].map (·.1)).Nodup := by
    simp
  rw [read, json, readRecord_written]
  refine Checked.seq_ok (Checked.seq_ok (Checked.map_ok _ ?version) ?entities) ?enums
  case version => exact Checked.requiredText_written hkeys rfl
  case entities => exact Checked.optionalList_written hkeys rfl fun e _ => e.read_json
  case enums =>
    exact Checked.optional_written hkeys rfl rfl
      (readMap_written hnames (fun _ _ => rfl) fun e _ => readList_texts e.2)

/-! ### Bundles -/

theorem SchemaBundle.numberless_json (b : SchemaBundle) : b.json.Numberless := by
  simp [SchemaBundle.json, SchemaDocument.numberless_json]

/-- A text of a bundle is only so deep. -/
theorem SchemaBundle.depth_json_le (b : SchemaBundle) : b.json.depth ≤ 5 := by
  simp [SchemaBundle.json, Nat.lt_succ_iff, SchemaDocument.depth_json_le]

/-- **A bundle is read back** if no two enumerations of one of its documents have one name. -/
theorem SchemaBundle.read_json {b : SchemaBundle}
    (h : ∀ d ∈ b.schemas, (d.predefinedTypeEnums.map (·.1)).Nodup) :
    read b.json.dropNulls = .ok b := by
  have hkeys : ([("schemas", Json.arr (b.schemas.map SchemaDocument.json))].map (·.1)).Nodup := by
    simp
  rw [read, json, readRecord_written]
  exact Checked.map_ok _
    (Checked.optionalList_written hkeys rfl fun d hd => SchemaDocument.read_json (h d hd))

end PsetCompiler
