import PsetCompiler.Property
import PsetCompiler.Proofs.Checked

/-!
# Properties that were written

Whatever a property holds, it is read back from what is written of it, and its members are read back
in their order.  A complex property lies three levels above its members: the property, its type and
the list of the members are one level each.

## Main definitions

* `Property.nesting` — how many complex properties lie in one another.

## Main results

* `Property.induction_on` — what passes from the members to a property holds of all properties.
* `Property.read_json` — **a property is read back.**
* `Property.depth_json_le` — how deep it is written.
-/

namespace PsetCompiler

/-! ### Names and items -/

theorem Alias.numberless_json (a : Alias) : a.json.Numberless := by
  simp [Alias.json]

theorem Alias.depth_json_le (a : Alias) : a.json.depth ≤ 1 := by
  simp [Alias.json]

theorem Alias.read_json (a : Alias) : Alias.read a.json.dropNulls = .ok a := by
  have hkeys : ([("lang", Json.str a.language), ("text", .str a.text)].map (·.1)).Nodup := by
    simp
  rw [read, json, readRecord_written]
  exact Checked.seq_ok (Checked.map_ok _ (Checked.requiredText_written hkeys rfl))
    (Checked.requiredText_written hkeys rfl)

/-- Localized names are read back from their field. -/
theorem readAliases_written {members : List (String × Json)} {aliases : List Alias}
    (hkeys : (members.map (·.1)).Nodup)
    (h : members.lookup "aliases" = some (.arr (aliases.map Alias.json))) :
    readAliases (Json.dropNullsMembers members) = .ok aliases :=
  Checked.optionalList_written hkeys h fun a _ => a.read_json

theorem EnumItem.numberless_json (item : EnumItem) : item.json.Numberless := by
  simp [EnumItem.json, Alias.numberless_json]

theorem EnumItem.depth_json_le (item : EnumItem) : item.json.depth ≤ 3 := by
  simp [EnumItem.json, Nat.lt_succ_iff, Alias.depth_json_le]

theorem EnumItem.read_json (item : EnumItem) : EnumItem.read item.json.dropNulls = .ok item := by
  have hkeys : ([("value", Json.str item.value),
      ("aliases", .arr (item.aliases.map Alias.json))].map (·.1)).Nodup := by
    simp
  rw [read, json, readRecord_written]
  exact Checked.seq_ok (Checked.map_ok _ (Checked.requiredText_written hkeys rfl))
    (readAliases_written hkeys rfl)

/-! ### Properties and their types -/

namespace Property

/-- What passes from the members to a property holds of all properties. -/
@[elab_as_elim]
theorem induction_on {P : Property → Prop} (p : Property)
    (h : ∀ p : Property, (∀ m ∈ p.members, P m) → P p) : P p := by
  refine @Property.rec P (fun t => ∀ m ∈ t.elim [] ValueType.members, P m)
    (fun t => ∀ m ∈ t.members, P m) (fun ms => ∀ m ∈ ms, P m)
    ?_ ?_ ?_ ?_ ?_ ?_ ?_ ?_ ?_ ?_ ?_ ?_ p
  case refine_1 =>
    intro name ifdGuid aliases valueType hmembers
    refine h _ fun m hm => hmembers m ?_
    cases valueType <;> exact hm
  case refine_10 => exact fun _ _ hmembers => hmembers
  case refine_12 => exact fun _ _ hm hms => List.forall_mem_cons.mpr ⟨hm, hms⟩
  all_goals simp [ValueType.members]

theorem membersJson_eq (ps : List Property) : membersJson ps = ps.map json := by
  induction ps with
  | nil => rfl
  | cons p ps ih => rw [membersJson, ih, List.map_cons]

/-- What is written of a type, or of none. -/
def typeJson : Option (ValueType Property) → Json
  | none => .null
  | some t => t.json (t.members.map json)

theorem json_eq (p : Property) :
    p.json = .obj [("name", .str p.name), ("ifd_guid", .text? p.ifdGuid),
      ("aliases", .arr (p.aliases.map Alias.json)), ("property_type", typeJson p.valueType)] := by
  obtain ⟨name, ifdGuid, aliases, valueType⟩ := p
  rcases valueType with _ | (_ | _ | _ | _ | _ | _ | ⟨name, members⟩)
  case some.complex => rw [json, typeJson, membersJson_eq]; rfl
  all_goals rfl

/-! ### Reading back -/

theorem readType_of_simple {members : List (String × Json)} {kind : String}
    {t : ValueType Property} (hkeys : (members.map (·.1)).Nodup)
    (hkind : members.lookup "kind" = some (.str kind))
    (hsimple : ValueType.readSimple kind (Json.dropNullsMembers members) = some (.ok t)) :
    readType (Json.dropNullsMembers members) = .ok t := by
  rw [readType, Json.lookupLast_dropNullsMembers hkeys, hkind, Option.filter_some_pos (by rfl),
    Option.map_some]
  simp only [Json.dropNulls]
  rw [hsimple]
  rfl

theorem readType_of_complex {fields : List (String × Json)} {name : String} {items : List Json}
    {ms : List Property} (hkind : Json.lookupLast "kind" fields = some (.str "complex_property"))
    (hname : Checked.required "name" readText fields = .ok name)
    (hitems : Json.lookupLast "members" fields = some (.arr items))
    (hmembers : readAll 0 items = .ok ms) : readType fields = .ok (.complex name ms) := by
  have hsimple : ValueType.readSimple "complex_property" fields = none := rfl
  rw [readType, hkind]
  dsimp only
  rw [hsimple]
  dsimp only
  rw [if_pos rfl, hname]
  -- the reader keeps what it found, so the match is opened by cases and not by rewriting
  split
  · next heq => cases heq.symm.trans hitems
  · next heq =>
    cases heq.symm.trans hitems
    rw [hmembers]
    rfl
  · next hother heq => exact absurd (heq.symm.trans hitems) (by simpa using hother items)

theorem readAll_written {ps : List Property} (h : ∀ p ∈ ps, read p.json.dropNulls = .ok p)
    (index : Nat) : readAll index (Json.dropNullsItems (ps.map json)) = .ok ps := by
  induction ps generalizing index with
  | nil => rw [List.map_nil, Json.dropNullsItems, readAll]
  | cons p ps ih =>
    rw [List.forall_mem_cons] at h
    rw [List.map_cons, Json.dropNullsItems, readAll, h.1, ih h.2]
    rfl

/-- A type is read back if its members are. -/
theorem readType_written {t : ValueType Property}
    (h : ∀ m ∈ t.members, read m.json.dropNulls = .ok m) :
    ∃ members, typeJson (some t) = .obj members ∧
      readType (Json.dropNullsMembers members) = .ok t := by
  cases t with
  | single dataType =>
    refine ⟨_, rfl, readType_of_simple (by simp) rfl ?_⟩
    exact congrArg some (Checked.map_ok _ (Checked.requiredText_written (by simp) rfl))
  | enumerated name items =>
    refine ⟨_, rfl, readType_of_simple (by simp) rfl ?_⟩
    exact congrArg some (Checked.seq_ok (Checked.map_ok _
      (Checked.requiredText_written (by simp) rfl))
      (Checked.optionalList_written (by simp) rfl fun item _ => item.read_json))
  | reference entity =>
    refine ⟨_, rfl, readType_of_simple (by simp) rfl ?_⟩
    exact congrArg some (Checked.map_ok _ (Checked.requiredText_written (by simp) rfl))
  | list dataType =>
    refine ⟨_, rfl, readType_of_simple (by simp) rfl ?_⟩
    exact congrArg some (Checked.map_ok _ (Checked.requiredText_written (by simp) rfl))
  | bounded dataType =>
    refine ⟨_, rfl, readType_of_simple (by simp) rfl ?_⟩
    exact congrArg some (Checked.map_ok _ (Checked.requiredText_written (by simp) rfl))
  | table defining defined expression =>
    refine ⟨_, rfl, readType_of_simple (by simp) rfl ?_⟩
    exact congrArg some (Checked.seq_ok (Checked.seq_ok (Checked.map_ok _
      (Checked.optionalText_written (by simp) rfl)) (Checked.optionalText_written (by simp) rfl))
      (Checked.optionalText_written (by simp) rfl))
  | complex name ms =>
    refine ⟨_, rfl, readType_of_complex ?_ (Checked.requiredText_written (by simp) rfl) ?_
      (readAll_written h 0)⟩
    · rw [Json.lookupLast_dropNullsMembers (by simp)]
      rfl
    · rw [Json.lookupLast_dropNullsMembers (by simp)]
      rfl

/-- **A property is read back from what is written of it.** -/
theorem read_json (p : Property) : read p.json.dropNulls = .ok p := by
  induction p using induction_on with
  | h p ih =>
    obtain ⟨name, ifdGuid, aliases, valueType⟩ := p
    have hkeys : ([("name", Json.str name), ("ifd_guid", .text? ifdGuid),
        ("aliases", .arr (aliases.map Alias.json)),
        ("property_type", typeJson valueType)].map (·.1)).Nodup := by
      simp
    have hfound := Json.lookupLast_dropNullsMembers hkeys "property_type"
    rw [json_eq, Json.dropNulls, read]
    refine Checked.seq_ok (Checked.seq_ok (Checked.seq_ok (Checked.map_ok _
      (Checked.requiredText_written hkeys rfl)) (Checked.optionalText_written hkeys rfl))
      (readAliases_written hkeys rfl)) ?_
    cases valueType with
    | none =>
      have hnone : Json.lookupLast "property_type" (Json.dropNullsMembers _) = none := hfound
      split
      · rfl
      · rfl
      · next heq => cases heq.symm.trans hnone
      · next heq => cases heq.symm.trans hnone
    | some t =>
      obtain ⟨members, hmembers, hread⟩ := readType_written ih
      rw [hmembers] at hfound ⊢
      have hsome : Json.lookupLast "property_type" (Json.dropNullsMembers _) =
        some (.obj (Json.dropNullsMembers members)) := hfound
      split
      · next heq => cases heq.symm.trans hsome
      · next heq => cases heq.symm.trans hsome
      · next heq =>
        cases heq.symm.trans hsome
        rw [hread]
        rfl
      · next hother heq => exact absurd (heq.symm.trans hsome) (by simpa using hother _)

/-! ### What is written -/

theorem numberless_typeJson {valueType : Option (ValueType Property)}
    (h : ∀ t ∈ valueType, ∀ m ∈ t.members, m.json.Numberless) :
    (typeJson valueType).Numberless := by
  rcases valueType with _ | (_ | _ | _ | _ | _ | _ | ⟨name, members⟩)
  case none => trivial
  case some.enumerated => simp [typeJson, ValueType.json, EnumItem.numberless_json]
  case some.complex => simpa [typeJson, ValueType.json] using h _ rfl
  all_goals simp [typeJson, ValueType.json]

/-- No property is written with a number. -/
theorem numberless_json (p : Property) : p.json.Numberless := by
  induction p using induction_on with
  | h p ih =>
    have htype : (typeJson p.valueType).Numberless := by
      refine numberless_typeJson fun t ht m hm => ih m ?_
      rw [members, ht]
      exact hm
    rw [json_eq]
    simp [Alias.numberless_json, htype]

end Property

mutual

/-- How many complex properties lie in one another. -/
def Property.nesting : Property → Nat
  | ⟨_, _, _, some (.complex _ members)⟩ => membersNesting members + 1
  | _ => 0

/-- How many complex properties lie in one another among some properties. -/
def membersNesting : List Property → Nat
  | [] => 0
  | p :: ps => max p.nesting (membersNesting ps)

end

theorem membersNesting_le_iff {ps : List Property} {n : Nat} :
    membersNesting ps ≤ n ↔ ∀ p ∈ ps, p.nesting ≤ n := by
  induction ps with
  | nil => simp [membersNesting]
  | cons p ps ih => rw [membersNesting, Nat.max_le, ih, List.forall_mem_cons]

namespace Property

theorem nesting_lt_of_mem_members {p m : Property} (h : m ∈ p.members) : m.nesting < p.nesting := by
  obtain ⟨name, ifdGuid, aliases, valueType⟩ := p
  rcases valueType with _ | (_ | _ | _ | _ | _ | _ | ⟨group, ms⟩)
  case some.complex =>
    rw [nesting, Nat.lt_succ_iff]
    exact membersNesting_le_iff.mp le_rfl m h
  all_goals cases h

/-- A type is written two levels above its members, and what groups nothing takes five levels at
most. -/
theorem depth_typeJson_le {valueType : Option (ValueType Property)} {n : Nat} (hn : 5 ≤ n)
    (h : ∀ t ∈ valueType, ∀ m ∈ t.members, m.json.depth + 2 ≤ n) :
    (typeJson valueType).depth ≤ n := by
  have hpos : 0 < n := by omega
  rcases valueType with _ | (_ | ⟨name, items⟩ | _ | _ | _ | _ | ⟨name, members⟩)
  case none => exact Nat.zero_le n
  case some.enumerated =>
    have hitem (item : EnumItem) : item.json.depth + 1 < n := by
      have := item.depth_json_le
      omega
    simp [typeJson, ValueType.json, hpos, hitem]
  case some.complex =>
    have hmember : ∀ m ∈ members, m.json.depth + 1 < n := h _ rfl
    simpa [typeJson, ValueType.json, ValueType.members, hpos] using hmember
  all_goals simp [typeJson, ValueType.json, hpos]

/-- A complex property is written three levels above its members, and what is not complex takes six
levels at most. -/
theorem depth_json_le (p : Property) : p.json.depth ≤ 3 * p.nesting + 6 := by
  induction p using induction_on with
  | h p ih =>
    have htype : (typeJson p.valueType).depth ≤ 3 * p.nesting + 5 := by
      refine depth_typeJson_le (by omega) fun t ht m hm => ?_
      have hmember : m ∈ p.members := by
        rw [members, ht]
        exact hm
      have hnesting := nesting_lt_of_mem_members hmember
      have hdepth := ih m hmember
      omega
    have halias (a : Alias) : a.json.depth < 3 * p.nesting + 5 := by
      have := a.depth_json_le
      omega
    rw [json_eq]
    simp [halias, Nat.lt_succ_iff.mpr htype]

end Property

end PsetCompiler
