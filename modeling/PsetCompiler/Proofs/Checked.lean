import PsetCompiler.Proofs.Entries
import PsetCompiler.Proofs.Json.Depth

/-!
# Reading records that were written

A record is written as an object without the members that hold nothing.  A field is read back from
such an object: if it holds something it is there, and if it holds nothing the reader takes the
default, which is nothing again.  A list is read back if its items are, and a map if its values are
and no key is there twice.

The lemmas are made for records that are built field by field: each of them says of one field what
is read, and `Checked.seq_ok` puts the fields together.

## Main results

* `Json.lookupLast_dropNullsMembers` — what is found among the members that hold something.
* `Checked.required_written`, `Checked.optional_written` — **fields are read back**; those for texts
  and lists have lemmas of their own.
* `readList_written`, `readMap_written` — lists and maps are read back.
-/

namespace PsetCompiler

namespace Json

/-! ### Members that hold something -/

theorem dropNullsItems_eq (items : List Json) : dropNullsItems items = items.map dropNulls := by
  induction items with
  | nil => rfl
  | cons item items ih => rw [dropNullsItems, ih, List.map_cons]

theorem dropNullsMembers_eq (members : List (String × Json)) :
    dropNullsMembers members =
      (members.filter fun e => !e.2.isNull).map fun e => (e.1, e.2.dropNulls) := by
  induction members with
  | nil => rfl
  | cons e members ih =>
    rw [dropNullsMembers]
    split
    · next hnull => rw [List.filter_cons_of_neg (by simp [hnull]), ih]
    · next hnull => rw [List.filter_cons_of_pos (by simp [hnull]), ih, List.map_cons]

theorem mem_dropNullsMembers {members : List (String × Json)} {e : String × Json}
    (h : e ∈ dropNullsMembers members) : ∃ e' ∈ members, e = (e'.1, e'.2.dropNulls) := by
  rw [dropNullsMembers_eq] at h
  obtain ⟨e', he', rfl⟩ := List.mem_map.mp h
  exact ⟨e', List.mem_of_mem_filter he', rfl⟩

theorem Numberless.dropNulls {v : Json} (h : v.Numberless) : v.dropNulls.Numberless := by
  induction v using induction_on with
  | int n => exact h.elim
  | decimal d => exact h.elim
  | null => trivial
  | bool b => trivial
  | str s => trivial
  | arr items ih =>
    rw [numberless_arr] at h
    rw [Json.dropNulls, dropNullsItems_eq, numberless_arr]
    intro _ hkept
    obtain ⟨item, hitem, rfl⟩ := List.mem_map.mp hkept
    exact ih item hitem (h item hitem)
  | obj members ih =>
    rw [numberless_obj] at h
    rw [Json.dropNulls, numberless_obj]
    intro _ hkept
    obtain ⟨e, he, rfl⟩ := mem_dropNullsMembers hkept
    exact ih e he (h e he)

/-- Nothing gets deeper. -/
theorem depth_dropNulls_le (v : Json) : v.dropNulls.depth ≤ v.depth := by
  induction v using induction_on with
  | arr items ih =>
    rw [dropNulls, dropNullsItems_eq, depth_arr_le_iff]
    intro _ hkept
    obtain ⟨item, hitem, rfl⟩ := List.mem_map.mp hkept
    exact (ih item hitem).trans_lt (depth_arr_le_iff.mp le_rfl item hitem)
  | obj members ih =>
    rw [dropNulls, depth_obj_le_iff]
    intro _ hkept
    obtain ⟨e, he, rfl⟩ := mem_dropNullsMembers hkept
    exact (ih e he).trans_lt (depth_obj_le_iff.mp le_rfl e he)
  | _ => exact le_rfl

theorem lookupLast_eq {members : List (String × Json)} (h : (members.map (·.1)).Nodup)
    (key : String) : lookupLast key members = members.lookup key := by
  have hreverse : (members.reverse.map (·.1)).Nodup := by
    rwa [List.map_reverse, List.nodup_reverse]
  ext value
  rw [lookupLast, lookup_eq_some_iff_mem hreverse, lookup_eq_some_iff_mem h, List.mem_reverse]

/-- A member is found among those that hold something if it holds something. -/
theorem lookupLast_dropNullsMembers {members : List (String × Json)}
    (h : (members.map (·.1)).Nodup) (key : String) :
    lookupLast key (dropNullsMembers members) =
      ((members.lookup key).filter (!·.isNull)).map dropNulls := by
  have hkept : ((dropNullsMembers members).map (·.1)).Nodup := by
    rw [dropNullsMembers_eq, List.map_map]
    exact h.sublist (List.filter_sublist.map _)
  ext value
  rw [lookupLast_eq hkept, lookup_eq_some_iff_mem hkept, dropNullsMembers_eq, List.mem_map,
    Option.map_eq_some_iff]
  constructor
  · rintro ⟨⟨k, v⟩, hmem, heq⟩
    obtain ⟨hmem, hnull⟩ := List.mem_filter.mp hmem
    obtain ⟨rfl, rfl⟩ := Prod.mk.inj heq
    exact ⟨v, Option.filter_eq_some_iff.mpr ⟨(lookup_eq_some_iff_mem h).mpr hmem, hnull⟩, rfl⟩
  · rintro ⟨v, hfound, rfl⟩
    obtain ⟨hfound, hnull⟩ := Option.filter_eq_some_iff.mp hfound
    exact ⟨(key, v), List.mem_filter.mpr ⟨(lookup_eq_some_iff_mem h).mp hfound, hnull⟩, rfl⟩

end Json

namespace Checked

variable {α β : Type}

/-! ### Fields -/

theorem map_ok {x : Checked α} {a : α} (f : α → β) (h : x = .ok a) : f <$> x = .ok (f a) := by
  rw [h]
  rfl

/-- A field that is read goes to the fields before it. -/
theorem seq_ok {f : Checked (α → β)} {x : Checked α} {g : α → β} {a : α} (hf : f = .ok g)
    (hx : x = .ok a) : f <*> x = .ok (g a) := by
  rw [hf, hx]
  rfl

section Fields

variable {members : List (String × Json)} {key : String} {value : Json} {read : Json → Checked α}
  {a : α}

theorem required_written (hkeys : (members.map (·.1)).Nodup)
    (hvalue : members.lookup key = some value) (hnull : value.isNull = false)
    (hread : read value.dropNulls = .ok a) :
    required key read (Json.dropNullsMembers members) = .ok a := by
  rw [required, Json.lookupLast_dropNullsMembers hkeys, hvalue,
    Option.filter_some_pos (by rw [hnull]; rfl), Option.map_some]
  dsimp only
  rw [hread]
  rfl

theorem optional_written {default : α} (hkeys : (members.map (·.1)).Nodup)
    (hvalue : members.lookup key = some value) (hnull : value.isNull = false)
    (hread : read value.dropNulls = .ok a) :
    optional key default read (Json.dropNullsMembers members) = .ok a := by
  rw [optional, Json.lookupLast_dropNullsMembers hkeys, hvalue,
    Option.filter_some_pos (by rw [hnull]; rfl), Option.map_some]
  dsimp only
  rw [hread]
  rfl

theorem requiredText_written {text : String} (hkeys : (members.map (·.1)).Nodup)
    (hvalue : members.lookup key = some (.str text)) :
    required key readText (Json.dropNullsMembers members) = .ok text :=
  required_written hkeys hvalue rfl rfl

/-- A field for a text or nothing is read back, whether it is written or not. -/
theorem optionalText_written {text : Option String} (hkeys : (members.map (·.1)).Nodup)
    (hvalue : members.lookup key = some (.text? text)) :
    optional key none (readNullable readText) (Json.dropNullsMembers members) = .ok text := by
  rw [optional, Json.lookupLast_dropNullsMembers hkeys, hvalue]
  cases text <;> rfl

end Fields

end Checked

/-- A record is read from the members that hold something. -/
theorem readRecord_written {α : Type} (read : List (String × Json) → Checked α)
    (members : List (String × Json)) :
    readRecord read (Json.obj members).dropNulls = read (Json.dropNullsMembers members) := rfl

/-! ### Lists and maps -/

variable {α : Type} {json : α → Json} {read : Json → Checked α}

theorem items_written {items : List α} (h : ∀ a ∈ items, read (json a).dropNulls = .ok a)
    (index : Nat) :
    Checked.items read index (Json.dropNullsItems (items.map json)) = .ok items := by
  induction items generalizing index with
  | nil => rfl
  | cons a items ih =>
    rw [List.forall_mem_cons] at h
    rw [List.map_cons, Json.dropNullsItems, Checked.items, h.1, ih h.2]
    rfl

theorem readList_written {items : List α} (h : ∀ a ∈ items, read (json a).dropNulls = .ok a) :
    readList read (Json.arr (items.map json)).dropNulls = .ok items := by
  rw [Json.dropNulls, readList, items_written h]

/-- A field for a list is read back. -/
theorem Checked.optionalList_written {members : List (String × Json)} {key : String}
    {items : List α} (hkeys : (members.map (·.1)).Nodup)
    (hvalue : members.lookup key = some (.arr (items.map json)))
    (h : ∀ a ∈ items, read (json a).dropNulls = .ok a) :
    optional key [] (readList read) (Json.dropNullsMembers members) = .ok items :=
  optional_written hkeys hvalue rfl (readList_written h)

theorem foldl_insertEntry {entries pairs : List (String × α)}
    (h : ((entries ++ pairs).map (·.1)).Nodup) :
    pairs.foldl (fun entries e => insertEntry entries e.1 e.2) entries = entries ++ pairs := by
  induction pairs generalizing entries with
  | nil => rw [List.foldl_nil, List.append_nil]
  | cons e pairs ih =>
    have hnew : ¬entries.any (·.1 == e.1) = true :=
      mt any_key_eq_true_iff.mp (notMem_keys_of_nodup_append h)
    rw [List.append_cons] at h
    rw [List.foldl_cons, insertEntry, if_neg hnew, ih h, List.append_assoc, List.singleton_append]

/-- A map is read back if no key is there twice; values that hold nothing would not be written. -/
theorem readMap_written {pairs : List (String × α)} (hkeys : (pairs.map (·.1)).Nodup)
    (hnull : ∀ e ∈ pairs, (json e.2).isNull = false)
    (h : ∀ e ∈ pairs, read (json e.2).dropNulls = .ok e.2) :
    readMap read (Json.ofPairs json pairs).dropNulls = .ok pairs := by
  have hmembers : Checked.members read
      (Json.dropNullsMembers (pairs.map fun e => (e.1, json e.2))) = .ok pairs := by
    clear hkeys
    induction pairs with
    | nil => rfl
    | cons e pairs ih =>
      rw [List.forall_mem_cons] at hnull h
      rw [List.map_cons, Json.dropNullsMembers, if_neg (by simp [hnull.1]), Checked.members, h.1,
        ih hnull.2 h.2]
      rfl
  rw [Json.ofPairs, Json.dropNulls, readMap, hmembers]
  exact congrArg Checked.ok (foldl_insertEntry hkeys)

theorem readList_texts (items : List String) :
    readList readText (Json.texts items).dropNulls = .ok items :=
  readList_written fun _ _ => rfl

end PsetCompiler
