import PsetCompiler.Proofs.Definition.Property
import PsetCompiler.Proofs.Guid
import PsetCompiler.Proofs.Parameter.Mirror

/-!
# Identifiers stay distinct

An identifier comes into the tables in three ways: it is there from the start, a property carries
it, or it is drawn.  The first two associate it with a slot; and whatever a merge does on the way,
in the end a slot holds one that is associated with it or one that was drawn for it alone.  So two
slots hold one identifier only if it was associated with both, or drawn twice, or drawn though it
was associated with a slot.

That a catalog is merged to its end says something about it already: no complex property is held by
a complex one, and every identifier that is carried can be read.

## Main definitions

* `Ledger.associations` — the slots with the identifiers that are associated with them.
* `Supply.drawnUntil` — the identifiers that are drawn between two states of a supply.
* `Ledger.KeepsApart` — what is asked of the tables, the asks and the supply together.

## Main results

* `exists_outcome_mergeCatalog_iff` — the catalogs that are merged to their end.
* `Ledger.Settled.mem_associations_or_drawn` — where the identifier of a slot comes from.
* `nodup_guids_of_mergeCatalog` — **no two entries of the tables share an identifier.**
-/

namespace PsetCompiler

/-! ### Catalogs that are merged to their end -/

/-- What is classified is not complex. -/
theorem Property.isComplex_eq_false_of_classify {p : Property} {place : String}
    {c : ParamType × String} (h : (p.classify place).run.value = .ok c) : p.isComplex = false := by
  obtain ⟨name, ifdGuid, aliases, valueType⟩ := p
  rcases valueType with _ | (_ | _ | _ | _ | _ | _ | _)
  case some.complex => cases h
  all_goals rfl

/-- An occurrence is merged to its end only if its property is not complex and carries no identifier
that cannot be read. -/
theorem accepted_of_mergeOccurrence {groupId : Int} {o : Occurrence} {before after : Ledger}
    (h : (mergeOccurrence groupId o).outcome before = (.ok (), after)) :
    o.2.2.isComplex = false ∧ ∀ text, o.given = some text → (Guid.read? text).isSome := by
  obtain ⟨set, name, p⟩ := o
  obtain ⟨parameter, between, hbuilt, hmerged⟩ := Run.outcome_bind_eq_ok_iff.mp h
  obtain ⟨entries, _, hboth, -⟩ := Run.outcome_bind_eq_ok_iff.mp hmerged
  rw [Run.outcome_onState] at hbuilt
  obtain ⟨c, hclass, -⟩ := Attempt.value_bind_eq_ok_iff.mp (congrArg Prod.fst hbuilt)
  exact ⟨Property.isComplex_eq_false_of_classify hclass, isSome_read?_of_mergeBoth hboth⟩

/-- Every member is a leaf. -/
theorem PropertySet.exists_leaf_of_mem_members {pset : PropertySet} {p m : Property}
    (hp : p ∈ pset.properties) (hm : m ∈ p.members) : ∃ leaf ∈ pset.leaves, leaf.2 = m := by
  cases hcomplex : p.isComplex with
  | false =>
    rw [Property.members_eq_nil hcomplex] at hm
    cases hm
  | true =>
    refine ⟨(some p.name, m), List.mem_flatMap.mpr ⟨p, hp, ?_⟩, rfl⟩
    rw [Property.leaves, if_pos hcomplex]
    exact List.mem_map_of_mem hm

/-- The catalogs that are merged to their end: those in which no complex property is held by a
complex one and every identifier that is carried can be read. -/
theorem exists_outcome_mergeCatalog_iff {catalog : Catalog} {qualified : Bool} {groupId : Int}
    {before : Ledger} :
    (∃ count after, (mergeCatalog catalog qualified groupId).outcome before = (.ok count, after)) ↔
      catalog.IsFlat ∧ catalog.HasReadableGuids := by
  constructor
  · rintro ⟨count, after, h⟩
    obtain ⟨_, between, hloop, -⟩ := Run.outcome_bind_eq_ok_iff.mp h
    have haccepted (entry : VersionedSet) (hentry : entry ∈ catalog.entries)
        (leaf : Option String × Property) (hleaf : leaf ∈ entry.definition.leaves) :
        leaf.2.isComplex = false ∧
          ∀ text ∈ carried leaf.2.ifdGuid, (Guid.read? text).isSome := by
      obtain ⟨s, t, hstep⟩ := Run.exists_outcome_of_forM hloop _
        (Catalog.mem_occurrences_iff.mpr ⟨entry, hentry, leaf, hleaf, rfl⟩)
      exact accepted_of_mergeOccurrence hstep
    constructor
    · intro entry hentry p hp m hm
      obtain ⟨leaf, hleaf, rfl⟩ := PropertySet.exists_leaf_of_mem_members hp hm
      exact (haccepted entry hentry leaf hleaf).1
    · intro entry hentry leaf hleaf
      exact (haccepted entry hentry leaf hleaf).2
  · rintro ⟨hflat, hguids⟩
    exact ⟨_, _, outcome_mergeCatalog hflat hguids qualified groupId before⟩

/-! ### Associations -/

/-- The identifiers that are drawn between two states of a supply. -/
def Supply.drawnUntil (before after : Supply) : List Guid :=
  (List.range' before.drawn (after.drawn - before.drawn)).map before.fresh

namespace Ledger

/-- The entries of both tables, with their slots. -/
def entries (ledger : Ledger) : List (Slot × Parameter) :=
  ledger.instances.map (fun e => ((.instances, e.1), e.2)) ++
    ledger.types.map fun e => ((.types, e.1), e.2)

/-- The slots with the identifiers that are associated with them: an entry has them at the start, or
they come with an ask. -/
def associations (ledger : Ledger) (asks : List Ask) : List (Slot × String) :=
  (ledger.entries.map (fun e => (e.1, e.2.guid)) ++ asks).filterMap fun ask =>
    ask.2.map (ask.1, ·)

/-- Nothing that may come into the tables stands against keeping identifiers apart. -/
structure KeepsApart (ledger : Ledger) (asks : List Ask) (drawn : List Guid) : Prop where
  /-- Every entry has an identifier; -/
  identified : ∀ e ∈ ledger.entries, e.2.guid.isSome
  /-- no identifier is associated with two slots; -/
  apart : ∀ a ∈ ledger.associations asks, ∀ b ∈ ledger.associations asks, a.2 = b.2 → a.1 = b.1
  /-- those that are drawn are distinct, -/
  distinct : drawn.Nodup
  /-- and they are associated with no slot. -/
  fresh : ∀ g ∈ drawn, ∀ a ∈ ledger.associations asks, g.text ≠ a.2

variable {ledger : Ledger} {asks : List Ask}

theorem map_guid_entries (ledger : Ledger) :
    ledger.entries.map (·.2.guid) = (ledger.instances ++ ledger.types).map (·.2.guid) := by
  rw [entries, List.map_append, List.map_append, List.map_map, List.map_map]
  rfl

theorem mem_entries_iff {slot : Slot} {p : Parameter} :
    (slot, p) ∈ ledger.entries ↔ (slot.2, p) ∈ ledger.table slot.1 := by
  obtain ⟨side, name⟩ := slot
  cases side <;> simp [entries, table]

theorem mem_entries_of_held? {slot : Slot} {p : Parameter} (h : ledger.held? slot = some p) :
    (slot, p) ∈ ledger.entries :=
  mem_entries_iff.mpr (mem_of_lookup h)

theorem held?_of_mem_entries (hkeys : ∀ side, ((ledger.table side).map (·.1)).Nodup) {slot : Slot}
    {p : Parameter} (h : (slot, p) ∈ ledger.entries) : ledger.held? slot = some p :=
  (lookup_eq_some_iff_mem (hkeys slot.1)).mpr (mem_entries_iff.mp h)

theorem nodup_entries (hkeys : ∀ side, ((ledger.table side).map (·.1)).Nodup) :
    ledger.entries.Nodup := by
  have htable (side : Side) :
      ((ledger.table side).map fun e => ((side, e.1), e.2)).Nodup :=
    (hkeys side).of_map.map fun e e' h => by simpa [Prod.ext_iff] using h
  refine (htable .instances).append (htable .types) fun e hi ht => ?_
  obtain ⟨i, -, rfl⟩ := List.mem_map.mp hi
  obtain ⟨t, -, heq⟩ := List.mem_map.mp ht
  cases heq

theorem mem_associations_of_held? {slot : Slot} {p : Parameter} {text : String}
    (h : ledger.held? slot = some p) (hguid : p.guid = some text) :
    (slot, text) ∈ ledger.associations asks := by
  refine List.mem_filterMap.mpr ⟨(slot, p.guid), List.mem_append_left _ ?_, by rw [hguid]; rfl⟩
  exact List.mem_map.mpr ⟨(slot, p), mem_entries_of_held? h, rfl⟩

theorem mem_associations_of_lastGiven {slot : Slot} {text : String}
    (h : lastGiven asks slot = some text) : (slot, text) ∈ ledger.associations asks := by
  obtain ⟨ask, hask, hgiven⟩ := List.mem_filterMap.mp (List.mem_of_getLast? h)
  split at hgiven
  · next hslot =>
    refine List.mem_filterMap.mpr ⟨ask, List.mem_append_right _ hask, ?_⟩
    rw [hgiven, hslot]
    rfl
  · cases hgiven

/-! ### The identifier of a slot -/

/-- What is drawn for the slots that draw. -/
theorem Settled.drawnUntil_eq {after : Ledger} (h : ledger.Settled asks after) :
    ledger.supply.drawnUntil after.supply =
      (List.range' ledger.supply.drawn (ledger.freshSlots asks).length).map
        ledger.supply.fresh := by
  rw [Supply.drawnUntil, h.supply, Nat.add_sub_cancel_left]

theorem Settled.drawnFor_mem {after : Ledger} (h : ledger.Settled asks after) {slot : Slot}
    (hslot : slot ∈ ledger.freshSlots asks) :
    ledger.drawnFor asks slot ∈ ledger.supply.drawnUntil after.supply := by
  rw [h.drawnUntil_eq, drawnFor]
  refine List.mem_map_of_mem (List.mem_range'_1.mpr ⟨Nat.le_add_right _ _, ?_⟩)
  exact Nat.add_lt_add_left (List.idxOf_lt_length_of_mem hslot) _

/-- Distinct identifiers are drawn for distinct slots. -/
theorem Settled.slot_eq_of_drawnFor_eq {after : Ledger} (h : ledger.Settled asks after)
    (hdistinct : (ledger.supply.drawnUntil after.supply).Nodup) {slot slot' : Slot}
    (hslot : slot ∈ ledger.freshSlots asks) (hslot' : slot' ∈ ledger.freshSlots asks)
    (heq : ledger.drawnFor asks slot = ledger.drawnFor asks slot') : slot = slot' := by
  have hrange {s : Slot} (hs : s ∈ ledger.freshSlots asks) :
      ledger.supply.drawn + (ledger.freshSlots asks).idxOf s ∈
        List.range' ledger.supply.drawn (ledger.freshSlots asks).length :=
    List.mem_range'_1.mpr ⟨Nat.le_add_right _ _,
      Nat.add_lt_add_left (List.idxOf_lt_length_of_mem hs) _⟩
  rw [h.drawnUntil_eq] at hdistinct
  have hindex := List.inj_on_of_nodup_map hdistinct (hrange hslot) (hrange hslot') heq
  exact (List.idxOf_inj hslot).mp (Nat.add_left_cancel hindex)

/-- Where the identifier of a slot comes from: it is associated with the slot, or it was drawn for
it. -/
theorem Settled.mem_associations_or_drawn {after : Ledger} (h : ledger.Settled asks after)
    (hidentified : ∀ e ∈ ledger.entries, e.2.guid.isSome) {slot : Slot} {p : Parameter}
    (hp : after.held? slot = some p) :
    ∃ text, p.guid = some text ∧ ((slot, text) ∈ ledger.associations asks ∨
      slot ∈ ledger.freshSlots asks ∧ text = (ledger.drawnFor asks slot).text) := by
  have hstart {old : Parameter} (hold : ledger.held? slot = some old) :
      ∃ text, old.guid = some text ∧ (slot, text) ∈ ledger.associations asks := by
    obtain ⟨text, htext⟩ :=
      Option.isSome_iff_exists.mp (hidentified _ (mem_entries_of_held? hold))
    exact ⟨text, htext, mem_associations_of_held? hold htext⟩
  by_cases hmem : slot ∈ asks.map (·.1)
  · have hguid : p.guid = ledger.settledGuid asks slot := by
      have hasked := h.asked slot hmem
      rw [hp] at hasked
      exact Option.some.inj hasked
    rw [hguid, settledGuid]
    cases hgiven : lastGiven asks slot with
    | some text => exact ⟨text, rfl, .inl (mem_associations_of_lastGiven hgiven)⟩
    | none =>
      cases hold : ledger.held? slot with
      | some old =>
        obtain ⟨text, htext, hassociated⟩ := hstart hold
        exact ⟨text, htext, .inl hassociated⟩
      | none =>
        have hfresh := ledger.mem_freshSlots.mpr
          ⟨hold, lookup_eq_some_none_of_lastGiven hmem hgiven⟩
        exact ⟨_, rfl, .inr ⟨hfresh, rfl⟩⟩
  · rw [h.unasked slot hmem] at hp
    obtain ⟨text, htext, hassociated⟩ := hstart hp
    exact ⟨text, htext, .inl hassociated⟩

/-- Slots that hold one identifier are the same. -/
theorem Settled.slot_eq_of_guid_eq {after : Ledger} (h : ledger.Settled asks after)
    (hkeeps : ledger.KeepsApart asks (ledger.supply.drawnUntil after.supply)) {slot slot' : Slot}
    {p p' : Parameter} (hp : after.held? slot = some p) (hp' : after.held? slot' = some p')
    (hguid : p.guid = p'.guid) : slot = slot' := by
  obtain ⟨text, htext, hfrom⟩ := h.mem_associations_or_drawn hkeeps.identified hp
  obtain ⟨text', htext', hfrom'⟩ := h.mem_associations_or_drawn hkeeps.identified hp'
  obtain rfl : text = text' := by rwa [htext, htext', Option.some_inj] at hguid
  -- each of the two identifiers is associated with its slot, or drawn for it
  rcases hfrom with hassociated | ⟨hfresh, hdrawn⟩ <;>
    rcases hfrom' with hassociated' | ⟨hfresh', hdrawn'⟩
  · exact hkeeps.apart _ hassociated _ hassociated' rfl
  · exact absurd hdrawn'.symm (hkeeps.fresh _ (h.drawnFor_mem hfresh') _ hassociated)
  · exact absurd hdrawn.symm (hkeeps.fresh _ (h.drawnFor_mem hfresh) _ hassociated')
  · exact h.slot_eq_of_drawnFor_eq hkeeps.distinct hfresh hfresh'
      (Guid.text_injective (hdrawn.symm.trans hdrawn'))

/-- No two entries of the tables share an identifier. -/
theorem Settled.nodup_guids {after : Ledger} (h : ledger.Settled asks after)
    (hkeeps : ledger.KeepsApart asks (ledger.supply.drawnUntil after.supply))
    (hkeys : ∀ side, ((after.table side).map (·.1)).Nodup) :
    ((after.instances ++ after.types).map (·.2.guid)).Nodup := by
  rw [← map_guid_entries]
  refine (nodup_entries hkeys).map_on fun e he e' he' hguid => ?_
  have hp := held?_of_mem_entries hkeys he
  have hp' := held?_of_mem_entries hkeys he'
  have hslot : e.1 = e'.1 := h.slot_eq_of_guid_eq hkeeps hp hp' hguid
  rw [hslot, hp', Option.some_inj] at hp
  exact Prod.ext hslot hp.symm

end Ledger

/-- **No two entries of the tables share an identifier** after a catalog is merged to its end.  The
tables that the merge starts from have no name twice and an identifier in each entry; no identifier
is associated with two slots, and those that are drawn on the way are distinct and new. -/
theorem nodup_guids_of_mergeCatalog {catalog : Catalog} {qualified : Bool} {groupId : Int}
    {before after : Ledger} {count : Nat}
    (hrun : (mergeCatalog catalog qualified groupId).outcome before = (.ok count, after))
    (hkeys : ∀ side, ((before.table side).map (·.1)).Nodup)
    (hkeeps : before.KeepsApart (catalog.asks qualified)
      (before.supply.drawnUntil after.supply)) :
    ((after.instances ++ after.types).map (·.2.guid)).Nodup := by
  obtain ⟨hflat, hguids⟩ := exists_outcome_mergeCatalog_iff.mp ⟨count, after, hrun⟩
  have hafter := hrun.symm.trans (outcome_mergeCatalog hflat hguids qualified groupId before)
  rw [Prod.mk.injEq] at hafter
  obtain rfl := hafter.2
  have hsettled : before.Settled ((catalog.postings qualified groupId).map Posting.ask) _ :=
    before.postAll_settles _
  rw [Catalog.map_ask_postings] at hsettled
  exact hsettled.nodup_guids hkeeps fun side => before.nodup_keys_postAll _ (hkeys side)

/-- Two releases of a definition.  The later one has an identifier for a property for which one is
drawn at first; and the member of a complex property has one in both. -/
def doorReleases : List VersionedSet :=
  let glazing : Property :=
    { name := "Glazing"
      valueType := some (.complex "Glazing"
        [{ name := "Area", ifdGuid := some "f1c2e6d0-0a4b-4a53-9d3a-6a2f0c1b7e55" }]) }
  [{ release := "IFC2X3"
     definition :=
      { name := "Pset_DoorCommon", version := "IFC2X3", release := "IFC2X3"
        properties := [{ name := "FireExit" }, glazing] } },
    { release := "IFC4"
      definition :=
        { name := "Pset_DoorCommon", version := "IFC4", release := "IFC4"
          properties :=
            [glazing,
              { name := "FireExit"
                ifdGuid := some "urn:uuid:f1c2e6d0-0a4b-4a53-9d3a-6a2f0c1b7e56" },
              { name := "Width" }] } }]

/-- Tables from an earlier run: a parameter that is found again, and one that is not. -/
def earlierLedger : Ledger where
  instances :=
    [("Width", { name := "Width", guid := some (Guid.ofNat 100).text, paramType := .length })]
  types :=
    [("Panels[Type]",
      { name := "Panels[Type]", guid := some (Guid.ofNat 101).text, paramType := .integer })]
  supply := { fresh := Guid.ofNat }

/-- What the two releases ask for. -/
def doorAsks : List Ask :=
  let area : List Ask :=
    [((.instances, "Pset_DoorCommon.Glazing.Area"), some "f1c2e6d0-0a4b-4a53-9d3a-6a2f0c1b7e55"),
      ((.types, "Pset_DoorCommon.Glazing.Area[Type]"),
        some "9dd97846-62e8-5488-b3d5-74665a19306a")]
  [((.instances, "FireExit"), none), ((.types, "FireExit[Type]"), none)] ++ area ++ area ++
    [((.instances, "FireExit"), some "urn:uuid:f1c2e6d0-0a4b-4a53-9d3a-6a2f0c1b7e56"),
      ((.types, "FireExit[Type]"), some "87fb69b3-e863-5479-9b3c-9147df678423"),
      ((.instances, "Width"), none), ((.types, "Width[Type]"), none)]

theorem nodup_guids_of_mergeCatalog_doors :
    let catalog : Catalog := ⟨[("Pset_DoorCommon", doorReleases)]⟩
    ∃ after, (mergeCatalog catalog).outcome earlierLedger = (.ok 5, after) ∧
      (∀ side, ((earlierLedger.table side).map (·.1)).Nodup) ∧
      earlierLedger.KeepsApart (catalog.asks false)
        (earlierLedger.supply.drawnUntil after.supply) ∧
      ((after.instances ++ after.types).map (·.2.guid)).Nodup := by
  intro catalog
  have hentries : catalog.entries = doorReleases := Catalog.entries_singleton _ _
  have hflat : catalog.IsFlat := by
    rw [Catalog.IsFlat, hentries]
    decide
  have hguids : catalog.HasReadableGuids := by
    rw [Catalog.HasReadableGuids, hentries]
    decide +kernel
  have hasks : catalog.asks false = doorAsks := by
    rw [Catalog.asks, Catalog.occurrences, hentries]
    decide +kernel
  have hcount : (catalog.occurrences false).length = 5 := by
    rw [Catalog.occurrences, hentries]
    rfl
  have hrun := outcome_mergeCatalog hflat hguids false 2 earlierLedger
  rw [hcount] at hrun
  have hkeys : ∀ side, ((earlierLedger.table side).map (·.1)).Nodup := by
    rintro (_ | _) <;> decide
  have hkeeps : earlierLedger.KeepsApart (catalog.asks false)
      (earlierLedger.supply.drawnUntil
        (earlierLedger.postAll (catalog.postings false 2)).supply) := by
    rw [(earlierLedger.postAll_settles _).drawnUntil_eq, Catalog.map_ask_postings, hasks]
    exact { identified := by decide, apart := by decide +kernel, distinct := by decide +kernel
            fresh := by decide +kernel }
  exact ⟨_, hrun, hkeys, hkeeps, nodup_guids_of_mergeCatalog hrun hkeys hkeeps⟩

end PsetCompiler
