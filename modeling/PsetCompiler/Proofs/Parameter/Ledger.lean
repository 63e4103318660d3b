import PsetCompiler.Proofs.Parameter.File
import PsetCompiler.Proofs.Parameter.Merge

/-!
# Ledgers from run to run

A ledger whose tables are recordable stays so while recordable parameters are posted to it; then
its tables are written, and the next run starts from a ledger that holds what the files keep of
them.  What that next run finds in a slot is therefore what the run before has left there, up to
the owning set, and the rules for postings say what becomes of it.

## Main definitions

* `Posting.IsRecordable`, `Ledger.IsRecordable` — what is posted, and where.
* `Catalog.IsRecordable` — the catalogs whose occurrences can be recorded.
* `Ledger.Resumes` — a ledger holds what is kept of another one.

## Main results

* `IsRecordable.postAll` — recordable postings keep a ledger recordable.
* `guid_postAll_of_resumes` — **the identifier of a slot in the next run.**
* `resumes_postAll_again`, `supply_postAll_again` — **posting the same once more changes nothing
  that is kept, and draws nothing.**
-/

namespace PsetCompiler

open Text (IsLine IsColumn)

/-! ### Recordable ledgers -/

/-- A parameter is posted that a row keeps, whatever identifier it gets. -/
structure Posting.IsRecordable (p : Posting) : Prop where
  name : IsColumn p.parameter.name
  named : Text.isBlankText p.parameter.name = false
  description : IsColumn p.parameter.description
  category : IsColumn p.parameter.dataCategory
  group : Text.IsWritable p.parameter.groupId
  given : ∀ text ∈ p.given, ∃ g : Guid, text = g.text

namespace Ledger

variable {ledger : Ledger}

/-- Files keep both tables. -/
def IsRecordable (ledger : Ledger) : Prop :=
  ∀ side, (ledger.table side).IsRecordable

/-- A posting leaves an identifier in the written form, if it brings none that is not. -/
theorem exists_text_guidFor {p : Posting} (h : (ledger.table p.side).HasGuids)
    (hp : ∀ text ∈ p.given, ∃ g : Guid, text = g.text) :
    ∃ g : Guid, ledger.guidFor p = some g.text :=
  guidFor_keeps (Q := fun guid => ∃ g : Guid, guid = some g.text) h
    (fun text htext => (hp text htext).imp fun _ => congrArg some) fun g => ⟨g, rfl⟩

/-- The entry that a recordable posting puts in among recordable ones is recordable. -/
theorem isRecordable_entryFor (h : ∀ side, ∀ e ∈ ledger.table side, e.2.IsRecordable)
    {p : Posting} (hp : p.IsRecordable) : (ledger.entryFor p).IsRecordable where
  name := hp.name
  named := hp.named
  description := hp.description
  category := hp.category
  group := hp.group
  guid := exists_text_guidFor (fun e he => (h p.side e he).guid) hp.given

/-- Recordable postings keep a ledger recordable. -/
theorem IsRecordable.postAll (h : ledger.IsRecordable) {ps : List Posting}
    (hps : ∀ p ∈ ps, p.IsRecordable) : (ledger.postAll ps).IsRecordable := fun side =>
  { nodup := ledger.nodup_keys_postAll ps (h side).nodup
    keyed := forall_mem_postAll (P := fun e => e.2.name = e.1) (fun side => (h side).keyed)
      (fun _ _ _ _ => rfl) side
    recordable := forall_mem_postAll (P := fun e => e.2.IsRecordable)
      (fun side => (h side).recordable)
      (fun _ hp _ hbefore => isRecordable_entryFor hbefore (hps _ hp)) side }

end Ledger

/-! ### Recordable catalogs -/

/-- A row keeps the parameter of an occurrence, and the identifier that it carries, if any, is in
the written form. -/
structure Occurrence.IsRecordable (o : Occurrence) : Prop where
  name : IsColumn o.2.1
  named : Text.isBlankText o.2.1 = false
  description : IsColumn o.2.2.classified.2
  given : ∀ text ∈ o.given, ∃ g : Guid, text = g.text

/-- A catalog that can be merged and whose parameters rows keep. -/
structure Catalog.IsRecordable (catalog : Catalog) (qualified : Bool) : Prop where
  flat : catalog.IsFlat
  occurrences : ∀ o ∈ catalog.occurrences qualified, Occurrence.IsRecordable o

theorem isColumn_typeParameterName {name : String} :
    IsColumn (typeParameterName name) ↔ IsColumn name := by
  have hsuffix : IsColumn typeSuffix := by decide
  unfold typeParameterName
  split
  · rfl
  · rw [Text.isColumn_append, and_iff_left hsuffix]

theorem isBlankText_typeParameterName {name : String} (h : Text.isBlankText name = false) :
    Text.isBlankText (typeParameterName name) = false := by
  unfold typeParameterName
  split
  · exact h
  · rw [Text.isBlankText_append, h, Bool.false_and]

theorem Occurrence.IsRecordable.postings {o : Occurrence} (h : o.IsRecordable) {groupId : Int}
    (hgroup : Text.IsWritable groupId) : ∀ p ∈ o.postings groupId, p.IsRecordable := by
  have hcategory : IsColumn "" := by decide
  have hderived : ∀ text ∈ o.given.bind derivedGuid?, ∃ g : Guid, text = g.text := by
    intro text htext
    obtain ⟨base, hbase, htext⟩ := Option.bind_eq_some_iff.mp htext
    obtain ⟨g, rfl⟩ := h.given base hbase
    rw [derivedGuid?_eq_some g.read?_text] at htext
    exact ⟨_, (Option.some.inj htext).symm⟩
  rw [Occurrence.postings, List.forall_mem_cons, List.forall_mem_singleton]
  constructor
  · exact { name := h.name, named := h.named, description := h.description
            category := hcategory, group := hgroup, given := h.given }
  · exact { name := isColumn_typeParameterName.mpr h.name
            named := isBlankText_typeParameterName h.named, description := h.description
            category := hcategory, group := hgroup, given := hderived }

namespace Catalog.IsRecordable

variable {catalog : Catalog} {qualified : Bool} (h : catalog.IsRecordable qualified)
include h

theorem hasReadableGuids : catalog.HasReadableGuids := by
  intro entry hentry leaf hleaf text htext
  have ho := h.occurrences _ (Catalog.mem_occurrences_iff.mpr ⟨entry, hentry, leaf, hleaf, rfl⟩)
  obtain ⟨g, rfl⟩ := ho.given text htext
  rw [Guid.read?_text]
  rfl

theorem postings {groupId : Int} (hgroup : Text.IsWritable groupId) :
    ∀ p ∈ catalog.postings qualified groupId, p.IsRecordable := by
  intro p hp
  obtain ⟨o, ho, hp⟩ := List.mem_flatMap.mp hp
  exact (h.occurrences o ho).postings hgroup p hp

end Catalog.IsRecordable

/-! ### The next run -/

namespace Ledger

/-- A ledger holds what is kept of another one. -/
def Resumes (start before : Ledger) : Prop :=
  ∀ slot, (start.held? slot).map Parameter.recorded = (before.held? slot).map Parameter.recorded

variable {start before : Ledger}

theorem Resumes.held?_eq_none_iff (h : start.Resumes before) (slot : Slot) :
    start.held? slot = none ↔ before.held? slot = none := by
  rw [← Option.map_eq_none_iff, h slot, Option.map_eq_none_iff]

theorem Resumes.guid_eq (h : start.Resumes before) (slot : Slot) :
    (start.held? slot).bind (·.guid) = (before.held? slot).bind (·.guid) := by
  have hguid (o : Option Parameter) :
      (o.map Parameter.recorded).bind (·.guid) = o.bind (·.guid) := by
    rw [Option.bind_map]
    rfl
  rw [← hguid, h slot, hguid]

/-- A slot that is not empty is not emptied. -/
theorem isSome_held?_postAll (h : start.Resumes before) {slot : Slot}
    (hslot : (before.held? slot).isSome) (ps : List Posting) :
    ((start.postAll ps).held? slot).isSome := by
  rw [Option.isSome_iff_ne_none] at hslot ⊢
  intro hnone
  have hstart := (((postAll_settles _ ps).held?_eq_none_iff slot).mp hnone).2
  exact hslot ((h.held?_eq_none_iff slot).mp hstart)

/-- A slot to which nothing is posted keeps what is kept of its entry. -/
theorem held?_postAll_of_notMem (h : start.Resumes before) {slot : Slot} {ps : List Posting}
    (hslot : slot ∉ (ps.map Posting.ask).map (·.1)) :
    ((start.postAll ps).held? slot).map Parameter.recorded =
      (before.held? slot).map Parameter.recorded := by
  rw [(postAll_settles _ ps).unasked slot hslot, h slot]

/-- The identifier of a slot in the next run: the last one that comes with an ask, else the one
that the slot had. -/
theorem guid_postAll_of_resumes (h : start.Resumes before) {slot : Slot}
    (hslot : (before.held? slot).isSome) (ps : List Posting) :
    ((start.postAll ps).held? slot).bind (·.guid) =
      (lastGiven (ps.map Posting.ask) slot).or ((before.held? slot).bind (·.guid)) := by
  rw [← h.guid_eq slot]
  by_cases hmem : slot ∈ (ps.map Posting.ask).map (·.1)
  · have hasked := (start.postAll_settles ps).asked slot hmem
    obtain ⟨entry, hentry, hguid⟩ := Option.map_eq_some_iff.mp hasked
    rw [hentry, Option.bind_some, hguid, settledGuid]
    cases lastGiven (ps.map Posting.ask) slot with
    | some guid => rfl
    | none =>
      cases hold : start.held? slot with
      | some old => rfl
      | none =>
        rw [(h.held?_eq_none_iff slot).mp hold] at hslot
        cases hslot
  · rw [(postAll_settles _ ps).unasked slot hmem, lastGiven_eq_none hmem, Option.none_or]

/-- Posting once more what was posted before changes nothing that is kept. -/
theorem resumes_postAll_again {first : Ledger} {ps : List Posting}
    (h : start.Resumes (first.postAll ps)) : (start.postAll ps).Resumes (first.postAll ps) := by
  intro slot
  cases hlast : lastPosting ps slot with
  | none => exact held?_postAll_of_notMem h (lastPosting_eq_none_iff.mp hlast)
  | some p =>
    have hheld (ledger : Ledger) : (ledger.postAll ps).held? slot =
        some { p.parameter with guid := ledger.settledGuid (ps.map Posting.ask) slot } := by
      rw [held?_postAll, hlast]
    have hslot : ((first.postAll ps).held? slot).isSome := by rw [hheld]; rfl
    -- what the slot holds was settled by the same asks
    have hguid := guid_postAll_of_resumes h hslot ps
    rw [hheld, hheld, Option.bind_some, Option.bind_some, first.or_settledGuid] at hguid
    dsimp only at hguid
    rw [hheld, hheld, hguid]

/-- Posting once more what was posted before draws nothing. -/
theorem supply_postAll_again {first : Ledger} {ps : List Posting}
    (h : start.Resumes (first.postAll ps)) : (start.postAll ps).supply = start.supply := by
  have hfresh : start.freshSlots (ps.map Posting.ask) = [] := by
    rw [List.eq_nil_iff_forall_not_mem]
    intro slot hslot
    obtain ⟨hnone, hask⟩ := start.mem_freshSlots.mp hslot
    have hfirst := (h.held?_eq_none_iff slot).mp hnone
    exact (((postAll_settles _ ps).held?_eq_none_iff slot).mp hfirst).1 (mem_keys_of_lookup hask)
  rw [(postAll_settles _ ps).supply, hfresh]
  rfl

end Ledger

end PsetCompiler
