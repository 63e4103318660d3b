import PsetCompiler.Parameter.Merge
import PsetCompiler.Proofs.Entries
import Mathlib.Data.List.Induction

/-!
# Posting to a ledger

Merging a property into the tables of a run comes down to two postings, one to the table of
instances and one to the table of types.  A posting puts a parameter into the slot of its name.  The
identifier is the one that comes with the posting, else the one that is in the slot, else a fresh
one; so what a sequence of postings leaves in a slot depends on the other slots only through the
number of fresh identifiers that they have drawn before.

That number is read off the asks of the postings: a slot draws once, at the first posting to it, if
nothing was in it and the posting brings no identifier.

## Main definitions

* `Side`, `Slot`, `Ledger.held?` — the two tables, the places in them, and what a place holds.
* `Posting`, `Ledger.post`, `Ledger.postAll` — postings, and the ledger after them.
* `lastGiven`, `Ledger.freshSlots`, `Ledger.settledGuid` — the identifier that asks leave in a slot,
  said without the order in which postings are made.

## Main results

* `Ledger.postAll_settles` — **what a sequence of postings leaves.**
* `Ledger.held?_postAll` — the entry of a slot is the last parameter posted to it.
* `Ledger.forall_mem_postAll` — what every posting keeps of the entries.
* `Ledger.nodup_keys_postAll` — no name is put into a table twice.
-/

namespace PsetCompiler

/-! ### Slots -/

/-- The two tables of a ledger. -/
inductive Side where
  | instances
  | types
deriving DecidableEq, Repr

/-- A place in the tables: a table and a name. -/
abbrev Slot := Side × String

namespace Ledger

/-- The table on a side. -/
def table (ledger : Ledger) : Side → ParameterTable
  | .instances => ledger.instances
  | .types => ledger.types

/-- The ledger with a table in place of the one on a side. -/
def withTable (ledger : Ledger) (table : ParameterTable) : Side → Ledger
  | .instances => { ledger with instances := table }
  | .types => { ledger with types := table }

/-- What a slot holds. -/
def held? (ledger : Ledger) (slot : Slot) : Option Parameter :=
  (ledger.table slot.1).lookup slot.2

end Ledger

/-! ### Postings -/

/-- A parameter to be put into the slot of its name, with the identifier that comes with it. -/
structure Posting where
  side : Side
  parameter : Parameter
  given : Option String

/-- The slot of a posting. -/
def Posting.slot (p : Posting) : Slot :=
  (p.side, p.parameter.name)

namespace Ledger

/-- The identifier that a posting leaves in its slot. -/
def guidFor (ledger : Ledger) (p : Posting) : Option String :=
  match p.given, ledger.held? p.slot with
  | some guid, _ => some guid
  | none, some old => old.guid
  | none, none => some ledger.supply.draw.1.text

/-- The supply after a posting: only an empty slot draws from it. -/
def supplyAfter (ledger : Ledger) (p : Posting) : Supply :=
  match p.given, ledger.held? p.slot with
  | none, none => ledger.supply.draw.2
  | _, _ => ledger.supply

/-- The entry that a posting puts in. -/
def entryFor (ledger : Ledger) (p : Posting) : Parameter :=
  { p.parameter with guid := ledger.guidFor p }

/-- The ledger after a posting. -/
def post (ledger : Ledger) (p : Posting) : Ledger :=
  { ledger.withTable (insertEntry (ledger.table p.side) p.parameter.name (ledger.entryFor p)) p.side
    with supply := ledger.supplyAfter p }

/-- The ledger after some postings. -/
def postAll (ledger : Ledger) (ps : List Posting) : Ledger :=
  ps.foldl post ledger

theorem postAll_append (ledger : Ledger) (ps qs : List Posting) :
    ledger.postAll (ps ++ qs) = (ledger.postAll ps).postAll qs :=
  List.foldl_append

theorem postAll_concat (ledger : Ledger) (ps : List Posting) (p : Posting) :
    ledger.postAll (ps ++ [p]) = (ledger.postAll ps).post p :=
  postAll_append ledger ps [p]

@[simp] theorem supply_post (ledger : Ledger) (p : Posting) :
    (ledger.post p).supply = ledger.supplyAfter p := rfl

theorem table_post (ledger : Ledger) (p : Posting) (side : Side) :
    (ledger.post p).table side =
      if side = p.side then putEntry (ledger.table side) p.parameter.name (ledger.entryFor p)
      else ledger.table side := by
  rcases p with ⟨pside, parameter, given⟩
  cases side <;> cases pside <;> rfl

/-- A posting changes its own slot only. -/
theorem held?_post (ledger : Ledger) (p : Posting) (slot : Slot) :
    (ledger.post p).held? slot =
      if slot = p.slot then some (ledger.entryFor p) else ledger.held? slot := by
  obtain ⟨side, name⟩ := slot
  rw [held?, table_post]
  by_cases hside : side = p.side
  · subst hside
    rw [if_pos rfl, lookup_putEntry]
    by_cases hname : name = p.parameter.name
    · simp [Posting.slot, hname]
    · simp [Posting.slot, hname, held?]
  · rw [if_neg hside, if_neg fun h => hside (congrArg Prod.fst h)]
    rfl

/-- What holds of the identifiers in a table, of those that come with a posting and of fresh ones,
holds of the one that the posting leaves. -/
theorem guidFor_keeps {ledger : Ledger} {p : Posting} {Q : Option String → Prop}
    (hheld : ∀ e ∈ ledger.table p.side, Q e.2.guid) (hgiven : ∀ text ∈ p.given, Q (some text))
    (hdrawn : ∀ g : Guid, Q (some g.text)) : Q (ledger.guidFor p) := by
  unfold guidFor
  split
  · next text htext => exact hgiven text htext
  · next old _ hold => exact hheld _ (mem_of_lookup hold)
  · exact hdrawn _

/-- What holds of all entries, and of each one that a posting puts in among such, holds of all
entries after some postings. -/
theorem forall_mem_postAll {P : String × Parameter → Prop} {ledger : Ledger} {ps : List Posting}
    (hledger : ∀ side, ∀ e ∈ ledger.table side, P e)
    (hps : ∀ p ∈ ps, ∀ before : Ledger, (∀ side, ∀ e ∈ before.table side, P e) →
      P (p.parameter.name, before.entryFor p)) :
    ∀ side, ∀ e ∈ (ledger.postAll ps).table side, P e := by
  induction ps generalizing ledger with
  | nil => exact hledger
  | cons p ps ih =>
    rw [List.forall_mem_cons] at hps
    refine ih (fun side e he => ?_) hps.2
    rw [table_post] at he
    split at he
    · rcases mem_putEntry he with he | rfl
      · exact hledger side e he
      · exact hps.1 ledger hledger
    · exact hledger side e he

end Ledger

/-! ### Asks -/

/-- A slot that is asked for, with the identifier that comes with the ask. -/
abbrev Ask := Slot × Option String

/-- The ask of a posting. -/
def Posting.ask (p : Posting) : Ask :=
  (p.slot, p.given)

/-- The last identifier that comes with an ask for a slot. -/
def lastGiven (asks : List Ask) (slot : Slot) : Option String :=
  (asks.filterMap fun ask => if ask.1 = slot then ask.2 else none).getLast?

/-- The slots for which fresh identifiers are drawn, in the order in which they are: those that are
empty and whose first ask brings no identifier. -/
def Ledger.freshSlots (ledger : Ledger) (asks : List Ask) : List Slot :=
  (asks.map (·.1)).eraseDups.filter fun slot =>
    (ledger.held? slot).isNone && asks.lookup slot == some none

/-- The identifier that is drawn for a slot. -/
def Ledger.drawnFor (ledger : Ledger) (asks : List Ask) (slot : Slot) : Guid :=
  ledger.supply.fresh (ledger.supply.drawn + (ledger.freshSlots asks).idxOf slot)

/-- The identifier that asks leave in a slot: the last one that comes with an ask, else the one that
was there, else the one that is drawn. -/
def Ledger.settledGuid (ledger : Ledger) (asks : List Ask) (slot : Slot) : Option String :=
  match lastGiven asks slot, ledger.held? slot with
  | some guid, _ => some guid
  | none, some old => old.guid
  | none, none => some (ledger.drawnFor asks slot).text

theorem lastGiven_concat (asks : List Ask) (slot asked : Slot) (given : Option String) :
    lastGiven (asks ++ [(asked, given)]) slot =
      if asked = slot then given.or (lastGiven asks slot) else lastGiven asks slot := by
  unfold lastGiven
  rw [List.filterMap_append]
  split
  · next h => cases given <;> simp [h]
  · next h => simp [h]

theorem lastGiven_eq_none {asks : List Ask} {slot : Slot} (h : slot ∉ asks.map (·.1)) :
    lastGiven asks slot = none := by
  rw [lastGiven, List.getLast?_eq_none_iff, List.filterMap_eq_nil_iff]
  intro ask hask
  rw [if_neg]
  rintro rfl
  exact h (List.mem_map_of_mem hask)

/-- Without an identifier in any ask there is none in the first. -/
theorem lookup_eq_some_none_of_lastGiven {asks : List Ask} {slot : Slot}
    (hmem : slot ∈ asks.map (·.1)) (hlast : lastGiven asks slot = none) :
    asks.lookup slot = some none := by
  obtain ⟨given, hgiven⟩ := Option.isSome_iff_exists.mp (lookup_isSome_iff_mem_keys.mpr hmem)
  cases given with
  | none => exact hgiven
  | some guid =>
    rw [lastGiven, List.getLast?_eq_none_iff, List.filterMap_eq_nil_iff] at hlast
    have h := hlast _ (mem_of_lookup hgiven)
    simp at h

namespace Ledger

variable (ledger : Ledger)

theorem mem_freshSlots {asks : List Ask} {slot : Slot} :
    slot ∈ ledger.freshSlots asks ↔ ledger.held? slot = none ∧ asks.lookup slot = some none := by
  rw [freshSlots, List.mem_filter, List.mem_eraseDups, Bool.and_eq_true, Option.isNone_iff_eq_none,
    beq_iff_eq]
  refine ⟨fun h => h.2, fun h => ⟨mem_keys_of_lookup h.2, h⟩⟩

/-- One more ask draws for its slot if it is the first one for it, brings no identifier and finds
the slot empty. -/
theorem freshSlots_concat (asks : List Ask) (slot : Slot) (given : Option String) :
    ledger.freshSlots (asks ++ [(slot, given)]) =
      if slot ∉ asks.map (·.1) ∧ ledger.held? slot = none ∧ given = none then
        ledger.freshSlots asks ++ [slot]
      else ledger.freshSlots asks := by
  -- the asks before keep their slots, and the first ask for each of these
  have hold : ((asks.map (·.1)).eraseDups).filter (fun s => (ledger.held? s).isNone &&
      (asks ++ [(slot, given)]).lookup s == some none) = ledger.freshSlots asks := by
    refine List.filter_congr fun s hs => ?_
    rw [List.mem_eraseDups, ← lookup_isSome_iff_mem_keys] at hs
    obtain ⟨first, hfirst⟩ := Option.isSome_iff_exists.mp hs
    rw [List.lookup_append, hfirst, Option.some_or]
  rw [freshSlots, List.map_append, List.map_singleton, eraseDups_concat]
  by_cases hmem : slot ∈ asks.map (·.1)
  · rw [if_pos hmem, if_neg fun h => h.1 hmem]
    exact hold
  · have hfirst : (asks ++ [(slot, given)]).lookup slot = some given := by
      rw [List.lookup_append, lookup_eq_none_iff_notMem_keys.mpr hmem]
      exact List.lookup_cons_self
    rw [if_neg hmem, List.filter_append, hold, List.filter_singleton, hfirst]
    by_cases hfresh : ledger.held? slot = none ∧ given = none
    · rw [if_pos ⟨hmem, hfresh⟩]
      simp [hfresh]
    · have hfalse : ((ledger.held? slot).isNone && some given == some none) = false := by
        cases hentry : ledger.held? slot <;> cases given <;> simp_all
      rw [if_neg fun h => hfresh h.2, hfalse]
      exact List.append_nil _

theorem mem_asked_of_mem_freshSlots {asks : List Ask} {slot : Slot}
    (h : slot ∈ ledger.freshSlots asks) : slot ∈ asks.map (·.1) :=
  mem_keys_of_lookup (ledger.mem_freshSlots.mp h).2

/-- Identifiers are drawn in the order of the first asks, and so never twice for a slot. -/
theorem pairwise_freshSlots (asks : List Ask) :
    (ledger.freshSlots asks).Pairwise fun s t =>
      (asks.map (·.1)).idxOf s < (asks.map (·.1)).idxOf t := by
  induction asks using List.reverseRecOn with
  | nil => exact .nil
  | append_singleton asks ask ih =>
    have hidx {s : Slot} (h : s ∈ ledger.freshSlots asks) :
        ((asks ++ [ask]).map (·.1)).idxOf s = (asks.map (·.1)).idxOf s := by
      rw [List.map_append, List.idxOf_append_of_mem (ledger.mem_asked_of_mem_freshSlots h)]
    have hold : (ledger.freshSlots asks).Pairwise fun s t =>
        ((asks ++ [ask]).map (·.1)).idxOf s < ((asks ++ [ask]).map (·.1)).idxOf t :=
      ih.imp_of_mem fun hs ht h => by rwa [hidx hs, hidx ht]
    rw [freshSlots_concat]
    split
    · next h =>
      -- a slot that is asked for now for the first time comes behind all others
      refine List.pairwise_append.mpr ⟨hold, List.pairwise_singleton _ _, fun s hs t ht => ?_⟩
      rw [List.mem_singleton] at ht
      rw [hidx hs, ht, List.map_append, List.idxOf_append_of_notMem h.1]
      have hlt := List.idxOf_lt_length_of_mem (ledger.mem_asked_of_mem_freshSlots hs)
      omega
    · exact hold

/-- A further ask does not change what is drawn for a slot before it. -/
theorem drawnFor_concat {asks : List Ask} {slot : Slot} (hslot : slot ∈ ledger.freshSlots asks)
    (ask : Ask) : ledger.drawnFor (asks ++ [ask]) slot = ledger.drawnFor asks slot := by
  rw [drawnFor, freshSlots_concat]
  split
  · rw [List.idxOf_append_of_mem hslot]
    rfl
  · rfl

/-- A further ask that brings nothing leaves what the asks before it do. -/
theorem settledGuid_concat {asks : List Ask} {slot : Slot} (hslot : slot ∈ asks.map (·.1))
    {ask : Ask} (hlast : lastGiven (asks ++ [ask]) slot = lastGiven asks slot) :
    ledger.settledGuid (asks ++ [ask]) slot = ledger.settledGuid asks slot := by
  unfold settledGuid
  rw [hlast]
  cases hgiven : lastGiven asks slot with
  | some guid => rfl
  | none =>
    cases hentry : ledger.held? slot with
    | some old => rfl
    | none =>
      have hfresh := ledger.mem_freshSlots.mpr
        ⟨hentry, lookup_eq_some_none_of_lastGiven hslot hgiven⟩
      dsimp only
      rw [ledger.drawnFor_concat hfresh]

theorem or_settledGuid (asks : List Ask) (slot : Slot) :
    (lastGiven asks slot).or (ledger.settledGuid asks slot) = ledger.settledGuid asks slot := by
  unfold settledGuid
  cases lastGiven asks slot <;> rfl

/-- What a sequence of postings leaves, as far as identifiers go: the supply has moved on by the
slots that drew, slots that were not asked for are as before, and the others hold the identifiers
that the asks leave in them. -/
structure Settled (asks : List Ask) (after : Ledger) : Prop where
  supply : after.supply =
    { ledger.supply with drawn := ledger.supply.drawn + (ledger.freshSlots asks).length }
  unasked : ∀ slot ∉ asks.map (·.1), after.held? slot = ledger.held? slot
  asked : ∀ slot ∈ asks.map (·.1),
    (after.held? slot).map (·.guid) = some (ledger.settledGuid asks slot)

variable {ledger}

/-- After some asks are settled, a slot is empty exactly if it was and nothing was asked for it. -/
theorem Settled.held?_eq_none_iff {asks : List Ask} {after : Ledger}
    (h : ledger.Settled asks after) (slot : Slot) :
    after.held? slot = none ↔ slot ∉ asks.map (·.1) ∧ ledger.held? slot = none := by
  by_cases hmem : slot ∈ asks.map (·.1)
  · have hasked := h.asked _ hmem
    refine ⟨fun hnone => ?_, fun h => absurd hmem h.1⟩
    rw [hnone] at hasked
    cases hasked
  · rw [h.unasked _ hmem]
    exact ⟨fun h => ⟨hmem, h⟩, fun h => h.2⟩

/-- The identifier that one more posting leaves is the one that all the asks together leave. -/
theorem Settled.guidFor_eq {asks : List Ask} {after : Ledger} (h : ledger.Settled asks after)
    (p : Posting) : after.guidFor p = ledger.settledGuid (asks ++ [p.ask]) p.slot := by
  have hlast : lastGiven (asks ++ [p.ask]) p.slot = p.given.or (lastGiven asks p.slot) := by
    rw [Posting.ask, lastGiven_concat, if_pos rfl]
  rw [guidFor]
  cases hgiven : p.given with
  | some guid =>
    rw [hgiven] at hlast
    rw [settledGuid, hlast]
    rfl
  | none =>
    rw [hgiven, Option.none_or] at hlast
    by_cases hmem : p.slot ∈ asks.map (·.1)
    · -- the slot was settled before, and the posting brings nothing new
      rw [ledger.settledGuid_concat hmem hlast]
      have hasked := h.asked _ hmem
      cases hentry : after.held? p.slot with
      | none => rw [hentry] at hasked; cases hasked
      | some old =>
        rw [hentry] at hasked
        exact Option.some.inj hasked
    · -- the first ask for the slot: it is as at the start
      rw [settledGuid, hlast, lastGiven_eq_none hmem, h.unasked _ hmem]
      cases hentry : ledger.held? p.slot with
      | some old => rfl
      | none =>
        have hnew : ledger.freshSlots (asks ++ [p.ask]) = ledger.freshSlots asks ++ [p.slot] := by
          rw [Posting.ask, freshSlots_concat, if_pos ⟨hmem, hentry, hgiven⟩]
        have hnot : p.slot ∉ ledger.freshSlots asks :=
          mt ledger.mem_asked_of_mem_freshSlots hmem
        have hidx : (ledger.freshSlots asks ++ [p.slot]).idxOf p.slot =
            (ledger.freshSlots asks).length := by
          rw [List.idxOf_append_of_notMem hnot, List.idxOf_cons_self, Nat.add_zero]
        simp only [Supply.draw, drawnFor, hnew, hidx, h.supply]

/-- **What a sequence of postings leaves.** -/
theorem postAll_settles (ledger : Ledger) (ps : List Posting) :
    ledger.Settled (ps.map Posting.ask) (ledger.postAll ps) := by
  induction ps using List.reverseRecOn with
  | nil =>
    exact { supply := rfl, unasked := fun _ _ => rfl, asked := fun slot hslot => by simp at hslot }
  | append_singleton ps p ih =>
    rw [List.map_append, List.map_singleton, postAll_concat]
    set asks := ps.map Posting.ask with hasks
    have hask : p.ask = (p.slot, p.given) := rfl
    -- the posting finds a slot that the asks before it have settled, or one as at the start
    refine { supply := ?_, unasked := ?_, asked := ?_ }
    · rw [supply_post, supplyAfter, hask, freshSlots_concat]
      cases hgiven : p.given with
      | some guid => simpa using ih.supply
      | none =>
        cases hentry : (ledger.postAll ps).held? p.slot with
        | some old =>
          have h := mt (ih.held?_eq_none_iff p.slot).mpr (by rw [hentry]; simp)
          rw [if_neg fun hc => h ⟨hc.1, hc.2.1⟩]
          exact ih.supply
        | none =>
          obtain ⟨hmem, hnone⟩ := (ih.held?_eq_none_iff p.slot).mp hentry
          rw [if_pos ⟨hmem, hnone, rfl⟩]
          simp only [Supply.draw, ih.supply, List.length_append, List.length_singleton]
          rfl
    · intro slot hslot
      rw [List.map_append, List.map_singleton, List.mem_append, not_or] at hslot
      rw [held?_post, if_neg fun h => hslot.2 (by simp [hask, h])]
      exact ih.unasked slot hslot.1
    · intro slot hslot
      rw [List.map_append, List.map_singleton, List.mem_append, List.mem_singleton] at hslot
      rw [held?_post]
      split
      · next hself =>
        rw [hself, Option.map_some, entryFor, ih.guidFor_eq]
      · next hother =>
        have hmem : slot ∈ asks.map (·.1) := hslot.resolve_right fun h => hother (by rw [h, hask])
        rw [ih.asked slot hmem, ledger.settledGuid_concat hmem]
        rw [hask, lastGiven_concat, if_neg (Ne.symm hother)]

/-! ### Entries -/

/-- The last posting to a slot. -/
def lastPosting (ps : List Posting) (slot : Slot) : Option Posting :=
  (ps.filter (·.slot = slot)).getLast?

theorem lastPosting_concat (ps : List Posting) (p : Posting) (slot : Slot) :
    lastPosting (ps ++ [p]) slot = if slot = p.slot then some p else lastPosting ps slot := by
  rw [lastPosting, List.filter_append]
  split
  · next h => simp [h]
  · next h => simp [Ne.symm h, lastPosting]

theorem lastPosting_eq_none_iff {ps : List Posting} {slot : Slot} :
    lastPosting ps slot = none ↔ slot ∉ (ps.map Posting.ask).map (·.1) := by
  rw [lastPosting, List.getLast?_eq_none_iff, List.filter_eq_nil_iff, List.map_map, List.mem_map]
  simp [Posting.ask]

/-- The identifier apart, a slot holds the last parameter that was posted to it. -/
theorem held?_postAll_of_lastPosting (ledger : Ledger) {ps : List Posting} {slot : Slot}
    {p : Posting} (h : lastPosting ps slot = some p) :
    ∃ guid, (ledger.postAll ps).held? slot = some { p.parameter with guid } := by
  induction ps using List.reverseRecOn with
  | nil => cases h
  | append_singleton ps q ih =>
    rw [lastPosting_concat] at h
    rw [postAll_concat, held?_post]
    split at h
    · next hslot =>
      cases h
      rw [if_pos hslot]
      exact ⟨_, rfl⟩
    · next hslot =>
      rw [if_neg hslot]
      exact ih h

/-- What a sequence of postings leaves in a slot: the last parameter posted to it, with the
identifier that the asks leave in the slot. -/
theorem held?_postAll (ledger : Ledger) (ps : List Posting) (slot : Slot) :
    (ledger.postAll ps).held? slot =
      match lastPosting ps slot with
      | some p => some { p.parameter with guid := ledger.settledGuid (ps.map Posting.ask) slot }
      | none => ledger.held? slot := by
  have hsettled := ledger.postAll_settles ps
  cases hlast : lastPosting ps slot with
  | none => exact hsettled.unasked _ (lastPosting_eq_none_iff.mp hlast)
  | some p =>
    obtain ⟨guid, hguid⟩ := ledger.held?_postAll_of_lastPosting hlast
    have hmem : slot ∈ (ps.map Posting.ask).map (·.1) := by
      by_contra h
      rw [lastPosting_eq_none_iff.mpr h] at hlast
      cases hlast
    have hasked := hsettled.asked slot hmem
    rw [hguid, Option.map_some] at hasked
    rw [hguid, ← Option.some.inj hasked]

/-- No name is put into a table twice. -/
theorem nodup_keys_postAll (ledger : Ledger) (ps : List Posting) {side : Side}
    (h : ((ledger.table side).map (·.1)).Nodup) :
    (((ledger.postAll ps).table side).map (·.1)).Nodup := by
  induction ps using List.reverseRecOn with
  | nil => exact h
  | append_singleton ps p ih =>
    rw [postAll_concat, table_post]
    split
    · exact nodup_keys_putEntry ih _ _
    · exact ih

end Ledger

end PsetCompiler
