import PsetCompiler.Proofs.Parameter.Mirror

/-!
# Merges that fail

A merge first posts the instance and then derives the identifier of the type.  Only the derivation
can fail, and it does so when the property carries a text that spells no identifier.  Then the
instance is in its table already, with that text for its identifier, and nothing is taken back.

So a merge that fails is half a merge: it makes the first of the two postings.  Merges that are
tried one after the other, failures passed over, make the postings of the whole ones and the halves
of the others, and the tables still mirror each other exactly if every name whose merge failed got
its type from somewhere else.

## Main definitions

* `isUnreadable` — a property carries a text that spells no identifier.
* `MergesAtomically` — a merge that fails leaves both tables as they were.
* `Ledger.IsTorn` — what half a merge leaves.
* `triedPostings`, `Ledger.tryEach` — what a merge posts if it may fail, and merges that are tried.

## Main results

* `outcome_mergeBoth_of_unreadable` — a merge that fails is half a merge.
* `Ledger.tryEach_eq_postAll` — merges that are tried post what they can.
* `failing_merges_tear_iff` — **when failing merges leave the tables as they were, and when they
  leave them mirrored.**
-/

namespace PsetCompiler

/-- The property carries a text that spells no identifier. -/
def isUnreadable (ifdGuid : Option String) : Bool :=
  (carried ifdGuid).any fun text => (Guid.read? text).isNone

theorem isUnreadable_eq_true_iff {ifdGuid : Option String} :
    isUnreadable ifdGuid = true ↔
      ∃ text e, carried ifdGuid = some text ∧ Guid.read text = .error e := by
  have hnone (text : String) :
      (Guid.read? text).isNone = true ↔ ∃ e, Guid.read text = .error e := by
    unfold Guid.read?
    cases Guid.read text <;> simp [Except.toOption]
  simp only [isUnreadable, Option.any_eq_true, hnone, exists_and_left]

theorem isUnreadable_eq_false_iff {ifdGuid : Option String} :
    isUnreadable ifdGuid = false ↔
      ∀ text, carried ifdGuid = some text → (Guid.read? text).isSome := by
  unfold isUnreadable
  cases carried ifdGuid <;> simp [Option.isSome_iff_ne_none]

/-- A merge that fails leaves both tables as they were. -/
def MergesAtomically : Prop :=
  ∀ (p : Parameter) (ifdGuid : Option String) (before after : Ledger) (e : Failure),
    (mergeBoth p ifdGuid).outcome before = (.error e, after) →
      after.instances = before.instances ∧ after.types = before.types

/-! ### One merge -/

/-- What half a merge leaves: the parameter is among the instances, with a text for its identifier,
and nothing else has changed. -/
structure Ledger.IsTorn (before : Ledger) (p : Parameter) (text : String) (after : Ledger) :
    Prop where
  instances : after.instances = putEntry before.instances p.name { p with guid := some text }
  types : after.types = before.types
  supply : after.supply = before.supply

/-- A posting to the instances that brings an identifier touches nothing else. -/
theorem Ledger.isTorn_post (ledger : Ledger) (p : Parameter) (text : String) :
    ledger.IsTorn p text (ledger.post ⟨.instances, p, some text⟩) where
  instances := rfl
  types := rfl
  supply := rfl

/-- The identifier of a type cannot be derived from a text that spells none. -/
theorem typeGuid_eq_error {text : String} {e : GuidError} (h : Guid.read text = .error e) :
    typeGuid text = .error (.guid e) := by
  rw [typeGuid, h]

/-- **A merge that fails is half a merge**: it has posted the instance. -/
theorem outcome_mergeBoth_of_unreadable (p : Parameter) {ifdGuid : Option String} {text : String}
    {e : GuidError} (hgiven : carried ifdGuid = some text) (hread : Guid.read text = .error e)
    (ledger : Ledger) :
    (mergeBoth p ifdGuid).outcome ledger =
      (.error (.guid e), ledger.post ⟨.instances, p, some text⟩) := by
  rw [mergeBoth, Run.outcome_bind_ok (outcome_mergeInstance p ifdGuid ledger), hgiven]
  -- the identifier of the type is asked for when the instance is in its table
  have hderived (s : Ledger) :
      (some <$> Run.ofExcept (typeGuid text)).outcome s = (.error (.guid e), s) := by
    rw [typeGuid_eq_error hread]
    rfl
  dsimp only
  rw [Run.outcome_bind_error (hderived _)]

/-- An entry put in changes nothing exactly if it is there. -/
theorem putEntry_eq_self_iff {l : ParameterTable} (hl : (l.map (·.1)).Nodup) {name : String}
    {p : Parameter} : putEntry l name p = l ↔ l.lookup name = some p := by
  constructor
  · intro h
    rw [← h, lookup_putEntry, if_pos (beq_self_eq_true name)]
  · intro h
    have hthere : l.any (·.1 == name) = true := any_key_eq_true_iff.mpr (mem_keys_of_lookup h)
    rw [putEntry, if_pos hthere]
    refine (List.map_congr_left fun entry hentry => ?_).trans (List.map_id l)
    split
    · next hname =>
      obtain ⟨key, q⟩ := entry
      obtain rfl : key = name := eq_of_beq hname
      -- no other entry is under the name
      have hq : l.lookup key = some q := (lookup_eq_some_iff_mem hl).mpr hentry
      rw [h] at hq
      rw [Option.some.inj hq]
      rfl
    · rfl

/-! ### Merges that are tried -/

/-- What a merge posts if it may fail. -/
def triedPostings (m : Merge) : List Posting :=
  if isUnreadable m.2 then [⟨.instances, m.1, carried m.2⟩] else mergePostings m.1 m.2

/-- What a merge that may fail leaves is what it posts. -/
theorem outcome_mergeBoth_snd (m : Merge) (ledger : Ledger) :
    ((mergeBoth m.1 m.2).outcome ledger).2 = ledger.postAll (triedPostings m) := by
  cases hm : isUnreadable m.2 with
  | true =>
    obtain ⟨text, e, hgiven, hread⟩ := isUnreadable_eq_true_iff.mp hm
    rw [outcome_mergeBoth_of_unreadable m.1 hgiven hread, triedPostings, hm, if_pos rfl, hgiven]
    rfl
  | false =>
    obtain ⟨entries, hboth⟩ := outcome_mergeBoth m.1 (isUnreadable_eq_false_iff.mp hm) ledger
    rw [hboth, triedPostings, hm, if_neg Bool.false_ne_true]

/-- A merge fails exactly if the property carries a text that spells no identifier. -/
theorem exists_outcome_error_iff (p : Parameter) (ifdGuid : Option String) (ledger : Ledger) :
    (∃ e after, (mergeBoth p ifdGuid).outcome ledger = (.error e, after)) ↔
      isUnreadable ifdGuid = true := by
  constructor
  · rintro ⟨e, after, hfails⟩
    by_contra hread
    rw [Bool.not_eq_true, isUnreadable_eq_false_iff] at hread
    obtain ⟨entries, hboth⟩ := outcome_mergeBoth p hread ledger
    rw [hboth] at hfails
    cases hfails
  · intro h
    obtain ⟨text, e, hgiven, hread⟩ := isUnreadable_eq_true_iff.mp h
    exact ⟨_, _, outcome_mergeBoth_of_unreadable p hgiven hread ledger⟩

namespace Ledger

/-- The ledger after merges that are tried one after the other; one that fails is passed over. -/
def tryEach (ledger : Ledger) (merges : List Merge) : Ledger :=
  merges.foldl (fun before m => ((mergeBoth m.1 m.2).outcome before).2) ledger

/-- Merges that are tried post what they can. -/
theorem tryEach_eq_postAll (ledger : Ledger) (merges : List Merge) :
    ledger.tryEach merges = ledger.postAll (merges.flatMap triedPostings) := by
  induction merges generalizing ledger with
  | nil => rfl
  | cons m merges ih =>
    rw [List.flatMap_cons, postAll_append, ← outcome_mergeBoth_snd, ← ih]
    rfl

/-- The names in a table after merges that are tried are those before, and those that are posted. -/
theorem mem_keys_table_tryEach {ledger : Ledger} {merges : List Merge} (side : Side)
    {name : String} :
    name ∈ ((ledger.tryEach merges).table side).map (·.1) ↔
      name ∈ (ledger.table side).map (·.1) ∨
        ∃ m ∈ merges, ∃ q ∈ triedPostings m, side = q.side ∧ name = q.parameter.name := by
  rw [tryEach_eq_postAll, mem_keys_table_postAll]
  refine or_congr_right ?_
  constructor
  · rintro ⟨q, hq, hposted⟩
    obtain ⟨m, hm, hq⟩ := List.mem_flatMap.mp hq
    exact ⟨m, hm, q, hq, hposted⟩
  · rintro ⟨m, hm, q, hq, hposted⟩
    exact ⟨q, List.mem_flatMap.mpr ⟨m, hm, hq⟩, hposted⟩

/-- Every parameter whose merge is tried is among the instances. -/
theorem mem_keys_instances_tryEach {ledger : Ledger} {merges : List Merge} {name : String} :
    name ∈ (ledger.tryEach merges).instances.map (·.1) ↔
      name ∈ ledger.instances.map (·.1) ∨ ∃ m ∈ merges, m.1.name = name := by
  have hposted (m : Merge) :
      (∃ q ∈ triedPostings m, Side.instances = q.side ∧ name = q.parameter.name) ↔
        m.1.name = name := by
    unfold triedPostings mergePostings
    split <;> simp [eq_comm]
  simp only [← hposted]
  exact mem_keys_table_tryEach .instances

/-- Only those whose merge does not fail have their types among the types. -/
theorem mem_keys_types_tryEach {ledger : Ledger} {merges : List Merge} {name : String} :
    name ∈ (ledger.tryEach merges).types.map (·.1) ↔
      name ∈ ledger.types.map (·.1) ∨
        ∃ m ∈ merges, isUnreadable m.2 = false ∧ typeParameterName m.1.name = name := by
  have hposted (m : Merge) :
      (∃ q ∈ triedPostings m, Side.types = q.side ∧ name = q.parameter.name) ↔
        isUnreadable m.2 = false ∧ typeParameterName m.1.name = name := by
    unfold triedPostings mergePostings
    split
    · next h => simp [h]
    · next h => simp [h, eq_comm]
  simp only [← hposted]
  exact mem_keys_table_tryEach .types

/-- No identifier that is posted when a merge is tried is the empty text. -/
theorem given_triedPostings_ne_empty {m : Merge} :
    ∀ q ∈ triedPostings m, ∀ text ∈ q.given, text ≠ "" := by
  unfold triedPostings
  split
  · rw [List.forall_mem_singleton]
    exact fun text htext => carried_ne_empty htext
  · exact given_mergePostings_ne_empty

/-- The tables mirror each other after merges that are tried exactly if no instance is left without
its type: every name whose merge failed has its type from before, or from a merge that did not. -/
theorem IsMirrored.tryEach_iff {ledger : Ledger} (h : ledger.IsMirrored) (merges : List Merge) :
    (ledger.tryEach merges).IsMirrored ↔
      ∀ m ∈ merges, isUnreadable m.2 = true →
        typeParameterName m.1.name ∈ ledger.types.map (·.1) ∨
          ∃ m' ∈ merges, isUnreadable m'.2 = false ∧
            typeParameterName m'.1.name = typeParameterName m.1.name := by
  constructor
  · intro hafter m hm _
    -- the type of every instance is there, and half a merge has put in an instance
    rw [← mem_keys_types_tryEach, hafter.names]
    exact ⟨m.1.name, mem_keys_instances_tryEach.mpr (.inr ⟨m, hm, rfl⟩), rfl⟩
  · intro hmended
    refine ⟨?_, ?_, fun name => ?_⟩
    · rw [tryEach_eq_postAll]
      exact forall_mem_postAll h.keyed fun _ _ _ _ => rfl
    · rw [tryEach_eq_postAll]
      refine h.identified.postAll fun q hq => ?_
      obtain ⟨m, -, hq⟩ := List.mem_flatMap.mp hq
      exact given_triedPostings_ne_empty q hq
    · constructor
      · intro hname
        rcases mem_keys_types_tryEach.mp hname with hname | ⟨m, hm, -, rfl⟩
        · obtain ⟨base, hbase, rfl⟩ := (h.names name).mp hname
          exact ⟨base, mem_keys_instances_tryEach.mpr (.inl hbase), rfl⟩
        · exact ⟨m.1.name, mem_keys_instances_tryEach.mpr (.inr ⟨m, hm, rfl⟩), rfl⟩
      · rintro ⟨base, hbase, rfl⟩
        rw [mem_keys_types_tryEach]
        rcases mem_keys_instances_tryEach.mp hbase with hbase | ⟨m, hm, rfl⟩
        · exact .inl ((h.names _).mpr ⟨base, hbase, rfl⟩)
        · cases hread : isUnreadable m.2 with
          | true => exact hmended m hm hread
          | false => exact .inr ⟨m, hm, hread, rfl⟩

end Ledger

/-! ### Failing merges -/

/-- **What failing merges leave.**  A merge fails exactly if the property carries a text that spells
no identifier.  Then the instance is in its table, with that text for its identifier, while the
types and the supply are as before; so the tables are as before only if that very entry was there
already.  Whatever merges are tried on tables that mirror each other, they mirror each other
afterwards exactly if every name whose merge failed has its type from elsewhere. -/
theorem failing_merges_tear_iff {before : Ledger} (hkeys : (before.instances.map (·.1)).Nodup) :
    (∀ p ifdGuid,
      ((∃ e after, (mergeBoth p ifdGuid).outcome before = (.error e, after)) ↔
        isUnreadable ifdGuid = true) ∧
      ∀ e after, (mergeBoth p ifdGuid).outcome before = (.error e, after) →
        ∃ text, carried ifdGuid = some text ∧ typeGuid text = .error e ∧
          before.IsTorn p text after ∧
          (after.instances = before.instances ∧ after.types = before.types ↔
            before.held? (.instances, p.name) = some { p with guid := some text })) ∧
    (before.IsMirrored → ∀ merges,
      ((before.tryEach merges).IsMirrored ↔
        ∀ m ∈ merges, isUnreadable m.2 = true →
          typeParameterName m.1.name ∈ before.types.map (·.1) ∨
            ∃ m' ∈ merges, isUnreadable m'.2 = false ∧
              typeParameterName m'.1.name = typeParameterName m.1.name)) := by
  refine ⟨fun p ifdGuid => ⟨exists_outcome_error_iff p ifdGuid before, fun e after hfails => ?_⟩,
    fun h merges => h.tryEach_iff merges⟩
  have hunreadable := (exists_outcome_error_iff p ifdGuid before).mp ⟨e, after, hfails⟩
  obtain ⟨text, error, hgiven, hread⟩ := isUnreadable_eq_true_iff.mp hunreadable
  rw [outcome_mergeBoth_of_unreadable p hgiven hread] at hfails
  cases hfails
  have htorn := before.isTorn_post p text
  refine ⟨text, hgiven, typeGuid_eq_error hread, htorn, ?_⟩
  -- nothing but the entry of the instance can have changed
  rw [htorn.instances, htorn.types, and_iff_left rfl]
  exact putEntry_eq_self_iff hkeys

/-- A length with an identifier, or without one. -/
def lengthParameter (name : String) (guid : Option Nat) : Parameter :=
  { name, guid := guid.map fun n => (Guid.ofNat n).text, paramType := .length }

/-- A width to be merged. -/
def widthParameter : Parameter :=
  lengthParameter "Width" none

/-- A height in both tables. -/
def heightLedger : Ledger where
  instances := [("Height", lengthParameter "Height" (some 1))]
  types := [("Height[Type]", lengthParameter "Height[Type]" (some 2))]
  supply := { fresh := Guid.ofNat, drawn := 2 }

theorem isMirrored_heightLedger : heightLedger.IsMirrored where
  keyed side := by
    cases side <;> simp [heightLedger, lengthParameter, Ledger.table]
  identified side := by
    cases side <;>
      simp [heightLedger, lengthParameter, Ledger.table, Parameter.IsIdentified, Guid.text_ne_empty]
  names name := by
    have himage : typeParameterName "Height" = "Height[Type]" := by decide
    simp [heightLedger, himage, eq_comm]

theorem read_notAGuid : Guid.read "not-a-guid" = .error .length := by
  decide +kernel

/-- A width whose property carries no identifier but some text is merged by half, beside a height;
a second merge makes up for it. -/
theorem failing_merges_tear_iff_width :
    (heightLedger.instances.map (·.1)).Nodup ∧ heightLedger.IsMirrored ∧
      (∃ e after, (mergeBoth widthParameter (some "not-a-guid")).outcome heightLedger =
          (.error e, after) ∧ heightLedger.IsTorn widthParameter "not-a-guid" after ∧
        ¬(after.instances = heightLedger.instances ∧ after.types = heightLedger.types)) ∧
      ¬(heightLedger.tryEach [(widthParameter, some "not-a-guid")]).IsMirrored ∧
      (heightLedger.tryEach
        [(widthParameter, some "not-a-guid"), (widthParameter, none)]).IsMirrored := by
  have hkeys : (heightLedger.instances.map (·.1)).Nodup := List.nodup_singleton _
  have hunreadable : isUnreadable (some "not-a-guid") = true :=
    isUnreadable_eq_true_iff.mpr ⟨_, _, rfl, read_notAGuid⟩
  obtain ⟨hcall, htried⟩ := failing_merges_tear_iff hkeys
  obtain ⟨hfails, hleaves⟩ := hcall widthParameter (some "not-a-guid")
  obtain ⟨e, after, houtcome⟩ := hfails.mpr hunreadable
  obtain ⟨text, hgiven, -, htorn, hsame⟩ := hleaves e after houtcome
  obtain rfl : "not-a-guid" = text := Option.some.inj hgiven
  have hmirrored := htried isMirrored_heightLedger
  refine ⟨hkeys, isMirrored_heightLedger, ⟨e, after, houtcome, htorn, ?_⟩, ?_, ?_⟩
  · rw [hsame]
    decide
  · rw [hmirrored]
    intro h
    have hwidth := h _ List.mem_cons_self hunreadable
    revert hwidth
    decide +kernel
  · rw [hmirrored]
    intro m hm _
    refine .inr ⟨(widthParameter, none), by simp, rfl, ?_⟩
    rcases List.mem_cons.mp hm with rfl | hm
    · rfl
    · rw [List.mem_singleton.mp hm]

/-- Merges are not atomic: one that fails can leave an instance behind that was not there. -/
theorem not_mergesAtomically_width : ¬MergesAtomically := by
  intro h
  have hgiven : carried (some "not-a-guid") = some "not-a-guid" := rfl
  have hfails := outcome_mergeBoth_of_unreadable widthParameter hgiven read_notAGuid heightLedger
  -- the table had one entry and has two
  have hlength := congrArg List.length (h _ _ _ _ _ hfails).1
  revert hlength
  decide +kernel

end PsetCompiler
