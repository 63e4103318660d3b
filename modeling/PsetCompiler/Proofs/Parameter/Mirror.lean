import PsetCompiler.Proofs.Parameter.Identified

/-!
# The table of types mirrors the table of instances

Every parameter is merged twice, under its own name and under the name of the type.  Different
names may give one name of a type, since a name that already ends as those of types do is left as it
is; so the entry of a type may come from parameters of several names, and the last one counts.

That the names of the one table are the images of the names of the other is an invariant: one merge
puts in a name and its image.  What an entry holds follows from the last posting to its slot.

## Main definitions

* `Ledger.IsMirrored` — the invariant of both tables together.
* `mergeEach`, `lastMerged` — parameters merged one after the other, and the last of some kind.

## Main results

* `Ledger.IsMirrored.merge`, `Ledger.IsMirrored.mergeAll` — merging keeps the invariant.
* `mergeEach_mirrors` — **what any sequence of merges leaves in both tables.**
-/

namespace PsetCompiler

/-- A merge that is asked for: a parameter, and the identifier that its property carries. -/
abbrev Merge := Parameter × Option String

/-- Parameters merged into both tables, one after the other. -/
def mergeEach (merges : List Merge) : Run Ledger Unit :=
  merges.forM fun m => do
    let _ ← mergeBoth m.1 m.2

/-- The parameter that was merged last among those of some kind. -/
def lastMerged (merges : List Merge) (kind : Parameter → Bool) : Option Parameter :=
  ((merges.map (·.1)).filter kind).getLast?

theorem lastMerged_concat (merges : List Merge) (m : Merge) (kind : Parameter → Bool) :
    lastMerged (merges ++ [m]) kind = if kind m.1 then some m.1 else lastMerged merges kind := by
  rw [lastMerged, List.map_append, List.map_singleton, List.filter_append]
  split
  · next h => simp [h]
  · next h => simp [h, lastMerged]

/-! ### What a merge posts -/

/-- What merges post. -/
def postingsOfEach (merges : List Merge) : List Posting :=
  merges.flatMap fun m => mergePostings m.1 m.2

theorem postingsOfEach_concat (merges : List Merge) (m : Merge) :
    postingsOfEach (merges ++ [m]) = postingsOfEach merges ++ mergePostings m.1 m.2 := by
  rw [postingsOfEach, List.flatMap_append, List.flatMap_singleton]
  rfl

/-- A merge comes to its end only if the identifier that is carried can be read. -/
theorem isSome_read?_of_mergeBoth {p : Parameter} {ifdGuid : Option String} {ledger after : Ledger}
    {entries : Parameter × Parameter}
    (h : (mergeBoth p ifdGuid).outcome ledger = (.ok entries, after)) :
    ∀ text, carried ifdGuid = some text → (Guid.read? text).isSome := by
  intro text htext
  rw [mergeBoth, Run.outcome_bind_ok (outcome_mergeInstance p ifdGuid ledger), htext] at h
  obtain ⟨external, between, hderived, -⟩ := Run.outcome_bind_eq_ok_iff.mp h
  cases hread : Guid.read text with
  | ok g => rw [Guid.read?, hread]; rfl
  | error e =>
    unfold typeGuid at hderived
    rw [hread] at hderived
    cases hderived

/-- Merges that come to their end have posted what they make. -/
theorem eq_postAll_of_mergeEach {merges : List Merge} {before after : Ledger}
    (h : (mergeEach merges).outcome before = (.ok (), after)) :
    after = before.postAll (postingsOfEach merges) := by
  induction merges generalizing before with
  | nil => exact (congrArg Prod.snd h).symm
  | cons m merges ih =>
    obtain ⟨_, between, hfirst, hrest⟩ := Run.outcome_bind_eq_ok_iff.mp h
    obtain ⟨entries, merged, hboth, hdone⟩ := Run.outcome_bind_eq_ok_iff.mp hfirst
    have hbetween : merged = between := congrArg Prod.snd hdone
    obtain ⟨_, hposted⟩ := outcome_mergeBoth m.1 (isSome_read?_of_mergeBoth hboth) before
    have hmerged : before.postAll (mergePostings m.1 m.2) = merged :=
      congrArg Prod.snd (hposted.symm.trans hboth)
    rw [ih hrest, ← hbetween, ← hmerged, ← Ledger.postAll_append]
    rfl

/-- Merges come to their end when every identifier that is carried can be read. -/
theorem outcome_mergeEach {merges : List Merge}
    (hread : ∀ m ∈ merges, ∀ text, carried m.2 = some text → (Guid.read? text).isSome)
    (ledger : Ledger) :
    (mergeEach merges).outcome ledger = (.ok (), ledger.postAll (postingsOfEach merges)) := by
  have hstep : ∀ m ∈ merges, ∀ ledger : Ledger,
      Run.outcome (do let _ ← mergeBoth m.1 m.2) ledger =
        (.ok (), ledger.postAll (mergePostings m.1 m.2)) := by
    intro m hm ledger
    obtain ⟨entries, hboth⟩ := outcome_mergeBoth m.1 (hread m hm) ledger
    rw [Run.outcome_bind_ok hboth]
    rfl
  rw [mergeEach, Run.outcome_forM hstep]
  rw [postingsOfEach, Ledger.postAll, List.foldl_flatMap]
  rfl

/-- No identifier that a merge posts is the empty text. -/
theorem given_mergePostings_ne_empty {p : Parameter} {ifdGuid : Option String} :
    ∀ q ∈ mergePostings p ifdGuid, ∀ text ∈ q.given, text ≠ "" := by
  rw [mergePostings, List.forall_mem_cons, List.forall_mem_singleton]
  refine ⟨fun text htext => carried_ne_empty htext, fun text htext => ?_⟩
  obtain ⟨base, -, hderived⟩ := Option.bind_eq_some_iff.mp htext
  obtain ⟨g, rfl⟩ := exists_text_of_derivedGuid? hderived
  exact g.text_ne_empty

/-! ### The invariant -/

namespace Ledger

/-- The table of types mirrors the table of instances. -/
structure IsMirrored (ledger : Ledger) : Prop where
  /-- An entry is under its own name, -/
  keyed : ∀ side, ∀ entry ∈ ledger.table side, entry.2.name = entry.1
  /-- and it has an identifier. -/
  identified : ledger.IsIdentified
  /-- The names of types are the images of the names of instances. -/
  names : ∀ name, name ∈ ledger.types.map (·.1) ↔
    ∃ base ∈ ledger.instances.map (·.1), typeParameterName base = name

variable {ledger : Ledger}

/-- Empty tables mirror each other. -/
theorem IsMirrored.of_empty (hi : ledger.instances = []) (ht : ledger.types = []) :
    ledger.IsMirrored := by
  have hempty (side : Side) : ledger.table side = [] := by
    cases side with
    | instances => exact hi
    | types => exact ht
  constructor
  · simp [hempty]
  · simp [IsIdentified, hempty]
  · simp [hi, ht]

/-- A posting adds the name of its parameter to the names of its table. -/
theorem mem_keys_table_post {p : Posting} (side : Side) {name : String} :
    name ∈ ((ledger.post p).table side).map (·.1) ↔
      name ∈ (ledger.table side).map (·.1) ∨ side = p.side ∧ name = p.parameter.name := by
  rw [table_post]
  by_cases hside : side = p.side
  · rw [if_pos hside, keys_putEntry]
    split
    · next hthere =>
      rw [any_key_eq_true_iff] at hthere
      refine ⟨.inl, ?_⟩
      rintro (hmem | ⟨-, rfl⟩)
      · exact hmem
      · exact hthere
    · rw [List.mem_append, List.mem_singleton]
      simp [hside]
  · rw [if_neg hside]
    simp [hside]

/-- The names in a table after some postings are those before, and those of the postings to it. -/
theorem mem_keys_table_postAll {ledger : Ledger} {ps : List Posting} (side : Side) {name : String} :
    name ∈ ((ledger.postAll ps).table side).map (·.1) ↔
      name ∈ (ledger.table side).map (·.1) ∨ ∃ q ∈ ps, side = q.side ∧ name = q.parameter.name := by
  induction ps using List.reverseRecOn with
  | nil => simp [postAll]
  | append_singleton ps p ih =>
    rw [postAll_concat, mem_keys_table_post, ih]
    simp [or_and_right, exists_or, or_assoc]

/-- **One merge keeps the tables mirrored.** -/
theorem IsMirrored.merge (h : ledger.IsMirrored) (m : Merge) :
    (ledger.postAll (mergePostings m.1 m.2)).IsMirrored where
  keyed := forall_mem_postAll h.keyed fun _ _ _ _ => rfl
  identified := h.identified.postAll given_mergePostings_ne_empty
  names := by
    intro name
    -- the names of instances have one more, and those of types have its image
    have hinstances (base : String) :
        base ∈ (ledger.postAll (mergePostings m.1 m.2)).instances.map (·.1) ↔
          base ∈ ledger.instances.map (·.1) ∨ base = m.1.name := by
      refine (mem_keys_table_postAll .instances).trans ?_
      simp [table, mergePostings]
    have htypes : name ∈ (ledger.postAll (mergePostings m.1 m.2)).types.map (·.1) ↔
        name ∈ ledger.types.map (·.1) ∨ name = typeParameterName m.1.name := by
      refine (mem_keys_table_postAll .types).trans ?_
      simp [table, mergePostings]
    simp only [htypes, hinstances, h.names, or_and_right, exists_or, exists_eq_left]
    rw [eq_comm (a := name)]

/-- Merging keeps the tables mirrored. -/
theorem IsMirrored.mergeAll (h : ledger.IsMirrored) (merges : List Merge) :
    (ledger.postAll (postingsOfEach merges)).IsMirrored := by
  induction merges using List.reverseRecOn with
  | nil => exact h
  | append_singleton merges m ih =>
    rw [postingsOfEach_concat, postAll_append]
    exact ih.merge m

end Ledger

/-! ### The entries -/

theorem lastPosting_mergePostings (ps : List Posting) (m : Merge) (slot : Slot) :
    Ledger.lastPosting (ps ++ mergePostings m.1 m.2) slot =
      if slot = (.types, typeParameterName m.1.name) then
        some ⟨.types, { m.1 with name := typeParameterName m.1.name, guid := none },
          (carried m.2).bind derivedGuid?⟩
      else if slot = (.instances, m.1.name) then some ⟨.instances, m.1, carried m.2⟩
      else Ledger.lastPosting ps slot := by
  rw [mergePostings, List.append_cons, Ledger.lastPosting_concat, Ledger.lastPosting_concat]
  rfl

/-- The last posting to a slot of instances brings the parameter last merged under the name. -/
theorem lastPosting_instances (merges : List Merge) (name : String) :
    (Ledger.lastPosting (postingsOfEach merges) (.instances, name)).map (·.parameter) =
      lastMerged merges (·.name = name) := by
  induction merges using List.reverseRecOn with
  | nil => rfl
  | append_singleton merges m ih =>
    rw [postingsOfEach_concat, lastPosting_mergePostings, lastMerged_concat, ← ih]
    by_cases hname : m.1.name = name
    · simp [hname]
    · simp [hname, Ne.symm hname]

/-- The last posting to a slot of types brings the parameter last merged among those for whose type
the name is, but for the name. -/
theorem lastPosting_types (merges : List Merge) (name : String) :
    (Ledger.lastPosting (postingsOfEach merges) (.types, name)).map (·.parameter) =
      (lastMerged merges (typeParameterName ·.name = name)).map fun p =>
        { p with name, guid := none } := by
  induction merges using List.reverseRecOn with
  | nil => rfl
  | append_singleton merges m ih =>
    rw [postingsOfEach_concat, lastPosting_mergePostings, lastMerged_concat]
    by_cases hname : typeParameterName m.1.name = name
    · simp [hname]
    · simp [hname, Ne.symm hname, ih]

/-- **The table of types mirrors the table of instances.**  Merges that come to their end keep the
tables mirrored.  The entry of an instance is the parameter that was last merged under its name, but
for the identifier; the entry of a type is the one that was last merged among all whose type has its
name, but for the name and the identifier. -/
theorem mergeEach_mirrors {before after : Ledger} {merges : List Merge} (h : before.IsMirrored)
    (hrun : (mergeEach merges).outcome before = (.ok (), after)) :
    after.IsMirrored ∧
      (∀ name p, lastMerged merges (·.name = name) = some p →
        ∃ guid, after.held? (.instances, name) = some { p with guid }) ∧
      ∀ name p, lastMerged merges (typeParameterName ·.name = name) = some p →
        ∃ guid, after.held? (.types, name) = some { p with name, guid } := by
  rw [eq_postAll_of_mergeEach hrun]
  refine ⟨h.mergeAll merges, fun name p hlast => ?_, fun name p hlast => ?_⟩
  · rw [← lastPosting_instances] at hlast
    obtain ⟨q, hq, rfl⟩ := Option.map_eq_some_iff.mp hlast
    exact before.held?_postAll_of_lastPosting hq
  · have htypes := lastPosting_types merges name
    rw [hlast, Option.map_some] at htypes
    obtain ⟨q, hq, hparameter⟩ := Option.map_eq_some_iff.mp htypes
    obtain ⟨guid, hheld⟩ := before.held?_postAll_of_lastPosting hq
    rw [hparameter] at hheld
    exact ⟨guid, hheld⟩

/-- Two names of instances that have one name of a type: the parameter that is merged last counts
there, and the parameter of the first name is merged again between them. -/
def widthMerges : List Merge :=
  [({ name := "Width", paramType := .length, description := "IfcLengthMeasure" }, none),
    ({ name := "Width[Type]", paramType := .number }, none),
    ({ name := "Width", paramType := .text, owningSet := some "Pset_DoorCommon" },
      some "f1c2e6d0-0a4b-4a53-9d3a-6a2f0c1b7e55"),
    ({ name := "Width[Type]", paramType := .length, visible := false }, none)]

theorem mergeEach_mirrors_width :
    ({ supply := { fresh := Guid.ofNat } } : Ledger).IsMirrored ∧
      ∃ after, (mergeEach widthMerges).outcome { supply := { fresh := Guid.ofNat } } =
          (.ok (), after) ∧ after.IsMirrored ∧
        (∃ guid, after.held? (.instances, "Width") = some
          { name := "Width", paramType := .text, owningSet := some "Pset_DoorCommon", guid }) ∧
        ∃ guid, after.held? (.types, "Width[Type]") = some
          { name := "Width[Type]", paramType := .length, visible := false, guid } := by
  have hstart : ({ supply := { fresh := Guid.ofNat } } : Ledger).IsMirrored := .of_empty rfl rfl
  have hread : ∀ m ∈ widthMerges, ∀ text, carried m.2 = some text →
      (Guid.read? text).isSome := by
    simp only [widthMerges, List.forall_mem_cons]
    decide +kernel
  have hrun := outcome_mergeEach hread { supply := { fresh := Guid.ofNat } }
  obtain ⟨hmirrored, hinstances, htypes⟩ := mergeEach_mirrors hstart hrun
  exact ⟨hstart, _, hrun, hmirrored,
    hinstances _ { name := "Width", paramType := .text, owningSet := some "Pset_DoorCommon" } rfl,
    htypes _ { name := "Width[Type]", paramType := .length, visible := false }
      (by decide +kernel)⟩

end PsetCompiler
