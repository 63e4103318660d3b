import PsetCompiler.Parameter.File
import PsetCompiler.Proofs.Parameter.Row
import PsetCompiler.Proofs.Text.Order

/-!
# Parameters that can be written

Only a parameter with an identifier, and with a group that has not too many digits, can be written
as a row.  A posting puts in the identifier that comes with it, or keeps the one that it finds, or
draws one; so when everything in the tables has an identifier and none that comes with a posting is
the empty text, the same is true after it.  The group is that of the parameter that is posted.

## Main definitions

* `Parameter.IsIdentified`, `Ledger.IsIdentified` — a parameter has an identifier, and all in both
  tables have.
* `Parameter.IsWritable`, `Ledger.IsWritable` — it has a group that can be written, too.

## Main results

* `exists_formatRow_iff`, `exists_fileText_iff` — **the parameters and the tables that can be
  written.**
* `Ledger.IsIdentified.postAll`, `Ledger.IsWritable.postAll` — postings keep tables so.
-/

namespace PsetCompiler

/-- A parameter has an identifier, and it is not the empty text. -/
def Parameter.IsIdentified (p : Parameter) : Prop :=
  ∃ guid, p.guid = some guid ∧ guid ≠ ""

/-- A parameter has an identifier, and the number of its group can be written. -/
structure Parameter.IsWritable (p : Parameter) : Prop where
  identified : p.IsIdentified
  group : Text.IsWritable p.groupId

/-- A parameter has a row exactly when it has an identifier and a group that can be written. -/
theorem exists_formatRow_iff {p : Parameter} :
    (∃ row, formatRow p = .ok row) ↔ p.IsWritable := by
  unfold formatRow
  constructor
  · rintro ⟨row, hrow⟩
    split at hrow
    · cases hrow
    · next guid hguid =>
      rw [Option.filter_eq_some_iff] at hguid
      obtain ⟨group, hgroup, -⟩ := except_bind_eq_ok_iff.mp hrow
      exact { identified := ⟨guid, hguid.1, of_decide_eq_true hguid.2⟩
              group := isWritable_of_formatNumber hgroup }
  · rintro ⟨⟨guid, hguid, hne⟩, hgroup⟩
    have hkept : p.guid.filter (· ≠ "") = some guid :=
      Option.filter_eq_some_iff.mpr ⟨hguid, decide_eq_true hne⟩
    rw [hkept]
    dsimp only
    rw [formatNumber_eq_ok hgroup]
    exact ⟨_, rfl⟩

theorem exists_formatRows_iff {entries : List (String × Parameter)} :
    (∃ rows, formatRows entries = .ok rows) ↔ ∀ entry ∈ entries, entry.2.IsWritable := by
  induction entries with
  | nil => exact ⟨nofun, fun _ => ⟨[], rfl⟩⟩
  | cons entry entries ih =>
    rw [List.forall_mem_cons, ← ih, ← exists_formatRow_iff, formatRows]
    constructor
    · rintro ⟨rows, h⟩
      obtain ⟨row, hrow, h⟩ := except_bind_eq_ok_iff.mp h
      obtain ⟨others, hothers, -⟩ := except_bind_eq_ok_iff.mp h
      exact ⟨⟨row, hrow⟩, others, hothers⟩
    · rintro ⟨⟨row, hrow⟩, others, hothers⟩
      rw [hrow, hothers]
      exact ⟨_, rfl⟩

/-- A table has a text exactly when everything in it can be written, and so can the group of the
header. -/
theorem exists_fileText_iff {table : ParameterTable} {groupId : Int} {groupName : String} :
    (∃ text, fileText table groupId groupName = .ok text) ↔
      Text.IsWritable groupId ∧ ∀ entry ∈ table, entry.2.IsWritable := by
  have hsorted : (∀ entry ∈ table, entry.2.IsWritable) ↔
      ∀ entry ∈ Text.sortBy (·.1) table, entry.2.IsWritable := by
    simp only [Text.mem_sortBy]
  rw [hsorted, ← exists_formatRows_iff, fileText]
  constructor
  · rintro ⟨text, h⟩
    obtain ⟨header, hheader, h⟩ := except_bind_eq_ok_iff.mp h
    obtain ⟨number, hnumber, -⟩ := except_bind_eq_ok_iff.mp hheader
    obtain ⟨rows, hrows, -⟩ := except_bind_eq_ok_iff.mp h
    exact ⟨isWritable_of_formatNumber hnumber, rows, hrows⟩
  · rintro ⟨hgroup, rows, hrows⟩
    rw [formatHeader_eq_ok hgroup, hrows]
    exact ⟨_, rfl⟩

theorem carried_ne_empty {guid : Option String} {text : String} (h : carried guid = some text) :
    text ≠ "" := by
  rw [carried, Option.filter_eq_some_iff] at h
  exact of_decide_eq_true h.2

namespace Ledger

/-- Everything in both tables has an identifier. -/
def IsIdentified (ledger : Ledger) : Prop :=
  ∀ side, ∀ entry ∈ ledger.table side, entry.2.IsIdentified

/-- What is posted has an identifier, too. -/
theorem IsIdentified.postAll {ledger : Ledger} (h : ledger.IsIdentified) {ps : List Posting}
    (hps : ∀ p ∈ ps, ∀ text ∈ p.given, text ≠ "") : (ledger.postAll ps).IsIdentified :=
  forall_mem_postAll (P := fun e => e.2.IsIdentified) h fun p hp _ hbefore =>
    guidFor_keeps (Q := fun guid => ∃ text, guid = some text ∧ text ≠ "") (hbefore p.side)
      (fun text htext => ⟨text, rfl, hps p hp text htext⟩) fun g => ⟨_, rfl, g.text_ne_empty⟩

/-- Everything in both tables can be written. -/
def IsWritable (ledger : Ledger) : Prop :=
  ∀ side, ∀ entry ∈ ledger.table side, entry.2.IsWritable

theorem IsWritable.isIdentified {ledger : Ledger} (h : ledger.IsWritable) : ledger.IsIdentified :=
  fun side entry hentry => (h side entry hentry).identified

/-- Postings with groups that can be written keep tables writable. -/
theorem IsWritable.postAll {ledger : Ledger} (h : ledger.IsWritable) {ps : List Posting}
    (hgiven : ∀ p ∈ ps, ∀ text ∈ p.given, text ≠ "")
    (hgroups : ∀ p ∈ ps, Text.IsWritable p.parameter.groupId) : (ledger.postAll ps).IsWritable := by
  have hgroup := forall_mem_postAll (P := fun e => Text.IsWritable e.2.groupId)
    (fun side entry hentry => (h side entry hentry).group) fun p hp _ _ => hgroups p hp
  exact fun side entry hentry =>
    { identified := h.isIdentified.postAll hgiven side entry hentry
      group := hgroup side entry hentry }

end Ledger

theorem exists_text_of_derivedGuid? {base text : String} (h : derivedGuid? base = some text) :
    ∃ g : Guid, text = g.text := by
  unfold derivedGuid? typeGuid at h
  split at h
  · next g _ => exact ⟨g.derive typeSuffix, (Option.some.inj h).symm⟩
  · cases h

/-- No identifier that a catalog posts is the empty text: an empty one counts as none. -/
theorem Catalog.given_postings_ne_empty {catalog : Catalog} {qualified : Bool} {groupId : Int} :
    ∀ p ∈ catalog.postings qualified groupId, ∀ text ∈ p.given, text ≠ "" := by
  intro p hp text htext
  obtain ⟨o, -, hp⟩ := List.mem_flatMap.mp hp
  rw [Occurrence.postings, List.mem_cons, List.mem_singleton] at hp
  rcases hp with rfl | rfl
  · exact carried_ne_empty htext
  · obtain ⟨base, -, htext⟩ := Option.bind_eq_some_iff.mp htext
    obtain ⟨g, rfl⟩ := exists_text_of_derivedGuid? htext
    exact g.text_ne_empty

/-- All that a catalog posts is of one group. -/
theorem Catalog.groupId_of_mem_postings {catalog : Catalog} {qualified : Bool} {groupId : Int} :
    ∀ p ∈ catalog.postings qualified groupId, p.parameter.groupId = groupId := by
  intro p hp
  obtain ⟨o, -, hp⟩ := List.mem_flatMap.mp hp
  rw [Occurrence.postings, List.mem_cons, List.mem_singleton] at hp
  rcases hp with rfl | rfl <;> rfl

end PsetCompiler
