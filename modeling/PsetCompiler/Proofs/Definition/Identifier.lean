import PsetCompiler.Definition.Header
import PsetCompiler.Proofs.Guid.Spelling
import PsetCompiler.Proofs.Parameter.Merge

/-!
# Identifiers of definitions

The identifier that a set or a property carries is kept in its written form, whichever of its
spellings the definition has, so identifiers can be compared as texts from one run to the next.  A
text that spells none is dropped, and this is reported unless the text is blank.

## Main results

* `normalizeGuid_of_isSpelling` — all spellings of an identifier come to the same.
* `normalizeGuid_cases` — what can come of a text.
* `normalizeGuid_canonical` — **an identifier has one form, and this form stays.**
-/

namespace PsetCompiler

/-- An identifier that can be read is kept in its written form, without a report. -/
theorem normalizeGuid_of_read? {raw : String} {g : Guid} (h : Guid.read? (Text.strip raw) = some g)
    (place : String) : normalizeGuid (some raw) place = pure (some g.text) := by
  have hblank : Text.isBlankText raw = false := by
    rw [← Bool.not_eq_true]
    intro hblank
    -- nothing is left of a blank text, and nothing spells no identifier
    have hall : ∀ c ∈ raw.toList, Text.isBlank c = true := List.all_eq_true.mp hblank
    have hnone : Text.trimBy Text.isBlank ([] ++ [] ++ raw.toList) = [] :=
      Text.trimBy_around (List.forall_mem_nil _) hall []
    rw [Text.strip, ← List.nil_append raw.toList, ← List.append_nil [], hnone] at h
    cases h
  rw [normalizeGuid]
  simp only [hblank, Bool.false_eq_true, if_false, h]

/-- All spellings of an identifier come to the same. -/
theorem normalizeGuid_of_isSpelling {g : Guid} {raw : String} (h : g.IsSpelling raw)
    (place : String) : normalizeGuid (some raw) place = pure (some g.text) :=
  normalizeGuid_of_read? (Guid.read?_of_isSpelling h) place

/-- The written form stays as it is. -/
theorem normalizeGuid_text (g : Guid) (place : String) :
    normalizeGuid (some g.text) place = pure (some g.text) :=
  normalizeGuid_of_read? (by rw [g.strip_text, Guid.read?_text]) place

/-- What can come of a text: nothing if it is blank, an identifier in the written form, or nothing
and one report. -/
theorem normalizeGuid_cases (raw : Option String) (place : String) :
    (normalizeGuid raw place = pure none ∧ ∀ text ∈ raw, Text.isBlankText text = true) ∨
      (∃ g : Guid, normalizeGuid raw place = pure (some g.text)) ∨
      ∃ text ∈ raw, Text.isBlankText text = false ∧
        normalizeGuid raw place = ⟨none, [.malformedGuid place text]⟩ := by
  cases raw with
  | none => exact .inl ⟨rfl, nofun⟩
  | some raw =>
    cases hblank : Text.isBlankText raw with
    | true =>
      refine .inl ⟨by rw [normalizeGuid, if_pos hblank], ?_⟩
      rintro text ⟨⟩
      exact hblank
    | false =>
      cases hread : Guid.read? (Text.strip raw) with
      | some g => exact .inr (.inl ⟨g, normalizeGuid_of_read? hread place⟩)
      | none =>
        refine .inr (.inr ⟨raw, rfl, hblank, ?_⟩)
        rw [normalizeGuid]
        simp only [hblank, Bool.false_eq_true, if_false, hread]
        rfl

/-- **An identifier has one form, and this form stays.**  All spellings of an identifier come to its
written form, and so does whatever else is read as the identifier.  Whatever a text is, nothing
comes of it without a report if it is absent or blank; else what comes of it is five groups of small
hexadecimal digits, or nothing with one warning.  Any text of five such groups stays as it is,
without a report, and the identifier of a type can be derived from it. -/
theorem normalizeGuid_canonical (place : String) :
    (∀ (g : Guid) (raw : String), g.IsSpelling raw →
      normalizeGuid (some raw) place = pure (some g.text)) ∧
    (∀ (g : Guid) (raw : String), Guid.read? (Text.strip raw) = some g →
      normalizeGuid (some raw) place = pure (some g.text)) ∧
    (∀ raw : Option String,
      (normalizeGuid raw place = pure none ∧ ∀ text ∈ raw, Text.isBlankText text = true) ∨
      (∃ c, Guid.IsGrouped c ∧ normalizeGuid raw place = pure (some c)) ∨
      ∃ text ∈ raw, Text.isBlankText text = false ∧
        normalizeGuid raw place = ⟨none, [.malformedGuid place text]⟩ ∧
        (Diagnostic.malformedGuid place text).level = .warning) ∧
    ∀ c, Guid.IsGrouped c → normalizeGuid (some c) place = pure (some c) ∧
      ∃ derived, typeGuid c = .ok derived ∧ Guid.IsGrouped derived := by
  refine ⟨fun g raw h => normalizeGuid_of_isSpelling h place,
    fun g raw h => normalizeGuid_of_read? h place, fun raw => ?_, fun c hc => ?_⟩
  · rcases normalizeGuid_cases raw place with hnone | ⟨g, hg⟩ | ⟨text, htext, hblank, hreport⟩
    · exact .inl hnone
    · exact .inr (.inl ⟨g.text, g.isGrouped_text, hg⟩)
    · exact .inr (.inr ⟨text, htext, hblank, hreport, rfl⟩)
  · obtain ⟨g, rfl⟩ := Guid.isGrouped_iff.mp hc
    exact ⟨normalizeGuid_text g place, _, typeGuid_eq_ok g.read?_text, Guid.isGrouped_text _⟩

/-- The identifier of a door. -/
def doorGuid : Guid :=
  Guid.ofNat 0xf1c2e6d00a4b4a539d3a6a2f0c1b7e55

/-- A spelling of it in capitals, behind the mark, in braces and with white space around. -/
def doorSpelling : String :=
  "\t urn:uuid:\x7bF1C2E6D0-0A4B-4A53-9D3A-6A2F0C1B7E55\x7d\n"

theorem normalizeGuid_canonical_door :
    doorGuid.IsSpelling doorSpelling ∧ Guid.IsGrouped "f1c2e6d0-0a4b-4a53-9d3a-6a2f0c1b7e55" ∧
      normalizeGuid (some doorSpelling) "Pset_Door" =
        pure (some "f1c2e6d0-0a4b-4a53-9d3a-6a2f0c1b7e55") ∧
      normalizeGuid (some "f1c2e6d0-0a4b-4a53-9d3a-6a2f0c1b7e55") "Pset_Door" =
        pure (some "f1c2e6d0-0a4b-4a53-9d3a-6a2f0c1b7e55") := by
  have htext : doorGuid.text = "f1c2e6d0-0a4b-4a53-9d3a-6a2f0c1b7e55" := by decide +kernel
  have hgrouped : Guid.IsGrouped "f1c2e6d0-0a4b-4a53-9d3a-6a2f0c1b7e55" :=
    htext ▸ doorGuid.isGrouped_text
  have hspelling : doorGuid.IsSpelling doorSpelling := by
    refine ⟨"\t ".toList, "F1C2E6D0-0A4B-4A53-9D3A-6A2F0C1B7E55".toList, _, "\n".toList, rfl,
      List.all_eq_true.mp rfl, List.all_eq_true.mp rfl, ?_, .marked (.braced .bare)⟩
    decide +kernel
  obtain ⟨hspellings, -, -, hstays⟩ := normalizeGuid_canonical "Pset_Door"
  refine ⟨hspelling, hgrouped, ?_, (hstays _ hgrouped).1⟩
  rw [hspellings doorGuid doorSpelling hspelling, htext]

end PsetCompiler
