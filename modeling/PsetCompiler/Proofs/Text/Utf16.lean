import PsetCompiler.Proofs.Text.Utf8

/-!
# Reading back UTF-16

What is written in UTF-16 is read back, whichever octet of a unit comes first, and nothing else is
read.  Two octets are one unit in either order, so the machine is followed unit by unit: between two
units nothing is pending, or the first unit of a pair.

## Main definitions

* `Utf16.Pending` — the octets that lead from a border into a character.

## Main results

* `reads_utf16` — the machine reads what is written in UTF-16.
-/

namespace PsetCompiler.Text

/-- The octets of a character in UTF-16. -/
def encodeCharUtf16 (order : ByteOrder) (c : Char) : Bytes :=
  (utf16Units c).flatMap order.encode

/-! ### Units -/

theorem ByteOrder.unit_lt (order : ByteOrder) (first second : UInt8) :
    order.unit first second < 0x10000 := by
  have hfirst := first.toNat_lt
  have hsecond := second.toNat_lt
  cases order with
  | little =>
    rw [unit]
    omega
  | big =>
    rw [unit]
    omega

/-- Two octets are those of the unit that they make. -/
theorem ByteOrder.encode_unit (order : ByteOrder) (first second : UInt8) :
    order.encode (order.unit first second) = [first, second] := by
  have hfirst := first.toNat_lt
  have hsecond := second.toNat_lt
  cases order with
  | little =>
    have hlow : (first.toNat + 256 * second.toNat) % 256 = first.toNat := by omega
    have hhigh : (first.toNat + 256 * second.toNat) / 256 = second.toNat := by omega
    rw [encode, unit, hlow, hhigh, toUInt8_toNat, toUInt8_toNat]
  | big =>
    have hlow : (256 * first.toNat + second.toNat) % 256 = second.toNat := by omega
    have hhigh : (256 * first.toNat + second.toNat) / 256 = first.toNat := by omega
    rw [encode, unit, hlow, hhigh, toUInt8_toNat, toUInt8_toNat]

/-- The octets of a unit make that unit. -/
theorem ByteOrder.exists_encode_eq (order : ByteOrder) {unit : Nat} (h : unit < 0x10000) :
    ∃ first second, order.encode unit = [first, second] ∧ order.unit first second = unit := by
  have hlow : (unit % 256).toUInt8.toNat = unit % 256 := toNat_toUInt8 (by omega)
  have hhigh : (unit / 256).toUInt8.toNat = unit / 256 := toNat_toUInt8 (by omega)
  cases order with
  | little =>
    refine ⟨_, _, rfl, ?_⟩
    rw [ByteOrder.unit, hlow, hhigh]
    omega
  | big =>
    refine ⟨_, _, rfl, ?_⟩
    rw [ByteOrder.unit, hlow, hhigh]
    omega

theorem utf16Units_of_lt {n : Nat} (h : n < 0x10000) (hvalid : n.isValidChar) :
    utf16Units (Char.ofNat n) = [n] := by
  rw [utf16Units, toNat_ofNat hvalid, if_pos h]

/-- Two units from the ranges of surrogates are those of one character. -/
theorem utf16Units_pair {first second : Nat} (hfirst : 0xD800 ≤ first ∧ first < 0xDC00)
    (hsecond : 0xDC00 ≤ second ∧ second < 0xE000) :
    utf16Units (Char.ofNat (0x10000 + (first - 0xD800) * 1024 + (second - 0xDC00))) =
      [first, second] := by
  rw [utf16Units, toNat_ofNat (.inr (by omega)), if_neg (by omega)]
  have hhigh : 0xD800 + (0x10000 + (first - 0xD800) * 1024 + (second - 0xDC00) - 0x10000) / 1024 =
      first := by omega
  have hlow : 0xDC00 + (0x10000 + (first - 0xD800) * 1024 + (second - 0xDC00) - 0x10000) % 1024 =
      second := by omega
  rw [hhigh, hlow]

namespace Utf16

/-- The machine on the two octets of a unit. -/
theorem runOctets_encode (order : ByteOrder) (high : Option Nat) {unit : Nat}
    (h : unit < 0x10000) :
    runOctets (step order) { high } (order.encode unit) =
      (unitStep high unit).map fun after => (after.1.toList, after.2) := by
  obtain ⟨first, second, hencode, hunit⟩ := order.exists_encode_eq h
  have hfirst : step order { high } first = some (none, { high, octet := some first }) := rfl
  have hsecond : step order { high, octet := some first } second = unitStep high unit := by
    show unitStep high (order.unit first second) = _
    rw [hunit]
  rw [hencode, runOctets_cons hfirst, runOctets, hsecond]
  rcases unitStep high unit with _ | ⟨_ | c, next⟩ <;> rfl

/-- The octets of a character lead from its border to the next one. -/
theorem runOctets_encodeCharUtf16 (order : ByteOrder) (c : Char) :
    runOctets (step order) {} (encodeCharUtf16 order c) = some ([c], {}) := by
  have hvalid := isValidChar_toNat c
  have hc := Char.ofNat_toNat c
  rw [encodeCharUtf16, utf16Units]
  generalize c.toNat = n at hvalid hc
  split
  · next hlt =>
    have hunit : unitStep none n = some (some c, {}) := by
      rw [unitStep, if_neg (by omega), if_neg (by omega), hc]
    rw [List.flatMap_singleton, runOctets_encode order none hlt, hunit]
    rfl
  · next hge =>
    have hfirst : unitStep none (0xD800 + (n - 0x10000) / 1024) =
        some (none, { high := some (0xD800 + (n - 0x10000) / 1024) }) := by
      rw [unitStep, if_pos (by omega)]
    have hcode : 0x10000 + (0xD800 + (n - 0x10000) / 1024 - 0xD800) * 1024 +
        (0xDC00 + (n - 0x10000) % 1024 - 0xDC00) = n := by omega
    have hsecond : unitStep (some (0xD800 + (n - 0x10000) / 1024))
        (0xDC00 + (n - 0x10000) % 1024) = some (some c, {}) := by
      rw [unitStep, if_pos (by omega), hcode, hc]
    rw [List.flatMap_cons, List.flatMap_singleton, runOctets_append,
      runOctets_encode order none (by omega), hfirst, Option.map_some, Option.bind_some,
      runOctets_encode order _ (by omega), hsecond]
    rfl

/-- The octets that lead from a border to a state. -/
def Pending (order : ByteOrder) (s : State) (pre : Bytes) : Prop :=
  (∀ first ∈ s.high, 0xD800 ≤ first ∧ first < 0xDC00) ∧
    pre = s.high.toList.flatMap order.encode ++ s.octet.toList

theorem pending_start (order : ByteOrder) {pre : Bytes} : Pending order {} pre ↔ pre = [] := by
  simp [Pending]

/-- A unit completes a character, or it is the first one of a pair. -/
theorem pending_unitStep {order : ByteOrder} {high : Option Nat} {unit : Nat}
    (hhigh : ∀ first ∈ high, 0xD800 ≤ first ∧ first < 0xDC00) (hunit : unit < 0x10000)
    {next : State} {produced : Option Char} (h : unitStep high unit = some (produced, next)) :
    ∃ post, Pending order next post ∧
      high.toList.flatMap order.encode ++ order.encode unit =
        produced.toList.flatMap (encodeCharUtf16 order) ++ post := by
  cases high with
  | none =>
    rw [unitStep] at h
    split_ifs at h with hfirst hsecond
    · cases h
      exact ⟨order.encode unit, ⟨by simpa using hfirst, by simp⟩, rfl⟩
    · cases h
      have hunits := utf16Units_of_lt hunit (by
        unfold Nat.isValidChar
        omega)
      refine ⟨[], (pending_start order).mpr rfl, ?_⟩
      simp [encodeCharUtf16, hunits]
  | some first =>
    rw [unitStep] at h
    split_ifs at h with hsecond
    cases h
    have hunits := utf16Units_pair (hhigh first rfl) hsecond
    refine ⟨[], (pending_start order).mpr rfl, ?_⟩
    simp [encodeCharUtf16, hunits]

theorem pending_step {order : ByteOrder} {s next : State} {pre : Bytes} {octet : UInt8}
    {produced : Option Char} (hpre : Pending order s pre)
    (h : step order s octet = some (produced, next)) :
    ∃ post, Pending order next post ∧
      pre ++ [octet] = produced.toList.flatMap (encodeCharUtf16 order) ++ post := by
  obtain ⟨high, octet'⟩ := s
  obtain ⟨hhigh, rfl⟩ := hpre
  cases octet' with
  | none =>
    cases h
    exact ⟨high.toList.flatMap order.encode ++ [octet], ⟨hhigh, rfl⟩, by simp⟩
  | some first =>
    obtain ⟨post, hpost, heq⟩ := pending_unitStep hhigh (order.unit_lt first octet) h
    rw [order.encode_unit] at heq
    refine ⟨post, hpost, ?_⟩
    rw [← heq, List.append_assoc]
    rfl

end Utf16

/-- The machine reads what is written in UTF-16. -/
theorem reads_utf16 (order : ByteOrder) :
    Reads (Utf16.step order) {} (encodeCharUtf16 order) (Utf16.Pending order) where
  encoded := Utf16.runOctets_encodeCharUtf16 order
  pending_start := Utf16.pending_start order
  pending_step := Utf16.pending_step

end PsetCompiler.Text
