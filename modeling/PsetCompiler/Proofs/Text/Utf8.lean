import PsetCompiler.Proofs.Text.Machine
import Mathlib.Algebra.Group.Nat.Defs
import Mathlib.Tactic.SplitIfs

/-!
# Reading back UTF-8

What is written in UTF-8 is read back, and nothing else is read.  The reader is a machine on octets,
so all that has to be known is where the octets of one character lead, and which characters can come
of the octets that were taken since the last border: those whose upper bits are known, if the next
six are within the bounds that the first octet sets.  None comes of the first two octets of a
surrogate, which are taken all the same.

## Main definitions

* `Utf8.Pending` — the octets that lead from a border into a character, or into a surrogate.
* `EndsInSurrogate`, `IsOpening` — a surrogate without its last octet, and what is taken to its end.

## Main results

* `reads_utf8` — the machine reads what is written in UTF-8.
* `le_soundLength_iff` — an octet is refused as soon as no text goes on with it, but for surrogates,
  where it is refused one octet later.
* `decodeUtf8?_eq_some_iff` — **octets are decoded exactly if they are those of a text.**
-/

namespace PsetCompiler.Text

/-! ### Characters -/

theorem toNat_toUInt8 {n : Nat} (h : n < 256) : n.toUInt8.toNat = n := by
  rw [Nat.toUInt8, UInt8.toNat_ofNat', Nat.mod_eq_of_lt h]

/-- The code of a character is no surrogate and not above U+10FFFF. -/
theorem isValidChar_toNat (c : Char) :
    c.toNat < 0xD800 ∨ 0xDFFF < c.toNat ∧ c.toNat < 0x110000 :=
  c.valid

namespace Utf8

theorem step_between_ascii {n : Nat} (h : n < 0x80) :
    step .between n.toUInt8 = some (some (Char.ofNat n), .between) := by
  rw [step, toNat_toUInt8 (by omega)]
  exact if_pos h

theorem step_between_lead {n : Nat} (h : 0x80 ≤ n) (hn : n < 256) {state : State}
    (hlead : leadState? n = some state) : step .between n.toUInt8 = some (none, state) := by
  rw [step, toNat_toUInt8 hn, if_neg (by omega), hlead, Option.map_some]

theorem step_within_more (code after : Nat) {low high n : Nat} (h : low ≤ n ∧ n ≤ high)
    (hn : n < 256) :
    step (.within code low high (after + 1)) n.toUInt8 =
      some (none, .within (code * 64 + (n - 0x80)) 0x80 0xBF after) := by
  rw [step, toNat_toUInt8 hn]
  exact if_pos h

theorem step_within_last (code : Nat) {low high n : Nat} (h : low ≤ n ∧ n ≤ high) (hn : n < 256) :
    step (.within code low high 0) n.toUInt8 =
      some (some (Char.ofNat (code * 64 + (n - 0x80))), .between) := by
  rw [step, toNat_toUInt8 hn]
  exact if_pos h

theorem leadState?_two {q : Nat} (h : 2 ≤ q ∧ q < 32) :
    leadState? (0xC0 + q) = some (.within q 0x80 0xBF 0) := by
  rw [leadState?, if_pos (by omega), Nat.add_sub_cancel_left]

/-- The first octet of three leaves room for the second one: the bounds keep out overlong forms and
surrogates, which no character needs. -/
theorem leadState?_three {n : Nat} (h : 0x800 ≤ n ∧ n < 0x10000)
    (hvalid : n < 0xD800 ∨ 0xDFFF < n) :
    ∃ low high, leadState? (0xE0 + n / 4096) = some (.within (n / 4096) low high 1) ∧
      low ≤ 0x80 + n / 64 % 64 ∧ 0x80 + n / 64 % 64 ≤ high := by
  unfold leadState?
  rw [if_neg (by omega)]
  rcases Nat.lt_or_ge n 0x1000 with hlow | hhigh
  · refine ⟨0xA0, 0xBF, ?_, by omega, by omega⟩
    rw [if_pos (by omega), Nat.div_eq_of_lt hlow]
  · rw [if_neg (by omega)]
    by_cases hD : n / 4096 = 13
    · refine ⟨0x80, 0x9F, ?_, by omega, by omega⟩
      rw [hD]
      rfl
    · refine ⟨0x80, 0xBF, ?_, by omega, by omega⟩
      rw [if_neg (by omega), if_pos (by omega), Nat.add_sub_cancel_left]

/-- The first octet of four leaves room for the second one: the bounds keep out overlong forms and
what is above U+10FFFF. -/
theorem leadState?_four {n : Nat} (h : 0x10000 ≤ n ∧ n < 0x110000) :
    ∃ low high, leadState? (0xF0 + n / 262144) = some (.within (n / 262144) low high 2) ∧
      low ≤ 0x80 + n / 4096 % 64 ∧ 0x80 + n / 4096 % 64 ≤ high := by
  unfold leadState?
  rw [if_neg (by omega), if_neg (by omega), if_neg (by omega), if_neg (by omega)]
  rcases Nat.lt_or_ge n 0x40000 with hlow | hhigh
  · refine ⟨0x90, 0xBF, ?_, by omega, by omega⟩
    rw [if_pos (by omega), Nat.div_eq_of_lt hlow]
  · rw [if_neg (by omega)]
    by_cases h4 : n / 262144 = 4
    · refine ⟨0x80, 0x8F, ?_, by omega, by omega⟩
      rw [h4]
      rfl
    · refine ⟨0x80, 0xBF, ?_, by omega, by omega⟩
      rw [if_pos (by omega), Nat.add_sub_cancel_left]

end Utf8

/-- The octets of a character lead from its border to the next one. -/
theorem runOctets_encodeCharUtf8 (c : Char) :
    runOctets Utf8.step .between (encodeCharUtf8 c) = some ([c], .between) := by
  have hvalid := isValidChar_toNat c
  have hc := Char.ofNat_toNat c
  unfold encodeCharUtf8
  dsimp only
  generalize c.toNat = n at hvalid hc
  -- the cases are those of the writer: one octet, two, three, or four
  have htail (m : Nat) : 0x80 ≤ 0x80 + m % 64 ∧ 0x80 + m % 64 ≤ 0xBF := by omega
  split
  · next h1 => simp only [runOctets, Utf8.step_between_ascii h1, hc]
  · next h1 =>
    split
    · next h2 =>
      have hlead := Utf8.step_between_lead (by omega) (by omega)
        (Utf8.leadState?_two (show 2 ≤ n / 64 ∧ n / 64 < 32 by omega))
      have hlast := Utf8.step_within_last (n / 64) (htail n) (by omega)
      have hcode : n / 64 * 64 + (0x80 + n % 64 - 0x80) = n := by omega
      simp only [runOctets, hlead, hlast, hcode, hc]
    · next h2 =>
      split
      · next h3 =>
        obtain ⟨low, high, hstate, hsecond⟩ :=
          Utf8.leadState?_three (n := n) ⟨by omega, h3⟩ (by omega)
        have hlead := Utf8.step_between_lead (by omega) (by omega) hstate
        have hmore := Utf8.step_within_more (n / 4096) 0 hsecond (by omega)
        have hlast := Utf8.step_within_last
          (n / 4096 * 64 + (0x80 + n / 64 % 64 - 0x80)) (htail n) (by omega)
        have hcode : (n / 4096 * 64 + (0x80 + n / 64 % 64 - 0x80)) * 64 +
            (0x80 + n % 64 - 0x80) = n := by omega
        simp only [runOctets, hlead, hmore, hlast, hcode, hc]
      · next h3 =>
        obtain ⟨low, high, hstate, hsecond⟩ := Utf8.leadState?_four (n := n) (by omega)
        have hlead := Utf8.step_between_lead (by omega) (by omega) hstate
        have hmore := Utf8.step_within_more (n / 262144) 1 hsecond (by omega)
        have hmore' := Utf8.step_within_more
          (n / 262144 * 64 + (0x80 + n / 4096 % 64 - 0x80)) 0 (htail (n / 64)) (by omega)
        have hlast := Utf8.step_within_last
          ((n / 262144 * 64 + (0x80 + n / 4096 % 64 - 0x80)) * 64 + (0x80 + n / 64 % 64 - 0x80))
          (htail n) (by omega)
        have hcode : ((n / 262144 * 64 + (0x80 + n / 4096 % 64 - 0x80)) * 64 +
            (0x80 + n / 64 % 64 - 0x80)) * 64 + (0x80 + n % 64 - 0x80) = n := by omega
        simp only [runOctets, hlead, hmore, hmore', hlast, hcode, hc]

/-! ### Octets of a character -/

theorem toUInt8_toNat (octet : UInt8) : octet.toNat.toUInt8 = octet :=
  UInt8.ofNat_toNat

theorem toNat_ofNat {n : Nat} (h : n.isValidChar) : (Char.ofNat n).toNat = n := by
  rw [Char.ofNat, dif_pos h]
  rfl

namespace Utf8

/-- The last octets of a character with a code, six bits in each. -/
def tailOctets (n : Nat) : Nat → Bytes
  | 0 => []
  | k + 1 => (0x80 + n / 64 ^ k % 64).toUInt8 :: tailOctets n k

theorem encodeCharUtf8_one {n : Nat} (h : n < 0x80) :
    encodeCharUtf8 (Char.ofNat n) = [n.toUInt8] := by
  rw [encodeCharUtf8, toNat_ofNat (.inl (by omega))]
  exact if_pos h

theorem encodeCharUtf8_two {n : Nat} (h : 0x80 ≤ n ∧ n < 0x800) :
    encodeCharUtf8 (Char.ofNat n) = (0xC0 + n / 64).toUInt8 :: tailOctets n 1 := by
  rw [encodeCharUtf8, toNat_ofNat (.inl (by omega)), if_neg (by omega), if_pos h.2]
  simp only [tailOctets, Nat.reducePow, Nat.div_one]

theorem encodeCharUtf8_three {n : Nat} (h : 0x800 ≤ n ∧ n < 0x10000) (hvalid : n.isValidChar) :
    encodeCharUtf8 (Char.ofNat n) = (0xE0 + n / 4096).toUInt8 :: tailOctets n 2 := by
  rw [encodeCharUtf8, toNat_ofNat hvalid, if_neg (by omega), if_neg (by omega), if_pos h.2]
  simp only [tailOctets, Nat.reducePow, Nat.div_one]

theorem encodeCharUtf8_four {n : Nat} (h : 0x10000 ≤ n ∧ n < 0x110000) :
    encodeCharUtf8 (Char.ofNat n) = (0xF0 + n / 262144).toUInt8 :: tailOctets n 3 := by
  rw [encodeCharUtf8, toNat_ofNat (.inr (by omega)), if_neg (by omega), if_neg (by omega),
    if_neg (by omega)]
  simp only [tailOctets, Nat.reducePow, Nat.div_one]

/-- The second octet of a surrogate, behind the octet `ED`. -/
def IsSurrogateOctet (octet : UInt8) : Prop :=
  0xA0 ≤ octet.toNat ∧ octet.toNat ≤ 0xBF

/-- The octets that lead from a border to a state: whatever character has the bits that are known
and goes on within the bounds, they are the first of its octets. -/
def Pending : State → Bytes → Prop
  | .between, pre => pre = []
  | .surrogate, pre => ∃ octet, IsSurrogateOctet octet ∧ pre = [0xED, octet]
  | .within code low high after, pre =>
    (0x80 ≤ low ∧ low ≤ high ∧ high ≤ 0xBF) ∧
      ∀ n, n / 64 ^ (after + 1) = code →
        low ≤ 0x80 + n / 64 ^ after % 64 → 0x80 + n / 64 ^ after % 64 ≤ high →
        n.isValidChar ∧ encodeCharUtf8 (Char.ofNat n) = pre ++ tailOctets n (after + 1)

theorem pending_leadState {m : Nat} {state : State} (h : leadState? m = some state) :
    Pending state [m.toUInt8] := by
  have htwo {n : Nat} (hn : 0x80 ≤ n ∧ n < 0x800) (hm : 0xC0 + n / 64 = m) :
      n.isValidChar ∧ encodeCharUtf8 (Char.ofNat n) = [m.toUInt8] ++ tailOctets n 1 := by
    rw [← hm]
    exact ⟨.inl (by omega), encodeCharUtf8_two hn⟩
  have hthree {n : Nat} (hn : 0x800 ≤ n ∧ n < 0x10000) (hvalid : n < 0xD800 ∨ 0xDFFF < n)
      (hm : 0xE0 + n / 4096 = m) :
      n.isValidChar ∧ encodeCharUtf8 (Char.ofNat n) = [m.toUInt8] ++ tailOctets n 2 := by
    have hchar : n.isValidChar := hvalid.imp_right fun h => ⟨h, by omega⟩
    rw [← hm]
    exact ⟨hchar, encodeCharUtf8_three hn hchar⟩
  have hfour {n : Nat} (hn : 0x10000 ≤ n ∧ n < 0x110000) (hm : 0xF0 + n / 262144 = m) :
      n.isValidChar ∧ encodeCharUtf8 (Char.ofNat n) = [m.toUInt8] ++ tailOctets n 3 := by
    rw [← hm]
    exact ⟨.inr (by omega), encodeCharUtf8_four hn⟩
  unfold leadState? at h
  split_ifs at h with h2 hE0 hED h3 hF0 hF1 hF4 <;> cases h <;>
    refine ⟨by decide, fun n hcode hlow hhigh => ?_⟩ <;>
    simp only [Nat.reducePow, Nat.reduceAdd, Nat.div_one] at hcode hlow hhigh
  · exact htwo (by omega) (by omega)
  · exact hthree (by omega) (by omega) (by omega)
  · exact hthree (by omega) (by omega) (by omega)
  · exact hthree (by omega) (by omega) (by omega)
  · exact hfour (by omega) (by omega)
  · exact hfour (by omega) (by omega)
  · exact hfour (by omega) (by omega)

/-- What is pending where a surrogate may follow is the octet `ED` alone. -/
theorem eq_of_pending_within {low high : Nat} {pre : Bytes}
    (h : Pending (.within 0xD low high 1) pre) : pre = [0xED] := by
  obtain ⟨hbounds, hchar⟩ := h
  -- some character goes on from there, and its first octet is known
  obtain ⟨k, hk, hlow⟩ : ∃ k < 64, 0x80 + k = low := ⟨low - 0x80, by omega, by omega⟩
  have hcode : (0xD * 4096 + k * 64) / 64 ^ (1 + 1) = 0xD := by
    rw [show 64 ^ (1 + 1) = 4096 from rfl]
    omega
  have hsecond : 0x80 + (0xD * 4096 + k * 64) / 64 ^ 1 % 64 = low := by omega
  obtain ⟨hvalid, hwritten⟩ := hchar _ hcode (by omega) (by omega)
  have hfirst : 0xE0 + (0xD * 4096 + k * 64) / 4096 = 0xED := by omega
  rw [encodeCharUtf8_three (by omega) hvalid, hfirst] at hwritten
  exact (List.append_cancel_right (hwritten : [0xED] ++ _ = pre ++ _)).symm

theorem pending_step {s next : State} {pre : Bytes} {octet : UInt8} {produced : Option Char}
    (hpre : Pending s pre) (h : step s octet = some (produced, next)) :
    ∃ post, Pending next post ∧
      pre ++ [octet] = produced.toList.flatMap encodeCharUtf8 ++ post := by
  cases s with
  | between =>
    obtain rfl : pre = [] := hpre
    rw [step] at h
    split at h
    · next hascii =>
      cases h
      refine ⟨[], rfl, ?_⟩
      rw [Option.toList_some, List.flatMap_singleton, encodeCharUtf8_one hascii, toUInt8_toNat]
      rfl
    · obtain ⟨state, hstate, heq⟩ := Option.map_eq_some_iff.mp h
      cases heq
      have hlead := pending_leadState hstate
      rw [toUInt8_toNat] at hlead
      exact ⟨[octet], hlead, rfl⟩
  | within code low high after =>
    obtain ⟨hbounds, hchar⟩ := hpre
    rw [step] at h
    split at h
    · next hrange =>
      -- the octet holds the next six bits of the character
      have hbits : octet.toNat - 0x80 < 64 := by omega
      have hoctet {n k : Nat} (hn : n / 64 ^ k % 64 = octet.toNat - 0x80) :
          tailOctets n (k + 1) = octet :: tailOctets n k := by
        rw [tailOctets, hn, Nat.add_sub_cancel' (by omega), toUInt8_toNat]
      cases after with
      | zero =>
        cases h
        have hcode : (code * 64 + (octet.toNat - 0x80)) / 64 ^ 1 = code := by omega
        have hlast : (code * 64 + (octet.toNat - 0x80)) / 64 ^ 0 % 64 = octet.toNat - 0x80 := by
          omega
        obtain ⟨-, hwritten⟩ := hchar _ hcode (by omega) (by omega)
        refine ⟨[], rfl, ?_⟩
        rw [Option.toList_some, List.flatMap_singleton, hwritten, hoctet hlast]
        exact (List.append_nil _).symm
      | succ after =>
        cases h
        refine ⟨pre ++ [octet], ⟨by decide, fun n hn _ _ => ?_⟩, rfl⟩
        have hcode : n / 64 ^ (after + 1 + 1) = code := by
          rw [Nat.pow_succ, ← Nat.div_div_eq_div_mul, hn]
          omega
        have hnext : n / 64 ^ (after + 1) % 64 = octet.toNat - 0x80 := by
          rw [hn]
          omega
        have hwritten := hchar n hcode (by omega) (by omega)
        rwa [hoctet hnext, List.append_cons] at hwritten
    · split at h
      · next hsurrogate =>
        obtain ⟨⟨rfl, rfl⟩, hrange⟩ := hsurrogate
        cases h
        obtain rfl := eq_of_pending_within ⟨hbounds, hchar⟩
        exact ⟨[0xED, octet], ⟨octet, hrange, rfl⟩, rfl⟩
      · cases h
  | surrogate => cases h

/-- Some text goes on from the octets that lead into a character. -/
theorem exists_isPrefix_of_pending {s : State} {pre : Bytes} (h : Pending s pre)
    (hs : s ≠ .surrogate) : ∃ cs, pre <+: encodeUtf8 cs := by
  cases s with
  | surrogate => exact absurd rfl hs
  | between =>
    obtain rfl : pre = [] := h
    exact ⟨[], List.nil_prefix⟩
  | within code low high after =>
    obtain ⟨hbounds, hchar⟩ := h
    -- the lowest octet that may follow, and nothing but zeros behind it
    have hpos : 0 < 64 ^ after := Nat.pow_pos (by decide)
    have hdiv : (code * 64 + (low - 0x80)) * 64 ^ after / 64 ^ after = code * 64 + (low - 0x80) :=
      Nat.mul_div_cancel _ hpos
    have hcode : (code * 64 + (low - 0x80)) * 64 ^ after / 64 ^ (after + 1) = code := by
      rw [Nat.pow_succ, ← Nat.div_div_eq_div_mul, hdiv]
      omega
    obtain ⟨-, hwritten⟩ := hchar _ hcode (by omega) (by omega)
    refine ⟨[Char.ofNat ((code * 64 + (low - 0x80)) * 64 ^ after)], ?_⟩
    rw [encodeUtf8, List.flatMap_singleton, hwritten]
    exact List.prefix_append _ _

end Utf8

/-- The machine reads what is written in UTF-8. -/
theorem reads_utf8 : Reads Utf8.step .between encodeCharUtf8 Utf8.Pending where
  encoded := runOctets_encodeCharUtf8
  pending_start := Iff.rfl
  pending_step := Utf8.pending_step

/-! ### Texts -/

/-- The last two octets are the first two of a surrogate, and a text is in front of them. -/
def EndsInSurrogate (bytes : Bytes) : Prop :=
  ∃ cs octet, Utf8.IsSurrogateOctet octet ∧ bytes = encodeUtf8 cs ++ [0xED, octet]

/-- Octets that are taken to their end: some text begins with them, or they end in a surrogate. -/
def IsOpening (bytes : Bytes) : Prop :=
  (∃ cs, bytes <+: encodeUtf8 cs) ∨ EndsInSurrogate bytes

theorem soundLength_surrogate {octet : UInt8} (h : Utf8.IsSurrogateOctet octet) :
    soundLength Utf8.step .between [0xED, octet] = 2 := by
  have hfirst : Utf8.step .between 0xED = some (none, .within 0xD 0x80 0x9F 1) := rfl
  have hsecond : Utf8.step (.within 0xD 0x80 0x9F 1) octet = some (none, .surrogate) := by
    obtain ⟨hlow, hhigh⟩ := h
    rw [Utf8.step, if_neg (by omega), if_pos ⟨⟨rfl, rfl⟩, hlow, hhigh⟩]
  rw [soundLength, hfirst]
  dsimp only
  rw [soundLength, hsecond]
  rfl

/-- The machine takes octets to their end exactly if some text begins with them, or if they end in a
surrogate. -/
theorem soundLength_eq_length_iff {bytes : Bytes} :
    soundLength Utf8.step .between bytes = bytes.length ↔ IsOpening bytes := by
  constructor
  · intro hall
    rcases hrun : runOctets Utf8.step .between bytes with _ | ⟨cs, t⟩
    · exact absurd hall (runOctets_eq_none_iff.mp hrun)
    · obtain ⟨post, hpost, hbytes⟩ :=
        reads_utf8.exists_pending (reads_utf8.pending_start.mpr rfl) hrun
      rw [List.nil_append] at hbytes
      by_cases ht : t = .surrogate
      · subst ht
        obtain ⟨octet, hoctet, rfl⟩ := hpost
        exact .inr ⟨cs, octet, hoctet, hbytes⟩
      · obtain ⟨ds, hds⟩ := Utf8.exists_isPrefix_of_pending hpost ht
        refine .inl ⟨cs ++ ds, ?_⟩
        rw [encodeUtf8_append, hbytes]
        exact (List.prefix_append_right_inj _).mpr hds
  · rintro (⟨cs, rest, hcs⟩ | ⟨cs, octet, hoctet, rfl⟩)
    · by_contra hne
      have hlt := soundLength_append_of_refused (runOctets_eq_none_iff.mpr hne) rest
      have hall := (sound_of_runOctets (reads_utf8.runOctets_flatMap cs)).1
      rw [← encodeUtf8, ← hcs, List.length_append] at hall
      omega
    · rw [encodeUtf8, (reads_utf8.sound_flatMap_append cs _).1, soundLength_surrogate hoctet,
        List.length_append]
      rfl

/-- **An octet is refused as soon as no text goes on with it**, but for surrogates, where it is
refused one octet later. -/
theorem le_soundLength_iff {bytes : Bytes} {n : Nat} (h : n ≤ bytes.length) :
    n ≤ soundLength Utf8.step .between bytes ↔ IsOpening (bytes.take n) := by
  rw [← soundLength_eq_length_iff, soundLength_take, List.length_take_of_le h]
  omega

/-- Octets are decoded exactly if they are those of a text. -/
theorem decodeUtf8?_eq_some_iff {bytes : Bytes} {cs : List Char} :
    decodeUtf8? bytes = some cs ↔ bytes = encodeUtf8 cs := by
  rw [encodeUtf8, ← reads_utf8.runOctets_eq_iff, decodeUtf8?]
  rcases runOctets Utf8.step .between bytes with _ | ⟨ds, t⟩
  · simp
  · cases t with
    | between => simp
    | within code low high after => simp
    | surrogate => simp

/-- A text that was written is read back. -/
@[simp] theorem decodeUtf8?_encodeUtf8 (cs : List Char) :
    decodeUtf8? (encodeUtf8 cs) = some cs :=
  decodeUtf8?_eq_some_iff.mpr rfl

end PsetCompiler.Text
