import PsetCompiler.Text.Encoding
import Mathlib.Data.List.Basic

/-!
# Machines on octets

The readers of UTF-8 and UTF-16 are machines that take one octet at a time.  What such a machine
reads of a sequence is known from what it reads of the parts, so it does not matter where a file is
cut into blocks, as long as no octet is refused.  When one is, the text up to it is sound; but the
block in which it stands is lost as a whole, and only the blocks before it are read.

A machine reads what an encoder writes if it goes from the start back to the start over the octets
of every character, and if the octets that it has taken since it was there begin a character.  Then
the octets that bring it back to the start are exactly those that the encoder writes.

## Main definitions

* `soundLength`, `soundText` — how far a machine gets before it refuses an octet, and the text that
  it has read there.
* `readLength` — how far a file is read in blocks.
* `Reads` — a machine reads what an encoder writes.

## Main results

* `runOctets_append` — a machine on a sequence behind another one.
* `readBlocksWith_blocks` — **what is read of a file in blocks.**
* `Reads.runOctets_eq_iff` — **a machine accepts exactly what the encoder writes.**
* `Reads.isPrefix_iff` — the sound text is the longest one whose octets the sequence begins with.
-/

namespace PsetCompiler.Text

section Machine

variable {σ : Type} (step : σ → UInt8 → Option (Option Char × σ))

/-- A machine reads a sequence behind another one from where the first one leads. -/
theorem runOctets_append (s : σ) (xs ys : Bytes) :
    runOctets step s (xs ++ ys) =
      (runOctets step s xs).bind fun before =>
        (runOctets step before.2 ys).map fun after => (before.1 ++ after.1, after.2) := by
  induction xs generalizing s with
  | nil => simp [runOctets]
  | cons x xs ih =>
    rw [List.cons_append, runOctets, runOctets]
    rcases step s x with _ | ⟨produced, next⟩
    · rfl
    · dsimp only
      rw [ih]
      rcases runOctets step next xs with _ | ⟨cs, t⟩
      · rfl
      · rw [Option.bind_some]
        rcases h : runOctets step t ys with _ | ⟨ds, u⟩ <;> cases produced <;> simp [h]

/-! ### Up to the first octet that is refused -/

/-- How many octets a machine takes before it refuses one. -/
def soundLength : σ → Bytes → Nat
  | _, [] => 0
  | s, octet :: rest =>
    match step s octet with
    | none => 0
    | some (_, next) => soundLength next rest + 1

/-- The text that a machine has read when it refuses an octet, or at the end. -/
def soundText : σ → Bytes → List Char
  | _, [] => []
  | s, octet :: rest =>
    match step s octet with
    | none => []
    | some (produced, next) => produced.toList ++ soundText next rest

variable {step}

/-- One octet that is taken. -/
theorem runOctets_cons {s next : σ} {octet : UInt8} {produced : Option Char}
    (h : step s octet = some (produced, next)) (rest : Bytes) :
    runOctets step s (octet :: rest) =
      (runOctets step next rest).map fun after => (produced.toList ++ after.1, after.2) := by
  rw [runOctets, h]
  dsimp only
  rcases runOctets step next rest with _ | ⟨cs, t⟩
  · rfl
  · cases produced <;> rfl

theorem soundLength_take (s : σ) (xs : Bytes) (n : Nat) :
    soundLength step s (xs.take n) = min n (soundLength step s xs) := by
  induction xs generalizing s n with
  | nil => simp [soundLength]
  | cons x xs ih =>
    cases n with
    | zero => simp [soundLength]
    | succ n =>
      rw [List.take_succ_cons, soundLength, soundLength]
      rcases step s x with _ | ⟨produced, next⟩
      · rfl
      · dsimp only
        rw [ih, Nat.add_min_add_right]

theorem soundLength_le (s : σ) (xs : Bytes) : soundLength step s xs ≤ xs.length := by
  induction xs generalizing s with
  | nil => exact Nat.le_refl 0
  | cons x xs ih =>
    rw [soundLength]
    split
    · exact Nat.zero_le _
    · exact Nat.succ_le_succ (ih _)

/-- Behind octets that are all taken, a machine goes on from where they lead. -/
theorem sound_append {s t : σ} {xs : Bytes} {cs : List Char}
    (h : runOctets step s xs = some (cs, t)) (ys : Bytes) :
    soundLength step s (xs ++ ys) = xs.length + soundLength step t ys ∧
      soundText step s (xs ++ ys) = cs ++ soundText step t ys := by
  induction xs generalizing s cs with
  | nil =>
    cases h
    exact ⟨(Nat.zero_add _).symm, rfl⟩
  | cons x xs ih =>
    rw [List.cons_append, soundLength, soundText]
    rcases hx : step s x with _ | ⟨produced, next⟩
    · rw [runOctets, hx] at h
      cases h
    · rw [runOctets_cons hx] at h
      obtain ⟨⟨ds, u⟩, hrest, heq⟩ := Option.map_eq_some_iff.mp h
      cases heq
      obtain ⟨hlength, htext⟩ := ih hrest
      constructor
      · rw [List.length_cons, Nat.add_right_comm]
        exact congrArg (· + 1) hlength
      · rw [List.append_assoc]
        exact congrArg (produced.toList ++ ·) htext

/-- The sound text goes on when the octets do. -/
theorem soundText_isPrefix (s : σ) {xs ys : Bytes} (h : xs <+: ys) :
    soundText step s xs <+: soundText step s ys := by
  obtain ⟨zs, rfl⟩ := h
  induction xs generalizing s with
  | nil => exact List.nil_prefix
  | cons x xs ih =>
    rw [List.cons_append, soundText, soundText]
    rcases step s x with _ | ⟨produced, next⟩
    · exact List.prefix_refl _
    · exact (List.prefix_append_right_inj _).mpr (ih next)

/-- Nothing behind an octet that is refused matters. -/
theorem soundLength_append_of_refused {s : σ} {xs : Bytes} (h : runOctets step s xs = none)
    (ys : Bytes) : soundLength step s (xs ++ ys) < xs.length := by
  induction xs generalizing s with
  | nil => cases h
  | cons x xs ih =>
    rw [List.cons_append, soundLength]
    rcases hx : step s x with _ | ⟨produced, next⟩
    · exact Nat.succ_pos _
    · rw [runOctets_cons hx, Option.map_eq_none_iff] at h
      exact Nat.succ_lt_succ (ih h)

/-- A machine that comes to the end has taken all octets, and its text is the sound one. -/
theorem sound_of_runOctets {s t : σ} {xs : Bytes} {cs : List Char}
    (h : runOctets step s xs = some (cs, t)) :
    soundLength step s xs = xs.length ∧ soundText step s xs = cs := by
  have happend := sound_append h []
  rwa [List.append_nil, soundLength, soundText, List.append_nil, Nat.add_zero] at happend

theorem runOctets_eq_none_iff {s : σ} {xs : Bytes} :
    runOctets step s xs = none ↔ soundLength step s xs ≠ xs.length := by
  constructor
  · intro h
    have hlt := soundLength_append_of_refused h []
    rw [List.append_nil] at hlt
    exact Nat.ne_of_lt hlt
  · intro hne
    rcases h : runOctets step s xs with _ | ⟨cs, t⟩
    · rfl
    · exact absurd (sound_of_runOctets h).1 hne

/-! ### Blocks -/

variable (step) in
/-- How many octets of a file are read in blocks: all of them, or if one is refused, those of the
full blocks before it. -/
def readLength (s : σ) (bytes : Bytes) : Nat :=
  if soundLength step s bytes = bytes.length then bytes.length
  else soundLength step s bytes / blockSize * blockSize

/-- **What is read of a file in blocks.**  If no octet is refused, the blocks do not matter; else
the text of the full blocks before that octet is read. -/
theorem readBlocksWith_blocks (complete : σ → Bool) (s : σ) (bytes : Bytes) :
    readBlocksWith step complete s (blocks bytes) =
      match runOctets step s bytes with
      | some (cs, t) => ⟨cs, complete t⟩
      | none => ⟨soundText step s (bytes.take (readLength step s bytes)), false⟩ := by
  induction bytes using blocks.induct generalizing s with
  | case1 =>
    rw [blocks, dif_pos rfl]
    rfl
  | case2 bytes hne ih =>
    rw [blocks, dif_neg hne, readBlocksWith]
    have hcut := List.take_append_drop blockSize bytes
    have hrun := runOctets_append step s (bytes.take blockSize) (bytes.drop blockSize)
    rw [hcut] at hrun
    rcases hfirst : runOctets step s (bytes.take blockSize) with _ | ⟨cs, t⟩
    · -- the first block is lost, so nothing is read
      rw [hfirst] at hrun
      have hlt := soundLength_append_of_refused hfirst (bytes.drop blockSize)
      rw [hcut, List.length_take, Nat.lt_min] at hlt
      dsimp only
      rw [hrun, readLength, if_neg (Nat.ne_of_lt hlt.2), Nat.div_eq_of_lt hlt.1]
      rfl
    · obtain ⟨hlength, htext⟩ := sound_append hfirst (bytes.drop blockSize)
      rw [hcut] at hlength
      rw [hfirst, Option.bind_some] at hrun
      dsimp only at hrun ⊢
      rw [ih, hrun]
      rcases hrest : runOctets step t (bytes.drop blockSize) with _ | ⟨ds, u⟩
      · -- an octet of a later block is refused, so the first block is full
        have hshort := runOctets_eq_none_iff.mp hrest
        have hle : soundLength step t (bytes.drop blockSize) ≤ (bytes.drop blockSize).length :=
          soundLength_le t _
        rw [List.length_drop] at hshort hle
        have hfull : (bytes.take blockSize).length = blockSize := by
          rw [List.length_take]
          omega
        have hread : readLength step s bytes =
            blockSize + readLength step t (bytes.drop blockSize) := by
          rw [hfull] at hlength
          rw [readLength, readLength, List.length_drop, if_neg hshort, if_neg (by omega), hlength,
            Nat.add_div_left _ (by decide), Nat.succ_mul, Nat.add_comm]
        rw [Option.map_none, hread, List.take_add]
        exact congrArg (BlockText.mk · false) (sound_append hfirst _).2.symm
      · rfl

/-! ### Machines and encoders -/

/-- A machine reads what an encoder writes: the octets of a character lead from the start back to
it, and the octets that were taken since the start are pending.  What is pending and the next octet
are the octets of the characters that it completes, and those that are pending then. -/
structure Reads (step : σ → UInt8 → Option (Option Char × σ)) (start : σ) (encode : Char → Bytes)
    (Pending : σ → Bytes → Prop) : Prop where
  encoded (c : Char) : runOctets step start (encode c) = some ([c], start)
  pending_start {pre : Bytes} : Pending start pre ↔ pre = []
  pending_step {s next : σ} {pre : Bytes} {octet : UInt8} {produced : Option Char} :
    Pending s pre → step s octet = some (produced, next) →
      ∃ post, Pending next post ∧ pre ++ [octet] = produced.toList.flatMap encode ++ post

namespace Reads

variable {start : σ} {encode : Char → Bytes} {Pending : σ → Bytes → Prop}
  (h : Reads step start encode Pending)
include h

/-- The machine reads a text that was written to its end. -/
theorem runOctets_flatMap (cs : List Char) :
    runOctets step start (cs.flatMap encode) = some (cs, start) := by
  induction cs with
  | nil => rfl
  | cons c cs ih =>
    rw [List.flatMap_cons, runOctets_append, h.encoded, Option.bind_some, ih]
    rfl

/-- What was taken is what is written of the text that was read, and what is pending. -/
theorem exists_pending {s t : σ} {pre xs : Bytes} {cs : List Char} (hpre : Pending s pre)
    (hrun : runOctets step s xs = some (cs, t)) :
    ∃ post, Pending t post ∧ pre ++ xs = cs.flatMap encode ++ post := by
  induction xs generalizing s pre cs with
  | nil =>
    cases hrun
    exact ⟨pre, hpre, by simp⟩
  | cons x xs ih =>
    rcases hx : step s x with _ | ⟨produced, next⟩
    · rw [runOctets, hx] at hrun
      cases hrun
    · rw [runOctets_cons hx] at hrun
      obtain ⟨⟨ds, u⟩, hrest, heq⟩ := Option.map_eq_some_iff.mp hrun
      cases heq
      obtain ⟨mid, hmid, hfirst⟩ := h.pending_step hpre hx
      obtain ⟨post, hpost, hrest⟩ := ih hmid hrest
      refine ⟨post, hpost, ?_⟩
      rw [List.append_cons, hfirst, List.append_assoc, hrest, List.flatMap_append,
        List.append_assoc]

/-- **A machine accepts exactly what the encoder writes.** -/
theorem runOctets_eq_iff {xs : Bytes} {cs : List Char} :
    runOctets step start xs = some (cs, start) ↔ xs = cs.flatMap encode := by
  constructor
  · intro hrun
    obtain ⟨post, hpost, heq⟩ := h.exists_pending (h.pending_start.mpr rfl) hrun
    rw [h.pending_start] at hpost
    rwa [hpost, List.append_nil, List.nil_append] at heq
  · rintro rfl
    exact h.runOctets_flatMap cs

/-- Behind a text that was written, a machine goes on from the start. -/
theorem sound_flatMap_append (cs : List Char) (xs : Bytes) :
    soundLength step start (cs.flatMap encode ++ xs) =
        (cs.flatMap encode).length + soundLength step start xs ∧
      soundText step start (cs.flatMap encode ++ xs) = cs ++ soundText step start xs :=
  sound_append (h.runOctets_flatMap cs) xs

theorem flatMap_soundText_isPrefix {s : σ} {pre : Bytes} (hpre : Pending s pre) (xs : Bytes) :
    (soundText step s xs).flatMap encode <+: pre ++ xs := by
  induction xs generalizing s pre with
  | nil => exact List.nil_prefix
  | cons x xs ih =>
    rw [soundText]
    rcases hx : step s x with _ | ⟨produced, next⟩
    · exact List.nil_prefix
    · obtain ⟨mid, hmid, hfirst⟩ := h.pending_step hpre hx
      rw [List.append_cons, hfirst, List.append_assoc, List.flatMap_append,
        List.prefix_append_right_inj]
      exact ih hmid

/-- The sound text is the longest one whose octets a sequence begins with. -/
theorem isPrefix_iff {cs : List Char} {xs : Bytes} :
    cs.flatMap encode <+: xs ↔ cs <+: soundText step start xs := by
  constructor
  · rintro ⟨ys, rfl⟩
    rw [(h.sound_flatMap_append cs ys).2]
    exact List.prefix_append _ _
  · rintro ⟨ds, hds⟩
    have hsound := h.flatMap_soundText_isPrefix (h.pending_start.mpr rfl) xs
    rw [← hds, List.flatMap_append] at hsound
    exact (List.prefix_append _ _).trans hsound

end Reads

end Machine

end PsetCompiler.Text
