import PsetCompiler.Proofs.Text.Utf16

/-!
# Reading back files

A file is a text in one of four encodings.  Its first octets tell which one, so a text is read back
from any of them, unless it starts with a byte order mark itself.  Files that are no text are read
in part: the text in front of the first octet that does not belong is sound, and of that they give
what the full blocks before that octet hold.

## Main definitions

* `Encoding.encode` — the file of a text in an encoding.
* `Encoding.soundText`, `Encoding.readLength` — the text up to the first octet that does not belong,
  and how many octets are read.
* `Spells` — a file is that of a text, in the encoding that it tells.

## Main results

* `spells_encode` — the encoding of a file is told by its mark.
* `readBlocks_of_spells`, `readBlocks_of_not_spells` — **what is read of a file.**
* `readBlocks_damaged` — what is read of a text in UTF-8 with octets behind it that are none.
-/

namespace PsetCompiler.Text

/-- The byte order mark. -/
def byteOrderMark : Char :=
  Char.ofNat 0xFEFF

namespace Encoding

/-- The file of a text in an encoding. -/
def encode : Encoding → List Char → Bytes
  | .utf8, cs => encodeUtf8 cs
  | .utf8Marked, cs => 0xEF :: 0xBB :: 0xBF :: encodeUtf8 cs
  | .utf16 .little, cs => 0xFF :: 0xFE :: encodeUtf16 .little cs
  | .utf16 .big, cs => 0xFE :: 0xFF :: encodeUtf16 .big cs

/-! ### The machines of the encodings -/

/-- The states of the machine that reads an encoding. -/
abbrev State : Encoding → Type
  | .utf8 | .utf8Marked => Utf8.State
  | .utf16 _ => Utf16.State

instance : (e : Encoding) → DecidableEq e.State
  | .utf8 | .utf8Marked => inferInstanceAs (DecidableEq Utf8.State)
  | .utf16 _ => inferInstanceAs (DecidableEq Utf16.State)

/-- The machine that reads an encoding. -/
def step : (e : Encoding) → e.State → UInt8 → Option (Option Char × e.State)
  | .utf8 | .utf8Marked => Utf8.step
  | .utf16 order => Utf16.step order

/-- The state between two characters. -/
def start : (e : Encoding) → e.State
  | .utf8 | .utf8Marked => .between
  | .utf16 _ => {}

/-- The octets of a character. -/
def encodeChar : Encoding → Char → Bytes
  | .utf8 | .utf8Marked => encodeCharUtf8
  | .utf16 order => encodeCharUtf16 order

/-- The octets that lead from a border into a character. -/
def Pending : (e : Encoding) → e.State → Bytes → Prop
  | .utf8 | .utf8Marked => Utf8.Pending
  | .utf16 order => Utf16.Pending order

theorem reads : (e : Encoding) → Reads e.step e.start e.encodeChar e.Pending
  | .utf8 | .utf8Marked => reads_utf8
  | .utf16 order => reads_utf16 order

/-- A text with the mark that its encoding asks for. -/
def marked : Encoding → List Char → List Char
  | .utf8, cs => cs
  | .utf8Marked, cs | .utf16 _, cs => byteOrderMark :: cs

/-- A text without the mark of its encoding. -/
def unmarked : Encoding → List Char → List Char
  | .utf8, cs => cs
  | .utf8Marked, cs | .utf16 _, cs => dropMark cs

@[simp] theorem unmarked_marked (e : Encoding) (cs : List Char) :
    e.unmarked (e.marked cs) = cs := by
  cases e <;> rfl

theorem dropMark_isPrefix {cs ds : List Char} (h : cs <+: ds) : dropMark cs <+: dropMark ds := by
  obtain ⟨ts, rfl⟩ := h
  cases cs with
  | nil => exact List.nil_prefix
  | cons c cs =>
    rw [List.cons_append, dropMark, dropMark]
    split
    · exact List.prefix_append cs ts
    · exact List.prefix_append (c :: cs) ts

theorem unmarked_isPrefix (e : Encoding) {cs ds : List Char} (h : cs <+: ds) :
    e.unmarked cs <+: e.unmarked ds := by
  cases e with
  | utf8 => exact h
  | utf8Marked => exact dropMark_isPrefix h
  | utf16 => exact dropMark_isPrefix h

/-- The octets of a file are those of the text behind its mark. -/
theorem encode_eq_flatMap (e : Encoding) (cs : List Char) :
    e.encode cs = (e.marked cs).flatMap e.encodeChar := by
  rcases e with _ | _ | _ | _ <;> rfl

theorem readBlocksAs_eq (e : Encoding) (bytes : Bytes) :
    readBlocksAs e bytes =
      let text := readBlocksWith e.step (· == e.start) e.start (blocks bytes)
      { text with chars := e.unmarked text.chars } := by
  cases e <;> rfl

/-! ### The encoding that is told -/

/-- A file that tells its encoding by a mark begins with that mark. -/
theorem marked_nil_isPrefix {e : Encoding} {bytes : Bytes} (h : detect bytes = e) :
    (e.marked []).flatMap e.encodeChar <+: bytes := by
  subst h
  unfold detect
  split
  · exact List.prefix_append [0xEF, 0xBB, 0xBF] _
  · exact List.prefix_append [0xFF, 0xFE] _
  · exact List.prefix_append [0xFE, 0xFF] _
  · exact List.nil_prefix

/-- A file that begins with a text in UTF-8 has no mark, unless the text starts with one. -/
theorem detect_of_isPrefix {cs : List Char} {bytes : Bytes} (h : encodeUtf8 cs <+: bytes)
    (hne : cs ≠ []) (hmark : cs.head? ≠ some byteOrderMark) : detect bytes = .utf8 := by
  have hsound : cs <+: Text.soundText Utf8.step .between bytes := reads_utf8.isPrefix_iff.mp h
  unfold detect
  split
  · next rest =>
    have hfirst : [byteOrderMark] <+:
        Text.soundText Utf8.step .between (0xEF :: 0xBB :: 0xBF :: rest) :=
      reads_utf8.isPrefix_iff.mp (List.prefix_append [0xEF, 0xBB, 0xBF] rest)
    -- both begin the sound text, so they have the same first character
    obtain ⟨c, cs, rfl⟩ := List.exists_cons_of_ne_nil hne
    obtain ⟨ds, hds⟩ := hfirst
    rw [← hds, List.singleton_append, List.cons_prefix_cons] at hsound
    exact absurd (congrArg some hsound.1) hmark
  · exact absurd (List.prefix_nil.mp hsound) hne
  · exact absurd (List.prefix_nil.mp hsound) hne
  · rfl

/-- A file that begins with a text in UTF-8 tells that it is in UTF-8, with or without a mark. -/
theorem detect_eq_or_eq {cs : List Char} {bytes : Bytes} (h : encodeUtf8 cs <+: bytes)
    (hne : cs ≠ []) : detect bytes = .utf8 ∨ detect bytes = .utf8Marked := by
  by_cases hmark : cs.head? = some byteOrderMark
  · obtain ⟨cs, rfl⟩ := List.head?_eq_some_iff.mp hmark
    obtain ⟨rest, rfl⟩ := h
    exact .inr rfl
  · exact .inl (detect_of_isPrefix h hne hmark)

/-- Without a mark in front of a file, there is none in front of its text. -/
theorem dropMark_of_detect {cs : List Char} {bytes : Bytes} (hdetect : detect bytes = .utf8)
    (h : cs <+: Text.soundText Utf8.step .between bytes) : dropMark cs = cs := by
  rcases cs with _ | ⟨c, cs⟩
  · rfl
  · rw [dropMark]
    split
    · next hc =>
      obtain rfl : c = byteOrderMark := Char.toNat_inj.mp hc
      obtain ⟨rest, rfl⟩ := reads_utf8.isPrefix_iff.mpr h
      cases hdetect
    · rfl

/-- The encoding of a file is told by its mark, unless the text starts with a mark itself. -/
theorem detect_encode (e : Encoding) {cs : List Char} (h : cs.head? ≠ some byteOrderMark) :
    detect (e.encode cs) = e := by
  rcases e with _ | _ | _ | _
  case utf8 =>
    rcases cs with _ | ⟨c, cs⟩
    · rfl
    · exact detect_of_isPrefix (List.prefix_refl _) (List.cons_ne_nil c cs) h
  all_goals rfl

/-! ### The text in front of the first octet that does not belong -/

/-- The text of a file up to the first octet that does not belong. -/
def soundText (e : Encoding) (bytes : Bytes) : List Char :=
  e.unmarked (Text.soundText e.step e.start bytes)

/-- How many octets of a file are read. -/
def readLength (e : Encoding) (bytes : Bytes) : Nat :=
  Text.readLength e.step e.start bytes

/-- The sound text goes on when the file does. -/
theorem soundText_isPrefix (e : Encoding) {bytes more : Bytes} (h : bytes <+: more) :
    e.soundText bytes <+: e.soundText more :=
  e.unmarked_isPrefix (Text.soundText_isPrefix e.start h)

/-- A file that tells an encoding is read with the mark of that encoding. -/
theorem marked_soundText {e : Encoding} {bytes : Bytes} (h : detect bytes = e) :
    e.marked (e.soundText bytes) = Text.soundText e.step e.start bytes := by
  have hmark : e.marked [] <+: Text.soundText e.step e.start bytes :=
    e.reads.isPrefix_iff.mp (marked_nil_isPrefix h)
  rw [soundText]
  cases e with
  | utf8 => rfl
  | utf8Marked =>
    obtain ⟨rest, hrest⟩ := hmark
    rw [← hrest]
    rfl
  | utf16 =>
    obtain ⟨rest, hrest⟩ := hmark
    rw [← hrest]
    rfl

end Encoding

/-! ### What is read of a file -/

/-- A file is that of a text, in the encoding that its mark tells. -/
def Spells (bytes : Bytes) (cs : List Char) : Prop :=
  bytes = (Encoding.detect bytes).encode cs

/-- The encoding of a file is told by its mark. -/
theorem spells_encode (e : Encoding) {cs : List Char} (h : cs.head? ≠ some byteOrderMark) :
    Spells (e.encode cs) cs := by
  rw [Spells, e.detect_encode h]

/-- A file of a text is read to its end, and gives back the text. -/
theorem readBlocks_of_spells {bytes : Bytes} {cs : List Char} (h : Spells bytes cs) :
    readBlocks bytes = ⟨cs, true⟩ := by
  rw [readBlocks, Encoding.readBlocksAs_eq, readBlocksWith_blocks]
  rw [Spells] at h
  generalize Encoding.detect bytes = e at h ⊢
  have hrun : runOctets e.step e.start bytes = some (e.marked cs, e.start) := by
    rw [h, Encoding.encode_eq_flatMap]
    exact e.reads.runOctets_flatMap _
  rw [hrun]
  simp

/-- Of a file that is not that of a text, the full blocks are read that stand in front of the first
octet that does not belong; all of it is read if only its end is missing. -/
theorem readBlocks_of_not_spells {bytes : Bytes} (h : ∀ cs, ¬Spells bytes cs) :
    readBlocks bytes =
      ⟨(Encoding.detect bytes).soundText
        (bytes.take ((Encoding.detect bytes).readLength bytes)), false⟩ := by
  rw [readBlocks, Encoding.readBlocksAs_eq, readBlocksWith_blocks]
  generalize hdetect : Encoding.detect bytes = e
  rcases hrun : runOctets e.step e.start bytes with _ | ⟨cs, t⟩
  · rfl
  · obtain ⟨hlength, htext⟩ := sound_of_runOctets hrun
    have hopen : t ≠ e.start := by
      rintro rfl
      rw [e.reads.runOctets_eq_iff, ← htext, ← Encoding.marked_soundText hdetect,
        ← Encoding.encode_eq_flatMap] at hrun
      rw [← hdetect] at hrun
      exact h _ hrun
    rw [Encoding.readLength, readLength, if_pos hlength, List.take_length, Encoding.soundText,
      htext]
    simp [hopen]

/-! ### Damaged texts -/

/-- A text in UTF-8 with octets behind it that are no such text is not a text in any encoding. -/
theorem not_spells_append {cs : List Char} {bad : Bytes} (hcs : cs ≠ [])
    (hbad : ∀ ds, bad ≠ encodeUtf8 ds) (ds : List Char) : ¬Spells (encodeUtf8 cs ++ bad) ds := by
  intro h
  obtain ⟨es, hes⟩ : ∃ es, encodeUtf8 cs ++ bad = encodeUtf8 es := by
    rw [Spells] at h
    rcases Encoding.detect_eq_or_eq (List.prefix_append (encodeUtf8 cs) bad) hcs with he | he
    · rw [he] at h
      exact ⟨ds, h⟩
    · rw [he] at h
      exact ⟨byteOrderMark :: ds, h⟩
  -- what is read behind the text is a text as well
  have hall := reads_utf8.runOctets_eq_iff.mpr hes
  rw [runOctets_append, encodeUtf8, reads_utf8.runOctets_flatMap, Option.bind_some] at hall
  obtain ⟨⟨fs, t⟩, hrest, heq⟩ := Option.map_eq_some_iff.mp hall
  obtain rfl : t = .between := congrArg Prod.snd heq
  exact hbad fs (reads_utf8.runOctets_eq_iff.mp hrest)

/-- What is read of a text in UTF-8 with octets behind it that are no such text: what the full
blocks hold before the first octet that does not belong, or everything if there is no such octet. -/
theorem readBlocks_damaged {cs : List Char} {bad : Bytes} (hcs : cs ≠ [])
    (hbad : ∀ ds, bad ≠ encodeUtf8 ds) :
    readBlocks (encodeUtf8 cs ++ bad) =
      ⟨dropMark (soundText Utf8.step .between ((encodeUtf8 cs ++ bad).take
        (readLength Utf8.step .between (encodeUtf8 cs ++ bad)))), false⟩ := by
  rw [readBlocks_of_not_spells (not_spells_append hcs hbad)]
  have hsound : soundText Utf8.step .between ((encodeUtf8 cs ++ bad).take
      (readLength Utf8.step .between (encodeUtf8 cs ++ bad))) <+:
      soundText Utf8.step .between (encodeUtf8 cs ++ bad) :=
    soundText_isPrefix _ (List.take_prefix _ _)
  rcases Encoding.detect_eq_or_eq (List.prefix_append (encodeUtf8 cs) bad) hcs with he | he
  · rw [Encoding.dropMark_of_detect he hsound, he]
    rfl
  · rw [he]
    rfl

end PsetCompiler.Text
