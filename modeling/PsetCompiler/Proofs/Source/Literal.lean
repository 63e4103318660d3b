import PsetCompiler.Initializer.Source
import PsetCompiler.Proofs.Source.Name

/-!
# Literals of generated sources

Source text is scanned character by character: outside of a literal only a double quote matters, and
inside of one a backslash takes the next character with it, so that the first double quote without a
backslash closes the literal.  What the scan has come to is all that the rest of the text depends on.

A text is escaped before it is put between quotes.  So a scan that begins outside of a literal finds
that literal, and is outside of it again behind the second quote, whatever the text was.  What stands
between the quotes denotes the text.  But line ends are not escaped: a literal goes over several
lines whenever its text does.

## Main definitions

* `Scan`, `Scan.run` — what a scan has come to, and the scan of a text.
* `unescape` — the text that the characters of a literal denote.
* `ClosesOnLine` — no line ends before the literal is closed.
* `Quotes` — a piece of source text holds the literals of some texts.
* `Unquoted` — a text has no double quote.

## Main results

* `unescape_escapeLiteralChars` — **an escaped text denotes the text.**
* `closesOnLine_escapeLiteralChars_iff` — it has line ends if the text has.
* `Quotes.literal`, `Quotes.code` — pieces of source text, put together.
-/

namespace PsetCompiler

/-! ### Scanning for literals -/

/-- What a scan of source text has come to. -/
structure Scan where
  /-- What stands between the quotes of the literals that are closed, in order. -/
  closed : List (List Char) := []
  /-- What stands behind the quote of a literal that is open, and whether its last character is a
  backslash that takes the next one with it. -/
  opened : Option (List Char × Bool) := none
deriving DecidableEq

namespace Scan

/-- One more character. -/
def step (s : Scan) (c : Char) : Scan :=
  match s.opened with
  | none => if c = '"' then { s with opened := some ([], false) } else s
  | some (raw, true) => { s with opened := some (raw ++ [c], false) }
  | some (raw, false) =>
    if c = '"' then { closed := s.closed ++ [raw] }
    else { s with opened := some (raw ++ [c], c = '\\') }

/-- The scan goes on over a text. -/
def run (s : Scan) (cs : List Char) : Scan :=
  cs.foldl step s

theorem run_append (s : Scan) (cs ds : List Char) : s.run (cs ++ ds) = (s.run cs).run ds :=
  List.foldl_append

/-- Outside of a literal nothing but a double quote matters. -/
theorem run_of_notMem {cs : List Char} (h : '"' ∉ cs) (closed : List (List Char)) :
    run { closed } cs = { closed } := by
  induction cs with
  | nil => rfl
  | cons c cs ih =>
    rw [List.mem_cons, not_or] at h
    have hc : step { closed } c = { closed } := if_neg fun heq => h.1 heq.symm
    rw [run, List.foldl_cons, hc]
    exact ih h.2

/-- An escaped text inside of a literal closes nothing, and its last character takes nothing with
it. -/
theorem run_escapeLiteralChars (cs raw : List Char) (closed : List (List Char)) :
    run { closed, opened := some (raw, false) } (escapeLiteralChars cs) =
      { closed, opened := some (raw ++ escapeLiteralChars cs, false) } := by
  induction cs generalizing raw with
  | nil => rw [escapeLiteralChars, List.flatMap_nil, List.append_nil]; rfl
  | cons c cs ih =>
    rw [escapeLiteralChars, List.flatMap_cons, ← escapeLiteralChars, run_append, ← List.append_assoc,
      ← ih]
    congr 1
    by_cases hc : c = '\\' ∨ c = '"'
    -- the backslash takes the character with it
    · rw [if_pos hc, run, List.foldl_cons, List.foldl_cons, List.foldl_nil]
      simp [step]
    · rw [if_neg hc, run, List.foldl_cons, List.foldl_nil]
      rw [not_or] at hc
      simp [step, hc]

/-- A scan that comes to a literal is outside of it again when the text is over. -/
theorem run_literal (cs : List Char) (closed : List (List Char)) :
    run { closed } ('"' :: escapeLiteralChars cs ++ ['"']) =
      { closed := closed ++ [escapeLiteralChars cs] } := by
  rw [run_append]
  show run (run { closed, opened := some ([], false) } (escapeLiteralChars cs)) ['"'] = _
  rw [run_escapeLiteralChars, List.nil_append]
  rfl

example : run {} ['x', '"', 'a', '\\', '"', '"', 'y'] = { closed := [['a', '\\', '"']] } := by
  decide

end Scan

/-! ### What a literal denotes -/

/-- The character that stands for itself or for another one behind a backslash. -/
def simpleEscape? : Char → Option Char
  | '\\' => some '\\'
  | '"' => some '"'
  | '\'' => some '\''
  | '0' => some '\x00'
  | 'a' => some '\x07'
  | 'b' => some '\x08'
  | 'f' => some '\x0C'
  | 'n' => some '\n'
  | 'r' => some '\r'
  | 't' => some '\t'
  | 'v' => some '\x0B'
  | _ => none

/-- The text that the characters of a literal denote, if only simple escapes are in it. -/
def unescape : List Char → Option (List Char)
  | [] => some []
  | ['\\'] => none
  | '\\' :: c :: rest => do
    let d ← simpleEscape? c
    let ds ← unescape rest
    return d :: ds
  | c :: rest => do
    let ds ← unescape rest
    return c :: ds

/-- **An escaped text denotes the text.** -/
theorem unescape_escapeLiteralChars (cs : List Char) :
    unescape (escapeLiteralChars cs) = some cs := by
  induction cs with
  | nil => rfl
  | cons c cs ih =>
    rw [escapeLiteralChars, List.flatMap_cons, ← escapeLiteralChars]
    by_cases hc : c = '\\' ∨ c = '"'
    · rw [if_pos hc]
      show unescape ('\\' :: c :: escapeLiteralChars cs) = _
      rw [unescape, ih]
      rcases hc with rfl | rfl
      · rfl
      · rfl
    · rw [if_neg hc]
      rw [not_or] at hc
      show unescape (c :: escapeLiteralChars cs) = _
      rw [unescape, ih]
      · rfl
      · exact fun heq _ => hc.1 heq
      · exact fun _ _ heq _ => hc.1 heq

/-- The characters that end a line of source text. -/
def isSourceLineEnd (c : Char) : Bool :=
  c = '\n' || c = '\r' || c = '\u0085' || c = '\u2028' || c = '\u2029'

/-- No line ends in the characters of a literal, so it is closed on the line on which it is
opened. -/
def ClosesOnLine (raw : List Char) : Prop :=
  ∀ c ∈ raw, isSourceLineEnd c = false

instance (raw : List Char) : Decidable (ClosesOnLine raw) :=
  List.decidableBAll (fun c => isSourceLineEnd c = false) raw

/-- Escaping neither adds line ends nor takes them away. -/
theorem closesOnLine_escapeLiteralChars_iff {cs : List Char} :
    ClosesOnLine (escapeLiteralChars cs) ↔ ClosesOnLine cs := by
  unfold ClosesOnLine escapeLiteralChars
  rw [List.forall_mem_flatMap]
  refine forall₂_congr fun c _ => ?_
  split
  · rw [List.forall_mem_cons, List.forall_mem_singleton]
    exact and_iff_right rfl
  · exact List.forall_mem_singleton

example : ¬ ClosesOnLine (escapeLiteralChars ['a', '\n', 'b']) := by
  decide

/-! ### Texts without quotes -/

/-- A text has no double quote. -/
def Unquoted (s : String) : Prop :=
  '"' ∉ s.toList

theorem unquoted_ofList {cs : List Char} (h : '"' ∉ cs) : Unquoted (String.ofList cs) := by
  rwa [Unquoted, String.toList_ofList]

theorem Unquoted.append {s t : String} (hs : Unquoted s) (ht : Unquoted t) :
    Unquoted (s ++ t) := by
  rw [Unquoted, String.toList_append, List.mem_append]
  exact not_or.mpr ⟨hs, ht⟩

theorem unquoted_sourceName (s : String) : Unquoted (sourceName s) := by
  refine unquoted_ofList fun hmem => ?_
  rw [nameChars_eq, List.mem_map] at hmem
  obtain ⟨c, -, hc⟩ := hmem
  unfold nameChar at hc
  split at hc
  · next hname =>
    rw [hc] at hname
    exact absurd hname (by decide)
  · exact absurd hc (by decide)

theorem mem_of_mem_replaceFrom {old new : List Char} {c : Char} (skip : Nat) (cs : List Char)
    (h : c ∈ Text.replaceFrom old new skip cs) : c ∈ new ∨ c ∈ cs := by
  fun_induction Text.replaceFrom old new skip cs with
  | case1 => cases h
  | case2 skip d rest ih => exact (ih h).imp_right (List.mem_cons_of_mem d)
  | case3 d rest _ ih =>
    rcases List.mem_append.mp h with h | h
    · exact .inl h
    · exact (ih h).imp_right (List.mem_cons_of_mem d)
  | case4 d rest _ ih =>
    rcases List.mem_cons.mp h with rfl | h
    · exact .inr List.mem_cons_self
    · exact (ih h).imp_right (List.mem_cons_of_mem d)

theorem Unquoted.replaceAll {s new : String} (hs : Unquoted s) (hnew : Unquoted new)
    (old : String) : Unquoted (Text.replaceAll old new s) :=
  unquoted_ofList fun hmem => (mem_of_mem_replaceFrom 0 _ hmem).elim hnew hs

theorem Unquoted.strip {s : String} (hs : Unquoted s) : Unquoted (Text.strip s) := by
  refine unquoted_ofList fun hmem => hs ?_
  rw [Text.trimBy, Text.trimEndBy, List.mem_reverse] at hmem
  have hleft := List.dropWhile_subset _ hmem
  exact List.dropWhile_subset _ (List.mem_reverse.mp hleft)

/-! ### Pieces of source text -/

/-- A piece of source text that begins and ends outside of literals, and holds those of some
texts. -/
def Quotes (source : String) (texts : List String) : Prop :=
  ∀ closed, Scan.run { closed } source.toList =
    { closed := closed ++ texts.map fun t => escapeLiteralChars t.toList }

namespace Quotes

variable {s t : String} {ss ts : List String}

theorem append (hs : Quotes s ss) (ht : Quotes t ts) : Quotes (s ++ t) (ss ++ ts) := by
  intro closed
  rw [String.toList_append, Scan.run_append, hs, ht, List.map_append, List.append_assoc]

theorem of_unquoted (h : Unquoted s) : Quotes s [] := by
  intro closed
  rw [Scan.run_of_notMem h, List.map_nil, List.append_nil]

/-- Source text without quotes in front of a piece. -/
theorem code (hs : Unquoted s) (ht : Quotes t ts) : Quotes (s ++ t) ts :=
  (of_unquoted hs).append ht

/-- The same when the characters are known. -/
theorem fixed {cs : List Char} (h : cs.contains '"' = false) (ht : Quotes t ts) :
    Quotes (String.ofList cs ++ t) ts :=
  code (unquoted_ofList (by simpa using h)) ht

theorem fixedEnd {cs : List Char} (h : cs.contains '"' = false) : Quotes (String.ofList cs) [] :=
  of_unquoted (unquoted_ofList (by simpa using h))

/-- A literal in front of a piece. -/
theorem literal (text : String) (ht : Quotes t ts) :
    Quotes (sourceLiteral text ++ t) (text :: ts) := by
  have hliteral : Quotes (sourceLiteral text) [text] := by
    intro closed
    have hquote : "\"".toList = ['"'] := String.toList_ofList
    rw [sourceLiteral, String.toList_append, String.toList_append, hquote, escapeLiteral,
      String.toList_ofList]
    exact Scan.run_literal text.toList closed
  exact hliteral.append ht

end Quotes

/-! ### Lines of source text -/

/-- Lines that hold the literals of some texts. -/
def LinesQuote (lines : List String) (texts : List String) : Prop :=
  Quotes (textOfLines lines) texts

namespace LinesQuote

variable {lines lines' texts texts' : List String} {α : Type}

theorem nil : LinesQuote [] [] :=
  .of_unquoted (List.not_mem_nil)

theorem cons {line : String} (hline : Quotes line texts) (h : LinesQuote lines texts') :
    LinesQuote (line :: lines) (texts ++ texts') := by
  have hend : Quotes (line ++ "\n") texts := by
    have hnewline : Quotes "\n" [] := .fixedEnd rfl
    exact List.append_nil texts ▸ hline.append hnewline
  rw [LinesQuote, textOfLines_cons]
  exact hend.append h

/-- A line without literals in front of others. -/
theorem code {line : String} (hline : Quotes line []) (h : LinesQuote lines texts) :
    LinesQuote (line :: lines) texts :=
  cons hline h

/-- The same when the characters are known. -/
theorem fixed {cs : List Char} (hcs : cs.contains '"' = false) (h : LinesQuote lines texts) :
    LinesQuote (String.ofList cs :: lines) texts :=
  code (.fixedEnd hcs) h

theorem append (h : LinesQuote lines texts) (h' : LinesQuote lines' texts') :
    LinesQuote (lines ++ lines') (texts ++ texts') := by
  rw [LinesQuote, textOfLines_append]
  exact Quotes.append h h'

/-- The lines of items hold the literals of what the items hold, one item after the other. -/
theorem flatMap {linesOf textsOf : α → List String} {items : List α}
    (h : ∀ a ∈ items, LinesQuote (linesOf a) (textsOf a)) :
    LinesQuote (items.flatMap linesOf) (items.flatMap textsOf) := by
  induction items with
  | nil => exact nil
  | cons a items ih =>
    rw [List.forall_mem_cons] at h
    rw [List.flatMap_cons, List.flatMap_cons]
    exact h.1.append (ih h.2)

/-- The same for items with one line each. -/
theorem map {lineOf : α → String} {textsOf : α → List String} {items : List α}
    (h : ∀ a ∈ items, Quotes (lineOf a) (textsOf a)) :
    LinesQuote (items.map lineOf) (items.flatMap textsOf) := by
  induction items with
  | nil => exact nil
  | cons a items ih =>
    rw [List.forall_mem_cons] at h
    exact cons h.1 (ih h.2)

end LinesQuote

end PsetCompiler
