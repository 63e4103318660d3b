import PsetCompiler.Proofs.Source.Literal
import PsetCompiler.Proofs.Text.Split

/-!
# The end of a literal

Whoever reads source text finds the end of a literal mark by mark: a backslash and the character
behind it are one mark, any other character is a mark of its own, and the first double quote that is
no part of a mark ends the literal.  A text that is escaped between two quotes must not end its
literal early, and not late either: its last backslash must not take the closing quote with it.

The escaped text has one mark for each character of the text, and each mark denotes its character.
Two replacements make it, the backslashes before the quotes.  The order matters, for the second one
adds backslashes which the first one must not see.

## Main definitions

* `Mark`, `Mark.spelling`, `Mark.denotes?` — the marks of a literal, how they are written and what
  they denote.
* `Mark.ofChar` — the mark that stands for a character in an escaped text.
* `scanLiteral` — the marks up to the closing quote, and what stands behind it.

## Main results

* `scanLiteral_eq_some_iff` — a scan is given by the marks that it finds.
* `escapeLiteral_eq_replaceAll` — escaping is the two replacements.
* `scanLiteral_escapeLiteral` — **an escaped text ends where it should, and denotes the text.**
-/

namespace PsetCompiler

/-! ### Marks -/

/-- What is read at once inside of a literal. -/
inductive Mark where
  /-- A character that stands for itself. -/
  | plain (c : Char)
  /-- A backslash and the character behind it. -/
  | escaped (c : Char)
deriving DecidableEq, Repr

namespace Mark

/-- The characters of a mark. -/
def spelling : Mark → List Char
  | plain c => [c]
  | escaped c => ['\\', c]

/-- The character that a mark denotes. -/
def denotes? : Mark → Option Char
  | plain c => some c
  | escaped c => simpleEscape? c

/-- The mark neither ends a literal nor takes a character with it that it does not have. -/
def IsSound : Mark → Prop
  | plain c => c ≠ '\\' ∧ c ≠ '"'
  | escaped _ => True

/-- The mark that stands for a character in an escaped text. -/
def ofChar (c : Char) : Mark :=
  if c = '\\' ∨ c = '"' then escaped c else plain c

theorem isSound_ofChar (c : Char) : (ofChar c).IsSound := by
  unfold ofChar
  split
  · trivial
  · next h => exact not_or.mp h

theorem denotes?_ofChar (c : Char) : (ofChar c).denotes? = some c := by
  unfold ofChar
  split
  · next h =>
    rcases h with rfl | rfl
    · rfl
    · rfl
  · rfl

/-- The marks of an escaped text denote the text. -/
theorem mapM_denotes?_ofChar (cs : List Char) : (cs.map ofChar).mapM denotes? = some cs := by
  induction cs with
  | nil => rfl
  | cons c cs ih => simp [denotes?_ofChar, ih]

/-- An escaped text is written with the marks of its characters. -/
theorem flatMap_spelling_ofChar (cs : List Char) :
    (cs.map ofChar).flatMap spelling = escapeLiteralChars cs := by
  rw [List.flatMap_map]
  refine List.flatMap_congr fun c _ => ?_
  unfold ofChar
  split
  · rfl
  · rfl

end Mark

/-! ### Scanning one literal -/

/-- The marks up to the first double quote that is no part of a mark, and what stands behind that
quote.  It is called behind the quote that opens the literal. -/
def scanLiteral : List Char → Option (List Mark × List Char)
  | [] => none
  | '"' :: rest => some ([], rest)
  | '\\' :: [] => none
  | '\\' :: c :: rest => (scanLiteral rest).map fun r => (.escaped c :: r.1, r.2)
  | c :: rest => (scanLiteral rest).map fun r => (.plain c :: r.1, r.2)

/-- A sound mark is read at once. -/
theorem scanLiteral_spelling {m : Mark} (hm : m.IsSound) (cs : List Char) :
    scanLiteral (m.spelling ++ cs) = (scanLiteral cs).map fun r => (m :: r.1, r.2) := by
  cases m with
  | plain c =>
    obtain ⟨hslash, hquote⟩ := hm
    show scanLiteral (c :: cs) = _
    rw [scanLiteral]
    · exact hquote
    · intro h _
      exact hslash h
    · intro _ _ h _
      exact hslash h
  | escaped c => rfl

/-- **A scan is given by the marks that it finds**: what is scanned is those marks, then the closing
quote, then the rest. -/
theorem scanLiteral_eq_some_iff {cs rest : List Char} {marks : List Mark} :
    scanLiteral cs = some (marks, rest) ↔
      (∀ m ∈ marks, m.IsSound) ∧ cs = marks.flatMap Mark.spelling ++ '"' :: rest := by
  constructor
  · intro h
    fun_induction scanLiteral cs generalizing marks with
    | case1 => cases h
    | case2 cs =>
      cases h
      exact ⟨List.forall_mem_nil _, rfl⟩
    | case3 => cases h
    | case4 c cs ih =>
      obtain ⟨⟨found, _⟩, hfound, heq⟩ := Option.map_eq_some_iff.mp h
      cases heq
      obtain ⟨hsound, hcs⟩ := ih hfound
      exact ⟨List.forall_mem_cons.mpr ⟨trivial, hsound⟩, by rw [hcs]; rfl⟩
    | case5 c cs hquote hlast hslash ih =>
      obtain ⟨⟨found, _⟩, hfound, heq⟩ := Option.map_eq_some_iff.mp h
      cases heq
      obtain ⟨hsound, hcs⟩ := ih hfound
      have hc : c ≠ '\\' := by
        intro hc
        cases cs with
        | nil => exact hlast hc rfl
        | cons d ds => exact hslash d ds hc rfl
      exact ⟨List.forall_mem_cons.mpr ⟨⟨hc, hquote⟩, hsound⟩, by rw [hcs]; rfl⟩
  · rintro ⟨hsound, rfl⟩
    induction marks with
    | nil => rfl
    | cons m marks ih =>
      rw [List.forall_mem_cons] at hsound
      rw [List.flatMap_cons, List.append_assoc, scanLiteral_spelling hsound.1, ih hsound.2]
      rfl

example : scanLiteral ['a', '\\', '"', '"', 'b'] = some ([.plain 'a', .escaped '"'], ['b']) := by
  decide

/-! ### Escaping by replacement -/

theorem replaceAll_singleton (c : Char) (new cs : List Char) :
    Text.replaceAll (String.ofList [c]) (String.ofList new) (String.ofList cs) =
      String.ofList (cs.flatMap fun d => if d = c then new else [d]) := by
  simp only [Text.replaceAll, String.toList_ofList, Text.replaceFrom_singleton]

/-- **Escaping is two replacements**, the backslashes first and then the quotes. -/
theorem escapeLiteral_eq_replaceAll (s : String) :
    escapeLiteral s = Text.replaceAll "\"" "\\\"" (Text.replaceAll "\\" "\\\\" s) := by
  have hslashes : Text.replaceAll "\\" "\\\\" s =
      String.ofList (s.toList.flatMap fun c => if c = '\\' then ['\\', '\\'] else [c]) := by
    rw [← replaceAll_singleton, String.ofList_toList]
  rw [hslashes]
  show _ = Text.replaceAll (String.ofList ['"']) (String.ofList ['\\', '"']) _
  rw [replaceAll_singleton, List.flatMap_assoc, escapeLiteral, escapeLiteralChars]
  refine congrArg String.ofList (List.flatMap_congr fun c _ => ?_)
  by_cases hc : c = '\\'
  · subst hc
    rfl
  · rw [if_neg hc, List.flatMap_singleton]
    by_cases hc' : c = '"'
    · subst hc'
      rfl
    · simp [hc, hc']

-- The other way round, the backslash of an escaped quote is doubled and the quote ends the literal.
example : Text.replaceAll "\\" "\\\\" (Text.replaceAll "\"" "\\\"" "\"") = "\\\\\"" := by
  decide

/-! ### Escaped texts -/

/-- **No text breaks out of its literal.** Whatever stands behind the closing quote of an escaped
text, a scan stops right in front of it; it has met no escapes but those of a backslash and of a
double quote; and what it has read denotes the text.  So no two texts have the same literal. -/
theorem scanLiteral_escapeLiteral :
    (∀ s rest : String, ∃ marks,
      scanLiteral (escapeLiteral s ++ "\"" ++ rest).toList = some (marks, rest.toList) ∧
      (∀ c, .escaped c ∈ marks → c = '\\' ∨ c = '"') ∧
      marks.mapM Mark.denotes? = some s.toList) ∧
    Function.Injective escapeLiteral := by
  constructor
  · intro s rest
    refine ⟨s.toList.map Mark.ofChar, ?_, ?_, Mark.mapM_denotes?_ofChar s.toList⟩
    · rw [scanLiteral_eq_some_iff]
      constructor
      · intro m hm
        obtain ⟨c, -, rfl⟩ := List.mem_map.mp hm
        exact Mark.isSound_ofChar c
      · have hquote : "\"".toList = ['"'] := String.toList_ofList
        rw [Mark.flatMap_spelling_ofChar, String.toList_append, String.toList_append, hquote,
          escapeLiteral, String.toList_ofList, List.append_assoc]
        rfl
    · intro c hc
      obtain ⟨d, -, hd⟩ := List.mem_map.mp hc
      unfold Mark.ofChar at hd
      split at hd
      · next h =>
        cases hd
        exact h
      · cases hd
  · intro s t h
    have hchars : escapeLiteralChars s.toList = escapeLiteralChars t.toList :=
      String.ofList_injective h
    have hread := unescape_escapeLiteralChars s.toList
    rw [hchars, unescape_escapeLiteralChars, Option.some.injEq] at hread
    exact String.toList_injective hread.symm

end PsetCompiler
