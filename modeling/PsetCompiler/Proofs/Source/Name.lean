import PsetCompiler.Source.Name
import PsetCompiler.Text.Split
import Mathlib.Data.List.Nodup

/-!
# Names of generated sources

A text is made into a name character by character, and every character that no name may hold becomes
an underscore.  So texts can give one name that differ in such characters, and in underscores.
Texts that are names already stay as they are.

## Main definitions

* `SpelledApart` — different texts give different names.
* `linesWith` — the lines that begin in one way.

## Main results

* `nodup_map_sourceName_iff` — **when the names of different texts are different.**
* `spelledApart_of_forall` — names stay apart.
-/

namespace PsetCompiler

/-- A character, or an underscore in the place of one that no name may hold. -/
def nameChar (c : Char) : Char :=
  if isNameChar c then c else '_'

theorem nameChars_eq (cs : List Char) : nameChars cs = cs.map nameChar := rfl

/-- A name is its own name. -/
theorem sourceName_eq_self {s : String} (h : ∀ c ∈ s.toList, isNameChar c = true) :
    sourceName s = s := by
  have hchars : nameChars s.toList = s.toList := by
    rw [nameChars_eq]
    refine (List.map_congr_left fun c hc => ?_).trans (List.map_id _)
    rw [nameChar, if_pos (h c hc)]
    rfl
  rw [sourceName, hchars, String.ofList_toList]

/-- Different texts of a list give different names. -/
def SpelledApart (texts : List String) : Prop :=
  ∀ s ∈ texts, ∀ t ∈ texts, sourceName s = sourceName t → s = t

/-- What is made of the names of different texts, and of nothing else, is different exactly when the
texts are spelled apart. -/
theorem nodup_map_comp_sourceName_iff {α : Type} {f : String → α} (hf : Function.Injective f)
    {texts : List String} (h : texts.Nodup) :
    (texts.map fun s => f (sourceName s)).Nodup ↔ SpelledApart texts := by
  rw [List.nodup_map_iff_inj_on h]
  simp only [hf.eq_iff]
  rfl

/-- The names of different texts are different exactly when these are spelled apart. -/
theorem nodup_map_sourceName_iff {texts : List String} (h : texts.Nodup) :
    (texts.map sourceName).Nodup ↔ SpelledApart texts :=
  nodup_map_comp_sourceName_iff Function.injective_id h

theorem spelledApart_of_forall {texts : List String}
    (h : ∀ s ∈ texts, ∀ c ∈ s.toList, isNameChar c = true) : SpelledApart texts := by
  intro s hs t ht hname
  rwa [sourceName_eq_self (h s hs), sourceName_eq_self (h t ht)] at hname

/-! ### Lines that declare names -/

/-- The lines that begin in one way. -/
def linesWith (start : String) (lines : List String) : List String :=
  lines.filter (Text.startsWith start)

theorem startsWith_append (start s : String) : Text.startsWith start (start ++ s) = true := by
  rw [Text.startsWith, String.toList_append, List.isPrefixOf_iff_prefix]
  exact List.prefix_append _ _

/-- A line does not begin so if what it begins with and the start part somewhere. -/
theorem startsWith_append_of_apart {start lead : List Char}
    (h : (start.isPrefixOf lead || lead.isPrefixOf start) = false) (s : String) :
    Text.startsWith (String.ofList start) (String.ofList lead ++ s) = false := by
  rw [Bool.or_eq_false_iff] at h
  rw [Text.startsWith, String.toList_append, String.toList_ofList, String.toList_ofList,
    Bool.eq_false_iff, ne_eq, List.isPrefixOf_iff_prefix]
  intro hprefix
  rcases List.prefix_or_prefix_of_prefix hprefix (List.prefix_append lead s.toList) with hp | hp
  · exact Bool.eq_false_iff.mp h.1 (List.isPrefixOf_iff_prefix.mpr hp)
  · exact Bool.eq_false_iff.mp h.2 (List.isPrefixOf_iff_prefix.mpr hp)

theorem startsWith_of_apart {start lead : List Char}
    (h : (start.isPrefixOf lead || lead.isPrefixOf start) = false) :
    Text.startsWith (String.ofList start) (String.ofList lead) = false := by
  rw [← String.append_empty (s := String.ofList lead)]
  exact startsWith_append_of_apart h ""

theorem linesWith_append (start : String) (lines lines' : List String) :
    linesWith start (lines ++ lines') = linesWith start lines ++ linesWith start lines' :=
  List.filter_append ..

theorem linesWith_eq_nil {start : String} {lines : List String}
    (h : ∀ line ∈ lines, Text.startsWith start line = false) : linesWith start lines = [] :=
  List.filter_eq_nil_iff.mpr fun line hline => by simp [h line hline]

/-- Of what items become, the first line of each is left if it begins so and no other line does. -/
theorem linesWith_flatMap {α : Type} {start : String} {first : α → String}
    {linesOf : α → List String} (h : ∀ a, linesWith start (linesOf a) = [first a])
    (items : List α) :
    linesWith start (items.flatMap linesOf) = items.map first := by
  rw [linesWith, List.filter_flatMap]
  induction items with
  | nil => rfl
  | cons a items ih =>
    rw [List.flatMap_cons, List.map_cons, ih]
    exact congrArg (· ++ _) (h a)

end PsetCompiler
