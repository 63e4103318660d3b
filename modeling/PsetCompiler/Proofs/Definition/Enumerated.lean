import PsetCompiler.Definition.Property
import PsetCompiler.Proofs.Entries
import PsetCompiler.Proofs.Markup.Names
import Mathlib.Data.Finset.Card

/-!
# Enumerated values

The element of an enumerated value lists its items in one part and the constants with their
localized names in another one.  Here both are told from the elements inside, at whatever depth they
stand, and what is read from the element is compared with that: which items it has and in which
order, what it is called, and which of the constants each item takes its localized names from.

## Main definitions

* `itemTexts`, `constantNames` — the items and the constants that an element holds.
* `HasAliases` — the localized names that belong to an item.
* `EnumerationOf` — what is read from an element.

## Main results

* `enumeratedType_run` — an element whose names can be told is read without a failure.
* `simpleType_enumerated` — **what is read from the element of an enumerated value.**
-/

namespace PsetCompiler

open Markup (Element Found)

/-! ### What an element holds -/

/-- The first child of a name. -/
def firstNamed? (e : Element) (name : String) : Option Element :=
  e.elements.find? (·.name == name)

/-- The texts of the items at any depth, in document order. -/
def itemTexts (e : Element) : List String :=
  (e.inside.filter (·.name == "EnumItem")).filterMap Element.trimmedText?

/-- The constants at any depth, in document order. -/
def constantElements (e : Element) : List Element :=
  e.inside.filter (·.name == "ConstantDef")

/-- The name of a constant. -/
def constantName? (c : Element) : Option String :=
  (firstNamed? c "Name").bind Element.trimmedText?

/-- The localized names of a constant. -/
def constantAliases (c : Element) : List Alias :=
  match firstNamed? c "NameAliases" with
  | none => []
  | some names => (names.elements.filter (·.name == "NameAlias")).filterMap aliasOf?

/-- The names of the constants that have one, in document order. -/
def constantNames (e : Element) : List String :=
  (constantElements e).filterMap constantName?

/-- How many names of constants differ in more than case. -/
def distinctConstants (e : Element) : Nat :=
  ((constantNames e).map Text.foldCase).toFinset.card

/-- A constant has a name that differs from a value in case only. -/
def IsConstantOf (c : Element) (value : String) : Prop :=
  ∃ name ∈ constantName? c, Text.foldCase name = Text.foldCase value

/-- The localized names that belong to a value: those of the last one of its constants, and none if
there is no such constant. -/
inductive HasAliases (e : Element) (value : String) : List Alias → Prop
  | last {before after : List Element} {c : Element}
      (split : constantElements e = before ++ c :: after) (own : IsConstantOf c value)
      (others : ∀ d ∈ after, ¬ IsConstantOf d value) : HasAliases e value (constantAliases c)
  | missing (absent : ∀ d ∈ constantElements e, ¬ IsConstantOf d value) : HasAliases e value []

/-- An enumeration and the reports on it are what belongs to an element, read as the type of a
property. -/
structure EnumerationOf (e : Element) (property place name : String) (items : List EnumItem)
    (log : List Diagnostic) : Prop where
  /-- Items that the element lists are kept, under the name of the list if it has one; -/
  listed : itemTexts e ≠ [] → items.map (·.value) = itemTexts e ∧
    name = ((firstNamed? e "EnumList").bind (·.filledAttribute? "name")).getD ("PEnum_" ++ property)
  /-- if it lists none, the constants are its items. -/
  unlisted : itemTexts e = [] → items.map (·.value) = constantNames e ∧ name = "PEnum_" ++ property
  aliases : ∀ item ∈ items, HasAliases e item.value item.aliases
  /-- The numbers of items and constants are compared where both are listed. -/
  log_eq : log =
    if itemTexts e = [] then [.constantsUsed place ("PEnum_" ++ property)]
    else if distinctConstants e ≠ 0 ∧ distinctConstants e ≠ (itemTexts e).length then
      [.constantCount place (itemTexts e).length (distinctConstants e)]
    else []

/-! ### Constants -/

variable {e : Element}

/-- A constant with its localized names, if it has a name. -/
def namedConstant? (c : Element) : Option (String × List Alias) :=
  (constantName? c).map fun name => (name, constantAliases c)

/-- The constants that have a name, with their localized names. -/
def namedConstants (e : Element) : List (String × List Alias) :=
  (constantElements e).filterMap namedConstant?

/-- An item with the localized names that are found for it. -/
def itemFor (e : Element) (value : String) : EnumItem :=
  { value, aliases := aliasesUnder (namedConstants e) value }

theorem aliasesOf_eq (h : e.HasNames) : aliasesOf e = .ok (constantAliases e) := by
  rw [aliasesOf, h.child?_eq, constantAliases, firstNamed?]
  cases hnames : e.elements.find? (·.name == "NameAliases") with
  | none => rfl
  | some names =>
    have hmem := Element.mem_inside_of_mem_elements (List.mem_of_find?_eq_some hnames)
    show (names.children "NameAlias").all >>= _ = _
    rw [(h.of_mem_inside hmem).all_children]
    rfl

theorem constantOf?_eq (h : e.HasNames) : constantOf? e = .ok (namedConstant? e) := by
  rw [constantOf?, h.childText?_eq, namedConstant?, constantName?, firstNamed?]
  generalize (e.elements.find? (·.name == "Name")).bind Element.trimmedText? = name?
  cases name? with
  | none => rfl
  | some name =>
    show (aliasesOf e >>= _) = _
    rw [aliasesOf_eq h]
    rfl

theorem constantsOf_eq (h : e.HasNames) :
    constantsOf e = .ok (namedConstants e) := by
  refine Found.all_filterMapM (Element.all_descendants_eq_ok_iff.mpr ⟨h, rfl⟩) fun c hc => ?_
  exact constantOf?_eq (h.of_mem_inside (List.mem_filter.mp hc).1)

theorem itemValues_eq_ok_iff {values : List String} :
    itemValues e = .ok values ↔ e.HasNames ∧ values = itemTexts e := by
  rw [itemValues, except_bind_eq_ok_iff]
  simp only [Element.all_descendants_eq_ok_iff]
  constructor
  · rintro ⟨found, ⟨hnames, rfl⟩, hvalues⟩
    exact ⟨hnames, (Except.ok.inj hvalues).symm⟩
  · rintro ⟨hnames, rfl⟩
    exact ⟨_, ⟨hnames, rfl⟩, rfl⟩

theorem map_fst_namedConstants (e : Element) :
    (namedConstants e).map (·.1) = constantNames e := by
  rw [namedConstants, List.map_filterMap, constantNames]
  refine List.filterMap_congr fun c _ => ?_
  rw [namedConstant?, Option.map_map]
  exact Option.map_id'

theorem constantCount_eq (e : Element) :
    constantCount (namedConstants e) = distinctConstants e := by
  rw [constantCount, distinctConstants, ← map_fst_namedConstants, List.map_map]
  generalize hnames : List.map _ (namedConstants e) = names
  have hfolded : names.eraseDups.toFinset = names.toFinset :=
    List.toFinset.ext fun _ => List.mem_eraseDups
  rw [← List.toFinset_card_of_nodup (nodup_eraseDups names), hfolded, ← hnames]
  rfl

theorem isEmpty_constants (e : Element) :
    (namedConstants e).isEmpty = true ↔ distinctConstants e = 0 := by
  rw [distinctConstants, Finset.card_eq_zero, List.toFinset_eq_empty_iff, List.map_eq_nil_iff,
    ← map_fst_namedConstants, List.map_eq_nil_iff, List.isEmpty_iff]

theorem isConstantOf_iff {c : Element} {value : String} :
    IsConstantOf c value ↔
      (namedConstant? c).any (fun constant => Text.sameFolded constant.1 value) = true := by
  rw [namedConstant?, Option.any_map, Option.any_eq_true]
  exact exists_congr fun name => and_congr_right fun _ => beq_iff_eq.symm

theorem aliasesUnder_of_isConstantOf {c : Element} {value : String} (h : IsConstantOf c value) :
    ((namedConstant? c).map (·.2)).getD [] = constantAliases c := by
  obtain ⟨name, hname, -⟩ := h
  rw [namedConstant?, Option.mem_def.mp hname]
  rfl

/-- The constant that is found from the end is the last one. -/
theorem hasAliases_iff {value : String} {aliases : List Alias} :
    HasAliases e value aliases ↔ aliases = aliasesUnder (namedConstants e) value := by
  have hfalse (d : Element) :
      (namedConstant? d).any (fun constant => Text.sameFolded constant.1 value) = false ↔
        ¬IsConstantOf d value := by
    rw [isConstantOf_iff, Bool.not_eq_true]
  rw [aliasesUnder, namedConstants, ← List.filterMap_reverse, List.find?_filterMap]
  constructor
  · rintro (@⟨before, after, c, hsplit, hown, hothers⟩ | hnone)
    · have hfound : (constantElements e).reverse.find? (fun c => (namedConstant? c).any
          fun constant => Text.sameFolded constant.1 value) = some c := by
        rw [find?_reverse_eq_some_iff]
        refine ⟨isConstantOf_iff.mp hown, before, after, hsplit, ?_⟩
        intro d hd
        exact (hfalse d).mpr (hothers d hd)
      rw [hfound, Option.bind_some, aliasesUnder_of_isConstantOf hown]
    · rw [List.find?_eq_none.mpr]
      · rfl
      · intro d hd
        rw [← isConstantOf_iff]
        exact hnone d (List.mem_reverse.mp hd)
  · rintro rfl
    cases hfound : (constantElements e).reverse.find? fun c =>
        (namedConstant? c).any (fun constant => Text.sameFolded constant.1 value) with
    | none =>
      refine .missing fun d hd hown => ?_
      exact List.find?_eq_none.mp hfound d (List.mem_reverse.mpr hd) (isConstantOf_iff.mp hown)
    | some c =>
      obtain ⟨hown, before, after, hsplit, hothers⟩ := find?_reverse_eq_some_iff.mp hfound
      rw [← isConstantOf_iff] at hown
      rw [Option.bind_some, aliasesUnder_of_isConstantOf hown]
      exact .last hsplit hown fun d hd => (hfalse d).mp (hothers d hd)

/-! ### Enumerated values -/

/-- An element whose names can be told is read without a failure. -/
theorem enumeratedType_run (h : e.HasNames) (property place : String) :
    ∃ name items log, (enumeratedType property place e).run =
        ⟨.ok (some (.enumerated name items)), log⟩ ∧
      EnumerationOf e property place name items log := by
  have haliases (values : List String) :
      ∀ item ∈ values.map (itemFor e), HasAliases e item.value item.aliases := by
    intro item hitem
    obtain ⟨value, -, rfl⟩ := List.mem_map.mp hitem
    exact hasAliases_iff.mpr rfl
  have hvalues (values : List String) : (values.map (itemFor e)).map (·.value) = values := by
    rw [List.map_map]
    exact List.map_id values
  rw [enumeratedType, constantsOf_eq h, Attempt.bind_ok, itemValues_eq_ok_iff.mpr ⟨h, rfl⟩,
    Attempt.bind_ok]
  cases hitems : itemTexts e with
  | nil =>
    have hconstants : (namedConstants e).map (fun constant => itemFor e constant.1) =
        (constantNames e).map (itemFor e) := by
      rw [← map_fst_namedConstants, List.map_map]
      rfl
    refine ⟨_, (constantNames e).map (itemFor e), _, ?_, fun hne => absurd hitems hne,
      fun _ => ⟨hvalues _, rfl⟩, haliases _, (if_pos hitems).symm⟩
    rw [← hconstants]
    rfl
  | cons first others =>
    have hne : itemTexts e ≠ [] := by
      rw [hitems]
      exact List.cons_ne_nil _ _
    rw [← hitems, h.child?_eq, Attempt.bind_ok]
    refine ⟨_, (itemTexts e).map (itemFor e), _, ?_, fun _ => ⟨hvalues _, rfl⟩,
      fun hnil => absurd hnil hne, haliases _, (if_neg hne).symm⟩
    have hempty : (!(namedConstants e).isEmpty) = true ↔ distinctConstants e ≠ 0 := by
      rw [Bool.not_eq_true', ← Bool.not_eq_true, isEmpty_constants]
    rw [if_neg (by simpa using hne)]
    simp only [hempty, constantCount_eq]
    by_cases hcounts : distinctConstants e ≠ 0 ∧ distinctConstants e ≠ (itemTexts e).length
    · rw [if_pos hcounts, if_pos hcounts]
      rfl
    · rw [if_neg hcounts, if_neg hcounts]
      rfl

/-- **What is read from the element of an enumerated value.**  It is read exactly if all names inside
it can be told, and then its items, their order, their localized names and the name of the
enumeration are those that belong to the element, whatever else stands inside it; numbers of items
and constants that differ are a warning. -/
theorem simpleType_enumerated (property place : String) (e : Element) :
    ((∃ t, (simpleType "TypePropertyEnumeratedValue" property place e).run.value = .ok t) ↔
      e.HasNames) ∧
    (e.HasNames → ∃ name items log,
      (simpleType "TypePropertyEnumeratedValue" property place e).run =
        ⟨.ok (some (.enumerated name items)), log⟩ ∧
      EnumerationOf e property place name items log) ∧
    ∀ items constants, (Diagnostic.constantCount place items constants).level = .warning := by
  change ((∃ t, (enumeratedType property place e).run.value = .ok t) ↔ _) ∧ (_ → ∃ name items log,
    (enumeratedType property place e).run = _ ∧ _) ∧ _
  refine ⟨⟨?_, fun h => ?_⟩, fun h => enumeratedType_run h property place, fun _ _ => rfl⟩
  · rintro ⟨t, ht⟩
    obtain ⟨constants, -, ht⟩ := Attempt.value_bind_eq_ok_iff.mp ht
    obtain ⟨values, hvalues, -⟩ := Attempt.value_bind_eq_ok_iff.mp ht
    exact (itemValues_eq_ok_iff.mp hvalues).1
  · obtain ⟨name, items, log, hrun, -⟩ := enumeratedType_run h property place
    exact ⟨_, congrArg Report.value hrun⟩

/-- A constant with a name and a localized name. -/
def constantElement (name language text : String) : Element :=
  { name := "ConstantDef"
    content := [
      .element { name := "Name", content := [.chars name] },
      .element {
        name := "NameAliases"
        content := [.element {
          name := "NameAlias", attributes := [("lang", language)], content := [.chars text] }] }] }

/-- The element of the blades of a damper: two items, of which the second one stands deeper, and
three constants, of which two differ in case only. -/
def bladesElement : Element :=
  { name := "TypePropertyEnumeratedValue"
    content := [
      .element {
        name := "EnumList"
        attributes := [("name", "")]
        content := [
          .element { name := "EnumItem", content := [.chars " Parallel "] },
          .element { name := "EnumItem", content := [.chars "  "] },
          .element {
            name := "Group"
            content := [.element { name := "EnumItem", content := [.chars "OTHER"] }] }] },
      .element {
        name := "ConstantList"
        content := [
          .element (constantElement "PARALLEL" "en" "Parallel"),
          .element (constantElement "parallel" "de" "Gleichlaufend"),
          .element (constantElement "OPPOSED" "en" "Opposed")] }] }

theorem simpleType_enumerated_blades : bladesElement.HasNames ∧
    ∃ items, (simpleType "TypePropertyEnumeratedValue" "Blades" "Pset_Damper.Blades"
        bladesElement).run = ⟨.ok (some (.enumerated "PEnum_Blades" items)), []⟩ ∧
      items.map (·.value) = ["Parallel", "OTHER"] ∧
      ∀ item ∈ items, item.value = "Parallel" →
        item.aliases = [{ language := "de", text := "Gleichlaufend" }] := by
  have hnames : bladesElement.HasNames := by decide
  obtain ⟨-, hread, -⟩ := simpleType_enumerated "Blades" "Pset_Damper.Blades" bladesElement
  obtain ⟨name, items, log, hrun, hread⟩ := hread hnames
  have hitems : itemTexts bladesElement = ["Parallel", "OTHER"] := by decide
  have hlog := hread.log_eq
  obtain ⟨hvalues, rfl⟩ := hread.listed (by rw [hitems]; decide)
  obtain rfl : log = [] := hlog.trans (by decide)
  refine ⟨hnames, items, hrun, hvalues.trans hitems, fun item hitem hvalue => ?_⟩
  rw [hasAliases_iff.mp (hread.aliases item hitem), hvalue]
  decide

end PsetCompiler
