import PsetCompiler.Proofs.Guid
import PsetCompiler.Proofs.Parameter.Merge
import PsetCompiler.Proofs.Text.Lines

/-!
# Reading back rows

A row keeps a parameter if its name is not blank, if its name, its category and its description hold
no tab, if its group has not too many digits, and if its identifier is in the written form.
Parameters that were read from a row are such parameters, whatever the row looked like; so nothing
is lost when they are written and read again.

A file keeps the rows that stand on one line each, so there the texts must not hold line ends
either.  What is read from the rows of a file is of this kind, and from one run to the next nothing
is lost but the name of the owning set, which has no column.

## Main definitions

* `Parameter.IsReadable` — the parameters that a row keeps.
* `Parameter.IsRecordable` — the parameters that a file keeps.
* `Parameter.IsOneLine` — the parameters whose rows are lines.
* `Parameter.recorded` — what a row keeps of a parameter.
* `Parameter.row` — the row of a parameter.

## Main results

* `IsReadable.parseRow_row` — **a readable parameter is read back from its row.**
* `isReadable_of_parseRow` — what is read from a row is readable.
* `isRecordable_of_parseRow` — what is read from a row on one line is recordable.
* `formatRow_stable_of_parseRow` — **formatting settles every row that is accepted.**
-/

namespace PsetCompiler

open Text (IsLine IsColumn)

namespace Parameter

/-- A row keeps the parameter. -/
structure IsReadable (p : Parameter) : Prop where
  name : '\t' ∉ p.name.toList
  named : Text.isBlankText p.name = false
  description : '\t' ∉ p.description.toList
  category : '\t' ∉ p.dataCategory.toList
  group : Text.IsWritable p.groupId
  guid : ∃ g : Guid, p.guid = some g.text

/-- A file keeps the row of the parameter. -/
structure IsRecordable (p : Parameter) : Prop where
  name : IsColumn p.name
  named : Text.isBlankText p.name = false
  description : IsColumn p.description
  category : IsColumn p.dataCategory
  group : Text.IsWritable p.groupId
  guid : ∃ g : Guid, p.guid = some g.text

/-- The row of the parameter is a line, with a name and an identifier in it. -/
structure IsOneLine (p : Parameter) : Prop where
  name : IsLine p.name.toList
  named : Text.isBlankText p.name = false
  description : IsLine p.description.toList
  category : IsColumn p.dataCategory
  group : Text.IsWritable p.groupId
  guid : ∃ g : Guid, p.guid = some g.text

theorem IsRecordable.isReadable {p : Parameter} (h : p.IsRecordable) : p.IsReadable where
  name := h.name.1
  named := h.named
  description := h.description.1
  category := h.category.1
  group := h.group
  guid := h.guid

theorem IsRecordable.isOneLine {p : Parameter} (h : p.IsRecordable) : p.IsOneLine where
  name := h.name.2
  named := h.named
  description := h.description.2
  category := h.category
  group := h.group
  guid := h.guid

/-- What a row keeps of a parameter. -/
def recorded (p : Parameter) : Parameter :=
  { p with owningSet := none }

/-- The columns of a parameter with an identifier. -/
def columns (p : Parameter) (guid : String) : List String :=
  [rowMark, guid, p.name, p.paramType.name, p.dataCategory, toString p.groupId,
    flagColumn p.visible, p.description, flagColumn p.userModifiable]

/-- The row of a parameter with an identifier. -/
def row (p : Parameter) : String :=
  joinColumns (p.columns (p.guid.getD ""))

end Parameter

namespace Text

theorem isColumn_of_forall {s : String}
    (h : ∀ c ∈ s.toList, c ≠ '\t' ∧ c ≠ '\r' ∧ c ≠ '\n') : IsColumn s :=
  ⟨fun ht => (h _ ht).1 rfl, fun hr => (h _ hr).2.1 rfl, fun hn => (h _ hn).2.2 rfl⟩

theorem isColumn_toString (n : Int) : IsColumn (toString n) := by
  have hdigit {m : Nat} {c : Char} (hc : c ∈ Nat.toDigits 10 m) :
      c ≠ '\t' ∧ c ≠ '\r' ∧ c ≠ '\n' := by
    have h : c.isDigit := Nat.isDigit_of_mem_toDigits (by decide) (by decide) hc
    refine ⟨?_, ?_, ?_⟩ <;> rintro rfl <;> exact absurd h (by decide)
  refine isColumn_of_forall fun c hc => ?_
  cases n with
  | ofNat m =>
    rw [show toString (Int.ofNat m) = m.repr from rfl, Nat.toList_repr] at hc
    exact hdigit hc
  | negSucc m =>
    rw [show toString (Int.negSucc m) = "-" ++ (m + 1).repr from rfl, String.toList_append,
      Nat.toList_repr] at hc
    rcases List.mem_append.mp hc with hc | hc
    · rw [List.mem_singleton.mp hc]
      decide
    · exact hdigit hc

theorem isColumn_flagColumn (flag : Bool) : IsColumn (flagColumn flag) := by
  cases flag <;> decide

theorem isColumn_paramTypeName (t : ParamType) : IsColumn t.name := by
  cases t <;> decide

theorem isColumn_guidText (g : Guid) : IsColumn g.text := by
  exact isColumn_of_forall fun c hc =>
    Guid.of_mem_alphabet (p := fun c => c ≠ '\t' ∧ c ≠ '\r' ∧ c ≠ '\n') (by decide)
      (Guid.mem_alphabet_of_mem_text hc)

end Text

theorem formatNumber_eq_ok {n : Int} (h : Text.IsWritable n) : formatNumber n = .ok (toString n) :=
  if_pos h

/-- A number that is written is one that can be. -/
theorem isWritable_of_formatNumber {n : Int} {text : String} (h : formatNumber n = .ok text) :
    Text.IsWritable n := by
  unfold formatNumber at h
  split at h
  · next hn => exact hn
  · cases h

theorem formatHeader_eq_ok {groupId : Int} (h : Text.IsWritable groupId) (groupName : String) :
    formatHeader groupId groupName = .ok (headerLines groupId groupName) := by
  rw [formatHeader, formatNumber_eq_ok h]
  rfl

theorem formatRow_eq_ok {p : Parameter} {g : Guid} (h : p.guid = some g.text)
    (hgroup : Text.IsWritable p.groupId) : formatRow p = .ok p.row := by
  have hfilter : p.guid.filter (· ≠ "") = some g.text := by
    rw [h]
    exact g.carried_text
  rw [formatRow, hfilter]
  dsimp only
  rw [formatNumber_eq_ok hgroup, Parameter.row, h]
  rfl

namespace Parameter

theorem IsOneLine.isLine_columns {p : Parameter} (h : p.IsOneLine) (g : Guid) :
    ∀ column ∈ p.columns g.text, IsLine column.toList := by
  simp only [columns, List.forall_mem_cons]
  exact ⟨by decide, (Text.isColumn_guidText g).2, h.name, (Text.isColumn_paramTypeName _).2,
    h.category.2, (Text.isColumn_toString _).2, (Text.isColumn_flagColumn _).2, h.description,
    (Text.isColumn_flagColumn _).2, fun _ h => absurd h List.not_mem_nil⟩

theorem IsOneLine.isLine_row {p : Parameter} (h : p.IsOneLine) : IsLine p.row.toList := by
  obtain ⟨g, hg⟩ := h.guid
  rw [row, hg]
  exact Text.isLine_joinColumns (h.isLine_columns g)

theorem IsRecordable.isColumn_columns {p : Parameter} (h : p.IsRecordable) {g : Guid} :
    ∀ column ∈ p.columns g.text, IsColumn column := by
  simp only [columns, List.forall_mem_cons]
  exact ⟨by decide, Text.isColumn_guidText g, h.name, Text.isColumn_paramTypeName _, h.category,
    Text.isColumn_toString _, Text.isColumn_flagColumn _, h.description,
    Text.isColumn_flagColumn _, fun _ h => absurd h List.not_mem_nil⟩

namespace IsReadable

variable {p : Parameter} (h : p.IsReadable)
include h

theorem tab_notMem_columns {g : Guid} : ∀ column ∈ p.columns g.text, '\t' ∉ column.toList := by
  simp only [columns, List.forall_mem_cons]
  exact ⟨by decide, (Text.isColumn_guidText g).1, h.name, (Text.isColumn_paramTypeName _).1,
    h.category, (Text.isColumn_toString _).1, (Text.isColumn_flagColumn _).1, h.description,
    (Text.isColumn_flagColumn _).1, fun _ h => absurd h List.not_mem_nil⟩

/-- The columns of a row come out again, since it ends in a flag. -/
theorem columnsOf_row {g : Guid} (hg : p.guid = some g.text) :
    columnsOf p.row.toList = p.columns g.text := by
  have hcolumns : p.columns g.text =
      (p.columns g.text).dropLast ++ [flagColumn p.userModifiable] := rfl
  have hflag : ∃ c, (flagColumn p.userModifiable).toList = [] ++ [c] ∧ c ≠ '\r' ∧ c ≠ '\n' := by
    cases p.userModifiable
    · exact ⟨'0', rfl, by decide⟩
    · exact ⟨'1', rfl, by decide⟩
  obtain ⟨c, hc, hends⟩ := hflag
  have hcut := h.tab_notMem_columns (g := g)
  rw [Parameter.row, hg, Option.getD_some]
  rw [hcolumns] at hcut ⊢
  exact Text.columnsOf_joinColumns_concat hcut hc hends

/-- A readable parameter is read back from its row, and nothing is reported. -/
theorem parseRow_row (place : String) : parseRow p.row.toList place = pure (some p.recorded) := by
  obtain ⟨g, hg⟩ := h.guid
  have hflag (flag : Bool) : (Text.strip (flagColumn flag) == "1") = flag := by
    cases flag <;> decide
  have htype : ParamType.ofName? (Text.upper (Text.strip p.paramType.name)) = some p.paramType := by
    cases p.paramType <;> decide
  rw [parseRow, h.columnsOf_row hg, columns]
  simp only [ne_eq, not_true_eq_false, if_false, h.named, Bool.false_eq_true, Guid.strip_text,
    Guid.read?_text, Text.readNumber_toString h.group, rowParamType, htype, hflag]
  rw [recorded, hg]
  rfl

end IsReadable

/-- A recordable parameter is read back from its row, and nothing is reported. -/
theorem IsRecordable.parseRow_row {p : Parameter} (h : p.IsRecordable) (place : String) :
    parseRow p.row.toList place = pure (some p.recorded) :=
  h.isReadable.parseRow_row place

end Parameter

/-- What a row has to be for a parameter to be read from it. -/
theorem columnsOf_of_parseRow {line : List Char} {place : String} {p : Parameter}
    (h : (parseRow line place).value = some p) :
    (∃ guid rawType group visible modifiable rest, columnsOf line =
      rowMark :: guid :: p.name :: rawType :: p.dataCategory :: group :: visible ::
        p.description :: modifiable :: rest) ∧
      Text.isBlankText p.name = false ∧ Text.IsWritable p.groupId ∧
        (∃ g : Guid, p.guid = some g.text) ∧ p.owningSet = none := by
  -- of the ways through the reader, one gives a parameter
  unfold parseRow at h
  split at h
  · next mark columns hcolumns =>
    split at h
    · cases h
    · next hmark =>
      split at h
      · split at h
        · cases h
        · next hnamed =>
          split at h
          · cases h
          · next parsed hguid =>
            split at h
            · cases h
            · next groupId hgroup =>
              rw [Report.value_bind, Report.value_pure, Option.some.injEq] at h
              obtain rfl := not_not.mp hmark
              subst h
              exact ⟨⟨_, _, _, _, _, _, hcolumns⟩, Bool.eq_false_iff.mpr hnamed,
                Text.isWritable_of_readNumber hgroup, ⟨parsed, rfl⟩, rfl⟩
      · cases h
  · cases h

/-- What is read from a row is readable, and the row has no owning set. -/
theorem isReadable_of_parseRow {line : List Char} {place : String} {p : Parameter}
    (h : (parseRow line place).value = some p) : p.IsReadable ∧ p.recorded = p := by
  obtain ⟨⟨guid, rawType, group, visible, modifiable, rest, hcolumns⟩, hnamed, hgroup, hguid,
    howning⟩ := columnsOf_of_parseRow h
  have hcolumn {column : String} (hmem : column ∈ columnsOf line) : '\t' ∉ column.toList :=
    Text.tab_notMem_of_mem_columnsOf hmem
  rw [hcolumns] at hcolumn
  constructor
  · exact { name := hcolumn (by simp), named := hnamed, description := hcolumn (by simp)
            category := hcolumn (by simp), group := hgroup, guid := hguid }
  · rw [Parameter.recorded, ← howning]

/-- What is read from a row on one line is recordable. -/
theorem isRecordable_of_parseRow {line : List Char} (hline : IsLine line) {place : String}
    {p : Parameter} (h : (parseRow line place).value = some p) : p.IsRecordable := by
  obtain ⟨⟨guid, rawType, group, visible, modifiable, rest, hcolumns⟩, hnamed, hgroup, hguid, -⟩ :=
    columnsOf_of_parseRow h
  have hcolumn {column : String} (hmem : column ∈ columnsOf line) : IsColumn column :=
    Text.isColumn_of_mem_columnsOf hline hmem
  rw [hcolumns] at hcolumn
  exact { name := hcolumn (by simp), named := hnamed, description := hcolumn (by simp)
          category := hcolumn (by simp), group := hgroup, guid := hguid }

/-- A row starts with its mark; what starts otherwise is passed over, and nothing is reported. -/
theorem parseRow_of_head {line : List Char} (hline : IsLine line) (h : line.head? ≠ some 'P')
    (place : String) : parseRow line place = pure none := by
  unfold parseRow
  split
  · next mark columns hcolumns =>
    rw [columnsOf, Text.trimEndBy_of_isLine hline] at hcolumns
    obtain ⟨first, parts, hsplit, hfirst, -⟩ := List.map_eq_cons_iff.mp hcolumns
    have hmark : mark ≠ rowMark := by
      rintro rfl
      have hchars : first = "PARAM".toList := by
        rw [← String.toList_ofList (l := first), hfirst]
        rfl
      rw [hchars] at hsplit
      exact h (Text.head?_of_splitBy hsplit (by decide)).symm
    rw [if_pos hmark]
  · rfl

/-- The place matters to the reports only. -/
theorem value_parseRow (line : List Char) (place : String) :
    (parseRow line place).value = (parseRow line).value := by
  have htype (name raw description : String) :
      (rowParamType place name raw description).value =
        (rowParamType "" name raw description).value := by
    unfold rowParamType
    split <;> rfl
  unfold parseRow
  split
  · split
    · rfl
    · split
      · split
        · rfl
        · split
          · rfl
          · split
            · rfl
            · rw [Report.value_bind, Report.value_bind, htype]
      · rfl
  · rfl

/-! ### Rows that are accepted -/

/-- **Formatting settles every row that is accepted.**  Whatever line a parameter was read from, the
parameter has a row, and wherever that row is read, it gives the same parameter again and nothing is
reported.  So a line that was read and formatted once stays as it is when that is done again. -/
theorem formatRow_stable_of_parseRow {line : List Char} {place : String} {p : Parameter}
    (h : (parseRow line place).value = some p) :
    ∃ row, formatRow p = .ok row ∧
      ∀ place', parseRow row.toList place' = pure (some p) ∧
        (parseRow row.toList place').value.map formatRow = some (.ok row) := by
  obtain ⟨hreadable, howning⟩ := isReadable_of_parseRow h
  obtain ⟨g, hg⟩ := hreadable.guid
  have hrow : formatRow p = .ok p.row := formatRow_eq_ok hg hreadable.group
  refine ⟨p.row, hrow, fun place' => ?_⟩
  have hread : parseRow p.row.toList place' = pure (some p) := by
    rw [hreadable.parseRow_row, howning]
  refine ⟨hread, ?_⟩
  rw [hread, Report.value_pure, Option.map_some, hrow]

/-- A row as nothing would write it: an identifier in capitals with a mark and braces, a name with a
line feed in it, an unknown type, a group in digits of two scripts, blanks around the flags, and one
column too many. -/
def untidyRow : String :=
  "PARAM\t urn:uuid:\x7bF1C2E6D0-0A4B-4A53-9D3A-6A2F0C1B7E55\x7d\tSwing\nAngle\tlabel\t\t" ++
    " +1_\u0662\t 1 \t ifcsolidanglemeasure \tyes\tmore\r\n"

/-- The parameter of the untidy row. -/
def untidyParameter : Parameter where
  name := "Swing\nAngle"
  guid := some "f1c2e6d0-0a4b-4a53-9d3a-6a2f0c1b7e55"
  paramType := .angle
  description := " ifcsolidanglemeasure "
  groupId := 12
  userModifiable := false

theorem formatRow_stable_of_parseRow_untidy :
    (parseRow untidyRow.toList "seed.txt:8").value = some untidyParameter ∧
      ∃ row, formatRow untidyParameter = .ok row ∧
        ∀ place', parseRow row.toList place' = pure (some untidyParameter) ∧
          (parseRow row.toList place').value.map formatRow = some (.ok row) := by
  have hread : (parseRow untidyRow.toList "seed.txt:8").value = some untidyParameter := by
    decide +kernel
  exact ⟨hread, formatRow_stable_of_parseRow hread⟩

end PsetCompiler
