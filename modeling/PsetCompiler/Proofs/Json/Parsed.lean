import PsetCompiler.Json.Parser
import PsetCompiler.Json.Printer
import PsetCompiler.Proofs.Text.Digit

/-!
# Reading back what was written

A value that was written over several lines is read back.  The reader stops right behind the value,
whatever follows, since what is written ends with a bracket, a quote or a word; only a number does
not say where it ends, and values with numbers are left out here.

The fuel of the reader is counted against the characters that are written: a step down takes at
least one of them.

## Main definitions

* `Json.Numberless` — no number is in a value.

## Main results

* `Json.readString_flatMap_escapeChar` — a string is read back.
* `Json.readValue_renderAt` — a value is read back, and what follows it is left.
* `Json.parse?_render` — **a value is read back from its text.**
-/

namespace PsetCompiler.Json

/-! ### Strings -/

theorem hexQuad?_hexDigits {n : Nat} (h : n < 0x20) :
    ∃ a b c d, Text.hexDigits 4 n = [a, b, c, d] ∧ hexQuad? a b c d = some n := by
  refine ⟨_, _, _, _, rfl, ?_⟩
  revert n
  decide

/-- The mark of a control character is read as that, even if the mark of another one follows. -/
theorem readString_unitMark {n : Nat} (h : n < 0x20) (cs : List Char) :
    readString (unitMark n ++ cs) =
      (readString cs).map fun (found, rest) => (Char.ofNat n :: found, rest) := by
  obtain ⟨a, b, c, d, hdigits, hquad⟩ := hexQuad?_hexDigits h
  rw [unitMark, hdigits]
  show readString ('\\' :: 'u' :: a :: b :: c :: d :: cs) = _
  rw [readString.eq_def]
  split
  case h_3 heq =>
    simp only [List.cons.injEq, true_and] at heq
    obtain ⟨rfl, rfl, rfl, rfl, rfl⟩ := heq
    rw [hquad]
    dsimp only
    rw [if_neg (by omega), if_neg (by omega)]
  case h_4 heq =>
    simp only [List.cons.injEq, true_and] at heq
    obtain ⟨rfl, rfl, rfl, rfl, rfl⟩ := heq
    rw [hquad]
    dsimp only
    rw [if_neg (by omega)]
  case h_5 hother heq =>
    simp only [List.cons.injEq, true_and] at heq
    exact absurd heq.2.symm (hother a b c d cs heq.1.symm)
  case h_6 hother heq =>
    simp only [List.cons.injEq] at heq
    exact absurd heq.2.symm (hother 'u' (a :: b :: c :: d :: cs) heq.1.symm)
  all_goals
    next heq => simp at heq

theorem readString_cons {c : Char} (hquote : c ≠ '"') (hslash : c ≠ '\\') (h : ¬c.toNat < 0x20)
    (cs : List Char) :
    readString (c :: cs) = (readString cs).map fun (found, rest) => (c :: found, rest) := by
  rw [readString.eq_def]
  split
  case h_6 heq =>
    obtain ⟨rfl, rfl⟩ := List.cons.inj heq
    rw [if_neg h]
  case h_1 heq => cases heq
  case h_2 heq => exact absurd (List.cons.inj heq).1 hquote
  all_goals
    next heq => exact absurd (List.cons.inj heq).1 hslash

/-- A character is read back. -/
theorem readString_escapeChar (c : Char) (cs : List Char) :
    readString (escapeChar c ++ cs) =
      (readString cs).map fun (found, rest) => (c :: found, rest) := by
  unfold escapeChar
  split
  case h_8 hquote hslash _ _ _ _ _ =>
    split
    · next h => rw [readString_unitMark h, Char.ofNat_toNat]
    · next h => exact readString_cons hquote hslash h cs
  all_goals rfl

/-- A string is read back. -/
theorem readString_flatMap_escapeChar (cs rest : List Char) :
    readString (cs.flatMap escapeChar ++ '"' :: rest) = some (cs, rest) := by
  induction cs with
  | nil => rfl
  | cons c cs ih =>
    rw [List.flatMap_cons, List.append_assoc, readString_escapeChar, ih]
    rfl

/-! ### Nested values -/

/-- What holds of the values that hold no others, and of lists and objects if it holds of what they
hold, is true of all values. -/
@[elab_as_elim]
theorem induction_on {P : Json → Prop} (v : Json) (null : P .null) (bool : ∀ b, P (.bool b))
    (int : ∀ n, P (.int n)) (decimal : ∀ d, P (.decimal d)) (str : ∀ s, P (.str s))
    (arr : ∀ items, (∀ item ∈ items, P item) → P (.arr items))
    (obj : ∀ members, (∀ e ∈ members, P e.2) → P (.obj members)) : P v := by
  refine @Json.rec P (fun items => ∀ item ∈ items, P item) (fun members => ∀ e ∈ members, P e.2)
    (fun e => P e.2) null bool int decimal str arr obj ?_ ?_ ?_ ?_ ?_ v
  · simp
  · intro item items hitem hitems
    exact List.forall_mem_cons.mpr ⟨hitem, hitems⟩
  · simp
  · intro e members he hmembers
    exact List.forall_mem_cons.mpr ⟨he, hmembers⟩
  · intro key value hvalue
    exact hvalue

mutual

/-- No number is in the value. -/
def Numberless : Json → Prop
  | .int _ => False
  | .decimal _ => False
  | .arr items => ItemsNumberless items
  | .obj members => MembersNumberless members
  | _ => True

/-- No number is in any of the items. -/
def ItemsNumberless : List Json → Prop
  | [] => True
  | item :: rest => item.Numberless ∧ ItemsNumberless rest

/-- No number is in any of the members. -/
def MembersNumberless : List (String × Json) → Prop
  | [] => True
  | (_, value) :: rest => value.Numberless ∧ MembersNumberless rest

end

@[simp] theorem numberless_arr {items : List Json} :
    (Json.arr items).Numberless ↔ ∀ item ∈ items, item.Numberless := by
  rw [Numberless]
  induction items with
  | nil => simp [ItemsNumberless]
  | cons item items ih => rw [ItemsNumberless, ih, List.forall_mem_cons]

@[simp] theorem numberless_obj {members : List (String × Json)} :
    (Json.obj members).Numberless ↔ ∀ e ∈ members, e.2.Numberless := by
  rw [Numberless]
  induction members with
  | nil => simp [MembersNumberless]
  | cons e members ih => rw [MembersNumberless, ih, List.forall_mem_cons]

@[simp] theorem numberless_ofPairs {α : Type} {value : α → Json} {pairs : List (String × α)} :
    (ofPairs value pairs).Numberless ↔ ∀ e ∈ pairs, (value e.2).Numberless := by
  rw [ofPairs, numberless_obj, List.forall_mem_map]

@[simp] theorem numberless_bool (b : Bool) : (Json.bool b).Numberless := trivial

@[simp] theorem numberless_str (s : String) : (Json.str s).Numberless := trivial

@[simp] theorem numberless_text? (s : Option String) : (Json.text? s).Numberless := by
  cases s <;> trivial

theorem skipSpace_newLine (level : Nat) (cs : List Char) :
    skipSpace (newLine level ++ cs) = skipSpace cs := by
  have hblanks : ∀ c ∈ newLine level, isSpace c = true := by
    intro c hc
    rcases List.mem_cons.mp hc with rfl | hc
    · rfl
    · rw [List.eq_of_mem_replicate hc]
      rfl
  exact List.dropWhile_append_of_pos hblanks

/-- A written value starts with a character that is neither white space nor a closing bracket. -/
theorem exists_head_renderAt {v : Json} (h : v.Numberless) (level : Nat) :
    ∃ c cs, renderAt level v = c :: cs ∧ isSpace c = false ∧ c ≠ ']' := by
  rcases v with _ | (_ | _) | _ | _ | s | (_ | ⟨item, items⟩) | (_ | ⟨⟨key, value⟩, members⟩)
  case int => exact h.elim
  case decimal => exact h.elim
  all_goals exact ⟨_, _, rfl, by decide, by decide⟩

theorem skipSpace_renderAt {v : Json} (h : v.Numberless) (level : Nat) (cs : List Char) :
    skipSpace (renderAt level v ++ cs) = renderAt level v ++ cs := by
  obtain ⟨c, rest, hhead, hspace, -⟩ := exists_head_renderAt h level
  rw [hhead, List.cons_append, skipSpace, List.dropWhile_cons_of_neg (by simp [hspace])]

/-- The value is read back from every text that starts with it, and what follows is left. -/
def ReadsBack (v : Json) : Prop :=
  ∀ level fuel rest, (renderAt level v).length ≤ fuel →
    readValue fuel (renderAt level v ++ rest) = some (v, rest)

theorem readValue_newLine (fuel level : Nat) (cs : List Char) :
    readValue fuel (newLine level ++ cs) = readValue fuel cs := by
  cases fuel with
  | zero => rfl
  | succ fuel => rw [readValue, readValue, skipSpace_newLine]

theorem readItems_newLine (fuel level : Nat) (cs : List Char) :
    readItems fuel (newLine level ++ cs) = readItems fuel cs := by
  cases fuel with
  | zero => rfl
  | succ fuel => rw [readItems, readItems, readValue_newLine]

theorem readMembers_newLine (fuel level : Nat) (cs : List Char) :
    readMembers fuel (newLine level ++ cs) = readMembers fuel cs := by
  cases fuel with
  | zero => rfl
  | succ fuel => rw [readMembers, readMembers, skipSpace_newLine]

/-- The items of a list are read back, up to its bracket. -/
theorem readItems_renderItems {item : Json} {items : List Json}
    (h : ∀ v ∈ item :: items, v.ReadsBack) (level outer : Nat) {fuel : Nat} (rest : List Char)
    (hfuel : (renderAt level item).length + (renderItems level items).length < fuel) :
    readItems fuel (renderAt level item ++ (renderItems level items ++
      (newLine outer ++ ']' :: rest))) = some (item :: items, rest) := by
  obtain ⟨fuel, rfl⟩ : ∃ n, fuel = n + 1 := ⟨fuel - 1, by omega⟩
  induction items generalizing item fuel with
  | nil =>
    rw [List.forall_mem_singleton] at h
    rw [readItems, h level fuel _ (by omega), renderItems, List.nil_append]
    dsimp only
    rw [skipSpace_newLine]
    rfl
  | cons next items ih =>
    rw [List.forall_mem_cons] at h
    rw [readItems, h.1 level fuel _ (by omega), renderItems]
    simp only [renderItems, List.cons_append, List.append_assoc, List.length_cons,
      List.length_append] at hfuel ⊢
    obtain ⟨fuel, rfl⟩ : ∃ n, fuel = n + 1 := ⟨fuel - 1, by omega⟩
    have hrest := ih h.2 fuel (by omega)
    show (readItems (fuel + 1) _).map _ = _
    rw [readItems_newLine, hrest]
    rfl

section

variable {fuel : Nat} {cs rest after : List Char} {value : Json}

theorem skipSpace_quote (text cs : List Char) :
    skipSpace (quote text ++ cs) = '"' :: (text.flatMap escapeChar ++ '"' :: cs) := by
  rw [quote, List.append_assoc]
  rfl

theorem skipSpace_colon (cs : List Char) : skipSpace (':' :: cs) = ':' :: cs := rfl

theorem readValue_blank (fuel : Nat) (cs : List Char) :
    readValue fuel (' ' :: cs) = readValue fuel cs := by
  cases fuel <;> rfl

/-- The last member is read back: its key, and the value behind it. -/
theorem readMembers_last (key : String) (hvalue : readValue fuel cs = some (value, rest))
    (hrest : skipSpace rest = '\x7d' :: after) :
    readMembers (fuel + 1) (quote key.toList ++ ':' :: ' ' :: cs) =
      some ([(key, value)], after) := by
  simp only [readMembers, skipSpace_quote, readString_flatMap_escapeChar, skipSpace_colon,
    readValue_blank, hvalue, hrest, String.ofList_toList]

/-- A member is read back in front of others. -/
theorem readMembers_comma (key : String) (hvalue : readValue fuel cs = some (value, rest))
    (hrest : skipSpace rest = ',' :: after) :
    readMembers (fuel + 1) (quote key.toList ++ ':' :: ' ' :: cs) =
      (readMembers fuel after).map fun (members, rest) => ((key, value) :: members, rest) := by
  simp only [readMembers, skipSpace_quote, readString_flatMap_escapeChar, skipSpace_colon,
    readValue_blank, hvalue, hrest, String.ofList_toList]

end

/-- The members of an object are read back, up to its brace. -/
theorem readMembers_renderMembers {key : String} {value : Json} {members : List (String × Json)}
    (h : ∀ e ∈ (key, value) :: members, e.2.ReadsBack) (level outer : Nat) {fuel : Nat}
    (rest : List Char)
    (hfuel : (renderAt level value).length + (renderMembers level members).length < fuel) :
    readMembers fuel (quote key.toList ++ ':' :: ' ' :: (renderAt level value ++
      (renderMembers level members ++ (newLine outer ++ '\x7d' :: rest)))) =
        some ((key, value) :: members, rest) := by
  obtain ⟨fuel, rfl⟩ : ∃ n, fuel = n + 1 := ⟨fuel - 1, by omega⟩
  induction members generalizing key value fuel with
  | nil =>
    rw [List.forall_mem_singleton] at h
    have hvalue : value.ReadsBack := h
    rw [renderMembers, List.nil_append]
    refine readMembers_last key (hvalue level fuel _ (by omega)) ?_
    rw [skipSpace_newLine]
    rfl
  | cons next members ih =>
    obtain ⟨nextKey, nextValue⟩ := next
    rw [List.forall_mem_cons] at h
    have hvalue : value.ReadsBack := h.1
    simp only [renderMembers, List.cons_append, List.append_assoc, List.length_cons,
      List.length_append] at hfuel ⊢
    obtain ⟨fuel, rfl⟩ : ∃ n, fuel = n + 1 := ⟨fuel - 1, by omega⟩
    have hrest := ih h.2 fuel (by omega)
    rw [readMembers_comma key (hvalue level _ _ (by omega)) rfl, readMembers_newLine, hrest]
    rfl

/-- A list that is not closed at once has items. -/
theorem readValue_bracket (fuel : Nat) {cs : List Char} (h : ∀ rest, skipSpace cs ≠ ']' :: rest) :
    readValue (fuel + 1) ('[' :: cs) =
      (readItems fuel (skipSpace cs)).map fun (items, rest) => (Json.arr items, rest) := by
  have hopen : skipSpace ('[' :: cs) = '[' :: cs := rfl
  -- the hypothesis decides between the two cases of an open list
  simp only [readValue, hopen]

/-- An object that is not closed at once has members. -/
theorem readValue_brace (fuel : Nat) {cs : List Char} (h : ∀ rest, skipSpace cs ≠ '\x7d' :: rest) :
    readValue (fuel + 1) ('\x7b' :: cs) =
      (readMembers fuel (skipSpace cs)).map fun (members, rest) => (Json.obj members, rest) := by
  have hopen : skipSpace ('\x7b' :: cs) = '\x7b' :: cs := rfl
  simp only [readValue, hopen]

/-- Something is written, so that the fuel is never used up at the start. -/
theorem ReadsBack.of_succ {v : Json} (h : v.Numberless)
    (hsucc : ∀ level fuel rest, (renderAt level v).length ≤ fuel + 1 →
      readValue (fuel + 1) (renderAt level v ++ rest) = some (v, rest)) : v.ReadsBack := by
  intro level fuel rest hfuel
  obtain ⟨c, cs, hhead, -⟩ := exists_head_renderAt h level
  have hpos : 0 < (renderAt level v).length := by
    rw [hhead, List.length_cons]
    omega
  obtain ⟨fuel, rfl⟩ : ∃ n, fuel = n + 1 := ⟨fuel - 1, by omega⟩
  exact hsucc level fuel rest hfuel

/-- A list of values that are read back is read back. -/
theorem ReadsBack.arr {items : List Json} (hnumberless : ∀ v ∈ items, v.Numberless)
    (h : ∀ v ∈ items, v.ReadsBack) : (Json.arr items).ReadsBack := by
  refine .of_succ (numberless_arr.mpr hnumberless) fun level fuel rest hfuel => ?_
  cases items with
  | nil => rfl
  | cons item items =>
    have hitem := hnumberless item List.mem_cons_self
    obtain ⟨c, cs, hhead, -, hbracket⟩ := exists_head_renderAt hitem (level + 1)
    rw [renderAt] at hfuel ⊢
    simp only [List.cons_append, List.append_assoc, List.length_cons, List.length_append,
      List.nil_append] at hfuel ⊢
    rw [readValue_bracket, skipSpace_newLine, skipSpace_renderAt hitem,
      readItems_renderItems h (level + 1) level rest (by omega)]
    · rfl
    · intro after hclosed
      rw [skipSpace_newLine, skipSpace_renderAt hitem, hhead] at hclosed
      exact hbracket (List.cons.inj hclosed).1

/-- An object of values that are read back is read back. -/
theorem ReadsBack.obj {members : List (String × Json)}
    (hnumberless : ∀ e ∈ members, e.2.Numberless) (h : ∀ e ∈ members, e.2.ReadsBack) :
    (Json.obj members).ReadsBack := by
  refine .of_succ (numberless_obj.mpr hnumberless) fun level fuel rest hfuel => ?_
  rcases members with _ | ⟨⟨key, value⟩, members⟩
  · rfl
  · have hquote (cs : List Char) : skipSpace (quote key.toList ++ cs) = quote key.toList ++ cs :=
      rfl
    rw [renderAt] at hfuel ⊢
    simp only [List.cons_append, List.append_assoc, List.length_cons, List.length_append,
      List.nil_append] at hfuel ⊢
    rw [readValue_brace, skipSpace_newLine, hquote,
      readMembers_renderMembers h (level + 1) level rest (by omega)]
    · rfl
    · intro after hclosed
      rw [skipSpace_newLine, hquote] at hclosed
      exact absurd (List.cons.inj hclosed).1 (by decide)

/-- A value without numbers is read back from every text that starts with it. -/
theorem Numberless.readsBack {v : Json} (h : v.Numberless) : v.ReadsBack := by
  induction v using induction_on with
  | int n => exact h.elim
  | decimal d => exact h.elim
  | null => exact .of_succ h fun _ _ _ _ => rfl
  | bool b => cases b <;> exact .of_succ h fun _ _ _ _ => rfl
  | str s =>
    refine .of_succ h fun level fuel rest hfuel => ?_
    show (readString (s.toList.flatMap escapeChar ++ ['"'] ++ rest)).map _ = _
    rw [List.append_assoc, List.singleton_append, readString_flatMap_escapeChar]
    simp
  | arr items ih =>
    rw [numberless_arr] at h
    exact .arr h fun v hv => ih v hv (h v hv)
  | obj members ih =>
    rw [numberless_obj] at h
    exact .obj h fun e he => ih e he (h e he)

/-- **A value without numbers is read back from its text.** -/
theorem parse?_render {v : Json} (h : v.Numberless) :
    parse? (v.render ++ "\n").toList = some v := by
  have htext : (v.render ++ "\n").toList = renderAt 0 v ++ ['\n'] := by
    rw [String.toList_append, render, String.toList_ofList]
    rfl
  rw [parse?, htext, h.readsBack 0 _ ['\n'] (by rw [List.length_append]; omega)]
  rfl

end PsetCompiler.Json
