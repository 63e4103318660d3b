import PsetCompiler.Definition.Property
import PsetCompiler.Proofs.Outcome
import PsetCompiler.Proofs.Text.Blank

/-!
# What reading a property establishes

Elements may hold anything; properties that were read from them do not.  A property without a name
is dropped, and so is an identifier that cannot be read, so the identifiers that are left are in
their written form.  An enumeration without a name gets one.  A member that is complex itself is
dropped, so complex properties nest no further than one level, however deep their elements do.

Only the last point is about the elements inside the element of a property, and even there one level
is enough: a member is kept when the property that was read from its element is not complex, and
whatever that element holds has been looked at before.

## Main definitions

* `ValueType.IsPlain`, `Property.IsNormal`, `Property.HasNormalMembers` — what is known of types and
  of properties that were read.

## Main results

* `isPlain_of_simpleType` — the types that group nothing.
* `readProperty_eq_some_iff`, `readType_eq_some_iff` — what it takes for a property to be read.
* `mem_readMembers` — where the members of a complex property come from.
* `isNormal_of_readProperty`, `hasNormalMembers_of_readProperty`, `isNormal_of_readQuantity` —
  **properties that are read are normal, and so are their members.**
-/

namespace PsetCompiler

open Markup (Element)

/-! ### Normal properties -/

/-- A type that groups nothing and, if it is an enumeration, has a name. -/
structure ValueType.IsPlain {α : Type} (t : ValueType α) : Prop where
  simple : t.isComplex = false
  enumNamed : ∀ name items, t = .enumerated name items → name ≠ ""

/-- A property has a name; its identifier, if it has one, is in the written form, and its
enumeration, if it has one, has a name. -/
structure Property.IsNormal (p : Property) : Prop where
  named : Text.isBlankText p.name = false
  guid : ∀ text ∈ p.ifdGuid, ∃ g : Guid, text = g.text
  enumNamed : ∀ name items, p.valueType = some (.enumerated name items) → name ≠ ""

/-- The members of a property are normal and not complex. -/
def Property.HasNormalMembers (p : Property) : Prop :=
  ∀ m ∈ p.members, m.IsNormal ∧ m.isComplex = false

theorem ValueType.members_eq_nil {α : Type} {t : ValueType α} (h : t.isComplex = false) :
    t.members = [] := by
  cases t with
  | complex name ms => cases h
  | _ => rfl

theorem Property.members_eq_nil {p : Property} (h : p.isComplex = false) : p.members = [] := by
  unfold Property.isComplex at h
  unfold Property.members
  split
  · next t ht =>
    rw [ht] at h
    exact ValueType.members_eq_nil h
  · rfl

/-- A property that is not complex has no members that could be anything else. -/
theorem Property.hasNormalMembers_of_isComplex_eq_false {p : Property}
    (h : p.isComplex = false) : p.HasNormalMembers := by
  intro m hm
  rw [Property.members_eq_nil h] at hm
  cases hm

/-! ### Names and identifiers -/

/-- The text of a child is what is left without the white space at its ends, and it is not empty. -/
theorem exists_strip_of_childText? {e : Element} {child text : String}
    (h : e.childText? child = .ok (some text)) : text ≠ "" ∧ ∃ raw, text = Text.strip raw := by
  obtain ⟨found, -, htext⟩ := except_bind_eq_ok_iff.mp h
  obtain ⟨named, -, htrimmed⟩ := Option.bind_eq_some_iff.mp (Except.ok.inj htext)
  obtain ⟨hstripped, hne⟩ := Option.filter_eq_some_iff.mp htrimmed
  obtain ⟨raw, -, rfl⟩ := Option.map_eq_some_iff.mp hstripped
  exact ⟨of_decide_eq_true hne, raw, rfl⟩

theorem isBlankText_of_childText? {e : Element} {child text : String}
    (h : e.childText? child = .ok (some text)) : Text.isBlankText text = false := by
  obtain ⟨hne, raw, rfl⟩ := exists_strip_of_childText? h
  exact Text.isBlankText_strip hne

/-- An identifier that is kept is in the written form. -/
theorem exists_text_of_normalizeGuid {raw : Option String} {place text : String}
    (h : (normalizeGuid raw place).value = some text) : ∃ g : Guid, text = g.text := by
  unfold normalizeGuid at h
  split at h
  · cases h
  · split at h
    · cases h
    · split at h
      · next g hg => exact ⟨g, (Option.some.inj h).symm⟩
      · cases h

/-! ### Types that group nothing -/

theorem enumNameFor_ne_empty (property : String) : enumNameFor property ≠ "" := by
  intro h
  have hnil := congrArg String.toList h
  simp [enumNameFor] at hnil

theorem filledAttribute?_ne_empty {e : Element} {key value : String}
    (h : e.filledAttribute? key = some value) : value ≠ "" := by
  rw [Element.filledAttribute?, Option.filter_eq_some_iff] at h
  exact of_decide_eq_true h.2

/-- An enumeration takes the name of its list of items, if that has one, else a name made from the
one of the property. -/
theorem isPlain_of_enumeratedType {name place : String} {e : Element} {t : ValueType Property}
    (h : (enumeratedType name place e).run.value = .ok (some t)) : t.IsPlain := by
  unfold enumeratedType at h
  obtain ⟨constants, -, h⟩ := Attempt.value_bind_eq_ok_iff.mp h
  obtain ⟨values, -, h⟩ := Attempt.value_bind_eq_ok_iff.mp h
  split at h
  · cases h
    refine ⟨rfl, fun enumName items heq => ?_⟩
    cases heq
    exact enumNameFor_ne_empty name
  · obtain ⟨list, -, h⟩ := Attempt.value_bind_eq_ok_iff.mp h
    have hvalue : t = .enumerated
        ((list.bind (·.filledAttribute? "name")).getD (enumNameFor name))
        (values.map fun value => { value, aliases := aliasesUnder constants value }) := by
      dsimp only at h
      split at h <;> exact (Option.some.inj (Except.ok.inj h)).symm
    refine ⟨hvalue ▸ rfl, fun enumName items heq => ?_⟩
    cases hvalue.symm.trans heq
    cases hlisted : list.bind (·.filledAttribute? "name") with
    | none => exact enumNameFor_ne_empty name
    | some listed =>
      obtain ⟨_, -, hlisted⟩ := Option.bind_eq_some_iff.mp hlisted
      exact filledAttribute?_ne_empty hlisted

/-- A type that is made from the text that is found, if one is found. -/
theorem isPlain_of_found {make : String → ValueType Property} {found : Option String}
    {lack : Diagnostic} {t : ValueType Property}
    (h : (match found with
      | some s => pure (some (make s))
      | none => do
        report lack
        pure none : Attempt (Option (ValueType Property))).run.value = .ok (some t))
    (hmake : ∀ s, (make s).IsPlain) : t.IsPlain := by
  cases found with
  | some s =>
    cases h
    exact hmake s
  | none => cases h

/-- A type that is read from the element of a variant groups nothing. -/
theorem isPlain_of_simpleType {variant name place : String} {e : Element} {t : ValueType Property}
    (h : (simpleType variant name place e).run.value = .ok (some t)) : t.IsPlain := by
  unfold simpleType at h
  -- single, enumerated, reference, bounded, list and table values, and any other variant
  split at h
  case h_1 =>
    unfold singleType at h
    obtain ⟨found, -, h⟩ := Attempt.value_bind_eq_ok_iff.mp h
    split at h
    · cases h
      exact ⟨rfl, nofun⟩
    · cases h
      exact ⟨rfl, nofun⟩
  case h_2 => exact isPlain_of_enumeratedType h
  case h_3 =>
    unfold referenceType at h
    obtain ⟨found, -, h⟩ := Attempt.value_bind_eq_ok_iff.mp h
    exact isPlain_of_found h fun s => ⟨rfl, nofun⟩
  case h_4 =>
    unfold boundedType at h
    obtain ⟨found, -, h⟩ := Attempt.value_bind_eq_ok_iff.mp h
    exact isPlain_of_found h fun s => ⟨rfl, nofun⟩
  case h_5 =>
    unfold listType at h
    obtain ⟨found, -, h⟩ := Attempt.value_bind_eq_ok_iff.mp h
    exact isPlain_of_found h fun s => ⟨rfl, nofun⟩
  case h_6 =>
    obtain ⟨table, htable, h⟩ := Attempt.value_bind_eq_ok_iff.mp h
    cases h
    unfold tableType at htable
    obtain ⟨defining, -, htable⟩ := except_bind_eq_ok_iff.mp htable
    obtain ⟨defined, -, htable⟩ := except_bind_eq_ok_iff.mp htable
    obtain ⟨expression, -, htable⟩ := except_bind_eq_ok_iff.mp htable
    obtain ⟨definingType, -, htable⟩ := except_bind_eq_ok_iff.mp htable
    obtain ⟨definedType, -, htable⟩ := except_bind_eq_ok_iff.mp htable
    cases htable
    exact ⟨rfl, nofun⟩
  case h_7 => cases h

/-! ### Properties -/

/-- What it takes for a type to be read: it is the complex one with the members that are read, or a
type that groups nothing. -/
theorem readType_eq_some_iff {name place : String} {e : Element} {t : ValueType Property} :
    (readType name place e).run.value = .ok (some t) ↔
      ∃ variant kind, typeElement? e = .ok (some variant) ∧ variant.localName = .ok kind ∧
        ((kind = complexTypeName ∧ ∃ members elements,
            (readMembers place (memberDefs variant).values).run.value = .ok members ∧
              (memberDefs variant).all = .ok elements ∧
              t = .complex ((variant.filledAttribute? "name").getD name) members) ∨
          (kind ≠ complexTypeName ∧
            (simpleType kind name place variant).run.value = .ok (some t))) := by
  rw [readType]
  constructor
  · intro h
    split at h
    · cases h
    · cases h
    · next variant hvariant =>
      obtain ⟨kind, hkind, h⟩ := Attempt.value_bind_eq_ok_iff.mp h
      refine ⟨variant, kind, hvariant, hkind, ?_⟩
      split at h
      · next hcomplex =>
        obtain ⟨members, hmembers, h⟩ := Attempt.value_bind_eq_ok_iff.mp h
        obtain ⟨elements, helements, h⟩ := Attempt.value_bind_eq_ok_iff.mp h
        cases h
        exact .inl ⟨hcomplex, members, elements, hmembers, helements, rfl⟩
      · next hsimple => exact .inr ⟨hsimple, h⟩
  · rintro ⟨variant, kind, hvariant, hkind, h⟩
    split
    · next hfails => cases hfails.symm.trans hvariant
    · next hnone => cases hnone.symm.trans hvariant
    · next found hfound =>
      cases hfound.symm.trans hvariant
      rw [Attempt.value_bind_except hkind]
      rcases h with ⟨hcomplex, members, elements, hmembers, helements, rfl⟩ | ⟨hsimple, h⟩
      · rw [if_pos hcomplex, Attempt.value_bind_ok hmembers,
          Attempt.value_bind_except helements]
        rfl
      · rw [if_neg hsimple]
        exact h

/-- What it takes for a property to be read. -/
theorem readProperty_eq_some_iff {set : String} {e : Element} {p : Property} :
    (readProperty set e).run.value = .ok (some p) ↔
      e.childText? "Name" = .ok (some p.name) ∧
        (normalizeGuid (e.attribute? "ifdguid") (set ++ "." ++ p.name)).value = p.ifdGuid ∧
        aliasesOf e = .ok p.aliases ∧
        (readType p.name (set ++ "." ++ p.name) e).run.value = .ok p.valueType := by
  rw [readProperty]
  constructor
  · intro h
    obtain ⟨name?, hname, h⟩ := Attempt.value_bind_eq_ok_iff.mp h
    cases name? with
    | none => cases h
    | some name =>
      obtain ⟨ifdGuid, hguid, h⟩ := Attempt.value_bind_eq_ok_iff.mp h
      obtain ⟨aliases, haliases, h⟩ := Attempt.value_bind_eq_ok_iff.mp h
      obtain ⟨valueType, htype, h⟩ := Attempt.value_bind_eq_ok_iff.mp h
      cases h
      exact ⟨hname, Except.ok.inj hguid, haliases, htype⟩
  · rintro ⟨hname, hguid, haliases, htype⟩
    obtain ⟨name, ifdGuid, aliases, valueType⟩ := p
    rw [Attempt.value_bind_except hname]
    dsimp only at hguid htype ⊢
    rw [Attempt.value_bind_liftM, hguid, Attempt.value_bind_except haliases,
      Attempt.value_bind_ok htype]
    rfl

/-- A property that is read is normal. -/
theorem isNormal_of_readProperty {set : String} {e : Element} {p : Property}
    (h : (readProperty set e).run.value = .ok (some p)) : p.IsNormal := by
  obtain ⟨hname, hguid, -, htype⟩ := readProperty_eq_some_iff.mp h
  constructor
  · exact isBlankText_of_childText? hname
  · intro text htext
    exact exists_text_of_normalizeGuid (hguid.trans htext)
  · intro name items henum
    rw [henum] at htype
    obtain ⟨variant, kind, -, -, hcase⟩ := readType_eq_some_iff.mp htype
    -- a complex type is no enumeration, so what is inside the element does not matter
    rcases hcase with ⟨-, members, elements, -, -, hcomplex⟩ | ⟨-, hsimple⟩
    · cases hcomplex
    · exact (isPlain_of_simpleType hsimple).enumNamed name items rfl

/-- A member that is kept is one that was read, and it is not complex. -/
theorem keepMember_eq_some {place : String} {read : Option Property} {m : Property}
    (h : (keepMember place read).value = some m) : read = some m ∧ m.isComplex = false := by
  unfold keepMember at h
  split at h
  · cases h
  · split at h
    · cases h
    · next hsimple =>
      cases h
      exact ⟨rfl, Bool.eq_false_iff.mpr hsimple⟩

theorem value_readMembers_nil (place : String) : (readMembers place []).run.value = .ok [] := by
  rw [readMembers]
  rfl

/-- What it takes for members to be read: what is kept of the first element comes first. -/
theorem readMembers_cons_eq_ok_iff {place : String} {e : Element} {rest : List Element}
    {members : List Property} :
    (readMembers place (e :: rest)).run.value = .ok members ↔
      ∃ read others, (readProperty place e).run.value = .ok read ∧
        (readMembers place rest).run.value = .ok others ∧
        members = (keepMember place read).value.toList ++ others := by
  rw [readMembers]
  constructor
  · intro h
    obtain ⟨read, hread, h⟩ := Attempt.value_bind_eq_ok_iff.mp h
    obtain ⟨kept, hkept, h⟩ := Attempt.value_bind_eq_ok_iff.mp h
    obtain ⟨others, hothers, h⟩ := Attempt.value_bind_eq_ok_iff.mp h
    cases h
    cases hkept
    exact ⟨read, others, hread, hothers, rfl⟩
  · rintro ⟨read, others, hread, hothers, rfl⟩
    rw [Attempt.value_bind_ok hread, Attempt.value_bind_liftM, Attempt.value_bind_ok hothers]
    rfl

/-- A member comes from an element, and it is not complex. -/
theorem mem_readMembers {place : String} {elements : List Element} {members : List Property}
    (h : (readMembers place elements).run.value = .ok members) :
    ∀ m ∈ members, m.isComplex = false ∧
      ∃ e ∈ elements, (readProperty place e).run.value = .ok (some m) := by
  induction elements generalizing members with
  | nil =>
    cases (value_readMembers_nil place).symm.trans h
    exact nofun
  | cons e rest ih =>
    obtain ⟨read, others, hread, hothers, rfl⟩ := readMembers_cons_eq_ok_iff.mp h
    intro m hm
    rcases List.mem_append.mp hm with hm | hm
    · obtain ⟨rfl, hsimple⟩ := keepMember_eq_some (Option.mem_toList.mp hm)
      exact ⟨hsimple, e, List.mem_cons_self, hread⟩
    · obtain ⟨hsimple, e', he', hread'⟩ := ih hothers m hm
      exact ⟨hsimple, e', List.mem_cons_of_mem _ he', hread'⟩

/-- The members of a property that is read were read like any property, and are not complex. -/
theorem exists_read_of_mem_members {set : String} {e : Element} {p m : Property}
    (h : (readProperty set e).run.value = .ok (some p)) (hm : m ∈ p.members) :
    m.isComplex = false ∧
      ∃ place e', (readProperty place e').run.value = .ok (some m) := by
  obtain ⟨-, -, -, htype⟩ := readProperty_eq_some_iff.mp h
  rw [Property.members] at hm
  split at hm
  · next t hvalue =>
    rw [hvalue] at htype
    obtain ⟨variant, kind, -, -, hcase⟩ := readType_eq_some_iff.mp htype
    rcases hcase with ⟨-, members, elements, hmembers, -, rfl⟩ | ⟨-, hsimple⟩
    -- a complex member was not kept: one level is enough
    · obtain ⟨hmember, e', -, hread⟩ := mem_readMembers hmembers m hm
      exact ⟨hmember, _, e', hread⟩
    · rw [ValueType.members_eq_nil (isPlain_of_simpleType hsimple).simple] at hm
      cases hm
  · cases hm

/-- The members of a property that is read are normal. -/
theorem hasNormalMembers_of_readProperty {set : String} {e : Element} {p : Property}
    (h : (readProperty set e).run.value = .ok (some p)) : p.HasNormalMembers := by
  intro m hm
  obtain ⟨hmember, place, e', hread⟩ := exists_read_of_mem_members h hm
  exact ⟨isNormal_of_readProperty hread, hmember⟩

/-! ### Quantities -/

/-- What is known of a quantity that is read: it has a name, and a single value. -/
theorem of_readQuantity {set : String} {e : Element} {p : Property}
    (h : (readQuantity set e).run.value = .ok (some p)) :
    e.childText? "Name" = .ok (some p.name) ∧
      (normalizeGuid (e.attribute? "ifdguid") (set ++ "." ++ p.name)).value = p.ifdGuid ∧
      ∃ dataType, p.valueType = some (.single dataType) := by
  rw [readQuantity] at h
  obtain ⟨name?, hname, h⟩ := Attempt.value_bind_eq_ok_iff.mp h
  cases name? with
  | none => cases h
  | some name =>
    obtain ⟨quantity, -, h⟩ := Attempt.value_bind_eq_ok_iff.mp h
    obtain ⟨dataType, -, h⟩ := Attempt.value_bind_eq_ok_iff.mp h
    obtain ⟨ifdGuid, hguid, h⟩ := Attempt.value_bind_eq_ok_iff.mp h
    obtain ⟨aliases, -, h⟩ := Attempt.value_bind_eq_ok_iff.mp h
    cases h
    exact ⟨hname, Except.ok.inj hguid, dataType, rfl⟩

/-- A quantity that is read is a normal property with a single value. -/
theorem isNormal_of_readQuantity {set : String} {e : Element} {p : Property}
    (h : (readQuantity set e).run.value = .ok (some p)) : p.IsNormal ∧ p.isComplex = false := by
  obtain ⟨hname, hguid, dataType, htype⟩ := of_readQuantity h
  refine ⟨⟨isBlankText_of_childText? hname, ?_, ?_⟩, ?_⟩
  · intro text htext
    exact exists_text_of_normalizeGuid (hguid.trans htext)
  · intro name items henum
    rw [htype] at henum
    cases henum
  · rw [Property.isComplex, htype]
    rfl

end PsetCompiler
