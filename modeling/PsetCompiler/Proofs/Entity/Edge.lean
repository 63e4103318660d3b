import PsetCompiler.Proofs.Entity.Order

/-!
# What one declaration changes

A declaration finds or makes two entities at most, the one it declares and the parent it names, says
something of the first, and makes one link between them unless that would close a cycle.  Everything
else stays as it was: the parents and the children of other entities, what is said of them, and
their names.

Whether a link closes a cycle is told by the parents as they were before, since the entities that
are made have none.  After the link was made, a way up that does not come to the entity is the way
it was, and one that does goes on along the new link; so all that is below the entity moves with it.

## Main definitions

* `errors` — the reports of errors.
* `Forest.KeepsLinks`, `Forest.RefusesLink`, `Forest.MakesLink` — the three ends of a declaration,
  as far as the links are concerned.
* `Forest.Describes` — what a declaration does to the entities.
* `Forest.Declares`, `Forest.ChangesOneLink` — all that a declaration does.

## Main results

* `Forest.add_of_below`, `Forest.add_of_not_below` — a declaration with a parent, by whether the
  parent is below the entity.
* `Forest.MakesLink.of_link` — what a new link does to what lies below what.
* `Forest.changesOneLink_addRecords` — **one declaration changes one link or none.**
-/

open Relation

namespace PsetCompiler

/-- The reports of errors. -/
def errors (log : List Diagnostic) : List Diagnostic :=
  log.filter (·.level = .error)

namespace Forest

variable {forest other : Forest}

/-! ### The ends of a declaration -/

/-- Nobody gets another parent or other children. -/
structure KeepsLinks (forest other : Forest) : Prop where
  parent?_eq : ∀ key, other.parent? key = forest.parent? key
  children_eq : ∀ key, other.children key = forest.children key

/-- The link from an entity to its parent is refused: this is an error, and no link changes. -/
structure RefusesLink (forest : Forest) (name parent : String) (after : Report Forest) : Prop where
  errors_eq : errors after.log = [.refusedCycle name parent]
  keepsLinks : forest.KeepsLinks after.value

/-- The link from an entity to its parent is made, and no other link changes. -/
structure MakesLink (forest : Forest) (name parent : String) (after : Report Forest) : Prop where
  errors_eq : errors after.log = []
  parent?_eq : ∀ key, after.value.parent? key =
    if key = Text.foldCase name then some (Text.foldCase parent) else forest.parent? key
  /-- The old parent loses the entity, and it comes last among the children of the new one. -/
  children_eq : ∀ key, after.value.children key =
    if forest.parent? (Text.foldCase name) = some (Text.foldCase parent) then forest.children key
    else (if forest.parent? (Text.foldCase name) = some key then
        (forest.children key).erase (Text.foldCase name)
      else forest.children key) ++ if key = Text.foldCase parent then [Text.foldCase name] else []
  /-- What was below the entity is below it still, -/
  below_iff : ∀ key, after.value.Below key (Text.foldCase name) ↔
    forest.Below key (Text.foldCase name)
  /-- and with it below the parent. -/
  below_parent : ∀ key, forest.Below key (Text.foldCase name) →
    after.value.Below key (Text.foldCase parent)
  /-- What was not below the entity is below the same ones as before. -/
  below_rest : ∀ key, ¬forest.Below key (Text.foldCase name) → ∀ above,
    after.value.Below key above ↔ forest.Below key above

/-- The name under which a declaration makes its entity: the one of the parent comes first, if the
two differ in case only. -/
def firstName (name : String) (parent : Option String) : String :=
  (parent.filter fun p => Text.foldCase p = Text.foldCase name).getD name

/-- What the declaration of an entity does to the entities, with the parent that it names. -/
structure Describes (forest : Forest) (name : String) (parent enum : Option String)
    (isAbstract : Bool) (other : Forest) : Prop where
  /-- The entity is found or made and is described, -/
  entity?_name : other.entity? (Text.foldCase name) =
    some (Entity.declared
      ((forest.entity? (Text.foldCase name)).getD { name := firstName name parent })
      enum isAbstract)
  /-- the parent is found or made, -/
  entity?_parent : ∀ p, parent = some p → Text.foldCase p ≠ Text.foldCase name →
    other.entity? (Text.foldCase p) = some ((forest.entity? (Text.foldCase p)).getD { name := p })
  /-- and no other entity is made, removed or changed. -/
  entity?_rest : ∀ key, key ≠ Text.foldCase name →
    (∀ p, parent = some p → key ≠ Text.foldCase p) → other.entity? key = forest.entity? key
  /-- What was stored has the name it had. -/
  name_kept : ∀ key e, forest.entity? key = some e →
    ∃ e', other.entity? key = some e' ∧ e'.name = e.name
  version_eq : other.version = forest.version
  enums_eq : other.predefinedTypeEnums = forest.predefinedTypeEnums

/-- What the declaration of an entity does, with the parent that it names if that is an entity. -/
structure Declares (forest : Forest) (name : String) (parent enum : Option String)
    (isAbstract : Bool) (after : Report Forest) : Prop where
  describes : forest.Describes name parent enum isAbstract after.value
  /-- Without such a parent no link changes. -/
  without_parent : parent = none → errors after.log = [] ∧ forest.KeepsLinks after.value
  /-- With one the link is refused exactly if the parent is the entity or is below it, -/
  refusesLink_iff : ∀ p, parent = some p →
    (forest.RefusesLink name p after ↔ forest.Below (Text.foldCase p) (Text.foldCase name))
  /-- and it is made otherwise. -/
  makesLink_iff : ∀ p, parent = some p →
    (forest.MakesLink name p after ↔ ¬forest.Below (Text.foldCase p) (Text.foldCase name))

/-- What a declaration does, whatever its arguments are. -/
def ChangesOneLink (forest : Forest) (name : String) (parent enum : Option String)
    (isAbstract : Bool) : Prop :=
  if PsetCompiler.isEntityName name then
    forest.Declares name (parent.filter PsetCompiler.isEntityName) enum isAbstract
      (forest.add name parent enum isAbstract)
  else
    forest.add name parent enum isAbstract = ⟨forest, [.ignoredEntity name]⟩

/-! ### Links that stay -/

theorem KeepsLinks.of_links_eq (h : other.links = forest.links) : forest.KeepsLinks other where
  parent?_eq := fun key => by rw [parent?, h, parent?]
  children_eq := fun key => by rw [children, h, children]

theorem KeepsLinks.below_iff (h : forest.KeepsLinks other) {key above : String} :
    other.Below key above ↔ forest.Below key above := by
  have hstep : other.HasParent = forest.HasParent := by
    funext child parent
    rw [HasParent, h.parent?_eq, HasParent]
  rw [Below, hstep]

/-! ### The link that is made -/

section

variable {child parent : String}

/-- What was below the child of a new link is below it still: a way up to the child ends where the
new link begins. -/
theorem below_child_link_iff {key : String} :
    (forest.link child parent).Below key child ↔ forest.Below key child := by
  constructor
  · intro hbelow
    induction hbelow using ReflTransGen.head_induction_on with
    | refl => exact .refl
    | @head key next hparent _ ih =>
      rw [HasParent, parent?_link] at hparent
      split at hparent
      · next heq => rw [heq]
      · exact .head hparent ih
  · intro hbelow
    induction hbelow using ReflTransGen.head_induction_on with
    | refl => exact .refl
    | @head key next hparent _ ih =>
      by_cases heq : key = child
      · rw [heq]
      · exact .head (by rwa [HasParent, parent?_link, if_neg heq]) ih

/-- A way up that does not come to the child of a new link is a way up as before. -/
theorem below_link_iff {key : String} (hkey : ¬forest.Below key child) {above : String} :
    (forest.link child parent).Below key above ↔ forest.Below key above := by
  constructor
  · intro hbelow
    induction hbelow using ReflTransGen.head_induction_on with
    | refl => exact .refl
    | @head key next hparent _ ih =>
      have hne : key ≠ child := fun heq => hkey (heq ▸ .refl)
      rw [HasParent, parent?_link, if_neg hne] at hparent
      exact .head hparent (ih fun hnext => hkey (.head hparent hnext))
  · intro hbelow
    induction hbelow using ReflTransGen.head_induction_on with
    | refl => exact .refl
    | @head key next hparent _ ih =>
      have hne : key ≠ child := fun heq => hkey (heq ▸ .refl)
      have hparent' : (forest.link child parent).HasParent key next := by
        rw [HasParent, parent?_link, if_neg hne]
        exact hparent
      exact .head hparent' (ih fun hnext => hkey (.head hparent hnext))

end

/-- Where a link is made in a forest that has the links of another one, it is the one link by which
the two differ. -/
theorem MakesLink.of_link {name parent : String} (hkeeps : forest.KeepsLinks other)
    (hother : other.WellFormed) :
    forest.MakesLink name parent
      ⟨other.link (Text.foldCase name) (Text.foldCase parent), []⟩ where
  errors_eq := rfl
  parent?_eq := fun key => by rw [parent?_link, hkeeps.parent?_eq]
  children_eq := fun key => by
    rw [← hkeeps.parent?_eq, ← hkeeps.children_eq]
    by_cases hold : other.parent? (Text.foldCase name) = some (Text.foldCase parent)
    · rw [if_pos hold, Forest.link, if_pos hold]
    · rw [if_neg hold]
      exact hother.children_link hold key
  below_iff := fun key => below_child_link_iff.trans hkeeps.below_iff
  below_parent := fun key hbelow => by
    refine (below_child_link_iff.mpr (hkeeps.below_iff.mpr hbelow)).tail ?_
    rw [HasParent, parent?_link, if_pos rfl]
  below_rest := fun key hkey above =>
    (below_link_iff (mt hkeeps.below_iff.mp hkey)).trans hkeeps.below_iff

/-! ### The entities of a declaration -/

/-- The forest with the parent of a declaration, if there is one. -/
def withParent (forest : Forest) : Option String → Forest
  | none => forest
  | some parent => forest.ensure parent

theorem links_withParent (forest : Forest) (parent : Option String) :
    (forest.withParent parent).links = forest.links := by
  cases parent with
  | none => rfl
  | some parent => exact links_ensure forest parent

/-- Finding or making an entity changes nothing but the entities. -/
theorem ensure_eq (forest : Forest) (name : String) :
    forest.ensure name = { forest with entities := (forest.ensure name).entities } := by
  unfold ensure
  split <;> rfl

/-- Making a link changes nothing but the links. -/
theorem link_eq (forest : Forest) (child parent : String) :
    forest.link child parent = { forest with links := (forest.link child parent).links } := by
  unfold Forest.link
  split <;> rfl

theorem withParent_eq (forest : Forest) (parent : Option String) :
    forest.withParent parent = { forest with entities := (forest.withParent parent).entities } := by
  cases parent with
  | none => rfl
  | some p => exact ensure_eq forest p

/-- The entity of a declaration is found or made after its parent, so a parent that differs from it
in case only gives it its name. -/
theorem entity?_withParent_getD (forest : Forest) (name : String) (parent : Option String) :
    ((forest.withParent parent).entity? (Text.foldCase name)).getD { name } =
      (forest.entity? (Text.foldCase name)).getD { name := firstName name parent } := by
  cases parent with
  | none => rfl
  | some p =>
    rw [withParent, entity?_ensure]
    by_cases hp : Text.foldCase p = Text.foldCase name
    · rw [if_pos hp.symm]
      simp [firstName, Option.filter, hp]
    · rw [if_neg (Ne.symm hp)]
      simp [firstName, Option.filter, hp]

/-- What was stored is stored with the parent of a declaration. -/
theorem entity?_withParent_of_eq_some {key : String} {e : Entity}
    (he : forest.entity? key = some e) (parent : Option String) :
    (forest.withParent parent).entity? key = some e := by
  cases parent with
  | none => exact he
  | some p =>
    rw [withParent, entity?_ensure, he]
    split <;> rfl

namespace Describes

theorem describe (forest : Forest) (name : String) (parent enum : Option String)
    (isAbstract : Bool) :
    forest.Describes name parent enum isAbstract
      ((forest.withParent parent).describe name enum isAbstract) where
  entity?_name := by rw [entity?_describe, if_pos rfl, entity?_withParent_getD]
  entity?_parent := by
    rintro p rfl hne
    rw [entity?_describe, if_neg hne, withParent, entity?_ensure, if_pos rfl]
  entity?_rest := by
    intro key hname hparent
    rw [entity?_describe, if_neg hname]
    cases parent with
    | none => rfl
    | some p => rw [withParent, entity?_ensure, if_neg (hparent p rfl)]
  name_kept := by
    intro key e he
    have hwith := entity?_withParent_of_eq_some he parent
    rw [entity?_describe]
    split
    · next hkey => exact ⟨_, rfl, by rw [← hkey, hwith]; rfl⟩
    · exact ⟨e, hwith, rfl⟩
  version_eq := by
    rw [Forest.describe, ensure_eq, withParent_eq]
    rfl
  enums_eq := by
    rw [Forest.describe, ensure_eq, withParent_eq]
    rfl

/-- The entities stay when a link is made. -/
theorem link {name : String} {parent enum : Option String} {isAbstract : Bool}
    (h : forest.Describes name parent enum isAbstract other) (child above : String) :
    forest.Describes name parent enum isAbstract (other.link child above) := by
  rw [link_eq]
  exact { h with }

end Describes

/-- Finding, making and describing entities changes no links. -/
theorem keepsLinks_describe (forest : Forest) (name : String) (parent enum : Option String)
    (isAbstract : Bool) :
    forest.KeepsLinks ((forest.withParent parent).describe name enum isAbstract) :=
  .of_links_eq ((links_ensure _ name).trans (links_withParent forest parent))

/-! ### A declaration with a parent -/

section

variable (h : forest.WellFormed) {name parent : String}
  (hname : PsetCompiler.isEntityName name = true)
  (hparent : PsetCompiler.isEntityName parent = true) (enum : Option String) (isAbstract : Bool)
include h hname hparent

/-- The parent is looked for among the ancestors after the entities were found or made, which is
no other question than before. -/
theorem mem_ancestors_describe_iff :
    Text.foldCase name ∈ Text.foldCase parent ::
        ((forest.ensure parent).describe name enum isAbstract).ancestors (Text.foldCase parent) ↔
      forest.Below (Text.foldCase parent) (Text.foldCase name) := by
  have hmade := (h.ensure hparent).describe hname enum isAbstract
  have hkeeps : forest.KeepsLinks ((forest.ensure parent).describe name enum isAbstract) :=
    keepsLinks_describe forest name (some parent) enum isAbstract
  rw [List.mem_cons, hmade.mem_ancestors_iff, eq_comm, ← below_iff, hkeeps.below_iff]

/-- A link to a parent that is the entity or is below it is refused. -/
theorem add_of_below (hbelow : forest.Below (Text.foldCase parent) (Text.foldCase name)) :
    forest.add name (some parent) enum isAbstract =
      ⟨(forest.ensure parent).describe name enum isAbstract, [.refusedCycle name parent]⟩ := by
  have hcycle : Text.foldCase parent = Text.foldCase name ∨
      (((forest.ensure parent).describe name enum isAbstract).ancestors
        (Text.foldCase parent)).contains (Text.foldCase name) = true := by
    have hmem := (mem_ancestors_describe_iff h hname hparent enum isAbstract).mpr hbelow
    rwa [List.mem_cons, eq_comm, ← List.contains_iff_mem] at hmem
  rw [add, if_pos hname, declaredParent_of_isEntityName name hparent, pure_bind]
  exact if_pos hcycle

/-- A link to any other parent is made. -/
theorem add_of_not_below (hbelow : ¬forest.Below (Text.foldCase parent) (Text.foldCase name)) :
    forest.add name (some parent) enum isAbstract =
      ⟨((forest.ensure parent).describe name enum isAbstract).link (Text.foldCase name)
        (Text.foldCase parent), []⟩ :=
  add_of_some hname hparent enum isAbstract
    (mt (mem_ancestors_describe_iff h hname hparent enum isAbstract).mp hbelow)

end

/-! ### All that a declaration does -/

theorem errors_declaredParent (name : String) (parent : Option String) :
    errors (declaredParent name parent).log = [] := by
  unfold declaredParent
  cases parent with
  | none => rfl
  | some parent =>
    dsimp only
    split
    · rfl
    · split <;> rfl

/-- A link is not both made and refused. -/
theorem RefusesLink.not_makesLink {name parent : String} {after : Report Forest}
    (h : forest.RefusesLink name parent after) : ¬forest.MakesLink name parent after := by
  intro hmakes
  have herrors := h.errors_eq
  rw [hmakes.errors_eq] at herrors
  cases herrors

theorem declares_of_none {name : String} {parent : Option String}
    (hname : PsetCompiler.isEntityName name = true)
    (hparent : parent.filter PsetCompiler.isEntityName = none) (enum : Option String)
    (isAbstract : Bool) :
    forest.Declares name none enum isAbstract (forest.add name parent enum isAbstract) := by
  rw [add_of_filter_eq_none hname hparent]
  exact
    { describes := .describe forest name none enum isAbstract
      without_parent := fun _ =>
        ⟨errors_declaredParent name parent, keepsLinks_describe forest name none enum isAbstract⟩
      refusesLink_iff := nofun
      makesLink_iff := nofun }

section

variable (h : forest.WellFormed) {name parent : String}
  (hname : PsetCompiler.isEntityName name = true)
  (hparent : PsetCompiler.isEntityName parent = true) (enum : Option String) (isAbstract : Bool)
include h hname hparent

theorem WellFormed.declares_of_below
    (hbelow : forest.Below (Text.foldCase parent) (Text.foldCase name)) :
    forest.Declares name (some parent) enum isAbstract
      (forest.add name (some parent) enum isAbstract) := by
  rw [add_of_below h hname hparent enum isAbstract hbelow]
  have hrefuses : forest.RefusesLink name parent
      ⟨(forest.ensure parent).describe name enum isAbstract, [.refusedCycle name parent]⟩ :=
    { errors_eq := rfl
      keepsLinks := keepsLinks_describe forest name (some parent) enum isAbstract }
  refine
    { describes := .describe forest name (some parent) enum isAbstract
      without_parent := nofun
      refusesLink_iff := ?_
      makesLink_iff := ?_ }
  · rintro p ⟨rfl⟩
    exact iff_of_true hrefuses hbelow
  · rintro p ⟨rfl⟩
    exact iff_of_false hrefuses.not_makesLink (not_not_intro hbelow)

theorem WellFormed.declares_of_not_below
    (hbelow : ¬forest.Below (Text.foldCase parent) (Text.foldCase name)) :
    forest.Declares name (some parent) enum isAbstract
      (forest.add name (some parent) enum isAbstract) := by
  rw [add_of_not_below h hname hparent enum isAbstract hbelow]
  have hmakes : forest.MakesLink name parent
      ⟨((forest.ensure parent).describe name enum isAbstract).link (Text.foldCase name)
        (Text.foldCase parent), []⟩ :=
    .of_link (keepsLinks_describe forest name (some parent) enum isAbstract)
      ((h.ensure hparent).describe hname enum isAbstract)
  refine
    { describes := (Describes.describe forest name (some parent) enum isAbstract).link _ _
      without_parent := nofun
      refusesLink_iff := ?_
      makesLink_iff := ?_ }
  · rintro p ⟨rfl⟩
    exact iff_of_false (fun hrefuses => hrefuses.not_makesLink hmakes) hbelow
  · rintro p ⟨rfl⟩
    exact iff_of_true hmakes hbelow

end

/-- **One declaration changes one link or none.**  In every forest that declarations make, the
declaration of an entity finds or makes the entity and its parent and describes the entity.  If the
parent is the entity or is below it, the link is refused with one error and nobody's parent changes;
otherwise the entity moves to the parent, with all that is below it, and nobody else does.  A name
that is not that of an entity changes nothing. -/
theorem changesOneLink_addRecords (version : String) (enums : List (String × List String))
    (records : List EntityRecord) (name : String) (parent enum : Option String)
    (isAbstract : Bool) :
    (addRecords { version, predefinedTypeEnums := enums } records).value.ChangesOneLink name parent
      enum isAbstract := by
  have h := (wellFormed_empty version enums).addRecords records
  generalize (addRecords { version, predefinedTypeEnums := enums } records).value = forest at h
  unfold ChangesOneLink
  split
  · next hname =>
    cases hgiven : parent.filter PsetCompiler.isEntityName with
    | none => exact declares_of_none hname hgiven enum isAbstract
    | some p =>
      obtain ⟨rfl, hp⟩ := Option.filter_eq_some_iff.mp hgiven
      by_cases hbelow : forest.Below (Text.foldCase p) (Text.foldCase name)
      · exact h.declares_of_below hname hp enum isAbstract hbelow
      · exact h.declares_of_not_below hname hp enum isAbstract hbelow
  · next hname => exact add_of_not_isEntityName hname parent enum isAbstract

end Forest

end PsetCompiler
