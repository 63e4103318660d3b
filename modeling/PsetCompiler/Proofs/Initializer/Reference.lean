import PsetCompiler.Proofs.Definition.Accepted
import PsetCompiler.Proofs.Enumeration.Collected
import PsetCompiler.Proofs.Enumeration.Members
import PsetCompiler.Stage.Enumerations

/-!
# References to enumerations

The initializer refers to enumerations that another stage emits.  Both stages walk over the same
leaves and agree on versions, identifiers and namespaces, but not on which enumerations there are:
an entry refers to the enumeration of its leaf in any case, while only the first enumeration with
items is emitted under a key.  So a reference is met by a declaration unless the enumeration has no
items, or its key is taken by an enumeration of another version.

Both can happen.  A list of items may be empty, without constants that would take their place; and a
version that ends with the beginning of a name, such as `IFC2X2.A` for a name `B` and `IFC2X2` for a
name `A.B`, makes the same key.

A file is written only if all blocks of its version are built, and that is if no item in it is a
number with too many digits.

## Main definitions

* `Collection.Declares` — an enumeration with an identifier is emitted under a version.
* `Collection.IsEmittable`, `Collection.fileLines` — the blocks of a version are built, and the
  lines of its file.
* `Catalog.ReferencesDeclared` — every reference of the initializer is met by a declaration.

## Main results

* `value_enumBlocks_eq_ok_iff` — when the blocks of enumerations are built.
* `Collection.Collects.declares_iff` — the identifiers that are declared.
* `not_referencesDeclared_condition` — **there are references that nothing declares.**
* `references_declared_iff` — **which references are met by declarations.**
-/

namespace PsetCompiler

/-! ### Blocks -/

/-- The blocks of enumerations are built exactly if no item is overlong. -/
theorem value_enumBlocks_eq_ok_iff {language : SourceLanguage}
    {enumerations : List (String × List String)} {blocks : List EnumBlock} :
    (enumBlocks language enumerations).run.value = .ok blocks ↔
      (∀ e ∈ enumerations, NoneOverlong e.2) ∧
        blocks = enumerations.map fun e => blockOf e.1 e.2 language := by
  induction enumerations generalizing blocks with
  | nil => simp [enumBlocks, eq_comm]
  | cons head rest ih =>
    rw [enumBlocks, Attempt.value_bind_eq_ok_iff, List.forall_mem_cons, List.map_cons]
    simp only [Attempt.value_bind_eq_ok_iff, value_buildBlock_eq_ok_iff, ih, Attempt.value_pure,
      Except.ok.injEq]
    constructor
    · rintro ⟨_, ⟨hhead, rfl⟩, _, ⟨hrest, rfl⟩, rfl⟩
      exact ⟨⟨hhead, hrest⟩, rfl⟩
    · rintro ⟨⟨hhead, hrest⟩, rfl⟩
      exact ⟨_, ⟨hhead, rfl⟩, _, ⟨hrest, rfl⟩, rfl⟩

/-! ### Declarations -/

namespace Collection

/-- An enumeration with an identifier is emitted under a version. -/
def Declares (c : Collection) (version identifier : String) : Prop :=
  ∃ enumeration ∈ c.enumsOf version, sourceName enumeration.1 = identifier

/-- No item of an enumeration of a version is overlong. -/
def IsEmittable (c : Collection) (version : String) : Prop :=
  ∀ enumeration ∈ c.enumsOf version, NoneOverlong enumeration.2

/-- The lines of the file of a version inside a namespace, if its blocks are built. -/
def fileLines (c : Collection) (space version : String) : Except Failure (List String) :=
  (enumBlocks .csharp (c.enumsOf version)).run.value.map fun blocks =>
    csharpEnumLines version blocks space defaultTitle

variable {c : Collection} {uses : List EnumUse}

/-- An identifier is declared under a version when a use of that version with that identifier is
kept. -/
theorem Collects.declares_iff (h : c.Collects uses) {version identifier : String} :
    c.Declares version identifier ↔
      ∃ use ∈ uses, use.IsKept uses ∧ use.version = version ∧ sourceName use.name = identifier := by
  constructor
  · rintro ⟨⟨name, values⟩, hmem, hidentifier⟩
    have hkept := (h.mem_enumsOf_iff version name values).mp hmem
    exact ⟨_, (firstUnder_eq_some hkept).1, hkept, rfl, hidentifier⟩
  · rintro ⟨use, -, hkept, rfl, hidentifier⟩
    exact ⟨(use.name, use.values), (h.mem_enumsOf_iff _ _ _).mpr hkept, hidentifier⟩

end Collection

theorem heading_mem_csharpBlocksLines {blocks : List EnumBlock} {block : EnumBlock}
    (h : block ∈ blocks) : "   public enum " ++ block.name ∈ csharpBlocksLines blocks := by
  have hown (b : EnumBlock) : "   public enum " ++ b.name ∈ csharpBlockLines b :=
    List.mem_cons_self
  induction blocks with
  | nil => cases h
  | cons head rest ih =>
    cases rest with
    | nil =>
      rw [List.mem_singleton] at h
      subst h
      exact hown block
    | cons next rest =>
      rw [csharpBlocksLines]
      · rcases List.mem_cons.mp h with rfl | h
        · exact List.mem_append_left _ (hown block)
        · exact List.mem_append_right _ (List.mem_cons_of_mem _ (ih h))
      · simp

namespace Collection

variable {c : Collection} {version : String}

/-- The lines of a file are those of the blocks of its enumerations. -/
theorem fileLines_eq_ok_iff {space : String} {lines : List String} :
    c.fileLines space version = .ok lines ↔
      c.IsEmittable version ∧ lines = csharpEnumLines version
        ((c.enumsOf version).map fun e => blockOf e.1 e.2 .csharp) space defaultTitle := by
  have hblocks (blocks : List EnumBlock) :
      (enumBlocks .csharp (c.enumsOf version)).run.value = .ok blocks ↔ c.IsEmittable version ∧
        blocks = (c.enumsOf version).map fun e => blockOf e.1 e.2 .csharp :=
    value_enumBlocks_eq_ok_iff
  rw [fileLines]
  cases hrun : (enumBlocks .csharp (c.enumsOf version)).run.value with
  | ok blocks =>
    obtain ⟨hemittable, rfl⟩ := (hblocks blocks).mp hrun
    rw [Except.map, Except.ok.injEq, eq_comm]
    exact (and_iff_right hemittable).symm
  | error e =>
    have hfails : ¬ c.IsEmittable version := by
      intro h
      cases hrun.symm.trans ((hblocks _).mpr ⟨h, rfl⟩)
    simp [Except.map, hfails]

/-- What is declared under a version has its line in the file of that version. -/
theorem Declares.exists_fileLines {identifier : String} (h : c.Declares version identifier)
    (hemittable : c.IsEmittable version) (space : String) :
    ∃ lines, c.fileLines space version = .ok lines ∧ "   public enum " ++ identifier ∈ lines := by
  obtain ⟨enumeration, hmem, rfl⟩ := h
  have hblock : blockOf enumeration.1 enumeration.2 .csharp ∈
      (c.enumsOf version).map fun e => blockOf e.1 e.2 .csharp := List.mem_map.mpr ⟨_, hmem, rfl⟩
  have hheading := heading_mem_csharpBlocksLines hblock
  refine ⟨_, fileLines_eq_ok_iff.mpr ⟨hemittable, rfl⟩, ?_⟩
  rw [csharpEnumLines]
  exact List.mem_append_left _ (List.mem_append_right _ hheading)

end Collection

/-! ### References -/

/-- A reference names the enumeration inside the namespace of its version. -/
theorem enumReference_eq (space version name : String) :
    enumReference space version name =
      versionNamespace space version ++ "." ++ sourceName name := by
  rw [enumReference, versionNamespace]
  split
  · rw [String.empty_append]
  · rfl

theorem Catalog.mem_enumUses_iff {catalog : Catalog} {use : EnumUse} :
    use ∈ catalog.enumUses ↔ ∃ d ∈ catalog.entries, ∃ leaf ∈ d.definition.leaves,
      leaf.2.enumUse? (d.definition.emitVersion d.release) = some use := by
  rw [enumUses, List.mem_flatMap]
  simp only [PropertySet.leafProperties_eq, List.filterMap_map, List.mem_filterMap,
    Function.comp_apply]

/-- The use of a property has the version under which it is looked up, and the name of the
enumeration of the property. -/
theorem Property.enumUse?_eq_some {p : Property} {version : String} {use : EnumUse}
    (h : p.enumUse? version = some use) :
    use.version = version ∧ ∃ items, p.valueType = some (.enumerated use.name items) := by
  unfold enumUse? at h
  split at h
  · next name items hvalue =>
    cases h
    exact ⟨rfl, items, hvalue⟩
  · cases h

/-- What an entry of the initializer refers to is a use of the catalog, under the version of its
block. -/
theorem InitBlock.IsOf.exists_use {catalog : Catalog} {d : VersionedSet} (hd : d ∈ catalog.entries)
    {space : String} {block : InitBlock} (h : block.IsOf space d) {entry : InitEntry}
    (hentry : entry ∈ block.entries) {reference : String} (href : entry.enumType = some reference) :
    ∃ use ∈ catalog.enumUses, use.version = block.version ∧
      reference = enumReference space block.version use.name := by
  obtain ⟨leaf, hleaf, heq⟩ := h.references entry hentry reference href
  obtain ⟨use, huse, rfl⟩ := Option.map_eq_some_iff.mp heq
  refine ⟨use, Catalog.mem_enumUses_iff.mpr ⟨d, hd, leaf, hleaf, ?_⟩,
    (Property.enumUse?_eq_some huse).1, rfl⟩
  rw [← h.version]
  exact huse

/-- In a catalog of definitions every enumeration has a name. -/
theorem Catalog.name_ne_empty_of_mem_enumUses {definitions : List (String × PropertySet)}
    (hadmitted : ∀ d ∈ definitions, d.2.IsAdmitted) {use : EnumUse}
    (h : use ∈ (ofList definitions).enumUses) : use.name ≠ "" := by
  obtain ⟨d, hd, leaf, hleaf, huse⟩ := mem_enumUses_iff.mp h
  obtain ⟨-, items, hvalue⟩ := Property.enumUse?_eq_some huse
  exact (leaf_ofList hadmitted hd hleaf).1.enumNamed use.name items hvalue

/-- Uses of one version and one key have one name. -/
theorem EnumUse.name_eq_of_key_eq {use other : EnumUse} (hversion : use.version = other.version)
    (hkey : use.key = other.key) : use.name = other.name := by
  unfold EnumUse.key at hkey
  rw [hversion] at hkey
  exact (String.append_right_inj _).mp hkey

/-- A use that can be emitted is declared under its version if no use of another version that can be
emitted has its key. -/
theorem Collection.Collects.declares_of_eligible {c : Collection} {uses : List EnumUse}
    (h : c.Collects uses) {use : EnumUse} (huse : use ∈ uses) (heligible : use.isEligible)
    (hkey : ∀ other ∈ uses, other.isEligible → other.key = use.key →
      other.version = use.version) : c.Declares use.version (sourceName use.name) := by
  have hsome : (firstUnder uses use.key).isSome := by
    rw [firstUnder, List.find?_isSome]
    exact ⟨use, huse, by rw [heligible, beq_self_eq_true]; rfl⟩
  obtain ⟨kept, hkept⟩ := Option.isSome_iff_exists.mp hsome
  -- what is kept under the key may be another use, but one of the same version and name
  obtain ⟨hmem, hfits, hsame⟩ := firstUnder_eq_some hkept
  have hversion := hkey kept hmem hfits hsame
  refine h.declares_iff.mpr ⟨kept, hmem, ?_, hversion, ?_⟩
  · rw [EnumUse.IsKept, hsame, hkept]
  · rw [EnumUse.name_eq_of_key_eq hversion hsame]

/-- **Which references are met by declarations.**  The initializer of a catalog of definitions is
built, and each of its references names an enumeration of the catalog inside the namespace of its
version, where the file of the version declares it.  It is declared exactly if an enumeration of
that version with that identifier is the first one with items under its key; so an enumeration with
items is declared unless one of another version has the same key, and then the file has a line for
it, which is there unless an item of that version has too many digits. -/
theorem references_declared_iff {definitions : List (String × PropertySet)}
    (hadmitted : ∀ d ∈ definitions, d.2.IsAdmitted) (space : String) :
    let catalog := Catalog.ofList definitions
    let collection := (collectEnums [] catalog).value
    ∃ methods, (buildInitMethods catalog space).run.value = .ok methods ∧
      ∀ method ∈ methods, ∀ block ∈ method.blocks, ∀ entry ∈ block.entries,
        ∀ reference ∈ entry.enumType, ∃ use ∈ catalog.enumUses, use.version = block.version ∧
          reference = versionNamespace space block.version ++ "." ++ sourceName use.name ∧
          (collection.Declares block.version (sourceName use.name) ↔
            ∃ kept ∈ catalog.enumUses, kept.IsKept catalog.enumUses ∧
              kept.version = block.version ∧ sourceName kept.name = sourceName use.name) ∧
          (use.values ≠ [] →
            (∀ other ∈ catalog.enumUses, other.values ≠ [] → other.key = use.key →
              other.version = use.version) →
            collection.Declares block.version (sourceName use.name) ∧
              (collection.IsEmittable block.version →
                ∃ lines, collection.fileLines space block.version = .ok lines ∧
                  "   public enum " ++ sourceName use.name ∈ lines)) := by
  intro catalog collection
  have hcollects : collection.Collects catalog.enumUses := collects_collectEnums catalog
  obtain ⟨methods, hmethods, hblocks⟩ :=
    exists_buildInitMethods (Catalog.isFlat_ofList hadmitted) space
  refine ⟨methods, hmethods, ?_⟩
  intro method hmethod block hblock entry hentry reference href
  obtain ⟨d, hd, hof⟩ := hblocks method hmethod block hblock
  obtain ⟨use, huse, hversion, heq⟩ := hof.exists_use hd hentry href
  refine ⟨use, huse, hversion, heq.trans (enumReference_eq space block.version use.name),
    hcollects.declares_iff, fun hvalues hkey => ?_⟩
  -- of the two conditions for being emitted, definitions that are read meet the one about names
  have heligible : use.isEligible := by
    have hname := Catalog.name_ne_empty_of_mem_enumUses hadmitted huse
    simp [EnumUse.isEligible, hname, hvalues]
  have hdeclared := hcollects.declares_of_eligible huse heligible fun other hother hfits =>
    hkey other hother fun hempty => by simp [EnumUse.isEligible, hempty] at hfits
  rw [hversion] at hdeclared
  exact ⟨hdeclared, fun hemittable => hdeclared.exists_fileLines hemittable space⟩

/-- The catalog with the one definition. -/
def conditionCatalog : Catalog :=
  Catalog.ofList [("IFC2X3", conditionSet)]

theorem sorted_conditionCatalog :
    conditionCatalog.sorted = [("Pset_Condition", [⟨"IFC2X3", conditionSet⟩])] :=
  Catalog.sorted_ofList_singleton _ _

theorem enumUses_conditionCatalog :
    conditionCatalog.enumUses =
      [⟨"IFC2X3", "PEnum_Status", []⟩, ⟨"IFC2X3", "PEnum_Grade", ["Good", "Poor"]⟩] := by
  rw [Catalog.enumUses, Catalog.entries, sorted_conditionCatalog]
  decide +kernel

/-- The entry of one of the enumerations. -/
def conditionEntry (property : String) : InitEntry :=
  { entryClass := "PropertySetEntry", typeEnum := "PropertyType"
    paramName := "Pset_Condition.Assessment." ++ property
    propertyName := "Assessment." ++ property, propertyType := "Label"
    valueType := some "EnumeratedValue", enumType := some ("Enums.IFC2X3.PEnum_" ++ property)
    calculator := property ++ "Calculator" }

def conditionBlock : InitBlock :=
  { version := "IFC2X3", exportFlag := "ExportAs2x3"
    entries := [conditionEntry "Status", conditionEntry "Grade"] }

def conditionMethod : InitMethod :=
  { emptyMethod "Pset_Condition" with blocks := [conditionBlock] }

theorem value_buildInitMethods_condition :
    (buildInitMethods conditionCatalog "Enums").run.value = .ok [conditionMethod] := by
  rw [buildInitMethods, sorted_conditionCatalog]
  decide +kernel

theorem enumsOf_conditionCatalog :
    (collectEnums [] conditionCatalog).value.enumsOf "IFC2X3" =
      [("PEnum_Grade", ["Good", "Poor"])] := by
  rw [collectEnums, enumUses_conditionCatalog]
  decide +kernel

theorem references_declared_iff_condition :
    (∀ d ∈ [("IFC2X3", conditionSet)], d.2.IsAdmitted) ∧
      ∃ lines, (collectEnums [] conditionCatalog).value.fileLines "Enums" "IFC2X3" = .ok lines ∧
        "   public enum PEnum_Grade" ∈ lines := by
  have hadmitted : ∀ d ∈ [("IFC2X3", conditionSet)], d.2.IsAdmitted :=
    List.forall_mem_singleton.mpr (.read value_readSet_condition)
  obtain ⟨methods, hmethods, h⟩ := references_declared_iff hadmitted "Enums"
  obtain rfl : methods = [conditionMethod] :=
    Except.ok.inj (hmethods.symm.trans value_buildInitMethods_condition)
  obtain ⟨use, huse, -, href, -, hdeclared⟩ := h conditionMethod (List.mem_singleton_self _)
    conditionBlock (List.mem_singleton_self _) (conditionEntry "Grade")
    (List.mem_cons_of_mem _ List.mem_cons_self) _ rfl
  have hemittable : (collectEnums [] conditionCatalog).value.IsEmittable "IFC2X3" := by
    rw [Collection.IsEmittable, enumsOf_conditionCatalog]
    decide
  have huses : use ∈ conditionCatalog.enumUses := huse
  rw [enumUses_conditionCatalog, List.mem_cons, List.mem_singleton] at huses
  rcases huses with rfl | rfl
  · exact absurd href (by decide +kernel)
  · refine ⟨hadmitted, (hdeclared (List.cons_ne_nil _ _) ?_).2 hemittable⟩
    show ∀ other ∈ conditionCatalog.enumUses, _
    rw [enumUses_conditionCatalog]
    decide +kernel

/-! ### References that nothing declares -/

/-- Every reference of the initializer names an enumeration that is collected under the version of
its block. -/
def Catalog.ReferencesDeclared (catalog : Catalog) (space : String) : Prop :=
  ∀ methods, (buildInitMethods catalog space).run.value = .ok methods →
    ∀ method ∈ methods, ∀ block ∈ method.blocks, ∀ entry ∈ block.entries,
      ∀ reference ∈ entry.enumType,
        ∃ enumeration ∈ (collectEnums [] catalog).value.enumsOf block.version,
          reference = enumReference space block.version enumeration.1

/-- **There are references that nothing declares.**  The enumeration without items is not emitted,
but the entry of its property refers to it. -/
theorem not_referencesDeclared_condition :
    (readSet conditionRoot "Pset_Condition.xml" "IFC2X3").run.value = .ok conditionSet ∧
      ¬ conditionCatalog.ReferencesDeclared "Enums" := by
  refine ⟨value_readSet_condition, fun h => ?_⟩
  obtain ⟨enumeration, hmem, href⟩ := h _ value_buildInitMethods_condition conditionMethod
    (List.mem_singleton_self _) conditionBlock (List.mem_singleton_self _)
    (conditionEntry "Status") List.mem_cons_self _ rfl
  have hmem : enumeration ∈ [("PEnum_Grade", ["Good", "Poor"])] := enumsOf_conditionCatalog ▸ hmem
  obtain rfl := List.mem_singleton.mp hmem
  exact absurd href (by decide +kernel)

end PsetCompiler
