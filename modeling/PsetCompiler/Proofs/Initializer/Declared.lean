import PsetCompiler.Initializer.Source
import PsetCompiler.Proofs.Enumeration.Named
import PsetCompiler.Proofs.Initializer.Built
import PsetCompiler.Proofs.Text.Order

/-!
# What generated sources declare

A property set becomes a method if one of its definitions can be exported, and what is declared is
the identifier made from the name of the set.  The names of sets are different, since the catalog
keeps them as keys; their identifiers need not be.  It is the same with enumerations: they are told
apart by name, and declared by identifier.

So the sources declare everything once exactly when the names of each file are spelled apart, and
two names that differ in a blank and an underscore are not.

## Main definitions

* `Catalog.exportedNames` — the names of the sets that become methods.
* `Catalog.DeclaresOnce` — no two declarations of a generated source have one identifier.

## Main results

* `map_methodName_buildInitMethods` — the methods of a catalog.
* `linesWith_initializerLines` — the declarations of the initializer.
* `nodup_declarations_iff` — **when no two declarations collide.**
* `not_declaresOnce_parts` — **there are declarations that collide.**
-/

namespace PsetCompiler

/-! ### The sets that become methods -/

/-- The names of the sets with a definition that can be exported, in order. -/
def Catalog.exportedNames (catalog : Catalog) : List String :=
  (catalog.sorted.filter fun group => group.2.any (·.isExported)).map (·.1)

/-- The names of sets that become methods are different, as all names of sets are. -/
theorem Catalog.nodup_exportedNames {catalog : Catalog}
    (hkeys : (catalog.definitions.map (·.1)).Nodup) : catalog.exportedNames.Nodup := by
  have hperm : catalog.sorted.Perm catalog.definitions := Text.perm_sortBy _ _
  exact ((hperm.map _).nodup_iff.mpr hkeys).sublist (List.filter_sublist.map _)

/-- A set becomes a method exactly if one of its definitions can be exported, and the method has the
identifier of the set. -/
theorem methodName_of_buildInitMethod {space name : String} {definitions : List VersionedSet}
    {method? : Option InitMethod}
    (h : (buildInitMethod space name definitions).run.value = .ok method?) :
    method?.map (·.methodName) =
      if definitions.any (·.isExported) then some ("Init" ++ sourceName name) else none := by
  obtain ⟨blocks, -, rfl⟩ := of_buildInitMethod_eq_ok h
  split
  · rfl
  · rfl

/-- The methods of a catalog have the identifiers of the sets that become methods, in order. -/
theorem map_methodName_buildInitMethods {catalog : Catalog} {space : String}
    {methods : List InitMethod} (h : (buildInitMethods catalog space).run.value = .ok methods) :
    methods.map (·.methodName) =
      catalog.exportedNames.map fun name => "Init" ++ sourceName name := by
  obtain ⟨built, hbuilt, rfl⟩ := of_buildInitMethods_eq_ok h
  rw [Catalog.exportedNames, List.map_map]
  exact map_filterMap_of_forall₂
    (hbuilt.imp fun group method? => methodName_of_buildInitMethod)

/-! ### What the initializer declares -/

/-- How the line begins that declares a method for a set. -/
def methodStart : String := "      private static void "

/-- How the line ends that declares a method for a set. -/
def methodEnd : String := "(IList<PropertySetDescription> commonPropertySets)"

theorem startsWith_of_mem_lineFor {start : String} {value : Option String} {line : String → String}
    (h : ∀ s, Text.startsWith start (line s) = false) :
    ∀ found ∈ lineFor value line, Text.startsWith start found = false := by
  unfold lineFor
  split
  · split
    · nofun
    · exact List.forall_mem_singleton.mpr (h _)
  · nofun

theorem startsWith_of_mem_calculatorLines (space calculator : String) :
    ∀ line ∈ calculatorLines space calculator, Text.startsWith methodStart line = false := by
  unfold calculatorLines
  split
  · nofun
  · simp only [List.forall_mem_cons, String.append_assoc]
    exact ⟨startsWith_append_of_apart rfl _, startsWith_of_apart rfl,
      startsWith_append_of_apart rfl _, nofun⟩

/-- No line of an entry declares a method. -/
theorem startsWith_of_mem_entryLines (variableName calculatorSpace : String) (e : InitEntry) :
    ∀ line ∈ entryLines variableName calculatorSpace e,
      Text.startsWith methodStart line = false := by
  unfold entryLines
  simp only [List.forall_mem_append, List.forall_mem_cons, List.forall_mem_map, String.append_assoc]
  refine ⟨⟨⟨⟨⟨⟨⟨⟨rfl, ?entry, ?name, nofun⟩, ?argument⟩, ?type, nofun⟩, ?value⟩, ?domain⟩,
    ?localized⟩, ?calculator⟩, ?added, nofun⟩
  case entry | name | type | added => exact startsWith_append_of_apart rfl _
  case argument | value | domain =>
    exact startsWith_of_mem_lineFor fun s => startsWith_append_of_apart rfl _
  case localized => exact fun n _ => startsWith_append_of_apart rfl _
  case calculator => exact startsWith_of_mem_calculatorLines _ _

/-- No line of a block declares a method. -/
theorem startsWith_of_mem_blockLines (m : InitMethod) (calculatorSpace : String) (b : InitBlock) :
    ∀ line ∈ blockLines m calculatorSpace b, Text.startsWith methodStart line = false := by
  unfold blockLines
  simp only [List.forall_mem_append, List.forall_mem_cons, List.forall_mem_map, String.append_assoc]
  refine ⟨⟨⟨⟨rfl, ?condition, ?opening, nofun⟩, ?entities⟩, ?entries⟩, ?closing, nofun⟩
  case condition => exact startsWith_append_of_apart rfl _
  case opening | closing => exact startsWith_of_apart rfl
  case entities => exact fun entity _ => startsWith_append_of_apart rfl _
  case entries =>
    intro line hline
    obtain ⟨e, -, hline⟩ := List.mem_flatMap.mp hline
    exact startsWith_of_mem_entryLines _ _ e line hline

/-- The lines of a method declare it, and nothing else. -/
theorem linesWith_methodLines (calculatorSpace : String) (m : InitMethod) :
    linesWith methodStart (methodLines calculatorSpace m) =
      [methodStart ++ m.methodName ++ methodEnd] := by
  have hblocks : linesWith methodStart (m.blocks.flatMap (blockLines m calculatorSpace)) = [] := by
    refine linesWith_eq_nil fun line hline => ?_
    obtain ⟨b, -, hline⟩ := List.mem_flatMap.mp hline
    exact startsWith_of_mem_blockLines m calculatorSpace b line hline
  unfold methodLines
  rw [linesWith_append, linesWith_append, hblocks]
  have hlast : linesWith methodStart
      ["", "         if (ifcPSE != null)", "         \x7b",
        "            " ++ m.variableName ++ ".Name = " ++ sourceLiteral m.name ++ ";",
        "            commonPropertySets.Add(" ++ m.variableName ++ ");",
        "         \x7d", "      \x7d"] = [] := by
    refine linesWith_eq_nil ?_
    simp only [List.forall_mem_cons, String.append_assoc]
    refine ⟨rfl, startsWith_of_apart rfl, startsWith_of_apart rfl, ?_, ?_, startsWith_of_apart rfl,
      startsWith_of_apart rfl, nofun⟩
    · exact startsWith_append_of_apart rfl _
    · exact startsWith_append_of_apart rfl _
  have hfirst : linesWith methodStart
      ["      \x7b",
        "         PropertySetDescription " ++ m.variableName ++ " = new PropertySetDescription();",
        "         PropertySetEntry ifcPSE = null;", "         Type calcType = null;"] = [] := by
    refine linesWith_eq_nil ?_
    simp only [List.forall_mem_cons, String.append_assoc]
    exact ⟨startsWith_of_apart rfl, startsWith_append_of_apart rfl _, startsWith_of_apart rfl,
      startsWith_of_apart rfl, nofun⟩
  rw [hlast, List.append_nil, List.append_nil]
  have hdeclared : Text.startsWith methodStart (methodStart ++ m.methodName ++ methodEnd) := by
    rw [String.append_assoc]
    exact startsWith_append _ _
  rw [linesWith, List.filter_cons_of_neg (by decide)]
  exact (List.filter_cons_of_pos hdeclared).trans (congrArg _ hfirst)

/-- The initializer declares its methods in order, and no others. -/
theorem linesWith_initializerLines (methods : List InitMethod) (space calculatorSpace : String) :
    linesWith methodStart (initializerLines methods space calculatorSpace) =
      methods.map fun m => methodStart ++ m.methodName ++ methodEnd := by
  have hheading : linesWith methodStart (headingLines space) = [] := by
    refine linesWith_eq_nil ?_
    unfold headingLines
    simp only [List.forall_mem_cons]
    refine ⟨?_, ?_, rfl, ?_, ?_, ?_, ?_, ?_, ?_, rfl, startsWith_append_of_apart rfl _, ?_, ?_,
      ?_, startsWith_append_of_apart rfl _, ?_, ?_, nofun⟩
    all_goals exact startsWith_of_apart rfl
  have hcalls : linesWith methodStart
      (methods.map fun m => "         " ++ m.methodName ++ "(commonPropertySets);") = [] := by
    refine linesWith_eq_nil (List.forall_mem_map.mpr fun m _ => ?_)
    rw [String.append_assoc]
    exact startsWith_append_of_apart rfl _
  unfold initializerLines
  rw [linesWith_append, linesWith_append, linesWith_append, linesWith_append, hheading, hcalls,
    linesWith_flatMap (linesWith_methodLines calculatorSpace)]
  have hbetween : linesWith methodStart ["", "         propertySets.Add(commonPropertySets);",
      "      \x7d"] = [] :=
    linesWith_eq_nil (by
      simp only [List.forall_mem_cons]
      exact ⟨rfl, startsWith_of_apart rfl, startsWith_of_apart rfl, nofun⟩)
  have hlast : linesWith methodStart ["   \x7d", "\x7d"] = [] := rfl
  rw [hbetween, hlast, List.append_nil]
  rfl

/-! ### Declarations that do not collide -/

/-- No two declarations of a generated source have one identifier: neither two enumerations of one
version, nor two methods. -/
def Catalog.DeclaresOnce (catalog : Catalog) : Prop :=
  (∀ language version blocks,
    (enumBlocks language ((collectEnums [] catalog).value.enumsOf version)).run.value = .ok blocks →
      (blocks.map (·.name)).Nodup) ∧
  ∀ space methods, (buildInitMethods catalog space).run.value = .ok methods →
    (methods.map (·.methodName)).Nodup

/-- **When no two declarations collide.**  Whatever enumerations were recorded before, the names
that are filed under one version are different.  Its blocks are built unless an item has too many
digits, and have the identifiers of the names.  So the blocks have different identifiers, and the
file of the version declares each of them in one line only, exactly when the names are spelled
apart.

The names of the sets that become methods are different as well, and the methods have their
identifiers behind `Init`.  So these are different, and the initializer declares each method in one
line only, exactly when the names of these sets are spelled apart. -/
theorem nodup_declarations_iff {catalog : Catalog} (hkeys : (catalog.definitions.map (·.1)).Nodup)
    (emitted : EmittedEnums) :
    let c := (collectEnums emitted catalog).value
    (∀ version, (c.namesOf version).Nodup ∧
      (∀ language, (∃ blocks, (enumBlocks language (c.enumsOf version)).run.value = .ok blocks) ↔
        c.IsEmittable version) ∧
      (∀ language blocks, (enumBlocks language (c.enumsOf version)).run.value = .ok blocks →
        blocks.map (·.name) = (c.namesOf version).map sourceName) ∧
      (((c.namesOf version).map sourceName).Nodup ↔ SpelledApart (c.namesOf version)) ∧
      ∀ space, (c.IsEmittable version → ∃ lines, c.fileLines space version = .ok lines) ∧
        ∀ lines, c.fileLines space version = .ok lines →
          ((linesWith enumStart lines).Nodup ↔ SpelledApart (c.namesOf version))) ∧
    catalog.exportedNames.Nodup ∧
    ∀ enumSpace methods, (buildInitMethods catalog enumSpace).run.value = .ok methods →
      methods.map (·.methodName) =
        catalog.exportedNames.map (fun name => "Init" ++ sourceName name) ∧
      ((methods.map (·.methodName)).Nodup ↔ SpelledApart catalog.exportedNames) ∧
      ∀ space calculatorSpace,
        (linesWith methodStart (initializerLines methods space calculatorSpace)).Nodup ↔
          SpelledApart catalog.exportedNames := by
  intro c
  have hexported := Catalog.nodup_exportedNames hkeys
  refine ⟨fun version => ?_, hexported, fun enumSpace methods hmethods => ?_⟩
  · have hnames := nodup_namesOf emitted catalog version
    refine ⟨hnames, fun language => ?_, fun language blocks => map_name_enumBlocks,
      nodup_map_sourceName_iff hnames, fun space => ⟨fun hemittable => ?_, fun lines =>
        nodup_linesWith_fileLines_iff⟩⟩
    · simp only [value_enumBlocks_eq_ok_iff, exists_and_left, exists_eq, and_true]
      rfl
    · exact ⟨_, Collection.fileLines_eq_ok_iff.mpr ⟨hemittable, rfl⟩⟩
  · have hnamed := map_methodName_buildInitMethods hmethods
    have hinit : Function.Injective ("Init" ++ ·) := fun _ _ => (String.append_right_inj _).mp
    refine ⟨hnamed, ?_, fun space calculatorSpace => ?_⟩
    · rw [hnamed]
      exact nodup_map_comp_sourceName_iff hinit hexported
    · have hlines : linesWith methodStart (initializerLines methods space calculatorSpace) =
          catalog.exportedNames.map fun name =>
            methodStart ++ ("Init" ++ sourceName name) ++ methodEnd := by
        have hmapped := congrArg (List.map (methodStart ++ · ++ methodEnd)) hnamed
        rw [List.map_map, List.map_map] at hmapped
        rw [linesWith_initializerLines]
        exact hmapped
      rw [hlines]
      refine nodup_map_comp_sourceName_iff (f := fun s => methodStart ++ ("Init" ++ s) ++ methodEnd)
        (fun s t hst => ?_) hexported
      exact hinit ((String.append_right_inj _).mp ((String.append_left_inj _).mp hst))

/-- A set with one enumeration, both named after a part. -/
def partSet (part : String) : PropertySet where
  name := "Pset_" ++ part
  version := "IFC4"
  release := "IFC4"
  properties :=
    [{ name := "Status"
       valueType := some (.enumerated ("PEnum_" ++ part) [⟨"NEW", []⟩, ⟨"EXISTING", []⟩]) }]

/-- The sets of some parts. -/
def partsCatalog (parts : List String) : Catalog where
  definitions := parts.map fun part => ("Pset_" ++ part, [⟨"IFC4", partSet part⟩])

theorem sorted_partsCatalog {part next : String} (h : "Pset_" ++ part ≤ "Pset_" ++ next) :
    (partsCatalog [part, next]).sorted = (partsCatalog [part, next]).definitions :=
  Text.sortBy_of_pairwise _ (List.pairwise_pair.mpr h)

theorem nodup_declarations_iff_parts :
    let catalog := partsCatalog ["DoorFrame", "Door_Frame"]
    (catalog.definitions.map (·.1)).Nodup ∧
      (∃ lines, (collectEnums [] catalog).value.fileLines "Enums" "IFC4" = .ok lines ∧
        (linesWith enumStart lines).Nodup) ∧
      ∃ methods, (buildInitMethods catalog "Enums").run.value = .ok methods ∧
        (methods.map (·.methodName)).Nodup := by
  intro catalog
  have hkeys : (catalog.definitions.map (·.1)).Nodup := by decide +kernel
  have hsorted : catalog.sorted = catalog.definitions := sorted_partsCatalog (by decide)
  obtain ⟨henums, -, hmethods⟩ := nodup_declarations_iff hkeys []
  refine ⟨hkeys, ?_, ?_⟩
  · obtain ⟨-, -, -, -, hfile⟩ := henums "IFC4"
    have hfiled : (collectEnums [] catalog).value.enumsOf "IFC4" =
        [("PEnum_DoorFrame", ["NEW", "EXISTING"]), ("PEnum_Door_Frame", ["NEW", "EXISTING"])] := by
      rw [collectEnums, Catalog.enumUses, Catalog.entries, hsorted]
      decide +kernel
    have hemittable : (collectEnums [] catalog).value.IsEmittable "IFC4" := by
      rw [Collection.IsEmittable, hfiled]
      decide
    obtain ⟨lines, hlines⟩ := (hfile "Enums").1 hemittable
    refine ⟨lines, hlines, ((hfile "Enums").2 lines hlines).mpr ?_⟩
    rw [Collection.namesOf, hfiled]
    exact spelledApart_of_forall (by simp [isNameChar])
  · have hbuilt : ∃ methods, (buildInitMethods catalog "Enums").run.value = .ok methods := by
      rw [buildInitMethods, hsorted]
      exact ⟨_, rfl⟩
    obtain ⟨methods, hok⟩ := hbuilt
    have hexported : catalog.exportedNames = ["Pset_DoorFrame", "Pset_Door_Frame"] := by
      rw [Catalog.exportedNames, hsorted]
      decide
    refine ⟨methods, hok, (hmethods "Enums" methods hok).2.1.mpr ?_⟩
    rw [hexported]
    exact spelledApart_of_forall (by simp [isNameChar])

/-- **There are declarations that collide.**  Two names that differ in a blank and an underscore are
told apart until they become identifiers. -/
theorem not_declaresOnce_parts :
    let catalog := partsCatalog ["Door Frame", "Door_Frame"]
    (∃ blocks, (enumBlocks .csharp ((collectEnums [] catalog).value.enumsOf "IFC4")).run.value =
        .ok blocks ∧ blocks.map (·.name) = ["PEnum_Door_Frame", "PEnum_Door_Frame"]) ∧
      (buildInitMethods catalog "").run.value.map (List.map (·.methodName)) =
        .ok ["InitPset_Door_Frame", "InitPset_Door_Frame"] ∧
      ¬ catalog.DeclaresOnce := by
  intro catalog
  have hsorted : catalog.sorted = catalog.definitions := sorted_partsCatalog (by decide)
  obtain ⟨blocks, hblocks, hnamed⟩ : ∃ blocks,
      (enumBlocks .csharp ((collectEnums [] catalog).value.enumsOf "IFC4")).run.value = .ok blocks ∧
        blocks.map (·.name) = ["PEnum_Door_Frame", "PEnum_Door_Frame"] := by
    have hfiled : (collectEnums [] catalog).value.enumsOf "IFC4" =
        [("PEnum_Door Frame", ["NEW", "EXISTING"]), ("PEnum_Door_Frame", ["NEW", "EXISTING"])] := by
      rw [collectEnums, Catalog.enumUses, Catalog.entries, hsorted]
      decide +kernel
    rw [hfiled]
    refine ⟨_, value_enumBlocks_eq_ok_iff.mpr ⟨by decide, rfl⟩, ?_⟩
    decide +kernel
  have hmethods : (buildInitMethods catalog "").run.value.map (List.map (·.methodName)) =
      .ok ["InitPset_Door_Frame", "InitPset_Door_Frame"] := by
    rw [buildInitMethods, hsorted]
    decide +kernel
  refine ⟨⟨blocks, hblocks, hnamed⟩, hmethods, fun h => ?_⟩
  have hnodup := h.1 .csharp "IFC4" blocks hblocks
  rw [hnamed] at hnodup
  exact absurd hnodup (by decide)

end PsetCompiler
