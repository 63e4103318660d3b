import PsetCompiler.Proofs.Definition.Accepted
import PsetCompiler.Proofs.Definition.Parts
import PsetCompiler.Proofs.Initializer.Built
import PsetCompiler.Proofs.Initializer.Quoted

/-!
# Names and localized names as literals

The literals of the initializer are made of the names of sets and leaves and of localized names.
Each of them denotes the text it was made from, whatever that is.  Data types, entities and classes
are not put between quotes; they come from the same files, and no double quote may be in them.

What is escaped are quotes and backslashes, but not line ends.  Names and localized names are read
without the white space at their ends, and a line end inside of them stays.  So the literals of a
name that is wrapped over two lines are not closed on the line on which they are opened, and these
are the only ones.

## Main definitions

* `Catalog.literalTexts` — the texts that the initializer of a catalog puts between quotes.
* `PropertySet.HasPlainTypes` — data types, entities and classes have no double quotes.
* `LiteralsClose` — every literal is closed on its line and denotes a text.

## Main results

* `flatMap_texts_buildInitMethods` — the texts that methods put between quotes.
* `isPlain_of_buildInitMethods` — what methods do not put between quotes.
* `initializer_literals_close_iff` — **the literals of the initializer, and when all are closed on their
  lines.**
* `not_literalsClose_wrapped` — **there are literals that are not.**
-/

namespace PsetCompiler

open Markup (Element)

/-! ### The texts of a catalog -/

/-- The name of a leaf inside of its set: behind the name of the property that holds it, unless that
is empty. -/
def innerName (leaf : Option String × Property) : String :=
  if leaf.1.getD "" = "" then leaf.2.name else leaf.1.getD "" ++ "." ++ leaf.2.name

/-- The texts that the entry of a leaf puts between quotes. -/
def PropertySet.leafTexts (calculatorSpace : String) (pset : PropertySet)
    (leaf : Option String × Property) : List String :=
  [entryName pset (leaf.1.getD "") leaf.2, innerName leaf, innerName leaf] ++
    leaf.2.aliases.map (·.text) ++ calculatorTexts calculatorSpace (leaf.2.name ++ "Calculator")

/-- The texts that the method of a set puts between quotes. -/
def groupTexts (calculatorSpace name : String) (definitions : List VersionedSet) : List String :=
  ((definitions.filter (·.isExported)).map fun d =>
    name :: d.definition.leaves.flatMap (d.definition.leafTexts calculatorSpace)).flatten ++ [name]

/-- The texts that the initializer of a catalog puts between quotes. -/
def Catalog.literalTexts (calculatorSpace : String) (catalog : Catalog) : List String :=
  ((catalog.sorted.filter fun group => group.2.any (·.isExported)).map fun group =>
    groupTexts calculatorSpace group.1 group.2).flatten

variable {space : String} (calculatorSpace : String)

theorem texts_of_buildEntry {pset : PropertySet} {leaf : Option String × Property}
    {version : String} {entry : InitEntry}
    (h : (buildEntry pset leaf.2 version (leaf.1.getD "") space).run.value = .ok entry) :
    entry.texts calculatorSpace = pset.leafTexts calculatorSpace leaf := by
  obtain ⟨parent, ⟨name, ifdGuid, aliases, valueType⟩⟩ := leaf
  have haliases : (localizedNames aliases).map (·.text) = aliases.map (·.text) := by
    rw [localizedNames, List.map_map]
    rfl
  unfold buildEntry at h
  dsimp only at h
  unfold InitEntry.texts PropertySet.leafTexts innerName
  rw [← haliases]
  rcases valueType with _ | (_ | _ | _ | _ | _ | _ | _)
  case none =>
    obtain ⟨dataType, -, h⟩ := Attempt.value_bind_eq_ok_iff.mp h
    rw [Attempt.value_pure] at h
    obtain rfl := Except.ok.inj h
    rfl
  case some.complex => exact nomatch h
  all_goals
    rw [Attempt.value_pure] at h
    obtain rfl := Except.ok.inj h
    rfl

/-- The texts of a definition that can be exported are those of its leaves, behind the name of the
set. -/
theorem texts_of_buildVersionBlock {d : VersionedSet} {block? : Option InitBlock}
    (h : (buildVersionBlock d.definition d.release space).run.value = .ok block?) (name : String) :
    block?.map (InitBlock.texts calculatorSpace name) =
      if d.isExported then
        some (name :: d.definition.leaves.flatMap (d.definition.leafTexts calculatorSpace))
      else none := by
  obtain ⟨hnot, rfl⟩ | ⟨hexported, exportFlag, entries, -, hentries, rfl⟩ :=
    of_buildVersionBlock_eq_ok h
  · rw [hnot]
    rfl
  · have htexts : d.definition.leaves.map (d.definition.leafTexts calculatorSpace) =
        entries.map (InitEntry.texts calculatorSpace) := by
      rw [← List.forall₂_eq_eq_eq, List.forall₂_map_left_iff, List.forall₂_map_right_iff]
      exact hentries.imp fun leaf entry hentry => (texts_of_buildEntry calculatorSpace hentry).symm
    rw [hexported, if_pos rfl, Option.map_some, InitBlock.texts, List.flatMap_def, List.flatMap_def,
      htexts]

/-- The texts of a set are those of its definitions that can be exported, and its name. -/
theorem texts_of_buildInitMethod {name : String} {definitions : List VersionedSet}
    {method? : Option InitMethod}
    (h : (buildInitMethod space name definitions).run.value = .ok method?) :
    method?.map (InitMethod.texts calculatorSpace) =
      if definitions.any (·.isExported) then some (groupTexts calculatorSpace name definitions)
      else none := by
  obtain ⟨blocks, hblocks, rfl⟩ := of_buildInitMethod_eq_ok h
  split
  · rw [Option.map_some, InitMethod.texts, groupTexts, List.flatMap_def]
    have htexts := map_filterMap_of_forall₂ (hblocks.imp fun d block? hblock =>
      texts_of_buildVersionBlock calculatorSpace hblock name)
    rw [← htexts]
    rfl
  · rfl

/-- What the methods of a catalog put between quotes. -/
theorem flatMap_texts_buildInitMethods {catalog : Catalog} {methods : List InitMethod}
    (h : (buildInitMethods catalog space).run.value = .ok methods) :
    methods.flatMap (InitMethod.texts calculatorSpace) = catalog.literalTexts calculatorSpace := by
  obtain ⟨built, hbuilt, rfl⟩ := of_buildInitMethods_eq_ok h
  rw [Catalog.literalTexts, List.flatMap_def]
  exact congrArg List.flatten (map_filterMap_of_forall₂ (hbuilt.imp fun group method? hmethod =>
    texts_of_buildInitMethod calculatorSpace hmethod))

/-! ### What is not put between quotes -/

/-- The names of types and entities of a property that is not complex. -/
def Property.typeNames (p : Property) : List String :=
  match p.valueType with
  | some (.single dataType) => [dataType]
  | some (.list dataType) => [dataType]
  | some (.bounded dataType) => [dataType]
  | some (.reference entity) => [entity]
  | some (.table defining defined _) => defining.toList ++ defined.toList
  | some (.enumerated _ _) => []
  | some (.complex _ _) => []
  | none => []

/-- The names of data types, entities and classes have no double quotes. -/
structure PropertySet.HasPlainTypes (pset : PropertySet) : Prop where
  classes : ∀ name ∈ pset.applicableClasses, Unquoted name
  types : ∀ leaf ∈ pset.leaves, ∀ name ∈ leaf.2.typeNames, Unquoted name

theorem unquoted_shortTypeName {dataType : Option String}
    (h : ∀ name ∈ dataType, Unquoted name) : Unquoted (shortTypeName dataType) := by
  have hlabel : Unquoted "Label" := unquoted_ofList (by decide)
  unfold shortTypeName
  split
  · exact hlabel
  · next name =>
    dsimp only
    split
    · exact hlabel
    · split
      · exact unquoted_ofList (by decide)
      · split
        · exact hlabel
        · have hempty : Unquoted "" := unquoted_ofList (List.not_mem_nil)
          exact (((h name rfl).replaceAll hempty "Ifc").replaceAll hempty "Measure").strip

theorem unquoted_guessDataType (name : String) : Unquoted (guessDataType name) := by
  have hhints : ∀ hint ∈ nameHints, Unquoted hint.2 := by
    unfold nameHints
    simp only [List.forall_mem_cons]
    exact ⟨unquoted_ofList (by decide), unquoted_ofList (by decide), unquoted_ofList (by decide),
      nofun⟩
  unfold guessDataType
  dsimp only
  split
  · next hint hfound => exact hhints hint (List.mem_of_find?_eq_some hfound)
  · exact unquoted_ofList (by decide)

theorem unquoted_languageType (language : String) : Unquoted (languageType language) := by
  have htypes : ∀ row ∈ languageTypes, Unquoted row.2 := by
    unfold languageTypes
    simp only [List.forall_mem_cons]
    iterate 22 refine ⟨unquoted_ofList (by decide), ?_⟩
    nofun
  unfold languageType
  cases hfound : languageTypes.lookup (Text.foldCase (Text.strip language)) with
  | none => exact unquoted_ofList (by decide)
  | some type => exact htypes _ (mem_of_lookup hfound)

/-- Versions that can be exported, and their export options, have no double quotes. -/
theorem unquoted_of_lookup_exportFlags {version exportFlag : String}
    (h : exportFlags.lookup version = some exportFlag) :
    Unquoted version ∧ Unquoted exportFlag := by
  have hrows : ∀ row ∈ exportFlags, Unquoted row.1 ∧ Unquoted row.2 := by
    unfold exportFlags
    simp only [List.forall_mem_cons]
    iterate 6 refine ⟨⟨unquoted_ofList (by decide), unquoted_ofList (by decide)⟩, ?_⟩
    nofun
  exact hrows _ (mem_of_lookup h)

theorem unquoted_entryClassFor (set : String) :
    Unquoted (entryClassFor set).1 ∧ Unquoted (entryClassFor set).2 := by
  unfold entryClassFor
  split
  · exact ⟨unquoted_ofList (by decide), unquoted_ofList (by decide)⟩
  · split
    · exact ⟨unquoted_ofList (by decide), unquoted_ofList (by decide)⟩
    · exact ⟨unquoted_ofList (by decide), unquoted_ofList (by decide)⟩

theorem unquoted_enumReference {version : String} (hspace : Unquoted space)
    (hversion : Unquoted version) (name : String) :
    Unquoted (enumReference space version name) := by
  have hpoint : Unquoted "." := unquoted_ofList (by decide)
  have hlead : Unquoted (if space = "" then "" else space ++ ".") := by
    split
    · exact unquoted_ofList (List.not_mem_nil)
    · exact hspace.append hpoint
  exact ((hlead.append hversion).append hpoint).append (unquoted_sourceName name)

/-- The names of the types of an entry are made of those of the leaf. -/
theorem isPlain_of_buildEntry {pset : PropertySet} {p : Property} {version parent : String}
    (hversion : Unquoted version) (hspace : Unquoted space)
    (htypes : ∀ name ∈ p.typeNames, Unquoted name) {entry : InitEntry}
    (h : (buildEntry pset p version parent space).run.value = .ok entry) : entry.IsPlain := by
  have hlanguages : ∀ n ∈ localizedNames p.aliases, Unquoted n.language := by
    simp only [localizedNames, List.forall_mem_map]
    exact fun a _ => unquoted_languageType a.language
  have hclasses := unquoted_entryClassFor pset.name
  have hsome {s : String} (hs : Unquoted s) : ∀ t ∈ some s, Unquoted t := by
    intro t ht
    rwa [← Option.mem_some_iff.mp ht]
  have hshort {dataType : String} (hdata : Unquoted dataType) :
      Unquoted (shortTypeName (some dataType)) := unquoted_shortTypeName (hsome hdata)
  obtain ⟨name, ifdGuid, aliases, valueType⟩ := p
  unfold buildEntry at h
  generalize entryClassFor pset.name = classes at h hclasses
  obtain ⟨entryClass, typeEnum⟩ := classes
  obtain ⟨hclass, henum⟩ := hclasses
  dsimp only at h
  unfold Property.typeNames at htypes
  have hplain {paramName propertyName typeName calculator : String}
      {valueType argumentType enumType : Option String} (htype : Unquoted typeName)
      (hvalue : ∀ t ∈ valueType, Unquoted t) (hargument : ∀ t ∈ argumentType, Unquoted t)
      (hdomain : ∀ t ∈ enumType, Unquoted t) :
      InitEntry.IsPlain ⟨entryClass, typeEnum, paramName, propertyName, typeName, valueType,
        argumentType, enumType, localizedNames aliases, calculator⟩ :=
    ⟨hclass, henum, htype, hvalue, hargument, hdomain, hlanguages⟩
  rcases valueType with _ | (dataType | _ | entity | dataType | dataType | ⟨defining, defined, _⟩ | _)
  case none =>
    obtain ⟨dataType, hdata, h⟩ := Attempt.value_bind_eq_ok_iff.mp h
    rw [Attempt.value_pure] at h
    obtain rfl := Except.ok.inj h
    rw [Attempt.value_liftM, value_inferDataType] at hdata
    obtain rfl := Except.ok.inj hdata
    exact hplain (hshort (unquoted_guessDataType name)) nofun nofun nofun
  case some.complex => exact nomatch h
  all_goals
    rw [Attempt.value_pure] at h
    obtain rfl := Except.ok.inj h
  case some.single =>
    exact hplain (hshort (htypes dataType List.mem_cons_self)) nofun nofun nofun
  case some.enumerated enumeration _ =>
    exact hplain (unquoted_ofList (by decide)) (hsome (unquoted_ofList (by decide))) nofun
      (hsome (unquoted_enumReference hspace hversion enumeration))
  case some.reference =>
    exact hplain (htypes entity List.mem_cons_self).strip (hsome (unquoted_ofList (by decide))) nofun
      nofun
  case some.list | some.bounded =>
    exact hplain (hshort (htypes dataType List.mem_cons_self)) (hsome (unquoted_ofList (by decide)))
      nofun nofun
  case some.table =>
    have hdefining := unquoted_shortTypeName fun t ht =>
      htypes t (List.mem_append_left _ (Option.mem_toList.mpr ht))
    have hdefined := unquoted_shortTypeName fun t ht =>
      htypes t (List.mem_append_right _ (Option.mem_toList.mpr ht))
    exact hplain hdefined (hsome (unquoted_ofList (by decide))) (hsome hdefining) nofun

theorem isPlain_of_buildVersionBlock {d : VersionedSet} (hspace : Unquoted space)
    (htypes : d.definition.HasPlainTypes) {block : InitBlock}
    (h : (buildVersionBlock d.definition d.release space).run.value = .ok (some block)) :
    block.IsPlain := by
  obtain ⟨-, hnone⟩ | ⟨-, exportFlag, entries, hflag, hentries, hsome⟩ := of_buildVersionBlock_eq_ok h
  · cases hnone
  · obtain rfl := Option.some.inj hsome
    obtain ⟨hversion, hexport⟩ := unquoted_of_lookup_exportFlags hflag
    refine ⟨hexport, List.forall_mem_map.mpr fun name hname => ?_, fun entry hentry => ?_⟩
    · split
      · exact unquoted_ofList (by decide)
      · exact htypes.classes name hname
    · obtain ⟨leaf, hleaf, hbuilt⟩ := exists_left_of_mem hentries hentry
      exact isPlain_of_buildEntry hversion hspace (htypes.types leaf hleaf) hbuilt

theorem isPlain_of_buildInitMethod {name : String} {definitions : List VersionedSet}
    (hspace : Unquoted space) (htypes : ∀ d ∈ definitions, d.definition.HasPlainTypes)
    {method : InitMethod}
    (h : (buildInitMethod space name definitions).run.value = .ok (some method)) :
    method.IsPlain := by
  obtain ⟨blocks, hblocks, hmethod⟩ := of_buildInitMethod_eq_ok h
  split at hmethod
  · obtain rfl := Option.some.inj hmethod
    have hname := unquoted_sourceName name
    have hmethodName : Unquoted ("Init" ++ sourceName name) :=
      .append (unquoted_ofList (by decide)) hname
    have hvariable : Unquoted (Text.replaceAll "Pset_" "propertySet" (sourceName name)) :=
      hname.replaceAll (unquoted_ofList (by decide)) _
    have hcheck : Unquoted (emptyMethod name).allowCheck := by
      unfold emptyMethod
      dsimp only
      split
      · exact unquoted_ofList (by decide)
      · exact unquoted_ofList (by decide)
    refine ⟨hmethodName, hvariable, hcheck, fun block hblock => ?_⟩
    obtain ⟨block?, hblock?, heq⟩ := List.mem_filterMap.mp hblock
    obtain rfl : block? = some block := heq
    obtain ⟨d, hd, hbuilt⟩ := exists_left_of_mem hblocks hblock?
    exact isPlain_of_buildVersionBlock hspace (htypes d hd) hbuilt
  · cases hmethod

/-- When data types, entities and classes have no double quotes, nothing that the methods do not put
between quotes has one. -/
theorem isPlain_of_buildInitMethods {catalog : Catalog} (hspace : Unquoted space)
    (htypes : ∀ d ∈ catalog.entries, d.definition.HasPlainTypes) {methods : List InitMethod}
    (h : (buildInitMethods catalog space).run.value = .ok methods) :
    ∀ method ∈ methods, method.IsPlain := by
  obtain ⟨built, hbuilt, rfl⟩ := of_buildInitMethods_eq_ok h
  intro method hmethod
  obtain ⟨method?, hmethod?, heq⟩ := List.mem_filterMap.mp hmethod
  obtain rfl : method? = some method := heq
  obtain ⟨group, hgroup, hbuilt⟩ := exists_left_of_mem hbuilt hmethod?
  exact isPlain_of_buildInitMethod hspace
    (fun d hd => htypes d (List.mem_flatMap.mpr ⟨group, hgroup, hd⟩)) hbuilt

/-! ### Literals that are closed on their lines -/

/-- The literals of source text denote some texts, one after the other, and each is closed on the
line on which it is opened. -/
def LiteralsClose (source : String) (texts : List String) : Prop :=
  ∃ raws, Scan.run {} source.toList = { closed := raws } ∧
    List.Forall₂ (fun raw t => unescape raw = some t.toList ∧ ClosesOnLine raw) raws texts

theorem Quotes.run_eq {source : String} {texts : List String} (h : Quotes source texts) :
    Scan.run {} source.toList = { closed := texts.map fun t => escapeLiteralChars t.toList } :=
  h []

theorem Quotes.literalsClose_iff {source : String} {texts : List String} (h : Quotes source texts) :
    LiteralsClose source texts ↔ ∀ t ∈ texts, ClosesOnLine t.toList := by
  constructor
  · rintro ⟨raws, hrun, hraws⟩ t ht
    rw [h.run_eq] at hrun
    obtain rfl : _ = raws := congrArg Scan.closed hrun
    rw [List.forall₂_map_left_iff, List.forall₂_same] at hraws
    exact closesOnLine_escapeLiteralChars_iff.mp (hraws t ht).2
  · intro hclose
    refine ⟨_, h.run_eq, ?_⟩
    rw [List.forall₂_map_left_iff, List.forall₂_same]
    exact fun t ht => ⟨unescape_escapeLiteralChars _,
      closesOnLine_escapeLiteralChars_iff.mpr (hclose t ht)⟩

/-- The literals of the initializer of a catalog of definitions are those of its texts. -/
theorem exists_quotes_initializerSource {definitions : List (String × PropertySet)}
    (hadmitted : ∀ d ∈ definitions, d.2.IsAdmitted)
    (htypes : ∀ d ∈ definitions, d.2.HasPlainTypes) {enumSpace : String}
    (henum : Unquoted enumSpace) :
    ∃ methods, (buildInitMethods (Catalog.ofList definitions) enumSpace).run.value = .ok methods ∧
      ∀ space, Unquoted space → ∀ calculatorSpace, IsEscapeFree calculatorSpace →
        Quotes (initializerSource methods space calculatorSpace)
          ((Catalog.ofList definitions).literalTexts calculatorSpace) := by
  obtain ⟨methods, hmethods, -⟩ :=
    exists_buildInitMethods (Catalog.isFlat_ofList hadmitted) enumSpace
  refine ⟨methods, hmethods, fun space hspace calculatorSpace hcalculator => ?_⟩
  have hplain := isPlain_of_buildInitMethods henum
    (fun d hd => htypes _ (Catalog.mem_entries_ofList.mp hd)) hmethods
  rw [← flatMap_texts_buildInitMethods calculatorSpace hmethods]
  exact quotes_initializerSource hplain hspace hcalculator

/-- **The literals of the initializer, and when all are closed on their lines.**  Let no data type,
entity or class of a catalog of definitions have a double quote, and let the namespaces be without
quotes and backslashes.  Then the initializer is built, and its literals stand for the names of the
exported sets and of their leaves, and for the localized names, one after the other: each denotes
the text that it was made from, and is closed on the line on which it is opened exactly if no line
ends in that text.  So all of them are closed on their lines exactly if no line ends in any of these
texts. -/
theorem initializer_literals_close_iff {definitions : List (String × PropertySet)}
    (hadmitted : ∀ d ∈ definitions, d.2.IsAdmitted)
    (htypes : ∀ d ∈ definitions, d.2.HasPlainTypes) {enumSpace space calculatorSpace : String}
    (henum : Unquoted enumSpace) (hspace : Unquoted space)
    (hcalculator : IsEscapeFree calculatorSpace) :
    let texts := (Catalog.ofList definitions).literalTexts calculatorSpace
    ∃ methods, (buildInitMethods (Catalog.ofList definitions) enumSpace).run.value = .ok methods ∧
      let source := initializerSource methods space calculatorSpace
      (∃ raws, Scan.run {} source.toList = { closed := raws } ∧
        List.Forall₂
          (fun raw t => unescape raw = some t.toList ∧ (ClosesOnLine raw ↔ ClosesOnLine t.toList))
          raws texts) ∧
      (LiteralsClose source texts ↔ ∀ t ∈ texts, ClosesOnLine t.toList) := by
  intro texts
  obtain ⟨methods, hmethods, hquotes⟩ := exists_quotes_initializerSource hadmitted htypes henum
  have hquotes := hquotes space hspace calculatorSpace hcalculator
  refine ⟨methods, hmethods, ⟨_, hquotes.run_eq, ?_⟩, hquotes.literalsClose_iff⟩
  rw [List.forall₂_map_left_iff, List.forall₂_same]
  exact fun t _ => ⟨unescape_escapeLiteralChars _, closesOnLine_escapeLiteralChars_iff⟩

/-! ### A name over two lines -/

/-- A set of two labels; one name has a double quote in it, the other one is wrapped. -/
def wrappedRoot : Element :=
  { name := "PropertySetDef"
    content :=
      [.element (textElement "Name" "Pset_DoorCommon"),
        .element
          { name := "PropertyDefs"
            content :=
              [.element (labelElement "Bore 3\""), .element (labelElement "Fire\n      Rating")] }] }

def wrappedSet : PropertySet :=
  { name := "Pset_DoorCommon", version := "IFC4", release := "IFC4"
    properties := [labelProperty "Bore 3\"", labelProperty "Fire\n      Rating"] }

theorem value_readSet_wrapped :
    (readSet wrappedRoot "Pset_DoorCommon.xml" "IFC4").run.value = .ok wrappedSet := by
  have hheader : (readHeader wrappedRoot "IFC4").run.value =
      .ok { name := "Pset_DoorCommon", version := "IFC4", release := "IFC4" } := rfl
  have hparts : SetKind.properties.parts wrappedRoot =
      .ok { values := [labelElement "Bore 3\"", labelElement "Fire\n      Rating"] } := rfl
  have hread : (readParts .properties "Pset_DoorCommon"
      { values := [labelElement "Bore 3\"", labelElement "Fire\n      Rating"] }).run.value =
        .ok wrappedSet.properties :=
    readParts_eq_ok_iff.mpr ⟨⟨_, rfl⟩,
      [some (labelProperty "Bore 3\""), some (labelProperty "Fire\n      Rating")],
      .cons (value_readProperty_label rfl) (.cons (value_readProperty_label rfl) .nil), rfl⟩
  exact readSet_eq_ok rfl rfl hheader hparts hread

theorem hasPlainTypes_wrapped : wrappedSet.HasPlainTypes where
  classes := nofun
  types := by
    have hlabel (name : String) : ∀ type ∈ (labelProperty name).typeNames, Unquoted type :=
      List.forall_mem_singleton.mpr (unquoted_ofList (by decide))
    show ∀ leaf ∈ [(none, labelProperty "Bore 3\""), (none, labelProperty "Fire\n      Rating")], _
    rw [List.forall_mem_cons, List.forall_mem_singleton]
    exact ⟨hlabel _, hlabel _⟩

theorem literalTexts_wrapped :
    (Catalog.ofList [("IFC4", wrappedSet)]).literalTexts "" =
      ["Pset_DoorCommon",
        "Pset_DoorCommon.Bore 3\"", "Bore 3\"", "Bore 3\"",
        "Pset_DoorCommon.Fire\n      Rating", "Fire\n      Rating", "Fire\n      Rating",
        "Pset_DoorCommon"] := by
  rw [Catalog.literalTexts, Catalog.sorted_ofList_singleton]
  decide +kernel

theorem isAdmitted_of_mem_wrapped : ∀ d ∈ [("IFC4", wrappedSet)], d.2.IsAdmitted :=
  List.forall_mem_singleton.mpr (.read value_readSet_wrapped)

theorem hasPlainTypes_of_mem_wrapped : ∀ d ∈ [("IFC4", wrappedSet)], d.2.HasPlainTypes :=
  List.forall_mem_singleton.mpr hasPlainTypes_wrapped

theorem isEscapeFree_empty : IsEscapeFree "" :=
  ⟨unquoted_ofList List.not_mem_nil, List.not_mem_nil⟩

/-- Every literal denotes its text, the quote and the line end included. -/
theorem initializer_literals_close_iff_wrapped :
    (∀ d ∈ [("IFC4", wrappedSet)], d.2.IsAdmitted) ∧
      (∀ d ∈ [("IFC4", wrappedSet)], d.2.HasPlainTypes) ∧
      Unquoted "" ∧ Unquoted "Exporter" ∧ IsEscapeFree "" ∧
      ∃ methods raws,
        (buildInitMethods (Catalog.ofList [("IFC4", wrappedSet)]) "").run.value = .ok methods ∧
          Scan.run {} (initializerSource methods "Exporter" "").toList = { closed := raws } ∧
          raws.map unescape =
            ["Pset_DoorCommon",
              "Pset_DoorCommon.Bore 3\"", "Bore 3\"", "Bore 3\"",
              "Pset_DoorCommon.Fire\n      Rating", "Fire\n      Rating", "Fire\n      Rating",
              "Pset_DoorCommon"].map fun t => some t.toList := by
  have hspace : Unquoted "Exporter" := unquoted_ofList (by decide)
  obtain ⟨methods, hmethods, ⟨raws, hrun, hraws⟩, -⟩ :=
    initializer_literals_close_iff isAdmitted_of_mem_wrapped hasPlainTypes_of_mem_wrapped
      isEscapeFree_empty.unquoted hspace isEscapeFree_empty
  refine ⟨isAdmitted_of_mem_wrapped, hasPlainTypes_of_mem_wrapped, isEscapeFree_empty.unquoted,
    hspace, isEscapeFree_empty, methods, raws, hmethods, hrun, ?_⟩
  rw [← literalTexts_wrapped, ← List.forall₂_eq_eq_eq, List.forall₂_map_left_iff,
    List.forall₂_map_right_iff]
  exact hraws.imp fun raw t h => h.1

/-- **There are literals that are not closed on their lines.** -/
theorem not_literalsClose_wrapped :
    ∃ pset methods, (readSet wrappedRoot "Pset_DoorCommon.xml" "IFC4").run.value = .ok pset ∧
      (buildInitMethods (Catalog.ofList [("IFC4", pset)]) "").run.value = .ok methods ∧
      ¬ LiteralsClose (initializerSource methods "Exporter" "")
        ((Catalog.ofList [("IFC4", pset)]).literalTexts "") := by
  have hspace : Unquoted "Exporter" := unquoted_ofList (by decide)
  obtain ⟨methods, hmethods, hquotes⟩ := exists_quotes_initializerSource isAdmitted_of_mem_wrapped
    hasPlainTypes_of_mem_wrapped isEscapeFree_empty.unquoted
  refine ⟨wrappedSet, methods, value_readSet_wrapped, hmethods, fun hclose => ?_⟩
  have hlines := (hquotes "Exporter" hspace "" isEscapeFree_empty).literalsClose_iff.mp hclose
  rw [literalTexts_wrapped] at hlines
  have hend := hlines "Fire\n      Rating" (by simp) '\n' (by simp)
  exact absurd hend (by decide)

end PsetCompiler
