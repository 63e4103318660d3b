import PsetCompiler.Proofs.Entity.Query
import PsetCompiler.Proofs.Enumeration.Classes
import PsetCompiler.Proofs.Enumeration.Identifiers
import PsetCompiler.Proofs.Files.Stored
import PsetCompiler.Proofs.Text.Order
import PsetCompiler.Proofs.Text.Split
import PsetCompiler.Stage.Schemas

/-!
# The enumeration of the offered entities

The concrete entities of a branch are written as the members of an enumeration.  In between they are
put in order and made into identifiers, and a value whose identifier is used before is left out.
The names of entities begin with `Ifc`, so where they hold nothing but letters, digits and
underscores they are identifiers already, and no reserved words.  A branch names no entity twice.
So the enumeration lists what is offered, no more and no less, and so does the text of its source:
whoever reads it behind its heading finds these names and no others.

## Main definitions

* `Forest.Offers` — an entity is offered.
* `ListsOffered` — an enumeration lists what is offered.
* `entityHeading`, `DeclaresEntities` — the heading of a source, and the names that are read behind
  it.
* `entityFile` — where the enumeration is written.

## Main results

* `Forest.WellFormed.mem_offered_iff` — which names are put in order.
* `Forest.WellFormed.run_entityBlock` — they become members one by one.
* `declaresEntities_entitySource` — the source declares the members, in both languages.
* `writeEntities_lists_offered` — **the enumeration that is written lists exactly the entities that
  are offered.**
-/

namespace PsetCompiler

/-- The enumeration of some names, each spelled like itself. -/
def listOf (names : List String) : EnumBlock where
  name := "IFCEntityType"
  members := names.map plainMember

theorem map_identifier_listOf (names : List String) :
    (listOf names).members.map (·.identifier) = names := by
  rw [listOf, List.map_map]
  exact List.map_id _

namespace Forest

variable {forest : Forest}

/-- A concrete entity of the branch of a root is offered, unless it is one of those that should not
be offered any more and these are left out. -/
def Offers (forest : Forest) (root : String) (excludeDeprecated : Bool) (name : String) : Prop :=
  ∃ key e, forest.entity? key = some e ∧ e.name = name ∧ e.isAbstract = false ∧
    (∃ above, forest.key? root = some above ∧ forest.Below key above) ∧
    (excludeDeprecated = true → name ∉ deprecatedEntities forest.version)

/-- The names of all entities hold nothing but letters, digits and underscores, all of them
ASCII. -/
def HasPlainNames (forest : Forest) : Prop :=
  ∀ entry ∈ forest.entities, ∀ c ∈ entry.2.name.toList, IsNameStart c ∨ '0' ≤ c ∧ c ≤ '9'

/-! ### Names of entities -/

/-- A name that begins as those of entities do is an identifier, if no character of it is in the
way. -/
theorem isPlain_of_isEntityName {name : String} (hname : PsetCompiler.isEntityName name = true)
    (hchars : ∀ c ∈ name.toList, IsNameStart c ∨ '0' ≤ c ∧ c ≤ '9') : IsPlain name := by
  obtain ⟨rest, rfl⟩ := Text.exists_append_of_startsWith hname
  have hlist : ("Ifc" ++ rest).toList = 'I' :: ('f' :: 'c' :: rest.toList) :=
    String.toList_append
  refine
    { isIdentifier := ⟨'I', 'f' :: 'c' :: rest.toList, hlist, ?first, ?rest⟩
      notReserved := ?_ }
  case first => exact .inl (by decide)
  case rest =>
    intro c hc
    apply hchars
    rw [hlist]
    exact List.mem_cons_of_mem _ hc
  · -- no reserved word begins so
    have hnone : ∀ word ∈ reservedWords, Text.startsWith "Ifc" word = false := by decide
    intro hmem
    have hfalse := hnone _ hmem
    rw [startsWith_append] at hfalse
    cases hfalse

theorem WellFormed.isPlain_name (h : forest.WellFormed) (hnames : forest.HasPlainNames)
    {key : String} {e : Entity} (he : forest.entity? key = some e) : IsPlain e.name := by
  have hmem : (key, e) ∈ forest.entities := mem_of_lookup he
  exact isPlain_of_isEntityName (h.isEntityName _ hmem) (hnames _ hmem)

namespace WellFormed

/-! ### What is put in order -/

section

variable (h : forest.WellFormed) (root : String) (excludeDeprecated : Bool)
include h

/-- The names that are put in order are those of the offered entities, -/
theorem mem_offered_iff {name : String} :
    name ∈ forest.offered root excludeDeprecated ↔ forest.Offers root excludeDeprecated name := by
  have hexcluded : name ∉ (if excludeDeprecated then deprecatedEntities forest.version else []) ↔
      (excludeDeprecated = true → name ∉ deprecatedEntities forest.version) := by
    cases excludeDeprecated <;> simp
  rw [offered, Text.mem_sortTexts, List.mem_filter, Bool.and_eq_true,
    Bool.not_eq_true', Bool.not_eq_true', ← Bool.not_eq_true (List.contains _ _),
    List.contains_iff_mem, hexcluded]
  constructor
  · rintro ⟨hbranch, hconcrete, hkept⟩
    obtain ⟨key, e, he, rfl⟩ := h.exists_entity_of_mem_branch hbranch
    obtain ⟨above, hroot, -⟩ := h.mem_branch_iff.mp hbranch
    rw [h.find?_name he] at hconcrete
    exact ⟨key, e, he, rfl, hconcrete, ⟨above, hroot, (h.name_mem_branch_iff hroot he).mp hbranch⟩,
      hkept⟩
  · rintro ⟨key, e, he, rfl, hconcrete, ⟨above, hroot, hbelow⟩, hkept⟩
    rw [h.find?_name he]
    exact ⟨(h.name_mem_branch_iff hroot he).mpr hbelow, hconcrete, hkept⟩

/-- and each is there once, behind the smaller ones. -/
theorem pairwise_offered : (forest.offered root excludeDeprecated).Pairwise (· < ·) := by
  rw [offered]
  exact Text.pairwise_lt_sortTexts ((h.nodup_branch root).filter _)

theorem isPlain_of_mem_offered (hnames : forest.HasPlainNames) :
    ∀ name ∈ forest.offered root excludeDeprecated, IsPlain name := by
  intro name hmem
  obtain ⟨key, e, he, rfl, -⟩ := (h.mem_offered_iff root excludeDeprecated).mp hmem
  exact h.isPlain_name hnames he

/-- The offered entities become members one by one, each spelled like its name. -/
theorem run_entityBlock (hnames : forest.HasPlainNames) (language : SourceLanguage) :
    (entityBlock forest root excludeDeprecated language).run =
      pure (.ok (listOf (forest.offered root excludeDeprecated))) := by
  have hnodup : (forest.offered root excludeDeprecated).Nodup :=
    (h.pairwise_offered root excludeDeprecated).imp fun hlt => String.ne_of_lt hlt
  have hname : sourceName "IFCEntityType" = "IFCEntityType" := by decide +kernel
  rw [entityBlock, buildBlock_of_isPlain _ hnodup
    (h.isPlain_of_mem_offered root excludeDeprecated hnames), hname, listOf]

end

end WellFormed

end Forest

/-! ### The enumeration -/

/-- An enumeration lists what is offered of a branch. -/
structure ListsOffered (forest : Forest) (root : String) (excludeDeprecated : Bool)
    (block : EnumBlock) : Prop where
  /-- The identifiers are in strictly increasing order, -/
  increasing : (block.members.map (·.identifier)).Pairwise (· < ·)
  /-- and they are the names of the offered entities. -/
  mem_iff : ∀ name, name ∈ block.members.map (·.identifier) ↔
    forest.Offers root excludeDeprecated name
  /-- No name is changed, and none is a number. -/
  verbatim : ∀ member ∈ block.members, member.identifier = member.value ∧ member.number = none

theorem Forest.WellFormed.listsOffered {forest : Forest} (h : forest.WellFormed) (root : String)
    (excludeDeprecated : Bool) :
    ListsOffered forest root excludeDeprecated
      (listOf (forest.offered root excludeDeprecated)) := by
  refine { increasing := ?_, mem_iff := ?_, verbatim := ?_ }
  · rw [map_identifier_listOf]
    exact h.pairwise_offered root excludeDeprecated
  · intro name
    rw [map_identifier_listOf]
    exact h.mem_offered_iff root excludeDeprecated
  · intro member hmember
    obtain ⟨name, -, rfl⟩ := List.mem_map.mp hmember
    exact ⟨rfl, rfl⟩

/-! ### The source -/

/-- The lines of a source of entities in front of its enumeration. -/
def entityHeading (language : SourceLanguage) (version : String) : List String :=
  match language with
  | .csharp => csharpHeading version "" "entity types"
  | .python => moduleHeading version "entity types"

/-- A source holds one enumeration behind its heading, and its members are read back: their names
are all that it says of them. -/
def DeclaresEntities (language : SourceLanguage) (version source : String)
    (names : List String) : Prop :=
  ∃ body, source = textOfLines (entityHeading language version) ++ body ∧
    match language with
    | .csharp => readEnums body = some [("IFCEntityType", names.map (·, none))]
    | .python => readClasses body =
        some [("IFCEntityType", names.map fun name => (name, .text (name.toList.map Char.toNat)))]

theorem IsPlain.isNameChar {name : String} (h : IsPlain name) :
    ∀ c ∈ name.toList, isNameChar c = true := by
  obtain ⟨first, rest, hname, hfirst, hrest⟩ := h.isIdentifier
  simp only [hname, isNameChar_iff, List.forall_mem_cons]
  exact ⟨.inl hfirst, hrest⟩

/-- A plain name denotes itself, since no character of it takes two units. -/
theorem IsPlain.denoted_plainMember {name : String} (h : IsPlain name) :
    (plainMember name).denoted = .text (name.toList.map Char.toNat) := by
  have hbasic : ∀ c ∈ name.toList, c.toNat < 0x10000 := by
    intro c hc
    rcases isNameChar_iff.mp (h.isNameChar c hc) with hstart | hdigit
    · have hrange := toNat_of_isNameStart hstart
      omega
    · have hrange := toNat_of_isAsciiDigit (isAsciiDigit_iff.mpr hdigit)
      omega
  exact congrArg MemberValue.text (flatMap_utf16Units_eq_iff.mpr hbasic)

theorem isSpelled_listOf {names : List String} (h : ∀ name ∈ names, IsPlain name) :
    (listOf names).IsSpelled where
  isNameChar :=
    have hname : "IFCEntityType".toList.all isNameChar = true := by decide
    List.all_eq_true.mp hname
  members := List.forall_mem_map.mpr fun name hname =>
    { ne_empty := (h name hname).ne_empty, isNameChar := (h name hname).isNameChar }

/-- The source of a list of plain names declares them. -/
theorem declaresEntities_entitySource (forest : Forest) {names : List String}
    (h : ∀ name ∈ names, IsPlain name) (language : SourceLanguage) :
    DeclaresEntities language forest.version (entitySource forest (listOf names) language)
      names := by
  have hspelled : ∀ b ∈ [listOf names], b.IsSpelled :=
    List.forall_mem_singleton.mpr (isSpelled_listOf h)
  cases language with
  | csharp =>
    -- no line stands in front of the brace that opens the blocks
    have hraw : readRawBlocks
        (textOfLines ([] ++ "\x7b" :: (csharpBlocksLines [listOf names] ++ ["\x7d"]))) =
          some ([listOf names].map EnumBlock.raw) :=
      readRawBlocks_textOfLines (List.forall_mem_nil _) (List.forall_mem_nil _) hspelled
    have hread := readEnums_of_readRawBlocks hraw hspelled
    have hreadable : (listOf names).readable = names.map (·, none) := List.map_map
    rw [List.map_singleton, hreadable] at hread
    refine ⟨_, ?_, hread⟩
    rw [entitySource, enumSource, csharpEnumLines_eq]
    exact textOfLines_append _ _
  | python =>
    have hread := readClasses_pythonBlocks hspelled
    have hdenoted : ((listOf names).members.map fun m => (m.identifier, m.denoted)) =
        names.map fun name => (name, .text (name.toList.map Char.toNat)) := by
      rw [listOf, List.map_map]
      refine List.map_congr_left fun name hname => ?_
      exact congrArg (name, ·) (h name hname).denoted_plainMember
    rw [List.map_singleton, hdenoted] at hread
    exact ⟨_, textOfLines_append _ _, hread⟩

/-! ### The file -/

/-- Where the enumeration of a version is written. -/
def entityFile (root : Path) (settings : SchemaSettings) (forest : Forest) : Path :=
  (root.child "processed").child
    (forest.version ++ "EntityType" ++ settings.entityLanguage.fileEnding)

/-- The enumeration of a version, by the settings. -/
def settledBlock (settings : SchemaSettings) (forest : Forest) : Attempt EnumBlock :=
  entityBlock forest settings.entityRoot settings.excludeDeprecated settings.entityLanguage

/-- Where the folder is made and a file can stand at the place of the path, the source of the
enumeration is put there.  If no value is left out, nothing is reported but that it is written. -/
theorem result_writeEntities {root : Path} {settings : SchemaSettings} {forest : Forest}
    {block : EnumBlock} (hblock : (settledBlock settings forest).run = pure (.ok block))
    {workspace : Workspace} {made : FileTree}
    (hmade : workspace.files.makeFolders (root.child "processed") = .ok made) {place : Place}
    (hplace : made.locate (entityFile root settings forest) = .ok place)
    (hfree : ¬made.Holds place .folder) :
    let source := entitySource forest block settings.entityLanguage
    (writeEntities root settings forest).result workspace =
      ⟨(.ok (entityFile root settings forest), { workspace with
          files := made.put place (.file (Text.encodeUtf8 source.toList)) }),
        [.entityEnumWritten forest.version block.members.length
          (entityFile root settings forest).name]⟩ := by
  intro source
  have hsettled (w : Workspace) :
      (Attempt.onState (settledBlock settings forest)).result w = pure (.ok block, w) := by
    show (settledBlock settings forest).run >>= (fun result => pure (result, w)) = _
    rw [hblock]
    rfl
  have hwrite : made.write (entityFile root settings forest) (Text.encodeUtf8 source.toList) =
      .ok (made.put place (.file (Text.encodeUtf8 source.toList))) :=
    FileTree.write_eq_ok_iff.mpr ⟨place, hplace, hfree, rfl⟩
  have htext : (Workspace.writeText (entityFile root settings forest) source).result
        { workspace with files := made } =
      pure (.ok (), { workspace with
        files := made.put place (.file (Text.encodeUtf8 source.toList)) }) :=
    result_writeText hwrite
  rw [writeEntities, Run.result_bind_pure (result_makeFolders hmade)]
  refine (Run.result_bind_pure (hsettled _) _).trans ?_
  refine (Run.result_bind_pure htext _).trans ?_
  rfl

/-- **The enumeration that is written lists exactly the entities that are offered.**  In a forest
that declarations make, whose names hold nothing but letters, digits and underscores, the members of
the enumeration are the concrete entities of the branch, without those that should not be offered
any more if these are left out.  The identifiers are the names, in strictly increasing order, and no
value is left out or changed or becomes a number.  Where the file can be written, the text in it
declares these members and nothing else, and nothing is reported but how many there are. -/
theorem writeEntities_lists_offered (version : String) (enums : List (String × List String))
    (records : List EntityRecord) (settings : SchemaSettings)
    (hnames : (Forest.addRecords { version, predefinedTypeEnums := enums }
      records).value.HasPlainNames) :
    let forest := (Forest.addRecords { version, predefinedTypeEnums := enums } records).value
    ∃ block, (settledBlock settings forest).run = ⟨.ok block, []⟩ ∧
      ListsOffered forest settings.entityRoot settings.excludeDeprecated block ∧
      ∀ (root : Path) (workspace : Workspace) (made : FileTree) (place : Place),
        workspace.files.makeFolders (root.child "processed") = .ok made →
        made.locate (entityFile root settings forest) = .ok place →
        ¬made.Holds place .folder →
        ∃ source files,
          (writeEntities root settings forest).result workspace =
            ⟨(.ok (entityFile root settings forest), { workspace with files }),
              [.entityEnumWritten forest.version block.members.length
                (entityFile root settings forest).name]⟩ ∧
          files.read (entityFile root settings forest) = .ok (Text.encodeUtf8 source.toList) ∧
          DeclaresEntities settings.entityLanguage forest.version source
            (block.members.map (·.identifier)) := by
  intro forest
  have h : forest.WellFormed := (Forest.wellFormed_empty version enums).addRecords records
  have hblock : (settledBlock settings forest).run = _ := h.run_entityBlock settings.entityRoot
    settings.excludeDeprecated hnames settings.entityLanguage
  have hplain := h.isPlain_of_mem_offered settings.entityRoot settings.excludeDeprecated hnames
  refine ⟨_, hblock, h.listsOffered settings.entityRoot settings.excludeDeprecated, ?_⟩
  intro root workspace made place hmade hplace hfree
  refine ⟨_, _, result_writeEntities hblock hmade hplace hfree,
    FileTree.read_put hplace hfree _, ?_⟩
  rw [map_identifier_listOf]
  exact declaresEntities_entitySource forest hplain settings.entityLanguage

/-- Of two walls, an abstract product and a proxy, the walls are offered; they are written where
nothing is yet. -/
theorem writeEntities_lists_offered_walls :
    let records : List EntityRecord :=
      [{ name := "IfcWallType", parent := some "IfcWall" },
        { name := "IfcWall", parent := some "IfcProduct" },
        { name := "IfcProxy", parent := some "IfcProduct" },
        { name := "IfcProduct", isAbstract := true }]
    let forest := (Forest.addRecords { version := "IFC4" } records).value
    let root := Path.ofText "/data"
    forest.HasPlainNames ∧
      ∃ block, ListsOffered forest "IfcProduct" true block ∧
        block.members.map (·.identifier) = ["IfcWall", "IfcWallType"] ∧
        ∃ source files,
          ((writeEntities root {} forest).result bareWorkspace).value =
            (.ok (entityFile root {} forest), { bareWorkspace with files }) ∧
          files.read (entityFile root {} forest) = .ok (Text.encodeUtf8 source.toList) ∧
          DeclaresEntities .csharp "IFC4" source ["IfcWall", "IfcWallType"] := by
  intro records forest root
  have hnames : forest.HasPlainNames := by
    have hchars : forest.entities.all (fun entry => entry.2.name.toList.all isNameChar) = true := by
      decide +kernel
    intro entry hentry c hc
    have hname := List.all_eq_true.mp hchars entry hentry
    exact isNameChar_iff.mp (List.all_eq_true.mp hname c hc)
  have hoffered : forest.offered "IfcProduct" true = ["IfcWall", "IfcWallType"] := by
    unfold Forest.offered
    refine (congrArg Text.sortTexts (?_ : _ = ["IfcWall", "IfcWallType"])).trans ?_
    · decide +kernel
    · exact Text.sortBy_of_pairwise _ (by decide)
  have hmade : bareWorkspace.files.makeFolders (root.child "processed") =
      .ok { entries := [(["data"], .folder), (["data", "processed"], .folder)] } := by
    rfl
  have hplace : FileTree.locate
      { entries := [(["data"], .folder), (["data", "processed"], .folder)] }
      (entityFile root {} forest) = .ok ["data", "processed", "IFC4EntityType.cs"] := by
    decide +kernel
  have hfree : ¬FileTree.Holds
      { entries := [(["data"], .folder), (["data", "processed"], .folder)] }
      ["data", "processed", "IFC4EntityType.cs"] .folder := by
    unfold FileTree.Holds
    decide +kernel
  obtain ⟨block, hblock, hlists, hwritten⟩ :=
    writeEntities_lists_offered "IFC4" [] records {} hnames
  obtain ⟨source, files, hresult, hread, hdeclares⟩ :=
    hwritten root bareWorkspace _ _ hmade hplace hfree
  have hmembers : block.members.map (·.identifier) = ["IfcWall", "IfcWallType"] := by
    have h : forest.WellFormed := (Forest.wellFormed_empty "IFC4" []).addRecords records
    have hsettled := h.run_entityBlock "IfcProduct" true hnames .csharp
    rw [hoffered] at hsettled
    obtain rfl := Except.ok.inj (congrArg Report.value (hblock.symm.trans hsettled))
    exact map_identifier_listOf _
  rw [hmembers] at hdeclares
  exact ⟨hnames, block, hlists, hmembers, source, files, congrArg Report.value hresult, hread,
    hdeclares⟩

end PsetCompiler
