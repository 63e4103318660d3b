import PsetCompiler.Proofs.Definition.Accepted
import PsetCompiler.Proofs.Definition.Parts
import PsetCompiler.Proofs.Parameter.Cut
import PsetCompiler.Proofs.Parameter.Ledger
import PsetCompiler.Proofs.Parameter.RoundTrip

/-!
# What the next run finds of a catalog

A name is read from a file without the white space at its ends, but what is inside of it stays: a
name that is wrapped over two lines keeps the line end, and a tab stays a tab.  A row does not
escape either.  So the tables of a catalog can be written in any group that can, but what the next
run finds in the files are only the names that fit into a column; all others are lost, and with them
the identifiers that were drawn for them.

## Main definitions

* `Occurrence.IsOneLine` — the occurrences whose rows are lines.
* `Catalog.mergedFrom` — what a merge into empty tables leaves.
* `ParameterTable.IsKeptIn` — one table has the names of another, with the same identifiers.

## Main results

* `Catalog.hasGuids_mergedFrom`, `Catalog.hasWritableGroups_mergedFrom`,
  `Catalog.isLinewise_mergedFrom` — the tables that a merge leaves.
* `seedTable_writeTable_mergeCatalog` — **what is read back of a merged catalog**, and when it is
  everything.
-/

namespace PsetCompiler

open Markup (Element)
open Text (IsLine IsColumn)

/-! ### Occurrences -/

namespace Occurrence

/-- The row of the parameter of an occurrence is a line. -/
structure IsOneLine (o : Occurrence) : Prop where
  name : IsLine o.2.1.toList
  description : IsLine o.2.2.classified.2.toList

/-- The name of an occurrence in the table on a side. -/
def nameIn (o : Occurrence) : Side → String
  | .instances => o.2.1
  | .types => typeParameterName o.2.1

variable {o : Occurrence} (side : Side)

theorem isColumn_nameIn : IsColumn (o.nameIn side) ↔ IsColumn o.2.1 := by
  cases side with
  | instances => rfl
  | types => exact isColumn_typeParameterName

theorem isLine_nameIn (h : IsLine o.2.1.toList) : IsLine (o.nameIn side).toList := by
  have hsuffix : IsLine typeSuffix.toList := by decide
  cases side with
  | instances => exact h
  | types =>
    rw [nameIn, typeParameterName]
    split
    · exact h
    · rw [String.toList_append, Text.isLine_append]
      exact ⟨h, hsuffix⟩

theorem isBlankText_nameIn (h : Text.isBlankText o.2.1 = false) :
    Text.isBlankText (o.nameIn side) = false := by
  cases side with
  | instances => exact h
  | types => exact isBlankText_typeParameterName h

theorem nameIn_mem_asks : (side, o.nameIn side) ∈ o.asks.map (·.1) := by
  cases side with
  | instances => exact List.mem_cons_self
  | types => exact List.mem_cons_of_mem _ List.mem_cons_self

theorem parameter_of_mem_postings {groupId : Int} {p : Posting} (hp : p ∈ o.postings groupId) :
    p.parameter = { o.parameter groupId with name := o.nameIn p.side } := by
  rw [postings, List.mem_cons, List.mem_singleton] at hp
  rcases hp with rfl | rfl <;> rfl

end Occurrence

/-- A qualified name has a point in it. -/
theorem PropertySet.isBlankText_qualifiedName (pset : PropertySet)
    (leaf : Option String × Property) : Text.isBlankText (pset.qualifiedName leaf) = false := by
  have hpoint : Text.isBlankText "." = false := by decide
  rcases leaf with ⟨_ | parent, p⟩ <;>
    simp only [qualifiedName, Text.isBlankText_append, hpoint, Bool.and_false, Bool.false_and]

namespace Catalog

variable {definitions : List (String × PropertySet)} {qualified : Bool} {o : Occurrence}

/-- The parameters of definitions have names. -/
theorem isBlankText_of_mem_occurrences (h : ∀ d ∈ definitions, d.2.IsAdmitted)
    (ho : o ∈ (ofList definitions).occurrences qualified) : Text.isBlankText o.2.1 = false := by
  obtain ⟨entry, hentry, ⟨parent, p⟩, hleaf, rfl⟩ := mem_occurrences_iff.mp ho
  have hnamed := (leaf_ofList h hentry hleaf).1.named
  cases parent with
  | some parent => exact entry.definition.isBlankText_qualifiedName _
  | none =>
    show Text.isBlankText (if qualified then _ else p.name) = false
    split
    · exact entry.definition.isBlankText_qualifiedName _
    · exact hnamed

/-- The identifiers that definitions carry are in the written form, and so are those that are
derived from them. -/
theorem exists_text_of_mem_postings (h : ∀ d ∈ definitions, d.2.IsAdmitted) {groupId : Int}
    {p : Posting} (hp : p ∈ (ofList definitions).postings qualified groupId) :
    ∀ text ∈ p.given, ∃ g : Guid, text = g.text := by
  intro text htext
  obtain ⟨o, ho, hp⟩ := List.mem_flatMap.mp hp
  rw [Occurrence.postings, List.mem_cons, List.mem_singleton] at hp
  rcases hp with rfl | rfl
  · obtain ⟨entry, hentry, leaf, hleaf, rfl⟩ := mem_occurrences_iff.mp ho
    exact (leaf_ofList h hentry hleaf).1.guid text (Option.filter_eq_some_iff.mp htext).1
  · obtain ⟨base, -, hderived⟩ := Option.bind_eq_some_iff.mp htext
    exact exists_text_of_derivedGuid? hderived

/-! ### Merged tables -/

/-- What a merge into empty tables leaves. -/
def mergedFrom (supply : Supply) (catalog : Catalog) (qualified : Bool) (groupId : Int) : Ledger :=
  ({ supply } : Ledger).postAll (catalog.postings qualified groupId)

variable {supply : Supply} {groupId : Int}

/-- What holds of every entry that a posting of the catalog puts in among such entries holds of
everything that is merged. -/
theorem forall_mem_mergedFrom {catalog : Catalog} {P : String × Parameter → Prop}
    (hps : ∀ p ∈ catalog.postings qualified groupId, ∀ before : Ledger,
      (∀ side, ∀ e ∈ before.table side, P e) → P (p.parameter.name, before.entryFor p)) :
    ∀ side, ∀ e ∈ (mergedFrom supply catalog qualified groupId).table side, P e := by
  refine Ledger.forall_mem_postAll (fun side => ?_) hps
  cases side <;> exact fun e he => absurd he List.not_mem_nil

theorem nodup_keys_mergedFrom (catalog : Catalog) (side : Side) :
    (((mergedFrom supply catalog qualified groupId).table side).map (·.1)).Nodup := by
  refine Ledger.nodup_keys_postAll _ _ ?_
  cases side <;> exact List.nodup_nil

/-- Everything that occurs is in both tables. -/
theorem isSome_lookup_mergedFrom {catalog : Catalog} (ho : o ∈ catalog.occurrences qualified)
    (side : Side) :
    (((mergedFrom supply catalog qualified groupId).table side).lookup (o.nameIn side)).isSome := by
  have hsettled := ({ supply } : Ledger).postAll_settles (catalog.postings qualified groupId)
  rw [map_ask_postings] at hsettled
  have hasked : (side, o.nameIn side) ∈ (catalog.asks qualified).map (·.1) := by
    rw [asks, List.map_flatMap]
    exact List.mem_flatMap.mpr ⟨o, ho, o.nameIn_mem_asks side⟩
  rw [← Option.isSome_map]
  exact Option.isSome_of_eq_some (hsettled.asked _ hasked)

theorem isColumn_of_mem_mergedFrom {catalog : Catalog}
    (h : ∀ o ∈ catalog.occurrences qualified, IsColumn o.2.1) (side : Side) :
    ∀ e ∈ (mergedFrom supply catalog qualified groupId).table side, IsColumn e.1 := by
  refine forall_mem_mergedFrom (P := fun e => IsColumn e.1) (fun p hp _ _ => ?_) side
  obtain ⟨o, ho, hp⟩ := List.mem_flatMap.mp hp
  rw [o.parameter_of_mem_postings hp]
  exact (o.isColumn_nameIn p.side).mpr (h o ho)

/-- What is merged has identifiers in the written form. -/
theorem hasGuids_mergedFrom (h : ∀ d ∈ definitions, d.2.IsAdmitted) (side : Side) :
    ((mergedFrom supply (ofList definitions) qualified groupId).table side).HasGuids :=
  forall_mem_mergedFrom (P := fun e => ∃ g : Guid, e.2.guid = some g.text)
    (fun p hp _ hbefore =>
      Ledger.exists_text_guidFor (hbefore p.side) (exists_text_of_mem_postings h hp)) side

/-- What is merged is of the group that it is merged for. -/
theorem hasWritableGroups_mergedFrom {catalog : Catalog} (hid : Text.IsWritable groupId)
    (side : Side) :
    ((mergedFrom supply catalog qualified groupId).table side).HasWritableGroups :=
  forall_mem_mergedFrom (P := fun e => Text.IsWritable e.2.groupId)
    (fun p hp _ _ => (groupId_of_mem_postings p hp).symm ▸ hid) side

/-- Every row of what is merged is a line of the file, if it is so for all that occurs. -/
theorem isLinewise_mergedFrom (h : ∀ d ∈ definitions, d.2.IsAdmitted)
    (hlines : ∀ o ∈ (ofList definitions).occurrences qualified, Occurrence.IsOneLine o)
    (hid : Text.IsWritable groupId) (side : Side) :
    ((mergedFrom supply (ofList definitions) qualified groupId).table side).IsLinewise where
  nodup := nodup_keys_mergedFrom _ side
  keyed := forall_mem_mergedFrom (P := fun e => e.2.name = e.1) (fun _ _ _ _ => rfl) side
  oneLine := by
    refine forall_mem_mergedFrom (P := fun e => e.2.IsOneLine) (fun p hp before hbefore => ?_) side
    have hcategory : IsColumn "" := by decide
    have hguid := Ledger.exists_text_guidFor (fun e he => (hbefore p.side e he).guid)
      (exists_text_of_mem_postings h hp)
    obtain ⟨o, ho, hp⟩ := List.mem_flatMap.mp hp
    rw [Ledger.entryFor, o.parameter_of_mem_postings hp]
    exact { name := o.isLine_nameIn p.side (hlines o ho).name
            named := o.isBlankText_nameIn p.side (isBlankText_of_mem_occurrences h ho)
            description := (hlines o ho).description
            category := hcategory
            group := hid
            guid := hguid }

end Catalog

/-! ### The next run -/

/-- A table has the names of this one, with the same identifiers. -/
def ParameterTable.IsKeptIn (table other : ParameterTable) : Prop :=
  ∀ name p, table.lookup name = some p → (other.lookup name).map (·.guid) = some p.guid

/-- What is read back of a table into which some occurrences were merged. -/
structure ComesBack (occurrences : List Occurrence) (table back : ParameterTable) : Prop where
  /-- Only names that fit into a column come back. -/
  isColumn : ∀ name, (back.lookup name).isSome → IsColumn name
  /-- Where the rows are lines, every such name does, with its identifier, -/
  guid : (∀ o ∈ occurrences, Occurrence.IsOneLine o) → ∀ name p, table.lookup name = some p →
    IsColumn name → (back.lookup name).map (·.guid) = some p.guid
  /-- so that with descriptions on one line nothing is lost if all names are such, and only then. -/
  isKeptIn_iff : (∀ o ∈ occurrences, IsLine o.2.2.classified.2.toList) →
    (table.IsKeptIn back ↔ ∀ o ∈ occurrences, IsColumn o.2.1)

/-- What is read back of the file of a merged table. -/
theorem Catalog.comesBack_mergedFrom {definitions : List (String × PropertySet)}
    (h : ∀ d ∈ definitions, d.2.IsAdmitted) (supply : Supply) (qualified : Bool) {groupId : Int}
    (hid : Text.IsWritable groupId) {groupName : String} (hgroup : IsLine groupName.toList)
    (file path : String) (side : Side) :
    let table := (mergedFrom supply (ofList definitions) qualified groupId).table side
    ComesBack ((ofList definitions).occurrences qualified) table
      (seedFile file path (Text.encodeUtf8 (tableText table groupId groupName).toList)
        []).value.1 := by
  intro table
  set back := (seedFile file path (Text.encodeUtf8 (tableText table groupId groupName).toList)
    []).value.1
  have hcolumn (name : String) (hname : (back.lookup name).isSome) : IsColumn name :=
    isColumn_of_lookup_seedFile hname
  have hguid (hlines : ∀ o ∈ (ofList definitions).occurrences qualified, Occurrence.IsOneLine o)
      (name : String) (p : Parameter) (hp : table.lookup name = some p) (hname : IsColumn name) :
      (back.lookup name).map (·.guid) = some p.guid := by
    obtain ⟨q, hq, hguid⟩ :=
      (isLinewise_mergedFrom h hlines hid side).exists_lookup_seedFile groupId
      hgroup file path hp hname
    rw [hq, Option.map_some, hguid]
  refine { isColumn := hcolumn, guid := hguid, isKeptIn_iff := fun hdescriptions => ⟨?_, ?_⟩ }
  · -- what occurs was merged, so it comes back
    intro hkept o ho
    obtain ⟨p, hp⟩ := Option.isSome_iff_exists.mp (isSome_lookup_mergedFrom ho side)
    refine (o.isColumn_nameIn side).mp (hcolumn _ ?_)
    rw [← Option.isSome_map]
    exact Option.isSome_of_eq_some (hkept _ p hp)
  · intro hcolumns name p hp
    refine hguid (fun o ho => ⟨(hcolumns o ho).2, hdescriptions o ho⟩) name p hp ?_
    exact isColumn_of_mem_mergedFrom hcolumns side _ (mem_of_lookup hp)

/-- A merged table is written wherever there is place for its file, and read back. -/
theorem Catalog.exists_comesBack_mergedFrom {definitions : List (String × PropertySet)}
    (h : ∀ d ∈ definitions, d.2.IsAdmitted) (supply : Supply) {settings : ParameterSettings}
    (hid : Text.IsWritable settings.groupId) (hgroup : IsLine settings.groupName.toList)
    {workspace : Workspace} {root : Path} {fileName : String}
    (hplace : workspace.files.HasPlaceFor ((parameterFolder root).child fileName)) (side : Side) :
    let catalog := ofList definitions
    let table :=
      (mergedFrom supply catalog settings.qualifiedNames settings.groupId).table side
    ∃ p written back count,
      (writeTable root settings fileName table).outcome workspace = (.ok p, written) ∧
        (seedTable (some p)).outcome written = (.ok (back, count), written) ∧
        ComesBack (catalog.occurrences settings.qualifiedNames) table back := by
  intro catalog table
  set p := (parameterFolder root).child fileName
  set content := Text.encodeUtf8 (tableText table settings.groupId settings.groupName).toList
  obtain ⟨files, hstore, hread⟩ := hplace.exists_store content
  have hwrite : (writeTable root settings fileName table).outcome workspace =
      (.ok p, { workspace with files }) :=
    Run.outcome_of_result (result_writeTable_of_hasGuids (hasGuids_mergedFrom h side)
      (hasWritableGroups_mergedFrom hid side) hid hstore)
  have hseed : (seedTable (some p)).outcome { workspace with files } =
      (.ok (seedFile p.name p.text content []).value, { workspace with files }) :=
    congrArg Report.value (result_seedTable hread)
  have hback : ComesBack (catalog.occurrences settings.qualifiedNames) table
      (seedFile p.name p.text content []).value.1 :=
    comesBack_mergedFrom h supply _ hid hgroup _ _ side
  generalize (seedFile p.name p.text content []).value = found at hseed hback
  exact ⟨p, _, found.1, found.2, hwrite, hseed, hback⟩

theorem Catalog.outcome_mergeCatalog_ofList {definitions : List (String × PropertySet)}
    (h : ∀ d ∈ definitions, d.2.IsAdmitted) (supply : Supply) (qualified : Bool) (groupId : Int) :
    (mergeCatalog (ofList definitions) qualified groupId).outcome { supply } =
      (.ok ((ofList definitions).occurrences qualified).length,
        mergedFrom supply (ofList definitions) qualified groupId) :=
  outcome_mergeCatalog (isFlat_ofList h) (hasReadableGuids_ofList h) qualified groupId { supply }

/-- **What is read back of a merged catalog.**  Let definitions be read or predefined and added to a
catalog in any order, and let the catalog be merged into empty tables, with any settings whose group
can stand in the header of a file.  Each table is written wherever there is place for its file, and
an empty table is started from the file.  Only names that fit into a column come back; where the
rows are lines all of them do, each with the identifier that it was written with; and as long as no
description spans lines, everything comes back exactly if all names that occur fit into a column. -/
theorem seedTable_writeTable_mergeCatalog {definitions : List (String × PropertySet)}
    (hadmitted : ∀ d ∈ definitions, d.2.IsAdmitted) (supply : Supply)
    {settings : ParameterSettings} (hid : Text.IsWritable settings.groupId)
    (hgroup : IsLine settings.groupName.toList)
    {workspace : Workspace} {root : Path} {fileName : String}
    (hplace : workspace.files.HasPlaceFor ((parameterFolder root).child fileName)) :
    let occurrences := (Catalog.ofList definitions).occurrences settings.qualifiedNames
    ∃ merged, (mergeCatalog (Catalog.ofList definitions) settings.qualifiedNames
        settings.groupId).outcome { supply } = (.ok occurrences.length, merged) ∧
      ∀ side, ∃ p written back count,
        (writeTable root settings fileName (merged.table side)).outcome workspace =
            (.ok p, written) ∧
          (seedTable (some p)).outcome written = (.ok (back, count), written) ∧
          ComesBack occurrences (merged.table side) back :=
  ⟨_, Catalog.outcome_mergeCatalog_ofList hadmitted supply _ _,
    Catalog.exists_comesBack_mergedFrom hadmitted supply hid hgroup hplace⟩

/-! ### A name with a tab -/

def fireRoot : Element :=
  { name := "PropertySetDef"
    content :=
      [.element (textElement "Name" "Pset_DoorCommon"),
        .element
          { name := "ApplicableClasses"
            content := [.element (textElement "ClassName" "IfcDoor")] },
        .element
          { name := "PropertyDefs"
            content :=
              [.element (labelElement "Fire"), .element (labelElement "Fire\tRating")] }] }

def fireSet : PropertySet :=
  { name := "Pset_DoorCommon", version := "IFC4", release := "IFC4"
    applicableClasses := ["IfcDoor"]
    properties := [labelProperty "Fire", labelProperty "Fire\tRating"] }

theorem value_readSet_fire :
    (readSet fireRoot "Pset_DoorCommon.xml" "IFC4").run.value = .ok fireSet := by
  have hheader : (readHeader fireRoot "IFC4").run.value =
      .ok { name := "Pset_DoorCommon", version := "IFC4", release := "IFC4"
            applicableClasses := ["IfcDoor"] } := rfl
  have hparts : SetKind.properties.parts fireRoot =
      .ok { values := [labelElement "Fire", labelElement "Fire\tRating"] } := rfl
  have hread : (readParts .properties "Pset_DoorCommon"
      { values := [labelElement "Fire", labelElement "Fire\tRating"] }).run.value =
        .ok fireSet.properties :=
    readParts_eq_ok_iff.mpr ⟨⟨_, rfl⟩,
      [some (labelProperty "Fire"), some (labelProperty "Fire\tRating")],
      .cons (value_readProperty_label rfl) (.cons (value_readProperty_label rfl) .nil), rfl⟩
  exact readSet_eq_ok rfl rfl hheader hparts hread

theorem occurrences_fire : (Catalog.ofList [("IFC4", fireSet)]).occurrences false =
    [("Pset_DoorCommon", "Fire", labelProperty "Fire"),
      ("Pset_DoorCommon", "Fire\tRating", labelProperty "Fire\tRating")] := by
  have hentries : (Catalog.ofList [("IFC4", fireSet)]).entries = [⟨"IFC4", fireSet⟩] :=
    List.perm_singleton.mp (Catalog.perm_entries_ofList _)
  rw [Catalog.occurrences, hentries]
  rfl

theorem isOneLine_of_mem_occurrences_fire :
    ∀ o ∈ (Catalog.ofList [("IFC4", fireSet)]).occurrences false, Occurrence.IsOneLine o := by
  rw [occurrences_fire, List.forall_mem_cons, List.forall_mem_singleton]
  exact ⟨⟨by decide, by decide⟩, ⟨by decide, by decide⟩⟩

/-- The next run finds one name and loses the other. -/
theorem seedTable_writeTable_mergeCatalog_fire :
    (∀ d ∈ [("IFC4", fireSet)], d.2.IsAdmitted) ∧
      ∃ merged, (mergeCatalog (Catalog.ofList [("IFC4", fireSet)])).outcome
          { supply := { fresh := Guid.ofNat } } = (.ok 2, merged) ∧
        ∃ p written back count,
          (writeTable {} {} "doors.txt" merged.instances).outcome bareWorkspace =
              (.ok p, written) ∧
            (seedTable (some p)).outcome written = (.ok (back, count), written) ∧
            (back.lookup "Fire").map (·.guid) = some (some (Guid.ofNat 0).text) ∧
            back.lookup "Fire\tRating" = none := by
  have hadmitted : ∀ d ∈ [("IFC4", fireSet)], d.2.IsAdmitted :=
    List.forall_mem_singleton.mpr (.read value_readSet_fire)
  have hid : Text.IsWritable ({} : ParameterSettings).groupId := Text.isWritable_of_lt (by decide)
  have hgroup : IsLine ({} : ParameterSettings).groupName.toList := by decide
  have hplace : bareWorkspace.files.HasPlaceFor ((parameterFolder {}).child "doors.txt") :=
    ⟨_, rfl⟩
  obtain ⟨merged, hmerge, hsides⟩ :=
    seedTable_writeTable_mergeCatalog hadmitted { fresh := Guid.ofNat } hid hgroup hplace
  obtain ⟨p, written, back, count, hwrite, hseed, hback⟩ := hsides .instances
  have hmerged : merged =
      Catalog.mergedFrom { fresh := Guid.ofNat } (Catalog.ofList [("IFC4", fireSet)]) false 2 :=
    congrArg Prod.snd (hmerge.symm.trans (Catalog.outcome_mergeCatalog_ofList hadmitted _ _ _))
  have hfire : ((merged.table .instances).lookup "Fire").map (·.guid) =
      some (some (Guid.ofNat 0).text) := by
    rw [hmerged, Catalog.mergedFrom, Catalog.postings, occurrences_fire]
    decide +kernel
  rw [occurrences_fire] at hmerge
  refine ⟨hadmitted, merged, hmerge, p, written, back, count, hwrite, hseed, ?_, ?_⟩
  · obtain ⟨entry, hentry, hguid⟩ := Option.map_eq_some_iff.mp hfire
    rw [← hguid]
    exact hback.guid isOneLine_of_mem_occurrences_fire "Fire" entry hentry (by decide)
  · exact Option.not_isSome_iff_eq_none.mp (mt (hback.isColumn "Fire\tRating") (by decide))

/-- Not everything that is merged comes back. -/
theorem not_isKeptIn_fire :
    ∃ pset merged, (readSet fireRoot "Pset_DoorCommon.xml" "IFC4").run.value = .ok pset ∧
      (mergeCatalog (Catalog.ofList [("IFC4", pset)])).outcome
          { supply := { fresh := Guid.ofNat } } = (.ok 2, merged) ∧
        ∃ p written back count,
          (writeTable {} {} "doors.txt" merged.instances).outcome bareWorkspace =
              (.ok p, written) ∧
            (seedTable (some p)).outcome written = (.ok (back, count), written) ∧
            ¬ merged.instances.IsKeptIn back := by
  have hadmitted : ∀ d ∈ [("IFC4", fireSet)], d.2.IsAdmitted :=
    List.forall_mem_singleton.mpr (.read value_readSet_fire)
  have hid : Text.IsWritable ({} : ParameterSettings).groupId := Text.isWritable_of_lt (by decide)
  have hgroup : IsLine ({} : ParameterSettings).groupName.toList := by decide
  have hplace : bareWorkspace.files.HasPlaceFor ((parameterFolder {}).child "doors.txt") :=
    ⟨_, rfl⟩
  have hmerge := Catalog.outcome_mergeCatalog_ofList hadmitted { fresh := Guid.ofNat } false 2
  obtain ⟨p, written, back, count, hwrite, hseed, hback⟩ :=
    Catalog.exists_comesBack_mergedFrom hadmitted { fresh := Guid.ofNat } hid hgroup hplace
      .instances
  refine ⟨fireSet, _, value_readSet_fire, hmerge.trans ?_, p, written, back, count, hwrite, hseed,
    fun hkept => ?_⟩
  · rw [occurrences_fire]
    rfl
  · have hcolumns := (hback.isKeptIn_iff fun o ho =>
      (isOneLine_of_mem_occurrences_fire o ho).description).mp hkept
    have hmem : ("Pset_DoorCommon", "Fire\tRating", labelProperty "Fire\tRating") ∈
        (Catalog.ofList [("IFC4", fireSet)]).occurrences false := by
      rw [occurrences_fire]
      exact List.mem_cons_of_mem _ List.mem_cons_self
    exact absurd (hcolumns _ hmem) (by decide)

end PsetCompiler
