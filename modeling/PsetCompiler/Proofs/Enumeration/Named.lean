import PsetCompiler.Proofs.Initializer.Reference
import PsetCompiler.Proofs.Source.Name

/-!
# Names of emitted enumerations

An enumeration is filed under its version only when its key is not taken, and its key is taken from
then on.  So no name is filed twice under one version, whatever was recorded before.

What is declared is not the name but the identifier made from it, and nothing looks at whether two
names give one identifier.  So the file of a version declares everything once exactly when the names
that are filed under it are spelled apart.

## Main definitions

* `Collection.namesOf` — the names that are filed under a version.
* `Collection.IsRecorded` — no name is filed twice under one version, and every key is taken.

## Main results

* `Collection.IsRecorded.add` — one more use.
* `nodup_namesOf` — the names of one version are different.
* `linesWith_fileLines` — the declarations of the file of a version.
-/

namespace PsetCompiler

namespace Collection

/-- The names that are filed under a version. -/
def namesOf (c : Collection) (version : String) : List String :=
  (c.enumsOf version).map (·.1)

/-- No name is filed twice under one version, and the key of every name that is filed is taken. -/
structure IsRecorded (c : Collection) : Prop where
  nodup : ∀ version, (c.namesOf version).Nodup
  taken : ∀ version, ∀ name ∈ c.namesOf version,
    (c.emitted.lookup (version ++ "." ++ name)).isSome

theorem namesOf_fileUnder (c : Collection) (emitted : EmittedEnums) (use : EnumUse)
    (version : String) :
    namesOf { c with emitted, byVersion := fileUnder use.version (use.name, use.values) c.byVersion }
        version =
      c.namesOf version ++ if version = use.version then [use.name] else [] := by
  rw [namesOf, enumsOf, lookup_fileUnder]
  by_cases hversion : version = use.version
  · subst hversion
    rw [if_pos rfl, if_pos rfl, Option.getD_some, List.map_append]
    rfl
  · rw [if_neg hversion, if_neg hversion, List.append_nil]
    rfl

variable {c : Collection}

/-- One more use under a key that is not taken. -/
theorem IsRecorded.addNew (h : c.IsRecorded) {use : EnumUse}
    (hfree : c.emitted.lookup use.key = none) :
    IsRecorded
      { c with
        emitted := c.emitted ++ [(use.key, use.values)]
        byVersion := fileUnder use.version (use.name, use.values) c.byVersion } := by
  constructor
  · intro version
    rw [namesOf_fileUnder]
    by_cases hversion : version = use.version
    · subst hversion
      rw [if_pos rfl, ← List.concat_eq_append]
      refine .concat (fun hmem => ?_) (h.nodup use.version)
      -- a name that is filed has its key taken
      have htaken := h.taken use.version use.name hmem
      rw [← EnumUse.key, hfree] at htaken
      cases htaken
    · rw [if_neg hversion, List.append_nil]
      exact h.nodup version
  · intro version name hname
    rw [namesOf_fileUnder, List.mem_append] at hname
    rw [List.lookup_append, Option.isSome_or, Bool.or_eq_true]
    rcases hname with hname | hname
    · exact .inl (h.taken version name hname)
    · right
      split at hname
      · next hversion =>
        rw [List.mem_singleton.mp hname, hversion, ← EnumUse.key, List.lookup_cons_self]
        rfl
      · cases hname

/-- One more use. -/
theorem IsRecorded.add (h : c.IsRecorded) (use : EnumUse) : (c.add use).value.IsRecorded := by
  cases heligible : use.isEligible with
  | false =>
    rw [add_of_not_isEligible c heligible]
    exact h
  | true =>
    cases hkept : c.emitted.lookup use.key with
    | none =>
      rw [add_of_free heligible hkept]
      exact h.addNew hkept
    | some kept =>
      -- nothing is filed, only the count changes
      rw [add_of_taken heligible hkept]
      exact ⟨h.nodup, h.taken⟩

theorem isRecorded_foldl (h : c.IsRecorded) (uses : List EnumUse) :
    (uses.foldl (fun c use => (Collection.add c use).value) c).IsRecorded := by
  induction uses generalizing c with
  | nil => exact h
  | cons use uses ih => exact ih (h.add use)

end Collection

/-- Whatever was recorded before, what is collected has its keys taken. -/
theorem isRecorded_collectEnums (emitted : EmittedEnums) (catalog : Catalog) :
    (collectEnums emitted catalog).value.IsRecorded := by
  rw [collectEnums, Report.value_foldlM]
  refine Collection.isRecorded_foldl ⟨fun version => ?_, fun version name hname => ?_⟩ _
  · exact List.nodup_nil
  · cases hname

/-- The names that are filed under one version are different. -/
theorem nodup_namesOf (emitted : EmittedEnums) (catalog : Catalog) (version : String) :
    ((collectEnums emitted catalog).value.namesOf version).Nodup :=
  (isRecorded_collectEnums emitted catalog).nodup version

/-! ### What a file declares -/

/-- Blocks have the identifiers of their enumerations, in order. -/
theorem map_name_enumBlocks {language : SourceLanguage} {enumerations : List (String × List String)}
    {blocks : List EnumBlock} (h : (enumBlocks language enumerations).run.value = .ok blocks) :
    blocks.map (·.name) = (enumerations.map (·.1)).map sourceName := by
  obtain ⟨-, rfl⟩ := value_enumBlocks_eq_ok_iff.mp h
  rw [List.map_map, List.map_map]
  rfl

/-- How the line begins that declares an enumeration. -/
def enumStart : String := "   public enum "

theorem startsWith_csharpMemberLine (last : Bool) (m : EnumMember) :
    Text.startsWith enumStart (csharpMemberLine last m) = false := by
  unfold csharpMemberLine
  rw [String.append_assoc, String.append_assoc]
  exact startsWith_append_of_apart rfl _

/-- The lines of members are those of single members. -/
theorem exists_of_mem_csharpMemberLines {members : List EnumMember} {line : String}
    (h : line ∈ csharpMemberLines members) :
    ∃ m ∈ members, ∃ last, line = csharpMemberLine last m := by
  fun_induction csharpMemberLines members with
  | case1 => cases h
  | case2 m => exact ⟨m, List.mem_cons_self, true, List.mem_singleton.mp h⟩
  | case3 m rest _ ih =>
    rcases List.mem_cons.mp h with rfl | h
    · exact ⟨m, List.mem_cons_self, false, rfl⟩
    · obtain ⟨found, hmem, hline⟩ := ih h
      exact ⟨found, List.mem_cons_of_mem _ hmem, hline⟩

theorem startsWith_of_mem_csharpMemberLines {members : List EnumMember} {line : String}
    (h : line ∈ csharpMemberLines members) : Text.startsWith enumStart line = false := by
  obtain ⟨m, -, last, rfl⟩ := exists_of_mem_csharpMemberLines h
  exact startsWith_csharpMemberLine last m

/-- A block declares its enumeration in its first line, and nothing else. -/
theorem linesWith_csharpBlockLines (b : EnumBlock) :
    linesWith enumStart (csharpBlockLines b) = [enumStart ++ b.name] := by
  have hmembers : linesWith enumStart (csharpMemberLines b.members) = [] :=
    linesWith_eq_nil fun _ => startsWith_of_mem_csharpMemberLines
  have hfirst : linesWith enumStart [enumStart ++ b.name, "   \x7b"] = [enumStart ++ b.name] := by
    rw [linesWith, List.filter_cons_of_pos (startsWith_append _ _)]
    rfl
  have hlines : csharpBlockLines b =
      [enumStart ++ b.name, "   \x7b"] ++ csharpMemberLines b.members ++ ["   \x7d"] := rfl
  rw [hlines, linesWith_append, linesWith_append, hfirst, hmembers]
  rfl

theorem linesWith_csharpBlocksLines (blocks : List EnumBlock) :
    linesWith enumStart (csharpBlocksLines blocks) = blocks.map (enumStart ++ ·.name) := by
  induction blocks with
  | nil => rfl
  | cons b rest ih =>
    cases rest with
    | nil => exact linesWith_csharpBlockLines b
    | cons next rest =>
      rw [csharpBlocksLines]
      · rw [linesWith_append, linesWith_csharpBlockLines]
        -- the empty line between two blocks declares nothing
        exact congrArg _ ih
      · simp

/-- The file of a version declares the identifier of each name that is filed under it. -/
theorem linesWith_fileLines {c : Collection} {space version : String} {lines : List String}
    (h : c.fileLines space version = .ok lines) :
    linesWith enumStart lines =
      (c.namesOf version).map fun name => enumStart ++ sourceName name := by
  obtain ⟨hemittable, rfl⟩ := Collection.fileLines_eq_ok_iff.mp h
  have hheading : linesWith enumStart
      ["// " ++ version ++ " " ++ defaultTitle ++ ".", "// Generated by psdgen. Do not edit.",
        "namespace " ++ versionNamespace space version, "\x7b"] = [] := by
    refine linesWith_eq_nil ?_
    simp only [List.forall_mem_cons, String.append_assoc]
    exact ⟨startsWith_append_of_apart rfl _, startsWith_of_apart rfl,
      startsWith_append_of_apart rfl _, startsWith_of_apart rfl, nofun⟩
  have hlast : linesWith enumStart ["\x7d"] = [] := rfl
  rw [csharpEnumLines, linesWith_append, linesWith_append, hheading, linesWith_csharpBlocksLines,
    hlast, List.nil_append, List.append_nil, Collection.namesOf, List.map_map, List.map_map]
  rfl

/-- The file of a version declares everything once exactly when the names that are filed under it
are spelled apart. -/
theorem nodup_linesWith_fileLines_iff {emitted : EmittedEnums} {catalog : Catalog}
    {space version : String} {lines : List String}
    (h : (collectEnums emitted catalog).value.fileLines space version = .ok lines) :
    (linesWith enumStart lines).Nodup ↔
      SpelledApart ((collectEnums emitted catalog).value.namesOf version) := by
  rw [linesWith_fileLines h]
  exact nodup_map_comp_sourceName_iff (fun _ _ => (String.append_right_inj _).mp)
    (nodup_namesOf emitted catalog version)

end PsetCompiler
