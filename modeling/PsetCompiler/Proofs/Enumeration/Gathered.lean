import PsetCompiler.Proofs.Enumeration.Named
import PsetCompiler.Proofs.Firsts

/-!
# What is gathered, in order

The enumerated leaves of a catalog that can be emitted tell all that is collected from it.  The
first leaf of every key is emitted with its own items; it is filed under its own version, behind the
leaves of that version that were emitted before.  All others are counted.  One of them is reported
if its items differ from those of the first leaf of its key, and nothing else is reported.

## Main definitions

* `Catalog.eligibleUses` — the enumerated leaves that can be emitted.
* `filedByVersion` — uses filed by version.
* `clash?` — the report of a use whose items differ from those of the first one under its key.
* `Collection.Gathers` — a collection and its reports are what some uses make, in order.

## Main results

* `Collection.Gathers.add` — one more use.
* `gathers_collectEnums` — what is gathered from a catalog.
* `collectEnums_keeps_firsts` — **the first leaf of every key is emitted, and no leaf is lost.**
-/

namespace PsetCompiler

/-- The enumerated leaves of a catalog that can be emitted, in order. -/
def Catalog.eligibleUses (catalog : Catalog) : List EnumUse :=
  catalog.enumUses.filter (·.isEligible)

/-! ### Uses filed by version -/

/-- Uses filed by version: the versions in the order in which they are met, and under each of them
the names and items of its uses in theirs. -/
def filedByVersion (uses : List EnumUse) : List (String × List (String × List String)) :=
  (uses.map (·.version)).eraseDups.map fun version =>
    (version, (uses.filter (·.version = version)).map fun use => (use.name, use.values))

/-- Something is filed behind what is there under its version, or under a new version at the end. -/
theorem fileUnder_map {version : String} (enumeration : String × List String)
    {found : String → List (String × List String)} {versions : List String}
    (hnodup : versions.Nodup) (hfound : version ∉ versions → found version = []) :
    fileUnder version enumeration (versions.map fun v => (v, found v)) =
      (if version ∈ versions then versions else versions ++ [version]).map fun v =>
        (v, if v = version then found v ++ [enumeration] else found v) := by
  induction versions with
  | nil =>
    have hempty : found version = [] := hfound List.not_mem_nil
    simp [fileUnder, hempty]
  | cons v rest ih =>
    obtain ⟨hv, hrest⟩ := List.nodup_cons.mp hnodup
    rw [List.map_cons, fileUnder]
    by_cases hsame : v = version
    · subst hsame
      rw [if_pos rfl, if_pos List.mem_cons_self, List.map_cons, if_pos rfl]
      -- the version is not there again
      refine congrArg _ (List.map_congr_left fun v' hv' => ?_)
      have hne : v' ≠ v := fun heq => hv (heq ▸ hv')
      rw [if_neg hne]
    · have hiff : version ∈ v :: rest ↔ version ∈ rest := by simp [Ne.symm hsame]
      rw [if_neg hsame, ih hrest fun hnot => hfound (mt hiff.mp hnot)]
      by_cases hmem : version ∈ rest
      · rw [if_pos hmem, if_pos (hiff.mpr hmem), List.map_cons, if_neg hsame]
      · rw [if_neg hmem, if_neg (mt hiff.mp hmem), List.cons_append, List.map_cons, if_neg hsame]

/-- One more use is filed under its version. -/
theorem filedByVersion_concat (uses : List EnumUse) (use : EnumUse) :
    filedByVersion (uses ++ [use]) =
      fileUnder use.version (use.name, use.values) (filedByVersion uses) := by
  have hfound : use.version ∉ (uses.map (·.version)).eraseDups →
      (uses.filter (·.version = use.version)).map (fun u => (u.name, u.values)) = [] := by
    intro hnot
    rw [List.map_eq_nil_iff, List.filter_eq_nil_iff]
    intro u hu
    rw [List.mem_eraseDups, List.mem_map] at hnot
    simpa using fun heq => hnot ⟨u, hu, heq⟩
  rw [filedByVersion, filedByVersion, fileUnder_map _ (nodup_eraseDups _) hfound, List.map_append,
    List.map_singleton, eraseDups_concat]
  simp only [List.mem_eraseDups]
  refine List.map_congr_left fun version _ => ?_
  by_cases hversion : version = use.version
  · subst hversion
    simp
  · simp [hversion, Ne.symm hversion]

/-- One more is filed, under whatever version. -/
theorem length_flatMap_fileUnder (version : String) (enumeration : String × List String)
    (l : List (String × List (String × List String))) :
    ((fileUnder version enumeration l).flatMap (·.2)).length = (l.flatMap (·.2)).length + 1 := by
  induction l with
  | nil => rfl
  | cons head rest ih =>
    obtain ⟨key, found⟩ := head
    rw [fileUnder]
    split
    · simp only [List.flatMap_cons, List.length_append, List.length_singleton]
      omega
    · simp only [List.flatMap_cons, List.length_append, ih]
      omega

/-! ### Uses that are reported -/

/-- The report of a use whose items differ from those of the first one under its key. -/
def clash? (uses : List EnumUse) (use : EnumUse) : Option Diagnostic :=
  match firstUnder uses use.key with
  | some first =>
    if first.values ≠ use.values then some (.clashingEnum use.key first.values) else none
  | none => none

theorem level_of_clash? {uses : List EnumUse} {use : EnumUse} {d : Diagnostic}
    (h : clash? uses use = some d) : d.level = .warning := by
  unfold clash? at h
  split at h
  · split at h
    · cases h
      rfl
    · cases h
  · cases h

/-- There is no first use under a key exactly if no use that can be emitted has it. -/
theorem firstUnder_eq_none_iff {uses : List EnumUse} {key : String} :
    firstUnder uses key = none ↔ key ∉ (uses.filter (·.isEligible)).map EnumUse.key := by
  rw [firstUnder, List.find?_eq_none, List.mem_map]
  simp only [List.mem_filter, Bool.and_eq_true, beq_iff_eq]
  constructor
  · rintro h ⟨use, ⟨hmem, heligible⟩, hkey⟩
    exact h use hmem ⟨heligible, hkey⟩
  · intro h use hmem hfits
    exact h ⟨use, ⟨hmem, hfits.1⟩, hfits.2⟩

/-- What is reported of a use does not depend on the uses behind it. -/
theorem clash?_concat {uses : List EnumUse} (last : EnumUse) {use : EnumUse}
    (h : use ∈ uses.filter (·.isEligible)) : clash? (uses ++ [last]) use = clash? uses use := by
  have hsome : firstUnder uses use.key ≠ none := by
    rw [Ne, firstUnder_eq_none_iff, not_not]
    exact List.mem_map_of_mem h
  obtain ⟨first, hfirst⟩ := Option.ne_none_iff_exists'.mp hsome
  rw [clash?, firstUnder_concat, hfirst, Option.some_or, clash?, hfirst]

theorem filter_isEligible_concat (uses : List EnumUse) {use : EnumUse} (h : use.isEligible) :
    (uses ++ [use]).filter (·.isEligible) = uses.filter (·.isEligible) ++ [use] := by
  rw [List.filter_append, List.filter_cons_of_pos h, List.filter_nil]

theorem filterMap_clash?_concat (uses : List EnumUse) (last : EnumUse) :
    (uses.filter (·.isEligible)).filterMap (clash? (uses ++ [last])) =
      (uses.filter (·.isEligible)).filterMap (clash? uses) :=
  List.filterMap_congr fun _ => clash?_concat last

namespace Collection

/-- A collection and its reports are what some uses make, in order. -/
structure Gathers (uses : List EnumUse) (r : Report Collection) : Prop
    extends r.value.Collects uses where
  /-- The first use of every key is recorded with its items, -/
  emittedFirsts : r.value.emitted =
    (firstOfEach EnumUse.key (uses.filter (·.isEligible))).map fun use => (use.key, use.values)
  /-- and it is filed under its version. -/
  filed : r.value.byVersion =
    filedByVersion (firstOfEach EnumUse.key (uses.filter (·.isEligible)))
  /-- The others are counted, -/
  counted : r.value.duplicates + (r.value.byVersion.flatMap (·.2)).length =
    (uses.filter (·.isEligible)).length
  /-- and reported if their items differ. -/
  reported : r.log = (uses.filter (·.isEligible)).filterMap (clash? uses)

theorem gathers_nil : Gathers [] (pure {}) where
  toCollects := collects_nil
  emittedFirsts := rfl
  filed := rfl
  counted := rfl
  reported := rfl

variable {uses : List EnumUse} {r : Report Collection}

/-- One more use that cannot be emitted. -/
theorem Gathers.pass (h : Gathers uses r) {use : EnumUse} (hnot : use.isEligible = false) :
    Gathers (uses ++ [use]) r := by
  have hsame : (uses ++ [use]).filter (·.isEligible) = uses.filter (·.isEligible) := by
    simp [hnot]
  refine ⟨h.toCollects.pass (fun h' => ?_) _, ?_, ?_, ?_, ?_⟩
  · exact absurd h' (Bool.eq_false_iff.mp hnot)
  · rw [hsame]
    exact h.emittedFirsts
  · rw [hsame]
    exact h.filed
  · rw [hsame]
    exact h.counted
  · rw [hsame, filterMap_clash?_concat]
    exact h.reported

/-- One more use that can be emitted under a key that is not taken. -/
theorem Gathers.addNew (h : Gathers uses r) {use : EnumUse} (heligible : use.isEligible)
    (hnew : firstUnder uses use.key = none) :
    Gathers (uses ++ [use])
      ⟨{ r.value with
          emitted := r.value.emitted ++ [(use.key, use.values)]
          byVersion := fileUnder use.version (use.name, use.values) r.value.byVersion },
        r.log⟩ := by
  have hlast := filter_isEligible_concat uses heligible
  have hfirsts : firstOfEach EnumUse.key (uses.filter (·.isEligible) ++ [use]) =
      firstOfEach EnumUse.key (uses.filter (·.isEligible)) ++ [use] := by
    rw [firstOfEach_concat, if_neg (firstUnder_eq_none_iff.mp hnew)]
  -- the use is the first one of its key now, and has its own items
  have hquiet : clash? (uses ++ [use]) use = none := by
    simp [clash?, firstUnder_concat, hnew, heligible]
  refine ⟨h.toCollects.addNew heligible hnew, ?_, ?_, ?_, ?_⟩
  · rw [hlast, hfirsts, List.map_append, ← h.emittedFirsts]
    rfl
  · rw [hlast, hfirsts, filedByVersion_concat, ← h.filed]
  · rw [hlast, length_flatMap_fileUnder, List.length_append, ← h.counted, List.length_singleton]
    exact (Nat.add_assoc ..).symm
  · rw [hlast, List.filterMap_append, filterMap_clash?_concat, ← h.reported]
    simp [hquiet]

/-- One more use that can be emitted under a key that is taken. -/
theorem Gathers.addAgain (h : Gathers uses r) {use first : EnumUse} (heligible : use.isEligible)
    (hfirst : firstUnder uses use.key = some first) :
    Gathers (uses ++ [use])
      ⟨{ r.value with duplicates := r.value.duplicates + 1 },
        r.log ++
          if first.values ≠ use.values then [.clashingEnum use.key first.values] else []⟩ := by
  have hlast := filter_isEligible_concat uses heligible
  have hmem : use.key ∈ (uses.filter (·.isEligible)).map EnumUse.key := by
    by_contra hnot
    rw [firstUnder_eq_none_iff.mpr hnot] at hfirst
    cases hfirst
  have hfirsts : firstOfEach EnumUse.key (uses.filter (·.isEligible) ++ [use]) =
      firstOfEach EnumUse.key (uses.filter (·.isEligible)) := by
    rw [firstOfEach_concat, if_pos hmem]
  have hclash : clash? (uses ++ [use]) use =
      if first.values ≠ use.values then some (.clashingEnum use.key first.values) else none := by
    rw [clash?, firstUnder_concat, hfirst, Option.some_or]
  refine ⟨h.toCollects.pass (fun _ => by rw [hfirst]; rfl) _, ?_, ?_, ?_, ?_⟩
  · rw [hlast, hfirsts]
    exact h.emittedFirsts
  · rw [hlast, hfirsts]
    exact h.filed
  · rw [hlast, List.length_append, ← h.counted, List.length_singleton]
    exact Nat.add_right_comm ..
  · rw [hlast, List.filterMap_append, filterMap_clash?_concat, ← h.reported]
    refine congrArg (r.log ++ ·) ?_
    rw [List.filterMap_cons, hclash]
    by_cases hdiffer : first.values ≠ use.values
    · simp [hdiffer]
    · simp [hdiffer]

/-- One more use. -/
theorem Gathers.add (h : Gathers uses r) (use : EnumUse) :
    Gathers (uses ++ [use]) (r >>= fun c => c.add use) := by
  have hstep : (r >>= fun c => c.add use) =
      ⟨(r.value.add use).value, r.log ++ (r.value.add use).log⟩ := rfl
  rw [hstep]
  cases heligible : use.isEligible with
  | false =>
    rw [add_of_not_isEligible _ heligible, Report.log_pure, List.append_nil]
    exact h.pass heligible
  | true =>
    cases hfirst : firstUnder uses use.key with
    | none =>
      have hfree : r.value.emitted.lookup use.key = none := by
        rw [h.emitted, hfirst]
        rfl
      rw [add_of_free heligible hfree, Report.log_pure, List.append_nil]
      exact h.addNew heligible hfirst
    | some first =>
      have htaken : r.value.emitted.lookup use.key = some first.values := by
        rw [h.emitted, hfirst]
        rfl
      rw [add_of_taken heligible htaken]
      exact h.addAgain heligible hfirst

end Collection

/-- What is gathered from a catalog. -/
theorem gathers_collectEnums (catalog : Catalog) :
    Collection.Gathers catalog.enumUses (collectEnums [] catalog) := by
  rw [collectEnums]
  -- the uses are taken from the front, so the invariant is about those before the last one
  induction catalog.enumUses using List.reverseRecOn with
  | nil => exact Collection.gathers_nil
  | append_singleton uses use ih =>
    simp only [List.foldlM_append, List.foldlM_cons, List.foldlM_nil, bind_pure]
    exact ih.add use

/-- **The first leaf of every key is emitted, and no leaf is lost.**  Of the enumerated leaves that
can be emitted the first one of every key is recorded with its items and filed under its version,
where no name is filed twice.  Those that are filed and those that are counted are as many as there
are, and those whose items differ from those of the first one of their key are reported. -/
theorem collectEnums_keeps_firsts (catalog : Catalog) :
    let uses := catalog.eligibleUses
    let firsts := firstOfEach EnumUse.key uses
    let collected := collectEnums [] catalog
    collected.value.emitted = firsts.map (fun use => (use.key, use.values)) ∧
      collected.value.byVersion = filedByVersion firsts ∧
      (∀ version, (collected.value.namesOf version).Nodup) ∧
      collected.value.duplicates + (collected.value.byVersion.flatMap (·.2)).length = uses.length ∧
      collected.log = uses.filterMap (clash? catalog.enumUses) ∧
      ∀ d ∈ collected.log, d.level = .warning := by
  intro uses firsts collected
  have hgathers : Collection.Gathers catalog.enumUses collected := gathers_collectEnums catalog
  refine ⟨hgathers.emittedFirsts, hgathers.filed, ?_, hgathers.counted, hgathers.reported, ?_⟩
  · exact nodup_namesOf [] catalog
  · intro d hd
    rw [hgathers.reported] at hd
    obtain ⟨use, -, hclash⟩ := List.mem_filterMap.mp hd
    exact level_of_clash? hclash

end PsetCompiler
