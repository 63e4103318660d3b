import PsetCompiler.Definition.Set
import PsetCompiler.Proofs.Logs
import PsetCompiler.Stage.Definitions

/-!
# What reading a definition reports

All reports of reading a definition file come from one work, whatever the file holds and whether or
not there is a definition at the end.  The properties of a definition have reports of their own, and
what is reported of the header is never among them.  The release for which a file is read settles
the version of a definition; whether there is one it does not settle.

## Main definitions

* `Diagnostic.isOfPart` — the reports of reading properties.
* `SameFailures` — two results are values, or one failure.

## Main results

* `logs_readParts` — **what reading the properties of a definition reports.**
* `logs_definitionOf` — **what reading a file reports.**
* `definitionOf_eq_error_iff` — **a file that fails fails in the same way for every release.**
-/

namespace PsetCompiler

open Markup (Element Found)

variable {α β : Type}

/-! ### Properties -/

/-- The reports of reading a property or a quantity, and of adding it to the others. -/
def Diagnostic.isOfPart : Diagnostic → Bool
  | .malformedGuid .. | .assumedType .. | .untypedReference .. | .constantsUsed ..
  | .constantCount .. | .untypedBounds .. | .untypedList .. | .typeUnsupported .. | .typeMissing ..
  | .droppedProperty .. | .nestedComplex .. | .unknownQuantity .. | .droppedQuantity ..
  | .repeatedProperty .. => true
  | _ => false

/-- They come from the work of reading definitions. -/
theorem Diagnostic.channel_of_isOfPart {d : Diagnostic} (h : d.isOfPart = true) :
    d.channel = .definitionFile := by
  cases d <;> first | rfl | cases h

theorem logs_normalizeGuid (raw : Option String) (place : String) :
    (normalizeGuid raw place).Logs (·.isOfPart) := by
  unfold normalizeGuid
  split
  · exact .pure _
  · split
    · exact .pure _
    · split
      · exact .pure _
      · exact .reported (by rfl) _

theorem logs_simpleType (variant name place : String) (e : Element) :
    (simpleType variant name place e).Logs (·.isOfPart) := by
  unfold simpleType
  split
  · refine .bind (.ofExcept _) fun found => ?_
    split
    · exact .pure _
    · exact .reported (by rfl) _
  · refine .bind (.ofExcept _) fun constants => .bind (.ofExcept _) fun values => ?_
    split
    · exact .reported (by rfl) _
    · refine .bind (.ofExcept _) fun listed => ?_
      split
      · exact .reported (by rfl) _
      · exact .pure _
  · refine .bind (.ofExcept _) fun found => ?_
    split
    · exact .pure _
    · exact .reported (by rfl) _
  · refine .bind (.ofExcept _) fun found => ?_
    split
    · exact .pure _
    · exact .reported (by rfl) _
  · refine .bind (.ofExcept _) fun found => ?_
    split
    · exact .pure _
    · exact .reported (by rfl) _
  · exact .bind (.ofExcept _) fun _ => .pure _
  · exact .reported (by rfl) _

theorem logs_keepMember (place : String) (member : Option Property) :
    (keepMember place member).Logs (·.isOfPart) := by
  unfold keepMember
  split
  · exact .pure _
  · split
    · exact .reported (by rfl) _
    · exact .pure _

mutual

theorem logs_readProperty (set : String) (e : Element) :
    (readProperty set e).Logs (·.isOfPart) := by
  rw [readProperty]
  refine .bind (.ofExcept _) fun name => ?_
  split
  · exact .reported (by rfl) _
  · refine .bind (.ofReport (logs_normalizeGuid _ _)) fun guid => ?_
    refine .bind (.ofExcept _) fun aliases => ?_
    exact .bind (logs_readType _ _ e) fun _ => .pure _
termination_by (sizeOf e, 1)

theorem logs_readType (name place : String) (e : Element) :
    (readType name place e).Logs (·.isOfPart) := by
  rw [readType]
  split
  · exact .fails _
  · exact .reported (by rfl) _
  · next variant h =>
    refine .bind (.ofExcept _) fun kind => ?_
    split
    · have := Nat.lt_trans (sizeOf_memberDefs variant) (sizeOf_typeElement? h)
      refine .bind (logs_readMembers _ (memberDefs variant).values) fun members => ?_
      exact .bind (.ofExcept _) fun _ => .pure _
    · exact logs_simpleType _ _ _ _
termination_by (sizeOf e, 0)

theorem logs_readMembers (place : String) (elements : List Element) :
    (readMembers place elements).Logs (·.isOfPart) := by
  cases elements with
  | nil =>
    rw [readMembers]
    exact .pure _
  | cons e rest =>
    rw [readMembers]
    refine .bind (logs_readProperty _ e) fun member => ?_
    refine .bind (.ofReport (logs_keepMember _ _)) fun kept => ?_
    exact .bind (logs_readMembers place rest) fun _ => .pure _
termination_by (sizeOf elements, 0)

end

theorem logs_readQuantity (set : String) (e : Element) :
    (readQuantity set e).Logs (·.isOfPart) := by
  unfold readQuantity
  refine .bind (.ofExcept _) fun name => ?_
  split
  · exact .reported (by rfl) _
  · refine .bind (.ofExcept _) fun quantity => .bind (.ofReport ?_) fun dataType => ?_
    · unfold quantityDataType
      split
      · exact .pure _
      · exact .reported (by rfl) _
    · refine .bind (.ofReport (logs_normalizeGuid _ _)) fun guid => ?_
      exact .bind (.ofExcept _) fun _ => .pure _

/-! ### Definitions -/

theorem logs_readHeader (root : Element) (release : String) :
    (readHeader root release).Logs (·.channel = .definitionFile) := by
  unfold readHeader
  refine .bind (.ofExcept _) fun name => ?_
  split
  · exact .fails _
  · refine .bind (.ofExcept _) fun declared => .bind (.ofReport ?_) fun guid => ?_
    · exact (logs_normalizeGuid _ _).mono fun _ => Diagnostic.channel_of_isOfPart
    refine .bind (.ofExcept _) fun named => .bind (.ofExcept _) fun applicable => ?_
    refine .bind (.ofReport ?_) fun _ => .pure _
    unfold settledClasses
    split
    · exact .pure _
    · dsimp only
      split
      · exact .reported (by rfl) _
      · exact .reported (by rfl) _

theorem logs_readParts (kind : SetKind) (set : String) (parts : Found Element) :
    (readParts kind set parts).Logs (·.isOfPart) := by
  refine .bind (.foldlM (fun properties e => .bind ?_ fun p => .ofReport ?_) _) fun _ =>
    .bind (.ofExcept _) fun _ => .pure _
  · cases kind with
    | properties => exact logs_readProperty set e
    | quantities => exact logs_readQuantity set e
  · unfold addUnique
    split
    · exact .pure _
    · split
      · exact .reported (by rfl) _
      · exact .pure _

theorem logs_readSet (root : Element) (file release : String) :
    (readSet root file release).Logs (·.channel = .definitionFile) := by
  unfold readSet
  refine .bind (.ofExcept _) fun rootName => ?_
  split
  · exact .fails _
  · refine .bind (logs_readHeader root release) fun header => ?_
    refine .bind (.ofExcept _) fun parts => .bind ?_ fun _ => .pure _
    exact (logs_readParts _ _ _).mono fun _ => Diagnostic.channel_of_isOfPart

/-- All reports of reading a file come from the work of reading definitions. -/
theorem logs_definitionOf (files : FileTree) (p : Path) (release : String) :
    (definitionOf files p release).Logs (·.channel = .definitionFile) := by
  unfold definitionOf
  split
  · exact .bind (.ofExcept _) fun root => logs_readSet _ _ _
  · exact .fails _

/-! ### The release of a file -/

/-- Two results are values that belong together, or they are one failure. -/
inductive SameFailures (R : α → β → Prop) : Except Failure α → Except Failure β → Prop where
  | ok {a : α} {b : β} (h : R a b) : SameFailures R (.ok a) (.ok b)
  | error (e : Failure) : SameFailures R (.error e) (.error e)

namespace SameFailures

variable {α' β' : Type} {R : α → β → Prop} {S : α' → β' → Prop}

theorem refl (x : Except Failure α) : SameFailures Eq x x := by
  cases x with
  | ok a => exact .ok rfl
  | error e => exact .error e

theorem error_iff {x : Except Failure α} {y : Except Failure β} (h : SameFailures R x y)
    (e : Failure) : x = .error e ↔ y = .error e := by
  cases h with
  | ok h => simp
  | error e' => simp

theorem bind {x : Attempt α} {y : Attempt β} {f : α → Attempt α'} {g : β → Attempt β'}
    (h : SameFailures R x.run.value y.run.value)
    (hfg : ∀ a b, R a b → SameFailures S (f a).run.value (g b).run.value) :
    SameFailures S (x >>= f).run.value (y >>= g).run.value := by
  generalize hx : x.run.value = u at h
  generalize hy : y.run.value = v at h
  cases h with
  | ok h =>
    rw [Attempt.value_bind_ok hx, Attempt.value_bind_ok hy]
    exact hfg _ _ h
  | error e =>
    rw [Attempt.run_bind_error hx, Attempt.run_bind_error hy]
    exact .error e

end SameFailures

/-- The headers of one element for two releases have one name. -/
theorem sameFailures_readHeader (root : Element) (release release' : String) :
    SameFailures (fun p q => p.name = q.name) (readHeader root release).run.value
      (readHeader root release').run.value := by
  unfold readHeader
  refine .bind (.refl _) ?_
  rintro name? _ rfl
  cases name? with
  | none => exact .error _
  | some name =>
    refine .bind (.refl _) ?_
    rintro declared _ rfl
    refine .bind (.refl _) ?_
    rintro ifdGuid _ rfl
    refine .bind (.refl _) ?_
    rintro named _ rfl
    refine .bind (.refl _) ?_
    rintro applicable _ rfl
    -- the release settles the version, and with it the classes, but neither can fail
    exact .bind (R := fun _ _ => True) (.ok trivial) fun _ _ _ => .ok rfl

theorem sameFailures_readSet (root : Element) (file release release' : String) :
    SameFailures (fun _ _ => True) (readSet root file release).run.value
      (readSet root file release').run.value := by
  unfold readSet
  refine .bind (.refl _) ?_
  rintro rootName _ rfl
  split
  · exact .error _
  · refine .bind (sameFailures_readHeader root release release') fun p q hname => ?_
    rw [hname]
    refine .bind (.refl _) ?_
    rintro parts _ rfl
    exact .bind (.refl _) fun _ _ _ => .ok trivial

/-- A file that fails fails in the same way for every release. -/
theorem definitionOf_eq_error_iff (files : FileTree) (p : Path) (release release' : String)
    (e : Failure) : (definitionOf files p release).run.value = .error e ↔
      (definitionOf files p release').run.value = .error e := by
  unfold definitionOf
  split
  · refine (SameFailures.bind (S := fun _ _ => True) (.refl _) ?_).error_iff e
    rintro root _ rfl
    exact sameFailures_readSet _ _ _ _
  · exact Iff.rfl

end PsetCompiler
