import PsetCompiler.Proofs.Source.Literal

/-!
# Literals of the initializer

Names and localized names are put between quotes where the initializer is written; everything else
stands there as it is.  As long as nothing else has a double quote, every line of the initializer
begins and ends outside of literals, and the literals of the whole text are those of its lines.

## Main definitions

* `InitMethod.IsPlain` — nothing that is not put between quotes has a double quote.
* `InitMethod.texts` — the texts that a method puts between quotes, in order.

## Main results

* `quotes_initializerSource` — **the literals of the initializer.**
-/

namespace PsetCompiler

/-! ### What is put between quotes, and what is not -/

/-- What an entry does not put between quotes has no double quote. -/
structure InitEntry.IsPlain (e : InitEntry) : Prop where
  entryClass : Unquoted e.entryClass
  typeEnum : Unquoted e.typeEnum
  propertyType : Unquoted e.propertyType
  valueType : ∀ t ∈ e.valueType, Unquoted t
  argumentType : ∀ t ∈ e.argumentType, Unquoted t
  enumType : ∀ t ∈ e.enumType, Unquoted t
  languages : ∀ n ∈ e.localizedNames, Unquoted n.language

/-- What a block does not put between quotes has no double quote. -/
structure InitBlock.IsPlain (b : InitBlock) : Prop where
  exportFlag : Unquoted b.exportFlag
  entityTypes : ∀ entity ∈ b.entityTypes, Unquoted entity
  entries : ∀ e ∈ b.entries, e.IsPlain

/-- What a method does not put between quotes has no double quote. -/
structure InitMethod.IsPlain (m : InitMethod) : Prop where
  methodName : Unquoted m.methodName
  variableName : Unquoted m.variableName
  allowCheck : Unquoted m.allowCheck
  blocks : ∀ b ∈ m.blocks, b.IsPlain

/-- The name under which a calculator is looked up, unless there is no namespace for it. -/
def calculatorTexts (space calculator : String) : List String :=
  if space = "" then [] else [space ++ "." ++ calculator]

/-- The texts that an entry puts between quotes. -/
def InitEntry.texts (calculatorSpace : String) (e : InitEntry) : List String :=
  [e.paramName, e.propertyName, e.propertyName] ++ e.localizedNames.map (·.text) ++
    calculatorTexts calculatorSpace e.calculator

/-- The texts that a block of a set puts between quotes. -/
def InitBlock.texts (calculatorSpace name : String) (b : InitBlock) : List String :=
  name :: b.entries.flatMap (InitEntry.texts calculatorSpace)

/-- The texts that a method puts between quotes. -/
def InitMethod.texts (calculatorSpace : String) (m : InitMethod) : List String :=
  m.blocks.flatMap (InitBlock.texts calculatorSpace m.name) ++ [m.name]

/-! ### The lines -/

theorem linesQuote_lineFor {value : Option String} (h : ∀ t ∈ value, Unquoted t)
    {line : String → String} (hline : ∀ t, Unquoted t → Quotes (line t) []) :
    LinesQuote (lineFor value line) [] := by
  unfold lineFor
  split
  · next t =>
    split
    · exact .nil
    · exact .cons (hline t (h t rfl)) .nil
  · exact .nil

/-- A text needs no escaping: it has neither double quotes nor backslashes. -/
structure IsEscapeFree (s : String) : Prop where
  unquoted : Unquoted s
  unslashed : '\\' ∉ s.toList

/-- What needs no escaping stands between quotes as it is. -/
theorem escapeLiteral_append {space : String} (h : IsEscapeFree space) (s : String) :
    escapeLiteral (space ++ s) = space ++ escapeLiteral s := by
  have hspace : escapeLiteralChars space.toList = space.toList := by
    rw [escapeLiteralChars]
    refine (List.flatMap_congr fun c hc => if_neg ?_).trans (List.flatMap_singleton' _)
    rintro (rfl | rfl)
    · exact h.unslashed hc
    · exact h.unquoted hc
  rw [escapeLiteral, String.toList_append, escapeLiteralChars, List.flatMap_append,
    ← escapeLiteralChars, hspace, String.ofList_append, String.ofList_toList]
  rfl

/-- The look-up of a calculator holds its name behind the namespace as one literal. -/
theorem calculatorLookup_eq {space : String} (h : IsEscapeFree space) (calculator : String) :
    "            calcType = System.Reflection.Assembly.GetExecutingAssembly().GetType(\"" ++
        space ++ "." ++ escapeLiteral calculator ++ "\");" =
      "            calcType = System.Reflection.Assembly.GetExecutingAssembly().GetType(" ++
        (sourceLiteral (space ++ "." ++ calculator) ++ ");") := by
  have hopen : "            calcType = System.Reflection.Assembly.GetExecutingAssembly().GetType(" ++
      "\"" = "            calcType = System.Reflection.Assembly.GetExecutingAssembly().GetType(\"" :=
    String.ofList_append.symm
  have hclose : "\"" ++ ");" = "\");" := String.ofList_append.symm
  have hname : escapeLiteral (space ++ "." ++ calculator) =
      space ++ ("." ++ escapeLiteral calculator) := by
    have hdot : IsEscapeFree "." := ⟨unquoted_ofList (by decide), by decide⟩
    rw [String.append_assoc, escapeLiteral_append h, escapeLiteral_append hdot]
  rw [sourceLiteral, ← hopen, ← hclose, hname]
  simp only [String.append_assoc]

theorem linesQuote_calculatorLines {space : String} (h : IsEscapeFree space) (calculator : String) :
    LinesQuote (calculatorLines space calculator) (calculatorTexts space calculator) := by
  unfold calculatorLines calculatorTexts
  split
  · exact .nil
  · rw [calculatorLookup_eq h]
    show LinesQuote _ ([space ++ "." ++ calculator] ++ [])
    refine .cons ?_ (.fixed rfl (.code ?_ .nil))
    · exact .fixed rfl (.literal _ (.fixedEnd rfl))
    · exact .fixed rfl (.fixedEnd rfl)

/-- The lines of an entry. -/
theorem InitEntry.IsPlain.linesQuote {e : InitEntry} (h : e.IsPlain) {variableName : String}
    (hvariable : Unquoted variableName) {calculatorSpace : String}
    (hspace : IsEscapeFree calculatorSpace) :
    LinesQuote (entryLines variableName calculatorSpace e) (e.texts calculatorSpace) := by
  have hnames : LinesQuote (e.localizedNames.map fun n =>
      "            ifcPSE.AddLocalizedParameterName(LanguageType." ++ (n.language ++ (", " ++
        (sourceLiteral n.text ++ ");")))) (e.localizedNames.flatMap fun n => [n.text]) :=
    .map fun n hn => .fixed rfl (.code (h.languages n hn) (.fixed rfl (.literal _ (.fixedEnd rfl))))
  rw [← List.map_eq_flatMap] at hnames
  unfold entryLines
  simp only [String.append_assoc]
  -- no line without a literal adds a text
  have htexts : e.texts calculatorSpace = [e.paramName, e.propertyName, e.propertyName] ++ [] ++
      [] ++ [] ++ [] ++ e.localizedNames.map (·.text) ++
        calculatorTexts calculatorSpace e.calculator ++ [] := by
    simp only [InitEntry.texts, List.append_nil]
  rw [htexts]
  refine .append (.append (.append (.append (.append (.append (.append ?_ ?_) ?_) ?_) ?_) hnames)
    (linesQuote_calculatorLines hspace _)) ?_
  · show LinesQuote _ ([e.paramName, e.propertyName] ++ ([e.propertyName] ++ []))
    refine .fixed rfl (.cons ?_ (.cons ?_ .nil))
    · exact .fixed rfl (.code h.entryClass
        (.fixed rfl (.literal _ (.fixed rfl (.literal _ (.fixedEnd rfl))))))
    · exact .fixed rfl (.literal _ (.fixedEnd rfl))
  · exact linesQuote_lineFor h.argumentType fun t ht =>
      .fixed rfl (.code h.typeEnum (.fixed rfl (.code ht (.fixedEnd rfl))))
  · refine .code (.fixed rfl (.code h.typeEnum ?_)) .nil
    exact .fixed rfl (.code h.typeEnum (.fixed rfl (.code h.propertyType (.fixedEnd rfl))))
  · exact linesQuote_lineFor h.valueType fun t ht => .fixed rfl (.code ht (.fixedEnd rfl))
  · exact linesQuote_lineFor h.enumType fun t ht => .fixed rfl (.code ht (.fixedEnd rfl))
  · exact .code (.fixed rfl (.code hvariable (.fixedEnd rfl))) .nil

/-- The lines of a block. -/
theorem InitMethod.IsPlain.linesQuote_block {m : InitMethod} (h : m.IsPlain) {b : InitBlock}
    (hb : b ∈ m.blocks) {calculatorSpace : String} (hspace : IsEscapeFree calculatorSpace) :
    LinesQuote (blockLines m calculatorSpace b) (b.texts calculatorSpace m.name) := by
  have hplain := h.blocks b hb
  have hentities : LinesQuote (b.entityTypes.map fun entity =>
      "            " ++ (m.variableName ++ (".EntityTypes.Add(IFCEntityType." ++ (entity ++ ");"))))
      (b.entityTypes.flatMap fun _ => []) :=
    .map fun entity hentity =>
      .fixed rfl (.code h.variableName
        (.fixed rfl (.code (hplain.entityTypes entity hentity) (.fixedEnd rfl))))
  rw [List.flatMap_eq_nil_iff.mpr fun _ _ => rfl] at hentities
  have hentries : LinesQuote (b.entries.flatMap (entryLines m.variableName calculatorSpace))
      (b.entries.flatMap (InitEntry.texts calculatorSpace)) :=
    .flatMap fun e he => (hplain.entries e he).linesQuote h.variableName hspace
  unfold blockLines
  simp only [String.append_assoc]
  have htexts : b.texts calculatorSpace m.name =
      [m.name] ++ [] ++ b.entries.flatMap (InitEntry.texts calculatorSpace) ++ [] := by
    simp only [InitBlock.texts, List.append_nil, List.singleton_append]
  rw [htexts]
  refine .append (.append (.append ?_ hentities) hentries) (.fixed rfl .nil)
  show LinesQuote _ ([m.name] ++ [])
  refine .fixed rfl (.cons ?_ (.fixed rfl .nil))
  exact .fixed rfl (.code hplain.exportFlag (.fixed rfl (.code h.allowCheck
    (.fixed rfl (.literal _ (.fixedEnd rfl))))))

/-- The lines of a method. -/
theorem InitMethod.IsPlain.linesQuote {m : InitMethod} (h : m.IsPlain) {calculatorSpace : String}
    (hspace : IsEscapeFree calculatorSpace) :
    LinesQuote (methodLines calculatorSpace m) (m.texts calculatorSpace) := by
  have hblocks : LinesQuote (m.blocks.flatMap (blockLines m calculatorSpace))
      (m.blocks.flatMap (InitBlock.texts calculatorSpace m.name)) :=
    .flatMap fun b hb => h.linesQuote_block hb hspace
  unfold methodLines
  simp only [String.append_assoc]
  have htexts : m.texts calculatorSpace =
      [] ++ m.blocks.flatMap (InitBlock.texts calculatorSpace m.name) ++ [m.name] := rfl
  rw [htexts]
  refine .append (.append ?_ hblocks) ?_
  · refine .fixed rfl (.code ?_ (.fixed rfl (.code ?_ (.fixed rfl (.fixed rfl .nil)))))
    · exact .fixed rfl (.code h.methodName (.fixedEnd rfl))
    · exact .fixed rfl (.code h.variableName (.fixedEnd rfl))
  · show LinesQuote _ ([m.name] ++ [])
    refine .fixed rfl (.fixed rfl (.fixed rfl (.cons ?_ (.code ?_ (.fixed rfl (.fixed rfl .nil))))))
    · exact .fixed rfl (.code h.variableName (.fixed rfl (.literal _ (.fixedEnd rfl))))
    · exact .fixed rfl (.code h.variableName (.fixedEnd rfl))

theorem linesQuote_headingLines {space : String} (h : Unquoted space) :
    LinesQuote (headingLines space) [] := by
  unfold headingLines
  iterate 10 refine .fixed rfl ?_
  refine .code (.fixed rfl (.of_unquoted h)) ?_
  iterate 3 refine .fixed rfl ?_
  exact .code (.fixed rfl (.fixedEnd rfl)) (.fixed rfl (.fixed rfl .nil))

/-- **The literals of the initializer** are the texts that its methods put between quotes, as long as
nothing else in it has a double quote. -/
theorem quotes_initializerSource {methods : List InitMethod} (h : ∀ m ∈ methods, m.IsPlain)
    {space calculatorSpace : String} (hspace : Unquoted space)
    (hcalculator : IsEscapeFree calculatorSpace) :
    Quotes (initializerSource methods space calculatorSpace)
      (methods.flatMap (InitMethod.texts calculatorSpace)) := by
  have hcalls : LinesQuote (methods.map fun m =>
      "         " ++ (m.methodName ++ "(commonPropertySets);")) (methods.flatMap fun _ => []) :=
    .map fun m hm => .fixed rfl (.code (h m hm).methodName (.fixedEnd rfl))
  rw [List.flatMap_eq_nil_iff.mpr fun _ _ => rfl] at hcalls
  have hmethods : LinesQuote (methods.flatMap (methodLines calculatorSpace))
      (methods.flatMap (InitMethod.texts calculatorSpace)) :=
    .flatMap fun m hm => (h m hm).linesQuote hcalculator
  have htexts : methods.flatMap (InitMethod.texts calculatorSpace) =
      [] ++ [] ++ [] ++ methods.flatMap (InitMethod.texts calculatorSpace) ++ [] :=
    (List.append_nil _).symm
  rw [htexts]
  show LinesQuote (initializerLines methods space calculatorSpace) _
  unfold initializerLines
  simp only [String.append_assoc]
  refine .append (.append (.append (.append (linesQuote_headingLines hspace) hcalls) ?_) hmethods)
    (.fixed rfl (.fixed rfl .nil))
  exact .fixed rfl (.fixed rfl (.fixed rfl .nil))

end PsetCompiler
