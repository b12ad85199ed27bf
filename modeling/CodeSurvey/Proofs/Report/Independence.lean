/-
  What of a report depends on the parser, and what on the thresholds.

  * `Report.buildFrom`: the report of a text by any parser, of which `Report.build` is the
    case of the parsers at hand (`Report.build_eq`);
  * `Pattern.textual`: the usual patterns that are recognised by pieces of text alone;
  * `Extract.Barren`: a tree that holds nothing to extract; `Extract.structureOf_eq_empty_iff`:
    those are the trees with the empty structure;
  * `Adapter.ComesToNothing`: the parser fails, or nothing comes of its tree;
    `Extract.unitFrom_eq_empty_iff`: then, and only then, the structure is empty;
  * `Report.SameText`: agreement of all that is read off the text alone;
  * `Report.text_results_independent`: the whole.
-/
import CodeSurvey.Proofs.Extract.Unit
import CodeSurvey.Report

namespace CodeSurvey

/-! ## Patterns without function names -/

namespace Pattern

/-- The usual patterns that are recognised by pieces of text alone. -/
def textual : List PatternDefinition :=
  builtIn.filter fun d => d.nameKeywords.isEmpty

/-- Whether a pattern that was found is one of those. -/
def isTextual (p : CodePattern) : Bool :=
  p.name ∈ textual.map PatternDefinition.name

theorem match?_of_isEmpty {d : PatternDefinition} (h : d.nameKeywords.isEmpty = true) (t : Text)
    (s s' : CodeStructure) : match? d t s = match? d t s' := by
  simp [match?, h]

/-- The patterns of some names are found by the definitions of these names. -/
theorem filter_detect (q : Text → Bool) (ds : List PatternDefinition) (t : Text)
    (s : CodeStructure) :
    (detect ds t s).filter (fun p => q p.name) = detect (ds.filter fun d => q d.name) t s := by
  induction ds with
  | nil => rfl
  | cons d ds ih =>
    unfold detect at ih ⊢
    rw [List.filterMap_cons, List.filter_cons]
    cases hm : match? d t s with
    | none => by_cases hq : q d.name = true <;> simp [hq, hm, ih]
    | some span => by_cases hq : q d.name = true <;> simp [hq, hm, ih]

theorem filter_isTextual_detect (t : Text) (s : CodeStructure) :
    (detect builtIn t s).filter isTextual = detect textual t s := by
  have hnames : ∀ d ∈ builtIn, decide (d.name ∈ textual.map PatternDefinition.name) =
      d.nameKeywords.isEmpty := by decide
  have h := filter_detect (fun name => decide (name ∈ textual.map PatternDefinition.name))
    builtIn t s
  rw [List.filter_congr hnames] at h
  exact h

/-- They are found alike, whatever the structure. -/
theorem detect_textual (t : Text) (s s' : CodeStructure) :
    detect textual t s = detect textual t s' := by
  refine List.filterMap_congr fun d hd => ?_
  rw [match?_of_isEmpty (List.mem_filter.1 hd).2 t s s']

end Pattern

/-! ## Trees that hold nothing -/

namespace Extract

variable {s : Source} {root : Node}

/-- No node below the root is recorded or contributes anything. -/
structure Barren (s : Source) (root : Node) : Prop where
  functions : root.functionSpots = []
  classes : root.classSpots = []
  imports : ∀ sp ∈ root.namedSpots, importsAt s sp.place = []
  exports : ∀ sp ∈ root.namedSpots, exportsAt s sp.place = []
  vars : ∀ sp ∈ root.namedSpots, varsAt s sp.place = []
  constants : ∀ sp ∈ root.namedSpots, constantsAt s sp.place = []

/-- So it is with a tree in which no node of the grammar is of a kind that matters. -/
theorem barren_of_kinds (h : ∀ n ∈ root.descendants, n.isNamed = true →
    n.isFunction = false ∧ n.isClass = false ∧ ∀ kind ∈ contributingKinds, n.kind ≠ kind) :
    Barren s root := by
  have hspots : ∀ sp ∈ root.namedSpots, sp.place.node.isFunction = false ∧
      sp.place.node.isClass = false ∧ ∀ kind ∈ contributingKinds, sp.place.node.kind ≠ kind := by
    intro sp hsp
    obtain ⟨hsp, named⟩ := List.mem_filter.1 hsp
    exact h _ (Node.node_mem_descendants hsp) named
  constructor
  · refine List.filter_eq_nil_iff.2 fun sp hsp hkind => ?_
    obtain ⟨named, hf⟩ := Bool.and_eq_true_iff.1 hkind
    simp [(hspots sp (List.mem_filter.2 ⟨hsp, named⟩)).1] at hf
  · refine List.filter_eq_nil_iff.2 fun sp hsp hkind => ?_
    obtain ⟨named, hc⟩ := Bool.and_eq_true_iff.1 hkind
    simp [(hspots sp (List.mem_filter.2 ⟨hsp, named⟩)).2.1] at hc
  all_goals
    intro sp hsp
    obtain ⟨himports, hexports, hvars, hconstants, -⟩ :=
      contributes_nothing (s := s) (hspots sp hsp).2.2
    assumption

theorem Barren.recordable (h : Barren s root) : ∀ n ∈ root.descendants, Recordable s n := by
  intro n hn named
  rw [← Node.map_node_spots] at hn
  obtain ⟨sp, hsp, rfl⟩ := List.mem_map.1 hn
  constructor
  · intro hf
    have hmem : sp ∈ root.functionSpots := List.mem_filter.2 ⟨hsp, by simp [named, hf]⟩
    simp [h.functions] at hmem
  · intro hc
    have hmem : sp ∈ root.classSpots := List.mem_filter.2 ⟨hsp, by simp [named, hc]⟩
    simp [h.classes] at hmem

/-- **A tree has the empty structure exactly if it holds nothing to extract.** -/
theorem structureOf_eq_empty_iff : structureOf s root = .ok .empty ↔ Barren s root := by
  constructor
  · intro h
    have hi := inventory_of_ok h
    refine ⟨List.forall₂_nil_right_iff.1 hi.functions, List.forall₂_nil_right_iff.1 hi.classes,
      ?_, ?_, ?_, ?_⟩
    · exact List.flatMap_eq_nil_iff.1 hi.imports.symm
    · exact List.flatMap_eq_nil_iff.1 hi.exports.symm
    · exact List.flatMap_eq_nil_iff.1 (List.map_eq_nil_iff.1 hi.vars.symm)
    · exact List.flatMap_eq_nil_iff.1 hi.constants.symm
  · intro h
    obtain ⟨c, hc⟩ := exists_structureOf h.recordable
    have hi := inventory_of_ok hc
    have hfunctions := hi.functions
    have hclasses := hi.classes
    rw [h.functions, List.forall₂_nil_left_iff] at hfunctions
    rw [h.classes, List.forall₂_nil_left_iff] at hclasses
    have himports := hi.imports.trans (List.flatMap_eq_nil_iff.2 h.imports)
    have hexports := hi.exports.trans (List.flatMap_eq_nil_iff.2 h.exports)
    have hvars := hi.vars
    rw [List.flatMap_eq_nil_iff.2 h.vars, List.map_nil] at hvars
    have hconstants := hi.constants.trans (List.flatMap_eq_nil_iff.2 h.constants)
    rw [hc]
    cases c
    simp only at hfunctions hclasses himports hexports hvars hconstants
    rw [hfunctions, hclasses, himports, hexports, hvars, hconstants]
    rfl

end Extract

/-- The parser gives no structure for the text, or a tree that holds nothing. -/
inductive Adapter.ComesToNothing (a : Adapter Id) (t : Text) (g : Grammar) : Prop
  /-- The parse fails. -/
  | failed {trouble : Parser.Trouble} (parse : (a.parse t g.name).1 = .error trouble)
  /-- A recorded node of the tree ends on a line before its start. -/
  | reversed {root : Node} {cause : Cause} (parse : (a.parse t g.name).1 = .ok root)
    (structure_ : Extract.structureOf (.ofText t) root = .error cause)
  /-- The tree holds nothing to extract. -/
  | barren {root : Node} (parse : (a.parse t g.name).1 = .ok root)
    (nothing : Extract.Barren (.ofText t) root)

namespace Extract

variable {a : Adapter Id} {t tag : Text} {g : Grammar}

theorem fst_unitFrom (known : Grammar.ofTag? tag = some g) (h : a.supports tag = true) :
    (unitFrom a t tag).1 = (ofParsed t g (a.parse t g.name).1).1 := by
  rw [a.supports_eq known, decide_eq_true_iff] at h
  rw [unitFrom_of_supports known h]
  rfl

/-- **The structure is empty exactly if the parser fails or nothing comes of its tree.** -/
theorem unitFrom_eq_empty_iff (known : Grammar.ofTag? tag = some g) (h : a.supports tag = true) :
    (unitFrom a t tag).1 = .empty ↔ a.ComesToNothing t g := by
  rw [fst_unitFrom known h]
  constructor
  · intro hempty
    cases hp : (a.parse t g.name).1 with
    | error trouble => exact .failed hp
    | ok root =>
      cases hs : structureOf (.ofText t) root with
      | error cause => exact .reversed hp hs
      | ok c =>
        simp only [hp, ofParsed, hs] at hempty
        exact .barren hp (structureOf_eq_empty_iff.1 (by rw [hs, hempty]))
  · intro hnothing
    cases hnothing with
    | failed hp =>
      rename_i trouble
      cases trouble <;> simp [hp, ofParsed]
    | reversed hp hs => simp [hp, ofParsed, hs]
    | barren hp hb => simp [hp, ofParsed, structureOf_eq_empty_iff.2 hb]

end Extract

namespace Report

/-! ## Reports by any parser -/

/-- The report of a text in the language of a tag by any parser, with the diagnostics. -/
def buildFrom (a : Adapter Id) (config : AnalysisConfig) (t tag : Text) :
    Report × List Diagnostic :=
  if a.supports tag then
    let found : CodeStructure × List Diagnostic := Extract.unitFrom a t tag
    (ofStructure config t tag found.1, found.2)
  else (minimal t tag, [])

theorem build_eq (p : Parser) (config : AnalysisConfig) (t tag : Text) :
    build p config t tag = buildFrom p.adapter config t tag := by
  simp only [build, buildFrom, Extract.unit_eq]
  rfl

variable {a : Adapter Id} {config : AnalysisConfig} {t tag : Text}

theorem buildFrom_of_supports (h : a.supports tag = true) :
    (buildFrom a config t tag).1 =
      ofStructure config t tag (Id.run (Extract.unitFrom a t tag)).1 := by
  rw [buildFrom, if_pos h]
  rfl

/-! ## What is read off the text alone -/

/-- Two reports agree in all that is read off the text alone. -/
structure SameText (r r' : Report) : Prop where
  complexity : r.complexity = r'.complexity
  domain : r.semantics.domain = r'.semantics.domain
  controlFlow : r.semantics.controlFlow = r'.semantics.controlFlow
  patterns : r.patterns.filter Pattern.isTextual = r'.patterns.filter Pattern.isTextual

theorem sameText_ofStructure (config config' : AnalysisConfig) (t tag : Text)
    (s s' : CodeStructure) :
    SameText (ofStructure config t tag s) (ofStructure config' t tag s') where
  complexity := rfl
  domain := rfl
  controlFlow := rfl
  patterns := by
    simp only [ofStructure, Pattern.filter_isTextual_detect]
    exact Pattern.detect_textual t s s'

/-- The thresholds matter for the findings only. -/
theorem buildFrom_config (a : Adapter Id) (config config' : AnalysisConfig) (t tag : Text) :
    buildFrom a config' t tag =
      ({ (buildFrom a config t tag).1 with findings := (buildFrom a config' t tag).1.findings },
        (buildFrom a config t tag).2) := by
  cases h : a.supports tag with
  | true => simp [buildFrom, h, ofStructure]
  | false => simp [buildFrom, h]

/-- **What is read off the text does not depend on the parser.**  Two parsers that take the
    language give reports with the same measures, domain, branches and patterns by pieces of text,
    whatever they make of the text and whatever the thresholds.  If nothing comes of the text with
    either of them, be it that the parse fails or that the tree holds nothing to extract, the
    reports are equal.  The thresholds change nothing but the findings. -/
theorem text_results_independent (t tag : Text) :
    (∀ p config, build p config t tag = buildFrom (Parser.adapter p) config t tag) ∧
    Pattern.textual.map PatternDefinition.name =
      [.ofString "Singleton", .ofString "Observer", .ofString "React Hooks"] ∧
    (∀ (a b : Adapter Id) config config', a.supports tag = true → b.supports tag = true →
      SameText (buildFrom a config t tag).1 (buildFrom b config' t tag).1) ∧
    (∀ (a b : Adapter Id) config g, a.supports tag = true → b.supports tag = true →
      Grammar.ofTag? tag = some g → a.ComesToNothing t g → b.ComesToNothing t g →
        (buildFrom a config t tag).1 = (buildFrom b config t tag).1) ∧
    ∀ (a : Adapter Id) config config', buildFrom a config' t tag =
      ({ (buildFrom a config t tag).1 with findings := (buildFrom a config' t tag).1.findings },
        (buildFrom a config t tag).2) := by
  refine ⟨fun p config => build_eq p config t tag, by decide +kernel, ?_, ?_,
    fun a config config' => buildFrom_config a config config' t tag⟩
  · intro a b config config' ha hb
    rw [buildFrom_of_supports ha, buildFrom_of_supports hb]
    exact sameText_ofStructure config config' t tag _ _
  · intro a b config g ha hb known hna hnb
    have hea := (Extract.unitFrom_eq_empty_iff known ha).2 hna
    have heb := (Extract.unitFrom_eq_empty_iff known hb).2 hnb
    rw [buildFrom_of_supports ha, buildFrom_of_supports hb]
    exact congrArg (ofStructure config t tag) (hea.trans heb.symm)

/-- A class with the marker of a pattern. -/
def singletonText : Text := Text.ofString "class A { static instance }"

/-- Its tree. -/
def singletonTree : Node :=
  .mk ⟨"program", 0, 27, true, false, none⟩
    [.mk ⟨"class_declaration", 0, 27, true, false, none⟩
      [.mk ⟨"identifier", 6, 7, true, false, some "name"⟩ []]]

/-- A tree of a comment alone. -/
def commentTree : Node :=
  .mk ⟨"program", 0, 27, true, false, none⟩ [.mk ⟨"comment", 0, 27, true, false, none⟩ []]

/-- A parser that fails, beside one that finds a class and one that finds nothing. -/
theorem text_results_independent_singleton :
    let failing := (Parser.failing Grammar.all ⟨.ofString "ValueError", .ofString "no"⟩).adapter
    let held := fun root => (Parser.tree (some root) true Grammar.all).adapter
    let report := fun a => (buildFrom a {} singletonText (Text.ofString "js")).1
    (report failing).code ≠ (report (held singletonTree)).code ∧
    SameText (report failing) (report (held singletonTree)) ∧
    report failing = report (held commentTree) := by
  intro failing held report
  obtain ⟨-, -, hsame, hnothing, -⟩ := text_results_independent singletonText (Text.ofString "js")
  have known : Grammar.ofTag? (Text.ofString "js") = some .javascript := by decide +kernel
  have hfailing : failing.supports (Text.ofString "js") = true := by
    rw [failing.supports_eq known]
    rfl
  have hheld : ∀ root, (held root).supports (Text.ofString "js") = true := by
    intro root
    rw [(held root).supports_eq known]
    rfl
  have hbarren : Extract.Barren (.ofText singletonText) commentTree := by
    apply Extract.barren_of_kinds
    decide +kernel
  refine ⟨by decide +kernel, hsame _ _ _ _ hfailing (hheld _), ?_⟩
  exact hnothing _ _ _ _ hfailing (hheld _) known (.failed rfl) (.barren rfl hbarren)

end Report

end CodeSurvey
