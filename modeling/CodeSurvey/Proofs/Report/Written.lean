/-
  The written form of a report reads back.

  * `Binary64.IsAmount`, `Binary64.IsShare`: the bounds on fractions;
  * `HalsteadMetrics.Valid`, `ComplexityMetrics.Valid`, `CodePattern.Valid`, `Access.Valid`,
    `DataFlowNode.Valid`, `Report.Valid`: the constraints on fields that their types leave open;
  * `DependencyGraph.read_toData`, `SemanticAnalysis.read_toData_iff`, …: the parts of a report,
    graphs under either naming of the references;
  * `report_round_trip`: a report reads back from its written form exactly if it is valid.
-/
import CodeSurvey.Report
import CodeSurvey.Proofs.Structure.Written

namespace CodeSurvey

/-! ## Words -/

instance DependencyKind.instLawfulLabelled : LawfulLabelled DependencyKind where
  ofLabel?_label k := by cases k <;> decide +kernel

instance EdgeKind.instLawfulLabelled : LawfulLabelled EdgeKind where
  ofLabel?_label k := by cases k <;> decide +kernel

instance PatternCategory.instLawfulLabelled : LawfulLabelled PatternCategory where
  ofLabel?_label c := by cases c <;> decide +kernel

instance Severity.instLawfulLabelled : LawfulLabelled Severity where
  ofLabel?_label s := by cases s <;> decide +kernel

instance AccessKind.instLawfulLabelled : LawfulLabelled AccessKind where
  ofLabel?_label k := by cases k <;> decide +kernel

instance ControlFlowKind.instLawfulLabelled : LawfulLabelled ControlFlowKind where
  ofLabel?_label k := by cases k <;> decide +kernel

/-! ## Constraints -/

/-- The number is not below zero; a NaN is not such a number. -/
def Binary64.IsAmount (x : Binary64) : Prop :=
  zero.le x = true

instance Binary64.instDecidableIsAmount (x : Binary64) : Decidable x.IsAmount :=
  inferInstanceAs (Decidable (zero.le x = true))

/-- The number lies between zero and one. -/
def Binary64.IsShare (x : Binary64) : Prop :=
  x.IsAmount ∧ x.le (ofInt 1) = true

/-- No measure is negative. -/
structure HalsteadMetrics.Valid (m : HalsteadMetrics) : Prop where
  volume : m.volume.IsAmount
  difficulty : m.difficulty.IsAmount
  effort : m.effort.IsAmount
  time : m.time.IsAmount
  bugs : m.bugs.IsAmount

/-- At least one path leads through the text, and the index is a percentage. -/
structure ComplexityMetrics.Valid (c : ComplexityMetrics) : Prop where
  cyclomatic : 1 ≤ c.cyclomatic
  halstead : c.halstead.Valid
  index : c.maintainabilityIndex ≤ 100

/-- The confidence is a share. -/
def CodePattern.Valid (p : CodePattern) : Prop :=
  p.confidence.IsShare

/-- Lines count from 1. -/
def Access.Valid (a : Access) : Prop :=
  1 ≤ a.line

/-- The accesses are valid. -/
def DataFlowNode.Valid (n : DataFlowNode) : Prop :=
  ∀ a ∈ n.operations, a.Valid

/-- The accesses to all variables are valid. -/
def SemanticAnalysis.Valid (a : SemanticAnalysis) : Prop :=
  ∀ n ∈ a.dataFlow, n.Valid

/-- All parts are valid. -/
structure Report.Valid (r : Report) : Prop where
  code : r.code.Valid
  patterns : ∀ p ∈ r.patterns, p.Valid
  complexity : r.complexity.Valid
  semantics : r.semantics.Valid

/-! ## Graphs -/

theorem DependencyNode.read_toData (n : DependencyNode) : DependencyNode.read n.toData = .good n := by
  simp [DependencyNode.read, DependencyNode.toData, Read.record]

/-- A reference reads back under either naming of its ends. -/
theorem DependencyEdge.read_toData (naming : EdgeNaming) (e : DependencyEdge) :
    DependencyEdge.read (e.toData naming) = .good e := by
  cases naming <;>
    simp [DependencyEdge.read, DependencyEdge.toData, Read.record, EdgeNaming.names]

theorem DependencyGraph.read_toData (naming : EdgeNaming) (g : DependencyGraph) :
    DependencyGraph.read (g.toData naming) = .good g := by
  have hnodes : Read.list DependencyNode.read (.list DependencyNode.toData g.nodes) =
      .good g.nodes :=
    Read.list_eq_good_self_iff.2 fun n _ => n.read_toData
  have hedges : Read.list DependencyEdge.read (.list (DependencyEdge.toData naming) g.edges) =
      .good g.edges :=
    Read.list_eq_good_self_iff.2 fun e _ => e.read_toData naming
  have hcycles : Read.list (Read.pair Read.text) (.list DependencyGraph.pairData g.cycles) =
      .good g.cycles :=
    Read.list_eq_good_self_iff.2 fun _ _ => Read.pair_text_iff.2 rfl
  simp [DependencyGraph.read, DependencyGraph.toData, Read.record, hnodes, hedges, hcycles]

/-! ## Patterns and findings -/

theorem CodePattern.read_toData_iff {p : CodePattern} :
    CodePattern.read p.toData = .good p ↔ p.Valid := by
  simp [CodePattern.read, CodePattern.toData, Read.record, CodePattern.Valid, Binary64.IsShare,
    Binary64.IsAmount]

theorem Finding.read_toData (f : Finding) : Finding.read f.toData = .good f := by
  simp [Finding.read, Finding.toData, Read.record]

/-! ## Complexity -/

-- a member at hand keeps `simp` from looking for one in the type of the constructor
instance HalsteadMetrics.instInhabited : Inhabited HalsteadMetrics :=
  ⟨{}⟩

theorem HalsteadMetrics.read_toData_iff {m : HalsteadMetrics} :
    HalsteadMetrics.read m.toData = .good m ↔ m.Valid := by
  have hvalid : m.Valid ↔ m.volume.IsAmount ∧ m.difficulty.IsAmount ∧ m.effort.IsAmount ∧
      m.time.IsAmount ∧ m.bugs.IsAmount :=
    ⟨fun h => ⟨h.volume, h.difficulty, h.effort, h.time, h.bugs⟩,
      fun ⟨hvolume, hdifficulty, heffort, htime, hbugs⟩ =>
        ⟨hvolume, hdifficulty, heffort, htime, hbugs⟩⟩
  rw [hvalid]
  simp [HalsteadMetrics.read, HalsteadMetrics.toData, Read.record, Binary64.IsAmount, and_assoc]

theorem LinesOfCode.read_toData (l : LinesOfCode) : LinesOfCode.read l.toData = .good l := by
  simp [LinesOfCode.read, LinesOfCode.toData, Read.record]

theorem ComplexityMetrics.read_toData_iff {c : ComplexityMetrics} :
    ComplexityMetrics.read c.toData = .good c ↔ c.Valid := by
  obtain ⟨cyclomatic, cognitive, halstead, index, lines⟩ := c
  have hvalid : (⟨cyclomatic, cognitive, halstead, index, lines⟩ : ComplexityMetrics).Valid ↔
      1 ≤ cyclomatic ∧ HalsteadMetrics.read halstead.toData = .good halstead ∧ index ≤ 100 := by
    rw [HalsteadMetrics.read_toData_iff]
    exact ⟨fun h => ⟨h.cyclomatic, h.halstead, h.index⟩, fun h => ⟨h.1, h.2.1, h.2.2⟩⟩
  rw [hvalid]
  simp [ComplexityMetrics.read, ComplexityMetrics.toData, Read.record, lines.read_toData, and_assoc]

/-! ## The summary -/

theorem Access.read_toData_iff {a : Access} : Access.read a.toData = .good a ↔ a.Valid := by
  simp [Access.read, Access.toData, Read.record, Access.Valid]

theorem DataFlowNode.read_toData_iff {n : DataFlowNode} :
    DataFlowNode.read n.toData = .good n ↔ n.Valid := by
  simp only [DataFlowNode.Valid, ← Access.read_toData_iff, ← Read.list_eq_good_self_iff]
  obtain ⟨variableName, operations, scope⟩ := n
  simp [DataFlowNode.read, DataFlowNode.toData, Read.record]

theorem ControlFlowNode.read_toData (n : ControlFlowNode) :
    ControlFlowNode.read n.toData = .good n := by
  simp [ControlFlowNode.read, ControlFlowNode.toData, Read.record]

theorem SemanticAnalysis.read_toData_iff {a : SemanticAnalysis} :
    SemanticAnalysis.read a.toData = .good a ↔ a.Valid := by
  have hcontrol : Read.list ControlFlowNode.read (.list ControlFlowNode.toData a.controlFlow) =
      .good a.controlFlow :=
    Read.list_eq_good_self_iff.2 fun n _ => n.read_toData
  simp only [SemanticAnalysis.Valid, ← DataFlowNode.read_toData_iff, ← Read.list_eq_good_self_iff]
  obtain ⟨intent, domain, concepts, dataFlow, controlFlow⟩ := a
  simp [SemanticAnalysis.read, SemanticAnalysis.toData, Read.record, hcontrol]

/-! ## The whole report -/

theorem Report.read_toData_iff {r : Report} (naming : EdgeNaming) :
    Report.read (r.toData naming) = .good r ↔ r.Valid := by
  have hvalid : r.Valid ↔ CodeStructure.read r.code.toData = .good r.code ∧
      Read.list CodePattern.read (.list CodePattern.toData r.patterns) = .good r.patterns ∧
      ComplexityMetrics.read r.complexity.toData = .good r.complexity ∧
      SemanticAnalysis.read r.semantics.toData = .good r.semantics := by
    rw [CodeStructure.read_toData_iff, Read.list_eq_good_self_iff,
      ComplexityMetrics.read_toData_iff, SemanticAnalysis.read_toData_iff]
    simp only [CodePattern.read_toData_iff]
    exact ⟨fun h => ⟨h.code, h.patterns, h.complexity, h.semantics⟩,
      fun h => ⟨h.1, h.2.1, h.2.2.1, h.2.2.2⟩⟩
  have hfindings : Read.list Finding.read (.list Finding.toData r.findings) = .good r.findings :=
    Read.list_eq_good_self_iff.2 fun f _ => f.read_toData
  rw [hvalid]
  obtain ⟨language, code, dependencies, patterns, complexity, findings, semantics⟩ := r
  simp [Report.read, Report.toData, Read.record, dependencies.read_toData naming, hfindings,
    and_assoc]

theorem Literal.read_toData_eq_good_iff {l l' : Literal} :
    Literal.read l.toData = .good l' ↔ l = l' := by
  rw [l.read_toData, Checked.good.injEq]

theorem ConstantValue.read_toData_eq_good_iff {v v' : ConstantValue} :
    ConstantValue.read v.toData = .good v' ↔ v = v' := by
  rw [v.read_toData, Checked.good.injEq]

/-- **A report reads back from its written form exactly if it is valid**, under either naming of
    the references, and what is read back is written as before.  Literals come back as the kind that
    they are and unknown values as unknown, pairs of modules as pairs, and what is absent stays
    absent. -/
theorem report_round_trip (r : Report) (naming : EdgeNaming) :
    (Report.read (r.toData naming) = .good r ↔ r.Valid) ∧
    (r.Valid → (Report.read (r.toData naming)).map (Report.toData naming) =
      .good (r.toData naming)) ∧
    (∀ l l' : Literal, Literal.read l.toData = .good l' ↔ l = l') ∧
    (∀ v v' : ConstantValue, ConstantValue.read v.toData = .good v' ↔ v = v') ∧
    (∀ p q, Read.pair Read.text (DependencyGraph.pairData p) = .good q ↔ p = q) ∧
    (∀ o o', Read.optional Read.text (.optional .text o) = .good o' ↔ o = o') := by
  refine ⟨Report.read_toData_iff naming, fun h => ?_, fun _ _ => Literal.read_toData_eq_good_iff,
    fun _ _ => ConstantValue.read_toData_eq_good_iff, fun _ _ => Read.pair_text_iff,
    fun _ _ => Read.optional_text_iff⟩
  rw [(Report.read_toData_iff naming).2 h]
  rfl

/-- A report of two modules that import each other and of five constants, four of which are bound
    to a five or to true. -/
def fivesReport : Report where
  language := Text.ofString "js"
  code :=
    { constants := [
        ⟨Text.ofString "a", .literal (.text (Text.ofString "5")), .string⟩,
        ⟨Text.ofString "b", .literal (.bool true), .boolean⟩,
        ⟨Text.ofString "c", .literal (.int 5), .number⟩,
        ⟨Text.ofString "d", .literal (.float (.ofInt 5)), .number⟩,
        ⟨Text.ofString "e", .unknown, .object⟩] }
  dependencies :=
    { edges := [⟨Text.ofString "m", Text.ofString "n", .import_⟩,
        ⟨Text.ofString "n", Text.ofString "m", .require⟩]
      cycles := [(Text.ofString "m", Text.ofString "n")]
      depth := 1 }

theorem report_round_trip_fives :
    fivesReport.Valid ∧
    ∀ naming, Report.read (fivesReport.toData naming) = .good fivesReport ∧
      (Report.read (fivesReport.toData naming)).map (Report.toData naming) =
        .good (fivesReport.toData naming) := by
  have hzero : Binary64.zero.IsAmount := by decide
  have hvalid : fivesReport.Valid := by
    refine ⟨⟨?_, ?_, ?_⟩, ?_, ⟨Nat.le_refl 1, ⟨hzero, hzero, hzero, hzero, hzero⟩, Nat.le_refl 100⟩,
      ?_⟩
    · exact List.forall_mem_nil _
    · exact List.forall_mem_nil _
    · exact List.forall_mem_nil _
    · exact List.forall_mem_nil _
    · exact List.forall_mem_nil _
  refine ⟨hvalid, fun naming => ?_⟩
  obtain ⟨hread, hwritten, -⟩ := report_round_trip fivesReport naming
  exact ⟨hread.2 hvalid, hwritten hvalid⟩

end CodeSurvey
