/-
  The written form of a structure reads back.

  * `FunctionInfo.Valid`, `ImportInfo.Valid`, `ClassInfo.Valid`, `CodeStructure.Valid`: the
    constraints on fields that their types leave open; that the lines of a range are in
    order, and that kinds and scopes are among the known ones, the types say;
  * `CodeStructure.read_toData_iff`: the written form of a structure reads back exactly if
    the structure is valid, so that these are all constraints that reading checks.
-/
import CodeSurvey.Structure.Written
import CodeSurvey.Proofs.Data.Check

namespace CodeSurvey

/-! ## Constraints -/

/-- At least one path leads through the function. -/
def FunctionInfo.Valid (f : FunctionInfo) : Prop :=
  1 ≤ f.complexity

/-- The methods are valid. -/
def ClassInfo.Valid (c : ClassInfo) : Prop :=
  ∀ m ∈ c.methods, m.Valid

/-- The import names a module. -/
def ImportInfo.Valid (i : ImportInfo) : Prop :=
  i.source ≠ []

/-- All records are valid. -/
structure CodeStructure.Valid (s : CodeStructure) : Prop where
  functions : ∀ f ∈ s.functions, f.Valid
  classes : ∀ c ∈ s.classes, c.Valid
  imports : ∀ i ∈ s.imports, i.Valid

/-! ## Words -/

instance ExportKind.instLawfulLabelled : LawfulLabelled ExportKind where
  ofLabel?_label k := by cases k <;> decide +kernel

instance VariableScope.instLawfulLabelled : LawfulLabelled VariableScope where
  ofLabel?_label s := by cases s <;> decide +kernel

instance VariableKind.instLawfulLabelled : LawfulLabelled VariableKind where
  ofLabel?_label k := by cases k <;> decide +kernel

instance ConstantType.instLawfulLabelled : LawfulLabelled ConstantType where
  ofLabel?_label t := by cases t <;> decide +kernel

/-! ## Records -/

@[simp] theorem Span.read_toData_iff {s r : Span} : Span.read s.toData = .good r ↔ s = r := by
  obtain ⟨first, last, ordered⟩ := s
  simp [Span.read, Span.toData, Read.record, Span.ofLines?, ordered]

theorem FunctionInfo.read_toData_iff {f : FunctionInfo} :
    FunctionInfo.read f.toData = .good f ↔ f.Valid := by
  simp [FunctionInfo.read, FunctionInfo.toData, Read.record, FunctionInfo.Valid]

theorem ClassInfo.read_toData_iff {c : ClassInfo} :
    ClassInfo.read c.toData = .good c ↔ c.Valid := by
  simp only [ClassInfo.Valid, ← FunctionInfo.read_toData_iff, ← Read.list_eq_good_self_iff]
  obtain ⟨name, superclass, interfaces, methods, properties, span⟩ := c
  simp [ClassInfo.read, ClassInfo.toData, Read.record]

theorem ImportBinding.read_toData (b : ImportBinding) : ImportBinding.read b.toData = .good b := by
  simp [ImportBinding.read, ImportBinding.toData, Read.record]

theorem ImportInfo.read_toData_iff {i : ImportInfo} :
    ImportInfo.read i.toData = .good i ↔ i.Valid := by
  have hb : Read.list ImportBinding.read (.list ImportBinding.toData i.bindings) = .good i.bindings :=
    Read.list_eq_good_self_iff.2 fun b _ => b.read_toData
  simp [ImportInfo.read, ImportInfo.toData, Read.record, ImportInfo.Valid, hb]

theorem ExportInfo.read_toData (e : ExportInfo) : ExportInfo.read e.toData = .good e := by
  simp [ExportInfo.read, ExportInfo.toData, Read.record]

theorem VariableInfo.read_toData (v : VariableInfo) : VariableInfo.read v.toData = .good v := by
  simp [VariableInfo.read, VariableInfo.toData, Read.record]

/-! ## Literals and constants -/

/-- Each kind of literal reads back as its own kind. -/
theorem Literal.read_toData (l : Literal) : Literal.read l.toData = .good l := by
  cases l with
  | text t => rfl
  | bool b => rfl
  | int n => rfl
  | float x => rfl

theorem ConstantValue.read_toData (v : ConstantValue) : ConstantValue.read v.toData = .good v := by
  have hl : (Data.str "literal").isStr "literal" = true := by decide +kernel
  have hu : (Data.str "unknown").isStr "unknown" = true := by decide +kernel
  have hul : (Data.str "unknown").isStr "literal" = false := by decide +kernel
  cases v with
  | literal l =>
    simp [ConstantValue.read, ConstantValue.toData, readLiteral, readTag, Read.record, Data.get?, hl,
      l.read_toData]
  | unknown =>
    simp [ConstantValue.read, ConstantValue.toData, readUnknown, readTag, Read.record, Data.get?, hu,
      hul]

theorem ConstantInfo.read_toData (c : ConstantInfo) : ConstantInfo.read c.toData = .good c := by
  simp [ConstantInfo.read, ConstantInfo.toData, Read.record, c.value.read_toData]

/-! ## The whole unit -/

/-- **The written form of a structure reads back exactly if the structure is valid.** -/
theorem CodeStructure.read_toData_iff {s : CodeStructure} :
    CodeStructure.read s.toData = .good s ↔ s.Valid := by
  have hvalid : s.Valid ↔ (∀ f ∈ s.functions, f.Valid) ∧ (∀ c ∈ s.classes, c.Valid) ∧
      ∀ i ∈ s.imports, i.Valid :=
    ⟨fun h => ⟨h.functions, h.classes, h.imports⟩, fun h => ⟨h.1, h.2.1, h.2.2⟩⟩
  have hexports : Read.list ExportInfo.read (.list ExportInfo.toData s.exports) = .good s.exports :=
    Read.list_eq_good_self_iff.2 fun e _ => e.read_toData
  have hvars : Read.list VariableInfo.read (.list VariableInfo.toData s.vars) = .good s.vars :=
    Read.list_eq_good_self_iff.2 fun v _ => v.read_toData
  have hconstants : Read.list ConstantInfo.read (.list ConstantInfo.toData s.constants) =
      .good s.constants :=
    Read.list_eq_good_self_iff.2 fun c _ => c.read_toData
  simp only [hvalid, ← FunctionInfo.read_toData_iff, ← ClassInfo.read_toData_iff,
    ← ImportInfo.read_toData_iff, ← Read.list_eq_good_self_iff]
  obtain ⟨functions, classes, imports, exports, vars, constants⟩ := s
  simp [CodeStructure.read, CodeStructure.toData, Read.record, hexports, hvars, hconstants]

end CodeSurvey
