/-
  How the findings depend on the thresholds.

  * `AnalysisConfig.Loosens`: no threshold of one configuration asks for more than that of another;
  * `Practice.naming_sublist`, `Practice.length_sublist`, `Practice.parameters_sublist`,
    `Practice.comments_sublist`: a rule finds less, if anything, when its thresholds are loosened;
  * `Practice.ofRule_check`: the findings about error handling are those of their own rule, in
    which there is no threshold;
  * `Practice.check_sublist_of_loosens`: all findings.
-/
import CodeSurvey.Practice
import Mathlib.Data.List.Basic

namespace CodeSurvey

/-- The order of numbers is transitive; a NaN is in no relation. -/
theorem Binary64.le_trans {x y z : Binary64} (hxy : x.le y = true) (hyz : y.le z = true) :
    x.le z = true := by
  simp only [le, Bool.and_eq_true, decide_eq_true_eq] at *
  exact ⟨⟨hxy.1.1, hyz.1.2⟩, Int.le_trans hxy.2 hyz.2⟩

/-- The second configuration asks for no more than the first one: it is content with shorter names,
    exempts at least the same ones, and so on. -/
structure AnalysisConfig.Loosens (strict loose : AnalysisConfig) : Prop where
  minNameLength : loose.minNameLength ≤ strict.minNameLength
  shortNames : strict.shortNames ⊆ loose.shortNames
  maxFunctionLines : strict.maxFunctionLines ≤ loose.maxFunctionLines
  maxParameters : strict.maxParameters ≤ loose.maxParameters
  minCommentRatio : loose.minCommentRatio.le strict.minCommentRatio = true
  minFunctionsForComments : strict.minFunctionsForComments ≤ loose.minFunctionsForComments

namespace Practice

variable {strict loose config : AnalysisConfig} {ls : List Text} {fs : List FunctionInfo}

/-! ## Rules for a single function -/

theorem naming_sublist (h : strict.Loosens loose) (fs : List FunctionInfo) :
    (naming loose fs).Sublist (naming strict fs) := by
  refine (List.monotone_filter_right fs ?_).map namingFinding
  intro f hf
  simp only [Bool.and_eq_true, decide_eq_true_eq] at hf ⊢
  exact ⟨Nat.lt_of_lt_of_le hf.1 h.minNameLength, fun hmem => hf.2 (h.shortNames hmem)⟩

theorem length_sublist (h : strict.Loosens loose) (fs : List FunctionInfo) :
    (length loose fs).Sublist (length strict fs) := by
  refine (List.monotone_filter_right fs ?_).map lengthFinding
  intro f hf
  rw [decide_eq_true_eq] at hf ⊢
  exact Nat.lt_of_le_of_lt h.maxFunctionLines hf

theorem parameters_sublist (h : strict.Loosens loose) (fs : List FunctionInfo) :
    (parameters loose fs).Sublist (parameters strict fs) := by
  refine (List.monotone_filter_right fs ?_).map parametersFinding
  intro f hf
  rw [decide_eq_true_eq] at hf ⊢
  exact Nat.lt_of_le_of_lt h.maxParameters hf

/-! ## The share of functions with a comment -/

/-- There are functions enough for their comments to matter, and too few of them have one. -/
def LacksComments (config : AnalysisConfig) (ls : List Text) (fs : List FunctionInfo) : Prop :=
  config.minFunctionsForComments < fs.length ∧
    ¬ config.minCommentRatio.le (.ofQuotient false (fs.countP (isCommented ls)) fs.length) = true

instance : Decidable (LacksComments config ls fs) :=
  inferInstanceAs (Decidable (_ ∧ _))

theorem comments_eq (config : AnalysisConfig) (ls : List Text) (fs : List FunctionInfo) :
    comments config ls fs =
      if LacksComments config ls fs then
        [commentsFinding (fs.countP (isCommented ls)) fs.length]
      else [] := by
  unfold comments LacksComments
  by_cases hfew : fs.length ≤ config.minFunctionsForComments
  · simp [hfew, Nat.not_lt.2 hfew]
  · simp only [hfew, Nat.lt_of_not_le hfew, if_false, true_and, ite_not]

theorem LacksComments.of_loosens (h : strict.Loosens loose) (hloose : LacksComments loose ls fs) :
    LacksComments strict ls fs := by
  obtain ⟨hmany, hratio⟩ := hloose
  refine ⟨Nat.lt_of_le_of_lt h.minFunctionsForComments hmany, ?_⟩
  intro henough
  exact hratio (Binary64.le_trans h.minCommentRatio henough)

theorem comments_sublist (h : strict.Loosens loose) (ls : List Text) (fs : List FunctionInfo) :
    (comments loose ls fs).Sublist (comments strict ls fs) := by
  rw [comments_eq, comments_eq]
  by_cases hloose : LacksComments loose ls fs
  · rw [if_pos hloose, if_pos (hloose.of_loosens h)]
  · rw [if_neg hloose]
    exact List.nil_sublist _

/-! ## Error handling -/

/-- The rule about error handling, as its findings name it. -/
def errorRule : Text :=
  Text.ofString "error-handling"

/-- The findings of a rule. -/
def ofRule (rule : Text) (findings : List Finding) : List Finding :=
  findings.filter fun finding => finding.rule = rule

theorem ofRule_append (rule : Text) (l r : List Finding) :
    ofRule rule (l ++ r) = ofRule rule l ++ ofRule rule r :=
  List.filter_append ..

theorem ofRule_map_self {rule : Text} (finding : FunctionInfo → Finding)
    (h : ∀ f, (finding f).rule = rule) (fs : List FunctionInfo) :
    ofRule rule (fs.map finding) = fs.map finding := by
  simp [ofRule, h]

theorem ofRule_map_of_ne {rule : Text} (finding : FunctionInfo → Finding)
    (h : ∀ f, (finding f).rule ≠ rule) (fs : List FunctionInfo) :
    ofRule rule (fs.map finding) = [] := by
  simp [ofRule, h]

theorem ofRule_comments {rule : Text} (h : ∀ n m, (commentsFinding n m).rule ≠ rule)
    (config : AnalysisConfig) (ls : List Text) (fs : List FunctionInfo) :
    ofRule rule (comments config ls fs) = [] := by
  rw [comments_eq]
  split <;> simp [ofRule, h]

/-- **The findings about error handling are those of one rule**, which knows no threshold. -/
theorem ofRule_check (config : AnalysisConfig) (t : Text) (s : CodeStructure) :
    ofRule errorRule (check config t s) = errorHandling t.lines s.allFunctions := by
  have hnaming : Text.ofString "naming-convention" ≠ errorRule := by decide
  have hlength : Text.ofString "function-length" ≠ errorRule := by decide
  have hparameters : Text.ofString "parameter-count" ≠ errorRule := by decide
  have hcomments : Text.ofString "comment-coverage" ≠ errorRule := by decide
  simp only [check, ofRule_append, naming, length, parameters, errorHandling,
    ofRule_map_of_ne namingFinding fun _ => hnaming,
    ofRule_map_of_ne lengthFinding fun _ => hlength,
    ofRule_map_of_ne parametersFinding fun _ => hparameters,
    ofRule_comments fun _ _ => hcomments, List.nil_append, List.append_nil]
  exact ofRule_map_self errorHandlingFinding (fun _ => rfl) _

/-! ## All rules -/

/-- **Loosening thresholds never adds a finding.**  What is left is found under the stricter thresholds
    too, and in the same order; all findings about error handling are left. -/
theorem check_sublist_of_loosens (h : strict.Loosens loose) (t : Text) (s : CodeStructure) :
    (check loose t s).Sublist (check strict t s) ∧
    ofRule errorRule (check loose t s) = ofRule errorRule (check strict t s) := by
  constructor
  · have hnaming := naming_sublist h s.allFunctions
    have hlength := length_sublist h s.allFunctions
    have hparameters := parameters_sublist h s.allFunctions
    have hcomments := comments_sublist h t.lines s.allFunctions
    exact (((hnaming.append hlength).append hparameters).append (.refl _)).append hcomments
  · rw [ofRule_check, ofRule_check]

/-- Thresholds that ask for a comment in every unit with a function. -/
def strictConfig : AnalysisConfig where
  maxParameters := 1
  minFunctionsForComments := 0

/-- Thresholds that exempt another name and allow for more parameters, but no comments. -/
def looseConfig : AnalysisConfig where
  shortNames := [.ofString "go", .ofString "run", .ofString "io"]
  minCommentRatio := .zero
  minFunctionsForComments := 0

/-- A function with a short name, two parameters and neither a comment nor error handling. -/
def inputText : Text :=
  Text.ofString "async function io(a, b) \x7b\n  await go(a, b)\n\x7d"

/-- The structure of it. -/
def inputStructure : CodeStructure where
  functions := [{ name := .ofString "io", params := [.ofString "a", .ofString "b"], isAsync := true,
                  span := ⟨1, 3, by decide⟩ }]

/-- Of four findings the one about error handling is left. -/
theorem check_sublist_of_loosens_input :
    strictConfig.Loosens looseConfig ∧
    (check strictConfig inputText inputStructure).length = 4 ∧
    (check looseConfig inputText inputStructure).length = 1 ∧
    (check looseConfig inputText inputStructure).Sublist
      (check strictConfig inputText inputStructure) ∧
    ofRule errorRule (check looseConfig inputText inputStructure) =
      ofRule errorRule (check strictConfig inputText inputStructure) := by
  have hloosens : strictConfig.Loosens looseConfig :=
    ⟨by decide, List.subset_append_left _ _, by decide, by decide, by decide +kernel, by decide⟩
  exact ⟨hloosens, by decide +kernel, by decide +kernel,
    check_sublist_of_loosens hloosens inputText inputStructure⟩

end Practice

end CodeSurvey
