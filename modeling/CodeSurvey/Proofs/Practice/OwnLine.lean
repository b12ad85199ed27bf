/-
  The rules look at a function's own lines only.

  * `Practice.check_congr`: what the findings depend on;
  * `Text.line?`: the line of a number, if the text has it;
  * `Practice.AgreeInside`, `Practice.AgreeAbove`: two texts agree on the lines that a function
    covers, and on the line directly above it;
  * `Practice.functionText_eq`, `Practice.lineAbove?_eq`: what the rules read of a text is on these
    lines, wherever the span lies;
  * `Practice.isCommented_of_agree`: so they tell whether it has a comment;
  * `Practice.check_own_lines`: and all findings.
-/
import CodeSurvey.Practice
import Mathlib.Data.List.Basic

namespace CodeSurvey

/-- The line of a number, if the text has it; lines are numbered from 1. -/
def Text.line? (t : Text) (number : Nat) : Option Text :=
  if number = 0 then none else t.lines[number - 1]?

namespace Text

variable {t u : Text} {first last : Nat}

theorem line?_succ (t : Text) (i : Nat) : t.line? (i + 1) = t.lines[i]? := by
  rw [line?, if_neg (Nat.succ_ne_zero i), Nat.add_sub_cancel]

/-- **A slice holds the lines with its numbers, and no others.**  The first number may be 0, which
    names no line, and the last one may be greater than that of the last line of the text. -/
theorem slice_eq_of_line?
    (h : ∀ number, first ≤ number → number ≤ last → t.line? number = u.line? number) :
    slice t.lines first last = slice u.lines first last := by
  unfold slice
  congr 1
  ext i : 1
  simp only [List.getElem?_drop, List.getElem?_take]
  split
  · rw [← line?_succ, ← line?_succ]
    exact h _ (by omega) (by omega)
  · rfl

end Text

namespace Practice

variable {t u : Text} {ls ms : List Text} {f : FunctionInfo} {fs : List FunctionInfo}
  {s : CodeStructure}

/-! ## What the findings depend on -/

theorem errorHandling_congr
    (h : ∀ f ∈ fs, handlesErrors (functionText ls f) = handlesErrors (functionText ms f)) :
    errorHandling ls fs = errorHandling ms fs := by
  have hfilter : fs.filter (fun f => f.isAsync && !handlesErrors (functionText ls f)) =
      fs.filter fun f => f.isAsync && !handlesErrors (functionText ms f) :=
    List.filter_congr fun f hf => by rw [h f hf]
  rw [errorHandling, errorHandling, hfilter]

theorem comments_congr (config : AnalysisConfig)
    (h : ∀ f ∈ fs, isCommented ls f = isCommented ms f) :
    comments config ls fs = comments config ms fs := by
  have hcount : fs.countP (isCommented ls) = fs.countP (isCommented ms) :=
    List.countP_congr fun f hf => by rw [h f hf]
  rw [comments, comments, hcount]

/-- A text shows in the findings by which functions handle errors and which have a comment. -/
theorem check_congr (config : AnalysisConfig)
    (herrors : ∀ f ∈ s.allFunctions,
      handlesErrors (functionText t.lines f) = handlesErrors (functionText u.lines f))
    (hcomments : ∀ f ∈ s.allFunctions, isCommented t.lines f = isCommented u.lines f) :
    check config t s = check config u s := by
  rw [check, check, errorHandling_congr herrors, comments_congr config hcomments]

/-! ## A single function -/

/-- The texts agree on every line that the function covers; a line may be absent from both. -/
def AgreeInside (t u : Text) (f : FunctionInfo) : Prop :=
  ∀ number, f.span.first ≤ number → number ≤ f.span.last → t.line? number = u.line? number

instance : Decidable (AgreeInside t u f) :=
  decidable_of_iff
    (∀ number, number ≤ f.span.last → f.span.first ≤ number → t.line? number = u.line? number)
    ⟨fun h number hfirst hlast => h number hlast hfirst,
      fun h number hlast hfirst => h number hfirst hlast⟩

/-- The texts agree on the line directly above the function; it may be absent from both. -/
def AgreeAbove (t u : Text) (f : FunctionInfo) : Prop :=
  t.line? (f.span.first - 1) = u.line? (f.span.first - 1)

instance : Decidable (AgreeAbove t u f) :=
  inferInstanceAs (Decidable (_ = _))

theorem functionText_eq (h : AgreeInside t u f) : functionText t.lines f = functionText u.lines f :=
  Text.slice_eq_of_line? h

/-- The line above a function that starts on line 0 or 1 is that of the number 0, which is none. -/
theorem lineAbove?_lines (t : Text) (f : FunctionInfo) :
    lineAbove? t.lines f = t.line? (f.span.first - 1) := by
  unfold lineAbove? Text.line?
  by_cases hfirst : 2 ≤ f.span.first
  · rw [if_pos hfirst, if_neg (by omega), Nat.sub_sub]
  · rw [if_neg hfirst, if_pos (by omega)]

theorem lineAbove?_eq (h : AgreeAbove t u f) : lineAbove? t.lines f = lineAbove? u.lines f := by
  rw [lineAbove?_lines, lineAbove?_lines, h]

/-- The lines of a function tell whether it has a comment, together with the line above it. -/
theorem isCommented_of_agree (hinside : AgreeInside t u f) (habove : AgreeAbove t u f) :
    isCommented t.lines f = isCommented u.lines f := by
  rw [isCommented, isCommented, functionText_eq hinside, lineAbove?_eq habove]

/-- **The rules look at a function's own lines only.**  Whether a function lacks error handling is
    told by the lines that it covers; whether it has a comment, by these and the line directly above
    it; and texts that agree on these lines, for every function and method, have the same findings,
    whatever stands on their other lines. -/
theorem check_own_lines (t u : Text) :
    (∀ f, AgreeInside t u f → errorHandling t.lines [f] = errorHandling u.lines [f]) ∧
    (∀ f, AgreeInside t u f → AgreeAbove t u f →
      isCommented t.lines f = isCommented u.lines f) ∧
    ∀ (config : AnalysisConfig) (s : CodeStructure),
      (∀ f ∈ s.allFunctions, AgreeInside t u f ∧ AgreeAbove t u f) →
      check config t s = check config u s := by
  have herrors : ∀ f, AgreeInside t u f →
      handlesErrors (functionText t.lines f) = handlesErrors (functionText u.lines f) := by
    intro f hinside
    rw [functionText_eq hinside]
  refine ⟨?_, fun _ => isCommented_of_agree, ?_⟩
  · intro f hinside
    exact errorHandling_congr (List.forall_mem_singleton.2 (herrors f hinside))
  · intro config s hagree
    exact check_congr config (fun f hf => herrors f (hagree f hf).1)
      fun f hf => isCommented_of_agree (hagree f hf).1 (hagree f hf).2

/-- A text with a function on its first and on its last line, and a line of none between them. -/
def textAround (line : String) : Text :=
  Text.ofString ("async load() \x7b go() \x7d\n\n" ++ line ++ "\n\nasync () => go()")

/-- Its functions; one is taken to start on line 0 and one to reach past the end. -/
def edgeStructure : CodeStructure where
  functions := [{ name := .ofString "anonymous", isAsync := true, span := ⟨5, 9, by decide⟩ }]
  classes := [{ name := .ofString "Loader",
                methods := [{ name := .ofString "load", isAsync := true, span := ⟨0, 1, by decide⟩ },
                  { name := .ofString "save", isAsync := true, span := ⟨1, 1, by decide⟩ }] }]

/-- A line with error handling and a comment, which is not of a function, changes no finding. -/
theorem check_own_lines_between :
    textAround "try \x7b go() \x7d catch (e) \x7b /* ignored */ \x7d" ≠ textAround "go()" ∧
    (check { minFunctionsForComments := 0 } (textAround "go()") edgeStructure).length = 4 ∧
    check { minFunctionsForComments := 0 }
        (textAround "try \x7b go() \x7d catch (e) \x7b /* ignored */ \x7d") edgeStructure =
      check { minFunctionsForComments := 0 } (textAround "go()") edgeStructure := by
  refine ⟨by decide +kernel, by decide +kernel, ?_⟩
  exact (check_own_lines _ _).2.2 _ _ (by decide +kernel)

end Practice

end CodeSurvey
