/-
  The complexity of a text.

  * `Metrics.maintainability`: the maintainability index from 0 to 100, of volume,
    cyclomatic complexity and lines, or why there is none;
  * `ComplexityMetrics.ofText`, `ComplexityMetrics.ofFunction`: all measures of a
    text, and of the lines of a function;
  * `ComplexityMetrics.ofLines`: the measures of a text in a language without
    grammar, of which only the lines are counted.
-/
import CodeSurvey.Metrics.Decision
import CodeSurvey.Metrics.LineCount
import CodeSurvey.Metrics.Nesting
import CodeSurvey.Metrics.Token
import CodeSurvey.Structure.Basic

namespace CodeSurvey

namespace Metrics

/-! ## Maintainability -/

/-- The natural logarithm, which takes zero for one. -/
def logarithm (x : Binary64) : Float :=
  Float.log (if x.isZero then 1 else x.toFloat)

/-- The nearest integer from 0 to 100, a half going up. -/
def clampedIndex (x : Float) : Nat :=
  let capped := if x < 100 then x else 100
  let clamped := if 0 < capped then capped else 0
  min (Float.floor (clamped + 0.5)).toUInt64.toNat 100

/-- The maintainability index. -/
def maintainabilityIndex (volume : Binary64) (cyclomatic sourceLines : Int) : Nat :=
  clampedIndex
    ((171 - 5.2 * logarithm volume - 0.23 * (Binary64.ofInt cyclomatic).toFloat -
      16.2 * logarithm (.ofInt sourceLines)) * 100 / 171)

/-- Why there is no maintainability index. -/
inductive DomainError where
  /-- A logarithm of a negative number was asked for. -/
  | negativeLogarithm
  /-- The complexity is beyond all numbers. -/
  | tooLarge
  deriving DecidableEq, Repr

/-- The sentence for an index that there is not. -/
def DomainError.message : DomainError → Text
  | negativeLogarithm => Text.ofString "math domain error"
  | tooLarge => Text.ofString "int too large to convert to float"

/-- The maintainability index, or the first thing that keeps it from being computed. -/
def maintainability (volume : Binary64) (cyclomatic sourceLines : Int) :
    Except DomainError Nat :=
  if volume.lt .zero then .error .negativeLogarithm
  else if !(Binary64.ofInt cyclomatic).isFinite then .error .tooLarge
  else if sourceLines < 0 then .error .negativeLogarithm
  else .ok (maintainabilityIndex volume cyclomatic sourceLines)

end Metrics

/-! ## All measures -/

/-- The complexity of a text. -/
structure ComplexityMetrics where
  cyclomatic : Nat := 1
  cognitive : Nat := 0
  halstead : HalsteadMetrics := {}
  maintainabilityIndex : Nat := 100
  linesOfCode : LinesOfCode := {}
  deriving DecidableEq, Repr

namespace ComplexityMetrics

/-- All measures of a text. -/
def ofText (t : Text) : ComplexityMetrics :=
  let lines := LinesOfCode.ofText t
  let halstead := HalsteadMetrics.ofText t
  let cyclomatic := Metrics.cyclomatic t
  { cyclomatic
    cognitive := Metrics.cognitive t
    halstead
    maintainabilityIndex :=
      Metrics.maintainabilityIndex halstead.volume cyclomatic lines.source
    linesOfCode := lines }

/-- All measures of the lines that a function covers. -/
def ofFunction (t : Text) (f : FunctionInfo) : ComplexityMetrics :=
  ofText (Text.slice t.lines f.span.first f.span.last)

/-- The measures of a text of which only the lines are counted. -/
def ofLines (t : Text) : ComplexityMetrics :=
  let lines := LinesOfCode.ofText t
  { maintainabilityIndex := Metrics.maintainabilityIndex .zero 1 lines.source
    linesOfCode := lines }

/-- The written form. -/
def toData (c : ComplexityMetrics) : Data :=
  .object [
    ("cyclomatic", .nat c.cyclomatic),
    ("cognitive", .nat c.cognitive),
    ("halstead", c.halstead.toData),
    ("maintainability_index", .nat c.maintainabilityIndex),
    ("lines_of_code", c.linesOfCode.toData)]

/-- Read the written form. -/
def read : Data → Checked ComplexityMetrics :=
  Read.record "ComplexityMetrics" fun fields =>
    ComplexityMetrics.mk <$> Read.default 1 (Read.natural 1) "cyclomatic" fields
      <*> Read.default 0 (Read.natural 0) "cognitive" fields
      <*> Read.default {} HalsteadMetrics.read "halstead" fields
      <*> Read.default 100 (Read.naturalWithin 0 100) "maintainability_index" fields
      <*> Read.default {} LinesOfCode.read "lines_of_code" fields

end ComplexityMetrics

end CodeSurvey
