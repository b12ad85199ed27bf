/-
  Operators and operands of a text.

  * `Metrics.operators`, `Metrics.operands`: the operator characters, and the
    longest identifiers of ASCII letters, digits and low lines;
  * `Metrics.TokenCounts`: how many there are, and how many distinct ones;
  * `HalsteadMetrics`: the measures that rest on these counts.
-/
import CodeSurvey.Data.Check

namespace CodeSurvey

namespace Metrics

/-- The characters that are operators. -/
def operatorMarks : Text :=
  Text.ofString "+-*/%=<>!&|^~?:"

/-- The operators of a text. -/
def operators (t : Text) : Text :=
  t.filter fun c => c ∈ operatorMarks

/-- Whether an identifier can start with the code point. -/
def startsName (c : CodePoint) : Bool :=
  (0x41 ≤ c.val && c.val ≤ 0x5A) || (0x61 ≤ c.val && c.val ≤ 0x7A) || c.val == 0x5F

/-- Whether an identifier can go on with the code point. -/
def continuesName (c : CodePoint) : Bool :=
  startsName c || (0x30 ≤ c.val && c.val ≤ 0x39)

/-- The operands of a text: its longest identifiers, from left to right. -/
def operands : Text → List Text
  | [] => []
  | c :: cs =>
    if startsName c then
      (c :: cs.takeWhile continuesName) :: operands (cs.dropWhile continuesName)
    else operands cs
  termination_by t => t.length
  decreasing_by
    · have := (List.dropWhile_suffix (l := cs) continuesName).length_le
      simp only [List.length_cons]
      omega
    · simp

/-- How many operators and operands a text has. -/
structure TokenCounts where
  operators : Nat
  operands : Nat
  distinctOperators : Nat
  distinctOperands : Nat
  deriving DecidableEq, Repr

namespace TokenCounts

/-- The counts of a text. -/
def ofText (t : Text) : TokenCounts where
  operators := (Metrics.operators t).length
  operands := (Metrics.operands t).length
  distinctOperators := (distinct (Metrics.operators t)).length
  distinctOperands := (distinct (Metrics.operands t)).length

/-- The number of distinct tokens. -/
def vocabulary (c : TokenCounts) : Nat :=
  c.distinctOperators + c.distinctOperands

/-- The number of tokens. -/
def length (c : TokenCounts) : Nat :=
  c.operators + c.operands

end TokenCounts

end Metrics

/-- Size and difficulty of a text, from the counts of its tokens. -/
structure HalsteadMetrics where
  operators : Nat := 0
  operands : Nat := 0
  distinctOperators : Nat := 0
  distinctOperands : Nat := 0
  /-- The number of distinct tokens. -/
  vocabulary : Nat := 0
  /-- The number of tokens. -/
  length : Nat := 0
  volume : Binary64 := .zero
  difficulty : Binary64 := .zero
  effort : Binary64 := .zero
  /-- The seconds that it takes to write the text. -/
  time : Binary64 := .zero
  /-- The bugs to expect. -/
  bugs : Binary64 := .zero
  deriving DecidableEq, Repr

namespace HalsteadMetrics

/-- Length times the binary logarithm of the vocabulary; an empty vocabulary counts as one. -/
def volumeOf (c : Metrics.TokenCounts) : Float :=
  Float.ofNat c.length * Float.log2 (Float.ofNat (max c.vocabulary 1))

/-- Half the distinct operators times the uses of each operand. -/
def difficultyOf (c : Metrics.TokenCounts) : Float :=
  Float.ofNat c.distinctOperators / 2 *
    (Float.ofNat c.operands / Float.ofNat (max c.distinctOperands 1))

/-- The measures of the given counts. -/
def ofCounts (c : Metrics.TokenCounts) : HalsteadMetrics :=
  let volume := volumeOf c
  let effort := difficultyOf c * volume
  { operators := c.operators
    operands := c.operands
    distinctOperators := c.distinctOperators
    distinctOperands := c.distinctOperands
    vocabulary := c.vocabulary
    length := c.length
    volume := .ofFloat volume
    difficulty := .ofFloat (difficultyOf c)
    effort := .ofFloat effort
    time := .ofFloat (effort / 18)
    bugs := .ofFloat (volume / 3000) }

/-- The measures of a text. -/
def ofText (t : Text) : HalsteadMetrics :=
  ofCounts (.ofText t)

/-- The written form. -/
def toData (m : HalsteadMetrics) : Data :=
  .object [
    ("operators", .nat m.operators),
    ("operands", .nat m.operands),
    ("distinct_operators", .nat m.distinctOperators),
    ("distinct_operands", .nat m.distinctOperands),
    ("vocabulary", .nat m.vocabulary),
    ("length", .nat m.length),
    ("volume", .float m.volume),
    ("difficulty", .float m.difficulty),
    ("effort", .float m.effort),
    ("time", .float m.time),
    ("bugs", .float m.bugs)]

/-- Read the written form; no number may be negative. -/
def read : Data → Checked HalsteadMetrics :=
  Read.record "HalsteadMetrics" fun fields =>
    HalsteadMetrics.mk <$> Read.default 0 (Read.natural 0) "operators" fields
      <*> Read.default 0 (Read.natural 0) "operands" fields
      <*> Read.default 0 (Read.natural 0) "distinct_operators" fields
      <*> Read.default 0 (Read.natural 0) "distinct_operands" fields
      <*> Read.default 0 (Read.natural 0) "vocabulary" fields
      <*> Read.default 0 (Read.natural 0) "length" fields
      <*> Read.default .zero Read.amount "volume" fields
      <*> Read.default .zero Read.amount "difficulty" fields
      <*> Read.default .zero Read.amount "effort" fields
      <*> Read.default .zero Read.amount "time" fields
      <*> Read.default .zero Read.amount "bugs" fields

end HalsteadMetrics

end CodeSurvey
