/-
  Cognitive complexity of a text.

  The text is read line by line.  A line with a control keyword costs one more
  than the nesting level; a brace behind the keyword opens a level, and a closing
  brace on any line closes one.

  * `Metrics.Nesting`: the cost so far and the level;
  * `Metrics.Nesting.read`: one more line;
  * `Metrics.cognitive`: the cost of a text.
-/
import CodeSurvey.Text.Line
import CodeSurvey.Text.Word

namespace CodeSurvey.Metrics

/-- The cost so far and the number of open levels. -/
structure Nesting where
  cost : Nat := 0
  level : Nat := 0
  deriving DecidableEq, Repr

/-- The keywords that open a control structure. -/
def controlWords : List Text :=
  [.ofString "if", .ofString "for", .ofString "while"]

/-- The brace that opens a block. -/
def openBrace : CodePoint := 0x7B

/-- The brace that closes a block. -/
def closeBrace : CodePoint := 0x7D

namespace Nesting

/-- The cost and level after the keyword of a line, given what follows it. -/
def enter (n : Nesting) (behind : Option Text) : Nesting :=
  match behind with
  | some rest =>
    { cost := n.cost + 1 + n.level
      level := if openBrace ∈ rest then n.level + 1 else n.level }
  | none => n

/-- The cost and level after a line. -/
def read (n : Nesting) (line : Text) : Nesting :=
  let entered := n.enter (line.afterWord? controlWords)
  if closeBrace ∈ line then { entered with level := entered.level - 1 } else entered

end Nesting

/-- The cognitive complexity of a text. -/
def cognitive (t : Text) : Nat :=
  (t.lines.foldl Nesting.read {}).cost

end CodeSurvey.Metrics
