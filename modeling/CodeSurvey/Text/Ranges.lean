/-
  Sets of code points given as tables of ranges.
-/

namespace CodeSurvey

/-- Whether a number lies in one of the ranges, ends included. -/
def inRanges (table : List (Nat × Nat)) (n : Nat) : Bool :=
  table.any fun r => r.1 ≤ n && n ≤ r.2

end CodeSurvey
