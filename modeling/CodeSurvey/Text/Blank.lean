/-
  White space.

  * `isBlank`: the white-space code points, which separate tokens and are
    stripped from the ends of a line;
  * `Text.strip`: a text without the white space at its ends;
  * `Text.skipBlank`, `Text.afterBlanks`: white space before a token.
-/
import CodeSurvey.Text.Basic

namespace CodeSurvey

/-- White space: the separators of Unicode and the control codes that move the
    position or separate information. -/
def isBlank (c : CodePoint) : Bool :=
  (0x09 ≤ c.val && c.val ≤ 0x0D) || (0x1C ≤ c.val && c.val ≤ 0x20) || c.val == 0x85 ||
    c.val == 0xA0 || c.val == 0x1680 || (0x2000 ≤ c.val && c.val ≤ 0x200A) ||
    c.val == 0x2028 || c.val == 0x2029 || c.val == 0x202F || c.val == 0x205F || c.val == 0x3000

/-- A line feed is white space. -/
theorem isBlank_newline : isBlank CodePoint.newline = true := by
  decide

namespace Text

/-- The text without the white space at its ends. -/
def strip (t : Text) : Text :=
  t.trim isBlank

/-- The text without the white space at its start. -/
def skipBlank (t : Text) : Text :=
  t.dropWhile isBlank

/-- The texts left after some of the white space at the start, none of it first. -/
def afterBlanks : Text → List Text
  | [] => [[]]
  | c :: cs => (c :: cs) :: if isBlank c then afterBlanks cs else []

end Text

end CodeSurvey
