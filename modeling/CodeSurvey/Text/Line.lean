/-
  Lines.

  Lines end at line feeds only, so a text with `n` line feeds has `n + 1` lines,
  the last of them possibly empty.

  * `Text.lines`, `Text.unlines`: a text as its lines;
  * `Text.linesAhead`: each line with the text that follows it;
  * `Text.slice`: the lines from one 1-based number to another, as one text.
-/
import CodeSurvey.Text.Basic

namespace CodeSurvey.Text

/-- The lines of a text. -/
def lines : Text → List Text
  | [] => [[]]
  | c :: cs =>
    if c = CodePoint.newline then [] :: lines cs
    else match lines cs with
      | [] => [[c]]
      | l :: ls => (c :: l) :: ls

/-- The text with the given lines. -/
def unlines (ls : List Text) : Text :=
  join [CodePoint.newline] ls

/-- How many line feeds the text holds. -/
def newlines (t : Text) : Nat :=
  t.count CodePoint.newline

/-- Each line with all that follows it, its line feed first. -/
def linesAhead : Text → List (Text × Text)
  | [] => [([], [])]
  | c :: cs =>
    if c = CodePoint.newline then ([], c :: cs) :: linesAhead cs
    else match linesAhead cs with
      | [] => [([c], cs)]
      | (l, ahead) :: ls => (c :: l, ahead) :: ls

/-- The lines numbered `first` to `last` of a list of lines, as one text.  Lines are numbered
    from 1, and a number outside the list names no line. -/
def slice (ls : List Text) (first last : Nat) : Text :=
  unlines ((ls.take last).drop (first - 1))

theorem lines_ne_nil (t : Text) : lines t ≠ [] := by
  cases t with
  | nil => simp [lines]
  | cons c cs =>
    unfold lines
    split
    · simp
    · split <;> simp

/-- A text has one line more than line feeds. -/
theorem length_lines (t : Text) : (lines t).length = newlines t + 1 := by
  induction t with
  | nil => rfl
  | cons c cs ih =>
    unfold lines newlines
    by_cases h : c = CodePoint.newline
    · simp [h, ih, newlines]
    · have hne := lines_ne_nil cs
      simp only [h, if_false]
      cases hl : lines cs with
      | nil => exact absurd hl hne
      | cons l ls =>
        rw [hl] at ih
        simpa [newlines, List.count_cons, h] using ih

end CodeSurvey.Text
