/-
  Lines of code.

  A line is blank, a comment or source.  A comment line starts with `//` or `/*`,
  or lies in a block comment that such a line leaves open.

  * `LineKind`, `Metrics.lineKinds`: the kind of every line of a text;
  * `LinesOfCode`: how many lines there are of each kind.
-/
import CodeSurvey.Data.Check
import CodeSurvey.Text.Line

namespace CodeSurvey

/-- What a line is counted as. -/
inductive LineKind where
  | blank
  | comment
  | source
  deriving DecidableEq, Repr

namespace Metrics

/-- The mark that begins a block comment. -/
def blockStart : Text := Text.ofString "/*"

/-- The mark that ends a block comment. -/
def blockEnd : Text := Text.ofString "*/"

/-- The mark that begins a comment up to the end of the line. -/
def lineStart : Text := Text.ofString "//"

/-- The kind of a line, and whether it leaves a block comment open, given whether it starts inside
    one. -/
def lineKind (inBlock : Bool) (line : Text) : LineKind × Bool :=
  let stripped := line.strip
  if stripped.isEmpty then (.blank, inBlock)
  else if inBlock then (.comment, !blockEnd.occurs stripped)
  else if (lineStart.after? stripped).isSome then (.comment, false)
  else match blockStart.after? stripped with
    | some rest => (.comment, !blockEnd.occurs rest)
    | none => (.source, false)

/-- The kinds of some lines. -/
def lineKinds : Bool → List Text → List LineKind
  | _, [] => []
  | inBlock, line :: rest =>
    (lineKind inBlock line).1 :: lineKinds (lineKind inBlock line).2 rest

end Metrics

/-- How many lines a text has, in all and of each kind. -/
structure LinesOfCode where
  total : Nat := 0
  source : Nat := 0
  comments : Nat := 0
  blank : Nat := 0
  deriving DecidableEq, Repr

namespace LinesOfCode

/-- The counts of some lines of known kinds. -/
def ofKinds (kinds : List LineKind) : LinesOfCode where
  total := kinds.length
  source := kinds.count .source
  comments := kinds.count .comment
  blank := kinds.count .blank

/-- The counts of a text. -/
def ofText (t : Text) : LinesOfCode :=
  ofKinds (Metrics.lineKinds false t.lines)

/-- The written form. -/
def toData (l : LinesOfCode) : Data :=
  .object [
    ("total", .nat l.total),
    ("source", .nat l.source),
    ("comments", .nat l.comments),
    ("blank", .nat l.blank)]

/-- Read the written form. -/
def read : Data → Checked LinesOfCode :=
  Read.record "LinesOfCode" fun fields =>
    LinesOfCode.mk <$> Read.default 0 (Read.natural 0) "total" fields
      <*> Read.default 0 (Read.natural 0) "source" fields
      <*> Read.default 0 (Read.natural 0) "comments" fields
      <*> Read.default 0 (Read.natural 0) "blank" fields

end LinesOfCode

end CodeSurvey
