/-
  The source text under a tree.

  Nodes name ranges of bytes, so the source is kept as its bytes.

  * `Source.ofText`: the source of a text;
  * `Source.text`: the text of a node; bytes that a range cuts out of a form show
    as U+FFFD;
  * `Source.row`, `Source.column`: the line of an offset, from 0, and the number of
    bytes before it on that line.
-/
import CodeSurvey.Text.Utf8
import CodeSurvey.Tree.Basic

namespace CodeSurvey

/-- A source text as its bytes. -/
structure Source where
  bytes : List UInt8
  deriving DecidableEq, Repr

namespace Source

/-- The source of a text. -/
def ofText (t : Text) : Source :=
  ⟨Utf8.encode t⟩

/-- The byte that ends a line. -/
def newline : UInt8 := 10

/-- The text of a node. -/
def text (s : Source) (n : Node) : Text :=
  Utf8.decode ((s.bytes.take n.info.stop).drop n.info.start)

/-- The text of a node that may be absent, in which case it is empty. -/
def textOf (s : Source) : Option Node → Text
  | some n => s.text n
  | none => []

/-- How many lines end before an offset. -/
def row (s : Source) (offset : Nat) : Nat :=
  (s.bytes.take offset).count newline

/-- How many bytes of its line lie before an offset. -/
def column (s : Source) (offset : Nat) : Nat :=
  ((s.bytes.take offset).reverse.takeWhile (· != newline)).length

/-- The line of the first byte of a node, from 1. -/
def firstLine (s : Source) (n : Node) : Nat :=
  s.row n.info.start + 1

/-- The line on which a node ends, from 1. -/
def lastLine (s : Source) (n : Node) : Nat :=
  s.row n.info.stop + 1

end Source

end CodeSurvey
