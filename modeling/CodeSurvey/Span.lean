/-
  Line ranges.

  * `Span`: a first and a last line, in this order; lines count from 1, and the
    range from 0 to 0 stands for an unknown place;
  * `Span.ofLines?`: the range between two lines, unless they are reversed;
  * `Span.contains`: nesting;
  * `Span.toData`, `Span.read`: the written form.
-/
import CodeSurvey.Data.Check

namespace CodeSurvey

/-- A range of lines, both ends included. -/
structure Span where
  first : Nat := 0
  last : Nat := 0
  ordered : first ≤ last := by omega
  deriving DecidableEq, Repr

namespace Span

/-- The range that stands for an unknown place. -/
def unknown : Span := ⟨0, 0, Nat.le_refl 0⟩

/-- The range of a single line. -/
def single (line : Nat) : Span := ⟨line, line, Nat.le_refl line⟩

/-- The range between two lines, if they are in order. -/
def ofLines? (first last : Nat) : Option Span :=
  if h : first ≤ last then some ⟨first, last, h⟩ else none

/-- How many lines the last lies after the first. -/
def length (s : Span) : Nat :=
  s.last - s.first

/-- Whether `inner` lies within the range. -/
def contains (s inner : Span) : Bool :=
  s.first ≤ inner.first && inner.last ≤ s.last

/-- The written form. -/
def toData (s : Span) : Data :=
  .object [("start", .nat s.first), ("end", .nat s.last)]

/-- Read the written form; both lines default to 0. -/
def read : Data → Checked Span :=
  Read.record "SourceSpan" fun fields =>
    ((Prod.mk <$> Read.default 0 (Read.natural 0) "start" fields) <*>
      Read.default 0 (Read.natural 0) "end" fields).andThen fun lines =>
        match ofLines? lines.1 lines.2 with
        | some s => .good s
        | none => .fail (.reversedSpan lines.1 lines.2)

end Span

end CodeSurvey
