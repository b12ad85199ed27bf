/-
  Branches and loops of a text.

  * `Flow.condition?`: the balanced parentheses that come first in a text;
  * `Flow.blockWindow`: a text up to the brace that closes its first block, and
    `Flow.blockEnd`, the same as an offset;
  * `ControlFlowNode`: an `if`, a loop or a `switch`;
  * `Flow.controlFlow`: those of a text, in line order.

  A line comes with the text ahead of it, in which a `switch` finds its block; a loop that keeps the
  offset of the line instead finds the same (`Flow.Listing.ofLines_lines`).
-/
import CodeSurvey.Metrics.Nesting
import CodeSurvey.Span

namespace CodeSurvey

/-- The kinds of construct. -/
inductive ControlFlowKind where
  | if_
  | loop
  | switch
  deriving DecidableEq, Repr

instance : Labelled ControlFlowKind where
  all := [.if_, .loop, .switch]
  label
    | .if_ => "if"
    | .loop => "loop"
    | .switch => "switch"

/-- A branch or loop. -/
structure ControlFlowNode where
  kind : ControlFlowKind
  /-- The condition of an `if`. -/
  condition : Option Text := none
  branches : Nat := 1
  span : Span := .unknown
  deriving DecidableEq, Repr

namespace Flow

/-! ## Conditions -/

/-- The text up to the parenthesis that closes `depth` open ones and one more. -/
def inParentheses? : Nat → Text → Option Text
  | _, [] => none
  | depth, c :: cs =>
    if c = '(' then (inParentheses? (depth + 1) cs).map (c :: ·)
    else if c = ')' then
      match depth with
      | 0 => some []
      | depth + 1 => (inParentheses? depth cs).map (c :: ·)
    else (inParentheses? depth cs).map (c :: ·)

/-- The text between the balanced parentheses that come first, after white space alone. -/
def condition? (t : Text) : Option Text :=
  match t.skipBlank with
  | [] => none
  | c :: cs => if c = '(' then (inParentheses? 0 cs).map Text.strip else none

/-! ## Blocks -/

/-- How many code points it takes to close `depth` open blocks and one more, or all there are. -/
def closeLength : Nat → Text → Nat
  | _, [] => 0
  | depth, c :: cs =>
    if c = Metrics.openBrace then closeLength (depth + 1) cs + 1
    else if c = Metrics.closeBrace then
      match depth with
      | 0 => 1
      | depth + 1 => closeLength depth cs + 1
    else closeLength depth cs + 1

/-- How many code points reach just past the end of the first block, or all there are. -/
def blockLength : Text → Nat
  | [] => 0
  | c :: cs =>
    if c = Metrics.openBrace then closeLength 0 cs + 1 else blockLength cs + 1

/-- The text up to the end of its first block. -/
def blockWindow (t : Text) : Text :=
  t.take (blockLength t)

/-- The offset just past the first block behind `start`. -/
def blockEnd (t : Text) (start : Nat) : Nat :=
  start + blockLength (t.drop start)

/-! ## Constructs of a line -/

/-- The `if` of a line; an `else` on the same line is its second branch. -/
def ifNode? (number : Nat) (line : Text) : Option ControlFlowNode :=
  (line.afterWord? [.ofString "if"]).map fun rest =>
    { kind := .if_
      condition := condition? rest
      branches := if line.hasWord (.ofString "else") then 2 else 1
      span := .single number }

/-- The loop of a line. -/
def loopNode? (number : Nat) (line : Text) : Option ControlFlowNode :=
  (line.afterWord? [.ofString "for", .ofString "while"]).map fun _ =>
    { kind := .loop, span := .single number }

/-- A `switch` that starts on the line of the given number: it has a branch for each `case` of the
    window behind its keyword. -/
def switchNode (number : Nat) (window : Text) : ControlFlowNode where
  kind := .switch
  branches := window.countWord (.ofString "case")
  span := ⟨number, number + window.newlines, Nat.le_add_right _ _⟩

/-- The `switch` of a line, given the text that follows the line: its window goes up to the end of
    its block. -/
def switchNode? (number : Nat) (line ahead : Text) : Option ControlFlowNode :=
  (line.afterWord? [.ofString "switch"]).map fun rest =>
    switchNode number (blockWindow (rest ++ ahead))

/-- The constructs of a line. -/
def lineNodes (number : Nat) (line ahead : Text) : List ControlFlowNode :=
  (ifNode? number line).toList ++ (loopNode? number line).toList ++
    (switchNode? number line ahead).toList

/-- The constructs of some lines, the first of which has the given number. -/
def nodesFrom : Nat → List (Text × Text) → List ControlFlowNode
  | _, [] => []
  | number, (line, ahead) :: rest => lineNodes number line ahead ++ nodesFrom (number + 1) rest

/-- The branches and loops of a text. -/
def controlFlow (t : Text) : List ControlFlowNode :=
  nodesFrom 1 t.linesAhead

end Flow

namespace ControlFlowNode

/-- The written form. -/
def toData (n : ControlFlowNode) : Data :=
  .object [
    ("type", Labelled.toData n.kind),
    ("condition", .optional .text n.condition),
    ("branches", .nat n.branches),
    ("span", n.span.toData)]

/-- Read the written form. -/
def read : Data → Checked ControlFlowNode :=
  Read.record "ControlFlowNode" fun fields =>
    ControlFlowNode.mk <$> Read.required Read.member "type" fields
      <*> Read.default none (Read.optional Read.text) "condition" fields
      <*> Read.default 1 (Read.natural 0) "branches" fields
      <*> Read.default .unknown Span.read "span" fields

end ControlFlowNode

end CodeSurvey
