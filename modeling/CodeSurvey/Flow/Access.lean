/-
  Accesses to variables.

  Each line is searched for the name of a variable.  A line counts as one access
  at most: a modification if the name stands beside a compound assignment or an
  increment, else a write if an assignment follows it, else a read if the name
  stands there at all.

  * `Flow.isModified`, `Flow.isWritten`, `Flow.isRead`: the three tests of a line;
  * `Access`, `DataFlowNode`: the accesses to a variable, in line order;
  * `Flow.dataFlow`: the accesses to every variable of a structure.
-/
import CodeSurvey.Structure.Written
import CodeSurvey.Text.Line
import CodeSurvey.Text.Word

namespace CodeSurvey

/-! ## Accesses -/

/-- The kinds of access. -/
inductive AccessKind where
  | read
  | write
  | modify
  deriving DecidableEq, Repr

instance : Labelled AccessKind where
  all := [.read, .write, .modify]
  label
    | .read => "read"
    | .write => "write"
    | .modify => "modify"

/-- An access to a variable. -/
structure Access where
  kind : AccessKind
  line : Nat
  deriving DecidableEq, Repr

/-- The accesses to a variable, in line order. -/
structure DataFlowNode where
  variableName : Text
  operations : List Access := []
  scope : VariableScope
  deriving DecidableEq, Repr

namespace Flow

/-! ## Names in a line -/

/-- Whether an identifier can go on with the code point. -/
def isNamePart (c : CodePoint) : Bool :=
  isWordPart c || c == '$'

/-- Whether the code point before a name makes it part of a longer one or of a member access. -/
def isMemberPart (c : CodePoint) : Bool :=
  isNamePart c || c == '.'

/-- Whether a text starts with one of the pieces. -/
def startsWithAny (pieces : List Text) (t : Text) : Bool :=
  pieces.any fun piece => piece.isPrefixOf t

/-- The operators that an equals sign makes into a compound assignment. -/
def compoundOperators : List Text :=
  ["**", "<<", ">>>", ">>", "&&", "||", "??", "-", "+", "*", "/", "%", "&", "|", "^"].map
    Text.ofString

/-- The operators that change a variable in place. -/
def stepOperators : List Text :=
  ["++", "--"].map Text.ofString

/-- The compound assignments and the operators that change a variable in place. -/
def modifyingOperators : List Text :=
  compoundOperators.map (· ++ Text.ofString "=") ++ stepOperators

/-- What follows the name when it stands at a cut as a name of its own, with nothing of a member
    access before it. -/
def assigned? (name : Text) (cut : Text.Cut) : Option Text :=
  if cut.before.any isMemberPart then none else name.after? cut.rest

/-- Whether the name comes first and no longer identifier does. -/
def startsWithName (name : Text) (t : Text) : Bool :=
  (name.after? t).any fun rest => !rest.head?.any isNamePart

/-- Whether the name at a cut is changed by the operator behind it. -/
def modifiedAhead (name : Text) (cut : Text.Cut) : Bool :=
  (assigned? name cut).any fun rest => startsWithAny modifyingOperators rest.skipBlank

/-- Whether an operator at a cut changes the name behind it. -/
def modifiedBehind (name : Text) (cut : Text.Cut) : Bool :=
  stepOperators.any fun op =>
    (op.after? cut.rest).any fun rest => rest.afterBlanks.any (startsWithName name)

/-- Whether a line changes the variable in place. -/
def isModified (name line : Text) : Bool :=
  line.cuts.any fun cut => modifiedAhead name cut || modifiedBehind name cut

/-- Whether the text starts with an equals sign that assigns. -/
def startsAssignment : Text → Bool
  | [] => false
  | c :: cs => c == '=' && !cs.head?.any fun d : CodePoint => d == '=' || d == '>'

/-- Whether a line assigns to the variable. -/
def isWritten (name line : Text) : Bool :=
  line.cuts.any fun cut => (assigned? name cut).any fun rest => startsAssignment rest.skipBlank

/-- Whether the name stands in a line as a name of its own. -/
def isRead (name line : Text) : Bool :=
  line.cuts.any fun cut => !cut.before.any isNamePart && startsWithName name cut.rest

/-! ## All accesses -/

/-- The access that a line makes to a variable. -/
def accessKind? (name line : Text) : Option AccessKind :=
  if isModified name line then some .modify
  else if isWritten name line then some .write
  else if isRead name line then some .read
  else none

/-- The accesses that some lines make, the first of which has the given number. -/
def accesses (name : Text) : Nat → List Text → List Access
  | _, [] => []
  | number, line :: rest =>
    ((accessKind? name line).map fun kind => ⟨kind, number⟩).toList ++
      accesses name (number + 1) rest

/-- The accesses to every variable of a structure. -/
def dataFlow (t : Text) (s : CodeStructure) : List DataFlowNode :=
  s.vars.map fun v =>
    { variableName := v.name, operations := accesses v.name 1 t.lines, scope := v.scope }

end Flow

namespace Access

/-- The written form. -/
def toData (a : Access) : Data :=
  .object [("type", Labelled.toData a.kind), ("line", .nat a.line)]

/-- Read the written form; lines count from 1. -/
def read : Data → Checked Access :=
  Read.record "DataFlowOperation" fun fields =>
    Access.mk <$> Read.required Read.member "type" fields
      <*> Read.required (Read.natural 1) "line" fields

end Access

namespace DataFlowNode

/-- The accesses that only assign. -/
def writes (n : DataFlowNode) : List Access :=
  n.operations.filter fun a => a.kind == .write

/-- The accesses that only read. -/
def reads (n : DataFlowNode) : List Access :=
  n.operations.filter fun a => a.kind == .read

/-- The written form. -/
def toData (n : DataFlowNode) : Data :=
  .object [
    ("variable", .text n.variableName),
    ("operations", .list Access.toData n.operations),
    ("scope", Labelled.toData n.scope)]

/-- Read the written form. -/
def read : Data → Checked DataFlowNode :=
  Read.record "DataFlowNode" fun fields =>
    DataFlowNode.mk <$> Read.required Read.text "variable" fields
      <*> Read.default [] (Read.list Access.read) "operations" fields
      <*> Read.required Read.member "scope" fields

end DataFlowNode

end CodeSurvey
