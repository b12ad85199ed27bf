/-
  Functions and methods of a tree.

  * `Extract.bindingName`: the name that a function is bound to;
  * `Extract.parameterNames`: the parameters, destructuring patterns as written;
  * `Extract.complexity`: one more than the branches of the subtree;
  * `Extract.calledNames`: the names that are called in the subtree;
  * `Extract.span`, `Extract.functionInfo`: the record, unless the node ends on a
    line before its start.
-/
import CodeSurvey.Structure.Basic
import CodeSurvey.Text.Blank
import CodeSurvey.Tree.Source
import CodeSurvey.Tree.Walk
import CodeSurvey.Extract.Kind

namespace CodeSurvey.Extract

/-- The name of what has no name of its own. -/
def anonymous : Text := Text.ofString "anonymous"

/-- The text unless it is empty. -/
def nonEmpty? (t : Text) : Option Text :=
  if t.isEmpty then none else some t

/-- The lines that a node covers, or the fault of a node that ends before its start. -/
def span (s : Source) (n : Node) : Except Cause Span :=
  match Span.ofLines? (s.firstLine n) (s.lastLine n) with
  | some range => .ok range
  | none => .error (.reversedSpan (s.firstLine n) (s.lastLine n))

/-- The name that a function is bound to: its own, or that of the variable it initialises. -/
def bindingName (s : Source) (p : Place) : Text :=
  match p.node.child? "name" with
  | some name => s.text name
  | none =>
    let target := (p.parent?.filter fun n => n.kind == "variable_declarator").bind (·.child? "name")
    match target with
    | some name => if name.kind == "identifier" then s.text name else anonymous
    | none => anonymous

/-! ## Parameters -/

/-- The pattern inside a parameter with a default, a type annotation or a rest mark. -/
def innerPattern? (n : Node) : Option Node :=
  if n.kind == "assignment_pattern" then n.child? "left"
  else if n.kind == "required_parameter" || n.kind == "optional_parameter" then
    n.child? "pattern"
  else if n.kind == "rest_pattern" then n.namedChildren.head?
  else none

theorem size_innerPattern {n c : Node} (h : innerPattern? n = some c) : c.size < n.size := by
  unfold innerPattern? at h
  split at h
  · exact Node.size_lt_of_mem (Node.child?_mem h)
  split at h
  · exact Node.size_lt_of_mem (Node.child?_mem h)
  split at h
  · exact Node.size_lt_of_mem
      (Node.mem_children_of_mem_namedChildren (List.mem_of_head? h))
  · cases h

/-- The innermost pattern of a parameter. -/
def parameterPattern (n : Node) : Node :=
  match _h : innerPattern? n with
  | some c => parameterPattern c
  | none => n
  termination_by n.size
  decreasing_by exact size_innerPattern (by assumption)

/-- The parameters of a function. -/
def parameterNames (s : Source) (n : Node) : List Text :=
  match n.child? "parameter", n.child? "parameters" with
  | some single, _ => [s.text single]
  | none, some list =>
    (list.namedChildren.filter fun c => c.kind != "comment" && c.kind != "decorator").map
      fun c => s.text (parameterPattern c)
  | none, none => []

/-! ## The body -/

/-- One more than the branches below a node. -/
def complexity (n : Node) : Nat :=
  n.walkBelow.countP Node.isBranch + 1

/-- The name that a call calls: a plain name, or the last part of a member expression. -/
def calleeName? (s : Source) (n : Node) : Option Text :=
  if n.kind == "call_expression" then
    (n.child? "function").bind fun callee =>
      if callee.kind == "identifier" then some (s.text callee)
      else if callee.kind == "member_expression" then
        ((callee.child? "property").filter fun p =>
          p.kind == "property_identifier" || p.kind == "private_property_identifier").map s.text
      else none
  else none

/-- The distinct names called below a node, in the order of the first call. -/
def calledNames (s : Source) (n : Node) : List Text :=
  distinct (n.walkBelow.filterMap (calleeName? s))

/-- The return type as written, without the colon before it. -/
def returnType? (s : Source) (n : Node) : Option Text :=
  let written := s.textOf (n.child? "return_type")
  nonEmpty? (Text.strip (written.dropWhile fun c : CodePoint => c == ':'))

/-- The record of a function under the given name. -/
def functionInfo (s : Source) (n : Node) (name : Text) : Except Cause FunctionInfo :=
  (span s n).map fun range =>
    { name
      params := parameterNames s n
      returnType := returnType? s n
      isAsync := n.children.any fun c => c.kind == "async"
      isArrow := n.kind == "arrow_function"
      span := range
      complexity := complexity n
      calls := calledNames s n }

end CodeSurvey.Extract
