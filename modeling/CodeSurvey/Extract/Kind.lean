/-
  The kinds of nodes that matter for a structure.

  Grammars of the language family share the names of their nodes, so that the
  kinds are recognised by name.
-/
import CodeSurvey.Tree.Basic

namespace CodeSurvey.Node

/-- Functions outside class bodies. -/
def functionKinds : List String :=
  ["function_declaration", "generator_function_declaration", "function_expression", "function",
    "generator_function", "arrow_function"]

/-- Class declarations. -/
def classKinds : List String :=
  ["class_declaration", "abstract_class_declaration"]

/-- Nodes that add a path to a function. -/
def branchKinds : List String :=
  ["if_statement", "switch_case", "switch_default", "for_statement", "while_statement",
    "ternary_expression"]

/-- Operators that add a path to a function. -/
def logicalOperators : List String :=
  ["&&", "||", "??"]

/-- Statements that open a scope without being a bare block. -/
def scopedStatements : List String :=
  ["for_statement", "for_in_statement", "switch_statement"]

/-- Fields of a class body. -/
def fieldKinds : List String :=
  ["field_definition", "public_field_definition"]

/-- Declarations of variables and constants. -/
def declarationKinds : List String :=
  ["lexical_declaration", "variable_declaration"]

/-- Whether the node is a function outside class bodies. -/
def isFunction (n : Node) : Bool :=
  n.kind ∈ functionKinds

/-- Whether the node opens the scope of a function or method. -/
def isFunctionScope (n : Node) : Bool :=
  n.isFunction || n.kind == "method_definition"

/-- Whether the node is a class declaration. -/
def isClass (n : Node) : Bool :=
  n.kind ∈ classKinds

/-- Whether the node declares variables or constants. -/
def isDeclaration (n : Node) : Bool :=
  n.kind ∈ declarationKinds

/-- Whether the node adds a path to the function around it. -/
def isBranch (n : Node) : Bool :=
  n.kind ∈ branchKinds ||
    (n.kind == "binary_expression" &&
      (n.child? "operator").any fun op => op.kind ∈ logicalOperators)

end CodeSurvey.Node
