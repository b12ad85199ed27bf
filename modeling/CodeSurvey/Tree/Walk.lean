/-
  Walking a tree with a list of nodes still to visit.

  A place is a node together with the nodes above it, so that a visit can look
  at the parents.

  * `Place`: a node with its ancestors, the nearest first;
  * `Place.walk`, `Node.walk`: the visits that a list of places or nodes gives, each
    before those below it; trees may be deep, and the walk keeps its own list of
    what is left;
  * `Place.walkBelow`, `Node.walkBelow`: everything below a place or node.
-/
import CodeSurvey.Tree.Basic

namespace CodeSurvey

/-- A node with its ancestors, the nearest first. -/
structure Place where
  node : Node
  ancestors : List Node := []

namespace Place

/-- The parent of the node. -/
def parent? (p : Place) : Option Node :=
  p.ancestors.head?

/-- The places of the children. -/
def children (p : Place) : List Place :=
  p.node.children.map fun c => ⟨c, p.node :: p.ancestors⟩

/-- The number of nodes at and below some places. -/
def weight (todo : List Place) : Nat :=
  Node.sizeAll (todo.map Place.node)

theorem weight_children_append (p : Place) (todo : List Place) :
    weight (p.children ++ todo) < weight (p :: todo) := by
  have h : p.children.map Place.node = p.node.children := by
    simp [children, Function.comp_def]
  simp [weight, Node.sizeAll_append, Node.sizeAll, h, Node.size_eq]

/-- The visits that a list of places gives: the first place, then its children in front of the
    rest of the list. -/
def walk : List Place → List Place
  | [] => []
  | p :: todo => p :: walk (p.children ++ todo)
  termination_by todo => weight todo
  decreasing_by exact weight_children_append p todo

/-- Everything below a place. -/
def walkBelow (p : Place) : List Place :=
  walk p.children

end Place

namespace Node

/-- The visits that a list of nodes gives: the first node, then its children in front of the rest
    of the list. -/
def walk : List Node → List Node
  | [] => []
  | n :: todo => n :: walk (n.children ++ todo)
  termination_by todo => sizeAll todo
  decreasing_by
    rw [sizeAll_append, sizeAll, size_eq]
    omega

/-- Everything below a node. -/
def walkBelow (n : Node) : List Node :=
  walk n.children

end Node

end CodeSurvey
