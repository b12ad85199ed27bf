/-
  Broken places of a tree.

  A node is broken if the source could not be read there (`ERROR`) or if it was
  put in where the source lacks a token.

  * `Node.isBroken`, `Node.hasBroken`: at the node, and at or below it;
  * `Node.brokenNodes`: the broken nodes in the order of the source, found by a
    walk that passes by trees without any.
-/
import CodeSurvey.Tree.Walk

namespace CodeSurvey.Node

/-- Whether the source could not be read at this node. -/
def isBroken (n : Node) : Bool :=
  n.kind == "ERROR" || n.info.isMissing

mutual

/-- Whether a node is broken or has a broken one below it. -/
def hasBroken : Node → Bool
  | mk info children => (mk info children).isBroken || anyBroken children

/-- Whether one of some trees holds a broken node. -/
def anyBroken : List Node → Bool
  | [] => false
  | n :: ns => n.hasBroken || anyBroken ns

end

/-- The broken nodes of some trees; the trees without any are not entered. -/
def searchBroken : List Node → List Node
  | [] => []
  | n :: todo =>
    let found := if n.isBroken then [n] else []
    found ++ searchBroken ((if n.hasBroken then n.children else []) ++ todo)
  termination_by todo => sizeAll todo
  decreasing_by
    split
    · rw [sizeAll_append, sizeAll, size_eq]
      omega
    · rw [List.nil_append, sizeAll, size_eq]
      omega

/-- The broken nodes of a tree, in the order of the source. -/
def brokenNodes (n : Node) : List Node :=
  searchBroken [n]

end CodeSurvey.Node
