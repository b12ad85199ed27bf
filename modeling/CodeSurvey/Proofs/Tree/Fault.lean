/-
  The search for broken nodes finds them all.

  The search keeps a list of trees that are left and passes by those that hold no broken
  node; what it passes by would have added nothing.

  * `Node.subtrees`: a node and everything below it, in the order of the source;
    `Node.sites`: the same nodes with their addresses;
  * `Node.hasBroken_iff`: a tree counts as broken exactly if it holds a broken node;
  * `Node.searchBroken_eq`, `Node.brokenNodes_eq`: the search from any list of trees, and
    from one tree;
  * `Node.brokenNodes_sites`: every broken node is found once, under its address.
-/
import CodeSurvey.Tree.Fault
import CodeSurvey.Proofs.Tree.Preorder

namespace CodeSurvey.Node

/-! ## All nodes of a tree -/

/-- A node and all nodes below it, in the order of the source. -/
def subtrees (n : Node) : List Node :=
  n :: n.descendants

/-- The nodes of a tree with their addresses, the root first. -/
def sites (root : Node) : List Spot :=
  ⟨[], ⟨root, []⟩⟩ :: root.spots

theorem subtrees_eq (n : Node) : n.subtrees = n :: n.children.flatMap subtrees := by
  rw [subtrees, descendants_eq]
  rfl

theorem map_node_sites (root : Node) :
    root.sites.map (fun sp => sp.place.node) = root.subtrees := by
  rw [sites, List.map_cons, map_node_spots, subtrees]

/-- No address of a tree is listed twice. -/
theorem nodup_sites (root : Node) : (root.sites.map Spot.address).Nodup := by
  rw [sites, List.map_cons, List.nodup_cons]
  refine ⟨?_, nodup_spots root⟩
  intro h
  obtain ⟨sp, hsp, ha⟩ := List.mem_map.1 h
  exact (mem_spots_iff.1 hsp).1 ha

/-! ## Trees with broken nodes -/

theorem anyBroken_eq (ns : List Node) : anyBroken ns = ns.any hasBroken := by
  induction ns with
  | nil => rw [anyBroken, List.any_nil]
  | cons n ns ih => rw [anyBroken, ih, List.any_cons]

theorem hasBroken_eq (n : Node) : n.hasBroken = (n.isBroken || n.children.any hasBroken) := by
  cases n with
  | mk info children => rw [hasBroken, anyBroken_eq, Node.children]

/-- **A tree counts as broken exactly if one of its nodes is broken.** -/
theorem hasBroken_iff (n : Node) : n.hasBroken = true ↔ ∃ m ∈ n.subtrees, m.isBroken = true := by
  induction n using children_induction with
  | h n ih =>
    rw [hasBroken_eq, subtrees_eq, Bool.or_eq_true, List.any_eq_true, List.exists_mem_cons_iff]
    refine or_congr_right ?_
    constructor
    · rintro ⟨c, hc, h⟩
      obtain ⟨m, hm, hb⟩ := (ih c hc).1 h
      exact ⟨m, List.mem_flatMap.2 ⟨c, hc, hm⟩, hb⟩
    · rintro ⟨m, hm, hb⟩
      obtain ⟨c, hc, hm⟩ := List.mem_flatMap.1 hm
      exact ⟨c, hc, (ih c hc).2 ⟨m, hm, hb⟩⟩

theorem hasBroken_eq_false_iff (n : Node) :
    n.hasBroken = false ↔ ∀ m ∈ n.subtrees, m.isBroken = false := by
  rw [← Bool.not_eq_true, hasBroken_iff]
  simp

/-! ## The search -/

/-- What a tree without broken nodes would add to the search. -/
theorem filter_subtrees_eq_nil {n : Node} (h : n.hasBroken = false) :
    n.subtrees.filter isBroken = [] := by
  rw [List.filter_eq_nil_iff]
  intro m hm
  simp [(hasBroken_eq_false_iff n).1 h m hm]

/-- **The search finds every broken node of the trees that are left**, each where its tree stands.
    By induction on the search: a tree is either entered, and then its children stand in its
    place, or passed by, and then it holds nothing. -/
theorem searchBroken_eq (todo : List Node) :
    searchBroken todo = (todo.flatMap subtrees).filter isBroken := by
  induction todo using searchBroken.induct with
  | case1 => rw [searchBroken, List.flatMap_nil, List.filter_nil]
  | case2 n todo ih =>
    rw [dite_eq_ite] at ih
    rw [searchBroken, ih, List.flatMap_append, List.filter_append, List.flatMap_cons,
      List.filter_append, ← List.append_assoc]
    congr 1
    cases hn : n.hasBroken with
    | true =>
      rw [if_pos rfl, subtrees_eq, List.filter_cons]
      split <;> rfl
    | false =>
      have hself : n.isBroken = false := (hasBroken_eq_false_iff n).1 hn n List.mem_cons_self
      simp [hself, filter_subtrees_eq_nil hn]

/-- **The broken nodes of a tree, in the order of the source.** -/
theorem brokenNodes_eq (n : Node) : n.brokenNodes = n.subtrees.filter isBroken := by
  rw [brokenNodes, searchBroken_eq, List.flatMap_singleton]

/-- Every broken node is found once, under its address. -/
theorem brokenNodes_sites (root : Node) :
    root.brokenNodes =
      (root.sites.filter fun sp => sp.place.node.isBroken).map fun sp => sp.place.node := by
  rw [brokenNodes_eq, ← map_node_sites, List.filter_map]
  rfl

theorem head?_brokenNodes (n : Node) : n.brokenNodes.head? = n.subtrees.find? isBroken := by
  rw [brokenNodes_eq, List.head?_filter]

theorem length_brokenNodes (n : Node) : n.brokenNodes.length = n.subtrees.countP isBroken := by
  rw [brokenNodes_eq, List.countP_eq_length_filter]

end CodeSurvey.Node
