/-
  The nodes of a tree in the order of the source, each with its address.

  The address of a node is the list of child numbers on the way down to it.  Two nodes
  of a tree may look alike; their addresses tell them apart.

  * `Node.spots`: all nodes below the root by recursion on the tree, with address and
    ancestors;
  * `Node.mem_spots_iff`, `Node.ascending_spotsBelow`, `Node.nodup_spots`: each address below the
    root, in ascending order and so only once;
  * `Place.walkBelow_eq`, `Node.walkBelow_eq`: the walks visit just these, in this order;
  * `Node.children_induction`, `Node.mem_descendants_iff`: induction from the children to
    the node, and what it is to be below a node.
-/
import CodeSurvey.Tree.Walk
import Mathlib.Data.List.Nodup

namespace CodeSurvey

/-- A node of a tree with its address. -/
structure Spot where
  /-- The child numbers on the way down from the root. -/
  address : List Nat
  place : Place

/-- The place at an address below a place. -/
def Place.at? (p : Place) : List Nat → Option Place
  | [] => some p
  | i :: rest => p.children[i]?.bind fun c => c.at? rest

theorem Place.at?_append (p : Place) (a b : List Nat) :
    p.at? (a ++ b) = (p.at? a).bind fun q => q.at? b := by
  induction a generalizing p with
  | nil => rfl
  | cons i a ih =>
    rw [List.cons_append, at?, at?]
    cases p.children[i]? with
    | none => rfl
    | some c => exact ih c

namespace Node

mutual

/-- The nodes below a node, whose own address and ancestors are given. -/
def spotsBelow (address : List Nat) (above : List Node) : Node → List Spot
  | mk info children => spotsOf address (mk info children :: above) 0 children

/-- The nodes of the children from the `i`-th on. -/
def spotsOf (address : List Nat) (above : List Node) (i : Nat) : List Node → List Spot
  | [] => []
  | n :: ns =>
    ⟨address ++ [i], ⟨n, above⟩⟩ ::
      (n.spotsBelow (address ++ [i]) above ++ spotsOf address above (i + 1) ns)

end

/-- The nodes below the root, each before its own descendants. -/
def spots (root : Node) : List Spot :=
  root.spotsBelow [] []

/-! ## Addresses -/

mutual

theorem mem_spotsBelow_iff (address : List Nat) (above : List Node) (sp : Spot) :
    ∀ n : Node, sp ∈ n.spotsBelow address above ↔
      ∃ i rest, sp.address = address ++ i :: rest ∧
        Place.at? ⟨n, above⟩ (i :: rest) = some sp.place
  | mk info children => by
    rw [spotsBelow, mem_spotsOf_iff address _ sp children 0]
    simp only [Nat.zero_add, Place.at?, Place.children, List.getElem?_map, Option.bind_map,
      Option.bind_eq_some_iff, Function.comp_apply, Node.children]

theorem mem_spotsOf_iff (address : List Nat) (above : List Node) (sp : Spot) :
    ∀ (ns : List Node) (k : Nat), sp ∈ spotsOf address above k ns ↔
      ∃ i rest, sp.address = address ++ (k + i) :: rest ∧
        ∃ c, ns[i]? = some c ∧ Place.at? ⟨c, above⟩ rest = some sp.place
  | [], k => by simp [spotsOf]
  | n :: ns, k => by
    rw [spotsOf, List.mem_cons, List.mem_append, mem_spotsBelow_iff _ above sp n,
      mem_spotsOf_iff address above sp ns (k + 1)]
    constructor
    · rintro (rfl | ⟨i, rest, ha, hp⟩ | ⟨i, rest, ha, c, hc, hp⟩)
      · exact ⟨0, [], rfl, n, rfl, rfl⟩
      · exact ⟨0, i :: rest, by simpa using ha, n, rfl, hp⟩
      · exact ⟨i + 1, rest, by rw [ha]; congr 2; omega, c, hc, hp⟩
    · rintro ⟨i, rest, ha, c, hc, hp⟩
      cases i with
      | succ i => exact Or.inr (Or.inr ⟨i, rest, by rw [ha]; congr 2; omega, c, hc, hp⟩)
      | zero =>
        cases hc
        cases rest with
        | nil =>
          obtain ⟨address', place⟩ := sp
          cases hp
          exact Or.inl (by simpa using ha)
        | cons j rest => exact Or.inr (Or.inl ⟨j, rest, by simpa using ha, hp⟩)

end

theorem mem_spotsBelow_nil_iff {above : List Node} {n : Node} {sp : Spot} :
    sp ∈ n.spotsBelow [] above ↔
      sp.address ≠ [] ∧ Place.at? ⟨n, above⟩ sp.address = some sp.place := by
  rw [mem_spotsBelow_iff]
  constructor
  · rintro ⟨i, rest, ha, hp⟩
    rw [List.nil_append] at ha
    rw [ha]
    exact ⟨nofun, hp⟩
  · rintro ⟨hne, hp⟩
    obtain ⟨i, rest, ha⟩ := List.exists_cons_of_ne_nil hne
    exact ⟨i, rest, ha, ha ▸ hp⟩

/-- **Every address below the root is listed, with the node that stands there.** -/
theorem mem_spots_iff {root : Node} {sp : Spot} :
    sp ∈ root.spots ↔ sp.address ≠ [] ∧ Place.at? ⟨root, []⟩ sp.address = some sp.place :=
  mem_spotsBelow_nil_iff

section

variable {address : List Nat} {above ns : List Node} {k : Nat} {n : Node} {sp : Spot}

theorem address_of_mem_spotsBelow (h : sp ∈ n.spotsBelow (address ++ [k]) above) :
    ∃ i rest, sp.address = address ++ k :: i :: rest := by
  obtain ⟨i, rest, ha, -⟩ := (mem_spotsBelow_iff _ above sp n).1 h
  exact ⟨i, rest, by simpa using ha⟩

theorem address_of_mem_spotsOf (h : sp ∈ spotsOf address above k ns) :
    ∃ i rest, sp.address = address ++ i :: rest ∧ k ≤ i := by
  obtain ⟨i, rest, ha, -⟩ := (mem_spotsOf_iff address above sp ns k).1 h
  exact ⟨k + i, rest, ha, Nat.le_add_right k i⟩

end

mutual

/-- **The addresses ascend**: that of a node comes before those below it, and these before those of
    its later siblings. -/
theorem ascending_spotsBelow (address : List Nat) (above : List Node) :
    ∀ n : Node, (n.spotsBelow address above).Pairwise fun sp sp' => sp.address < sp'.address
  | mk info children => by
    rw [spotsBelow]
    exact ascending_spotsOf address _ children 0

theorem ascending_spotsOf (address : List Nat) (above : List Node) :
    ∀ (ns : List Node) (k : Nat),
      (spotsOf address above k ns).Pairwise fun sp sp' => sp.address < sp'.address
  | [], k => by simp [spotsOf]
  | n :: ns, k => by
    rw [spotsOf, List.pairwise_cons, List.pairwise_append]
    refine ⟨?_, ascending_spotsBelow _ above n, ascending_spotsOf address above ns (k + 1), ?_⟩
    · intro sp hsp
      rcases List.mem_append.1 hsp with hsp | hsp
      · obtain ⟨i, rest, hi⟩ := address_of_mem_spotsBelow hsp
        rw [hi]
        exact List.append_left_lt (List.cons_lt_cons_iff.2 (.inr ⟨rfl, .nil⟩))
      · obtain ⟨i, rest, hi, hlt⟩ := address_of_mem_spotsOf hsp
        rw [hi]
        exact List.append_left_lt (.rel hlt)
    · intro sp hsp sp' hsp'
      obtain ⟨i, rest, hi⟩ := address_of_mem_spotsBelow hsp
      obtain ⟨j, rest', hj, hlt⟩ := address_of_mem_spotsOf hsp'
      rw [hi, hj]
      exact List.append_left_lt (.rel hlt)

end

theorem nodup_spotsBelow (address : List Nat) (above : List Node) (n : Node) :
    ((n.spotsBelow address above).map Spot.address).Nodup := by
  refine List.pairwise_map.2 ((ascending_spotsBelow address above n).imp ?_)
  intro sp sp' hlt heq
  rw [heq] at hlt
  exact List.lt_irrefl _ hlt

/-- **No address is listed twice.** -/
theorem nodup_spots (root : Node) : (root.spots.map Spot.address).Nodup :=
  nodup_spotsBelow [] [] root

/-- A child of a listed node is listed. -/
theorem child_mem_spots {root : Node} {sp : Spot} (h : sp ∈ root.spots) {i : Nat} {c : Node}
    (hc : sp.place.node.children[i]? = some c) :
    ⟨sp.address ++ [i], ⟨c, sp.place.node :: sp.place.ancestors⟩⟩ ∈ root.spots := by
  rw [mem_spots_iff] at h ⊢
  refine ⟨by simp, ?_⟩
  rw [Place.at?_append, h.2]
  simp [Place.at?, Place.children, hc]

/-- The same address holds the same node. -/
theorem spots_ext {root : Node} {sp sp' : Spot} (h : sp ∈ root.spots) (h' : sp' ∈ root.spots)
    (ha : sp.address = sp'.address) : sp = sp' := by
  obtain ⟨address, place⟩ := sp
  obtain ⟨address', place'⟩ := sp'
  obtain rfl : address = address' := ha
  obtain rfl : place = place' :=
    Option.some.inj ((mem_spots_iff.1 h).2.symm.trans (mem_spots_iff.1 h').2)
  rfl

/-! ## The walks -/

mutual

theorem map_place_spotsBelow (a b : List Nat) (above : List Node) :
    ∀ n : Node, (n.spotsBelow a above).map Spot.place = (n.spotsBelow b above).map Spot.place
  | mk info children => by
    rw [spotsBelow, spotsBelow]
    exact map_place_spotsOf a b _ children 0 0

theorem map_place_spotsOf (a b : List Nat) (above : List Node) :
    ∀ (ns : List Node) (i j : Nat),
      (spotsOf a above i ns).map Spot.place = (spotsOf b above j ns).map Spot.place
  | [], i, j => by rw [spotsOf, spotsOf]
  | n :: ns, i, j => by
    rw [spotsOf, spotsOf, List.map_cons, List.map_cons, List.map_append, List.map_append,
      map_place_spotsBelow (a ++ [i]) (b ++ [j]) above n,
      map_place_spotsOf a b above ns (i + 1) (j + 1)]

end

end Node

namespace Place

/-- The places below a place, by recursion on its node. -/
def below (p : Place) : List Place :=
  (p.node.spotsBelow [] p.ancestors).map Spot.place

theorem map_place_spotsOf (address : List Nat) (above : List Node) (ns : List Node) (i : Nat) :
    (Node.spotsOf address above i ns).map Spot.place =
      (ns.map fun c => Place.mk c above).flatMap fun c => c :: c.below := by
  induction ns generalizing i with
  | nil => rfl
  | cons n ns ih =>
    rw [Node.spotsOf, List.map_cons, List.map_append, ih,
      Node.map_place_spotsBelow _ [] above n]
    rfl

theorem below_eq (p : Place) : p.below = p.children.flatMap fun c => c :: c.below := by
  obtain ⟨⟨info, children⟩, above⟩ := p
  rw [below, Node.spotsBelow]
  exact map_place_spotsOf _ _ _ _

theorem walk_eq (todo : List Place) : walk todo = todo.flatMap fun p => p :: p.below := by
  induction todo using walk.induct with
  | case1 => rw [walk, List.flatMap_nil]
  | case2 p todo ih =>
    rw [walk, ih, List.flatMap_append, List.flatMap_cons, ← below_eq, List.cons_append]

theorem walkBelow_eq_below (p : Place) : p.walkBelow = p.below := by
  rw [walkBelow, walk_eq, ← below_eq]

/-- **The walk visits the nodes below a place in the order of the source.** -/
theorem walkBelow_eq (root : Node) : walkBelow ⟨root, []⟩ = root.spots.map Spot.place :=
  walkBelow_eq_below ⟨root, []⟩

end Place

namespace Node

theorem listing_eq (ns : List Node) : listing ns = ns.flatMap fun n => n :: n.descendants := by
  induction ns with
  | nil => rw [listing, List.flatMap_nil]
  | cons n ns ih => rw [listing, ih, List.flatMap_cons, List.cons_append]

theorem descendants_eq (n : Node) : n.descendants = n.children.flatMap fun c => c :: c.descendants := by
  cases n with
  | mk info children => rw [descendants, listing_eq, Node.children]

theorem walk_eq (todo : List Node) : walk todo = todo.flatMap fun n => n :: n.descendants := by
  induction todo using walk.induct with
  | case1 => rw [walk, List.flatMap_nil]
  | case2 n todo ih =>
    rw [walk, ih, List.flatMap_append, List.flatMap_cons, ← descendants_eq, List.cons_append]

/-- **The walk visits the nodes below a node in the order of the source.** -/
theorem walkBelow_eq (n : Node) : n.walkBelow = n.descendants := by
  rw [walkBelow, walk_eq, ← descendants_eq]

mutual

theorem map_node_spotsBelow (address : List Nat) (above : List Node) :
    ∀ n : Node, (n.spotsBelow address above).map (fun sp => sp.place.node) = n.descendants
  | mk info children => by
    rw [spotsBelow, descendants]
    exact map_node_spotsOf address _ children 0

theorem map_node_spotsOf (address : List Nat) (above : List Node) :
    ∀ (ns : List Node) (i : Nat),
      (spotsOf address above i ns).map (fun sp => sp.place.node) = listing ns
  | [], i => by rw [spotsOf, listing, List.map_nil]
  | n :: ns, i => by
    rw [spotsOf, listing, List.map_cons, List.map_append, map_node_spotsBelow _ above n,
      map_node_spotsOf address above ns (i + 1)]

end

/-- The listed nodes are the descendants of the root. -/
theorem map_node_spots (root : Node) :
    root.spots.map (fun sp => sp.place.node) = root.descendants :=
  map_node_spotsBelow [] [] root

/-! ## Membership -/

/-- What holds of a node when it holds of its children, holds of all nodes. -/
theorem children_induction {P : Node → Prop} (h : ∀ n : Node, (∀ c ∈ n.children, P c) → P n)
    (n : Node) : P n :=
  h n fun c _ => children_induction h c
  termination_by n.size
  decreasing_by exact size_lt_of_mem ‹_›

variable {n : Node}

theorem mem_descendants_iff {m : Node} :
    m ∈ n.descendants ↔ ∃ c ∈ n.children, m = c ∨ m ∈ c.descendants := by
  rw [descendants_eq, List.mem_flatMap]
  simp only [List.mem_cons]

theorem node_mem_descendants {sp : Spot} (h : sp ∈ n.spots) : sp.place.node ∈ n.descendants := by
  rw [← map_node_spots]
  exact List.mem_map_of_mem h

theorem mem_descendants_of_mem_children {c : Node} (h : c ∈ n.children) : c ∈ n.descendants :=
  mem_descendants_iff.2 ⟨c, h, Or.inl rfl⟩

theorem namedChild_mem_descendants {c : Node} (h : c ∈ n.namedChildren) : c ∈ n.descendants :=
  mem_descendants_of_mem_children (mem_children_of_mem_namedChildren h)

theorem field_mem_descendants {c : Node} {field : String} (h : n.child? field = some c) :
    c ∈ n.descendants :=
  mem_descendants_of_mem_children (child?_mem h)

theorem descendants_trans {a b c : Node} (h : b ∈ a.descendants) (h' : c ∈ b.descendants) :
    c ∈ a.descendants := by
  induction a using children_induction with
  | h a ih =>
    obtain ⟨d, hd, rfl | hb⟩ := mem_descendants_iff.1 h
    · exact mem_descendants_iff.2 ⟨b, hd, Or.inr h'⟩
    · exact mem_descendants_iff.2 ⟨d, hd, Or.inr (ih d hd hb)⟩

end Node

end CodeSurvey
