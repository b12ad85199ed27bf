/-
  The walk over a tree, round by round.

  The walk is a loop over a stack: a round takes the last place off the stack, visits it and puts its
  children there in reverse, so that the first of them comes next.

  * `Visits`, `Visits.round?`, `Visits.rounds`: what the loop has visited and what it still has to
    visit, one round of it, and several;
  * `Visits.visits_round`, `Visits.weight_round`: a round keeps the visits, those made and those to
    come, and leaves one node less; `Visits.visits_rounds`: so do several;
    `Visits.isSome_rounds_iff`, `Visits.rounds_weight`: so the loop ends, and gives the walk;
  * `Place.Preorder`, `Place.walk_preorder`: what the walk below a place visits, and in which order.
-/
import CodeSurvey.Proofs.Tree.Segment

namespace CodeSurvey

/-! ## The number of nodes -/

theorem Node.sizeAll_eq_sum (ns : List Node) : sizeAll ns = (ns.map size).sum := by
  induction ns with
  | nil => rw [sizeAll, List.map_nil, List.sum_nil]
  | cons n ns ih => rw [sizeAll, ih, List.map_cons, List.sum_cons]

theorem Place.weight_eq_sum (todo : List Place) :
    weight todo = (todo.map fun p => p.node.size).sum := by
  rw [weight, Node.sizeAll_eq_sum, List.map_map]
  rfl

theorem Place.weight_children (p : Place) : weight p.children + 1 = p.node.size := by
  simp [Node.size_eq, weight, children, Function.comp_def]

theorem Place.weight_reverse (todo : List Place) : weight todo.reverse = weight todo := by
  rw [weight_eq_sum, weight_eq_sum, List.map_reverse, List.sum_reverse]

theorem Place.weight_eq_zero_iff {todo : List Place} : weight todo = 0 ↔ todo = [] := by
  cases todo with
  | nil => simp [weight, Node.sizeAll]
  | cons p todo => simp [weight, Node.sizeAll, Node.size_eq]

/-! ## Rounds -/

/-- A walk on its way: the places that it still has to visit, the next one last, and those that it
    has visited, in order. -/
structure Visits where
  stack : List Place
  visited : List Place := []

namespace Visits

/-- The walk below a place, before its first round. -/
def start (p : Place) : Visits where
  stack := p.children.reverse

/-- The walk after one more round; there is none when the stack is empty. -/
def round? (v : Visits) : Option Visits :=
  v.stack.getLast?.map fun p => ⟨v.stack.dropLast ++ p.children.reverse, v.visited ++ [p]⟩

/-- The walk after so many more rounds, if there are as many. -/
def rounds : Nat → Visits → Option Visits
  | 0, v => some v
  | n + 1, v => v.round?.bind (rounds n)

/-- What the walk is going to visit. -/
def rest (v : Visits) : List Place :=
  Place.walk v.stack.reverse

variable {v w : Visits}

@[simp] theorem round?_eq_none_iff : v.round? = none ↔ v.stack = [] := by
  simp [round?]

/-- A round visits the last place of the stack. -/
theorem round?_cases (h : v.round? = some w) :
    ∃ p stack, v.stack = stack ++ [p] ∧ w = ⟨stack ++ p.children.reverse, v.visited ++ [p]⟩ := by
  obtain ⟨p, hp, rfl⟩ := Option.map_eq_some_iff.1 h
  obtain ⟨stack, hstack⟩ := List.getLast?_eq_some_iff.1 hp
  exact ⟨p, stack, hstack, by rw [hstack, List.dropLast_concat]⟩

/-- **A round keeps the visits**, those made and those to come, in their order. -/
theorem visits_round (h : v.round? = some w) : w.visited ++ w.rest = v.visited ++ v.rest := by
  obtain ⟨p, stack, hstack, rfl⟩ := round?_cases h
  simp [rest, hstack, Place.walk]

/-- **A round leaves one node less.** -/
theorem weight_round (h : v.round? = some w) : Place.weight w.stack + 1 = Place.weight v.stack := by
  obtain ⟨p, stack, hstack, rfl⟩ := round?_cases h
  have hchildren := p.weight_children
  rw [← Place.weight_reverse p.children] at hchildren
  simp only [hstack, Place.weight_eq_sum, List.map_append, List.sum_append, List.map_cons,
    List.map_nil, List.sum_singleton] at hchildren ⊢
  omega

/-- **The loop ends**: there is one round for each node that is left, and no other. -/
theorem isSome_rounds_iff {n : Nat} : (v.rounds n).isSome = true ↔ n ≤ Place.weight v.stack := by
  induction n generalizing v with
  | zero => simp [rounds]
  | succ n ih =>
    cases hround : v.round? with
    | none => simp [rounds, hround, Place.weight_eq_zero_iff.2 (round?_eq_none_iff.1 hround)]
    | some w =>
      have hweight := weight_round hround
      rw [rounds, hround, Option.bind_some, ih]
      omega

theorem visits_rounds {n : Nat} (h : v.rounds n = some w) :
    w.visited ++ w.rest = v.visited ++ v.rest ∧ Place.weight w.stack + n = Place.weight v.stack := by
  induction n generalizing v with
  | zero =>
    cases h
    exact ⟨rfl, rfl⟩
  | succ n ih =>
    obtain ⟨u, hround, hrounds⟩ := Option.bind_eq_some_iff.1 h
    obtain ⟨hvisits, hweight⟩ := ih hrounds
    have hleft := weight_round hround
    exact ⟨hvisits.trans (visits_round hround), by omega⟩

/-- After its rounds the loop has visited what was left in the order of the walk. -/
theorem rounds_weight (v : Visits) :
    v.rounds (Place.weight v.stack) = some ⟨[], v.visited ++ v.rest⟩ := by
  obtain ⟨⟨stack, visited⟩, hw⟩ := Option.isSome_iff_exists.1 (isSome_rounds_iff.2 (le_refl _))
  obtain ⟨hvisits, hweight⟩ := visits_rounds hw
  obtain rfl : stack = [] := Place.weight_eq_zero_iff.1 (Nat.add_eq_right.1 hweight)
  rw [hw, ← hvisits]
  simp [rest, Place.walk]

theorem weight_start (p : Place) : Place.weight (start p).stack = p.node.size - 1 := by
  rw [start, Place.weight_reverse, ← p.weight_children, Nat.add_sub_cancel]

/-- After one round for each node below a place the walk below it is complete. -/
theorem rounds_start (p : Place) :
    (start p).rounds (p.node.size - 1) = some ⟨[], p.walkBelow⟩ := by
  rw [← weight_start, rounds_weight, rest, start, List.reverse_reverse, List.nil_append]
  rfl

end Visits

/-! ## The order of the nodes -/

namespace Place

/-- The nodes below a place, each under its address from there, which tells apart nodes that look
    alike; the place itself has the empty address. -/
structure Preorder (p : Place) (spots : List Spot) : Prop where
  mem_iff : ∀ sp, sp ∈ spots ↔ sp.address ≠ [] ∧ p.at? sp.address = some sp.place
  nodup : (spots.map Spot.address).Nodup
  /-- No node comes before one that it lies below. -/
  above_first : spots.Pairwise fun sp sp' => ¬ sp.Below sp'

theorem preorder_spotsBelow (p : Place) : Preorder p (p.node.spotsBelow [] p.ancestors) where
  mem_iff _ := Node.mem_spotsBelow_nil_iff
  nodup := Node.nodup_spotsBelow [] p.ancestors p.node
  above_first := (Node.ascending_spotsBelow [] p.ancestors p.node).imp fun hlt hbelow =>
    hbelow.1.le hlt

theorem map_node_walkBelow (p : Place) : p.walkBelow.map Place.node = p.node.descendants := by
  rw [walkBelow_eq_below, below, List.map_map]
  exact Node.map_node_spotsBelow [] p.ancestors p.node

/-- The walk below a place goes through its children one by one: each child, then all below it. -/
theorem walkBelow_eq_flatMap (p : Place) :
    p.walkBelow = p.children.flatMap fun c => c :: c.walkBelow := by
  simp only [walkBelow_eq_below]
  exact below_eq p

/-- **The loop over a stack lists the nodes below a place.**  It ends after one round for each of
    them, and visits the nodes that recursion on the tree lists, in the same order, whether it keeps
    their ancestors or not: each one once and the place itself never, no node before one that it lies
    below, and the nodes at and below each child together, child after child. -/
theorem walk_preorder (p : Place) :
    (∀ n, ((Visits.start p).rounds n).isSome = true ↔ n < p.node.size) ∧
    (Visits.start p).rounds (p.node.size - 1) = some ⟨[], p.walkBelow⟩ ∧
    p.walkBelow.map Place.node = p.node.descendants ∧ p.node.walkBelow = p.node.descendants ∧
    (∃ spots, spots.map Spot.place = p.walkBelow ∧ Preorder p spots) ∧
    p.walkBelow = p.children.flatMap fun c => c :: c.walkBelow := by
  have hends : ∀ n, ((Visits.start p).rounds n).isSome = true ↔ n < p.node.size := by
    intro n
    have hsize := p.weight_children
    rw [Visits.isSome_rounds_iff, Visits.weight_start]
    omega
  exact ⟨hends, Visits.rounds_start p, map_node_walkBelow p, Node.walkBelow_eq p.node,
    ⟨_, (walkBelow_eq_below p).symm, preorder_spotsBelow p⟩, walkBelow_eq_flatMap p⟩

end Place

end CodeSurvey
