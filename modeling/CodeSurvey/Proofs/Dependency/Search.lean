/-
  The search behind the depth, round by round.

  * `Search`, `Search.round?`: what the search has visited, how deep it got and what it still has
    to look at; one round takes the next entry off its stack;
  * `Search.work`, `Search.work_round_lt`: each round leaves less to do, whatever cycles there are;
  * `Search.round?_eq_some`, `Search.run_eq`: a round changes nothing about the visits to come,
    so that the whole search is the walk of `visits`;
  * `mem_map_fst_visits_iff`, `nodup_map_fst_visits`: the walk visits what chains lead to, once;
  * `exists_route_of_chain`, `exists_route_length_depth`: a chain can be made simple, and a simple
    one is as long as the depth;
  * `search_visits_reachable`: what the search visits, and between which bounds its depth lies.
-/
import CodeSurvey.Proofs.Dependency.Walk
import Mathlib.Data.List.Permutation
import Mathlib.Data.Set.Card

namespace CodeSurvey.Dependency

variable {edges : List DependencyEdge} {visited avoid : List Text} {a c id root : Text}
  {p : List Text} {n : Nat}

/-! ## Rounds -/

/-- A search on its way: the modules that it has visited, the last one first, the greatest depth
    of a visit, and the modules that it still has to look at, each with its depth. -/
structure Search where
  visited : List Text := []
  deepest : Nat := 0
  stack : List (Text × Nat)

namespace Search

/-- The search that starts at a module. -/
def start (root : Text) : Search where
  stack := [(root, 0)]

/-- The search after the next entry of its stack; there is none when the stack is empty. -/
def round? (edges : List DependencyEdge) (s : Search) : Option Search :=
  match s.stack with
  | [] => none
  | (id, depth) :: stack =>
    if id ∈ s.visited then some { s with stack }
    else
      let next := (targets edges id).filter fun t => t ∉ id :: s.visited
      some ⟨id :: s.visited, max s.deepest depth, next.map (fun t => (t, depth + 1)) ++ stack⟩

/-- The search after at most so many rounds. -/
def run (edges : List DependencyEdge) : Nat → Search → Search
  | 0, s => s
  | n + 1, s =>
    match s.round? edges with
    | some s' => run edges n s'
    | none => s

/-- The entries on the stack and the references that can still bring entries there. -/
def work (edges : List DependencyEdge) (s : Search) : Nat :=
  pending edges s.visited + s.stack.length

/-- What the search is going to visit. -/
def rest (edges : List DependencyEdge) (s : Search) : List (Text × Nat) :=
  visits edges s.visited s.stack

end Search

/-- Visiting a module takes its own references from those that are still to come, and no others. -/
theorem countP_source_add_pending (edges : List DependencyEdge) (h : id ∉ visited) :
    (edges.countP fun e => e.source = id) + pending edges (id :: visited) =
      pending edges visited := by
  unfold pending
  induction edges with
  | nil => rfl
  | cons e edges ih =>
    rw [List.countP_cons, List.countP_cons, List.countP_cons, ← ih]
    by_cases he : e.source = id
    · have hout : e.source ∉ visited := he ▸ h
      simp only [he, h, List.mem_cons_self, not_true, decide_true, decide_false, not_false_iff,
        if_true, Bool.false_eq_true, if_false]
      omega
    · simp only [List.mem_cons, he, false_or, decide_false, Bool.false_eq_true, if_false]
      omega

/-- A module that is visited brings no more entries than it has references. -/
theorem length_targets_add_pending_le (edges : List DependencyEdge) (h : id ∉ visited) :
    (targets edges id).length + pending edges (id :: visited) ≤ pending edges visited := by
  have hle : (targets edges id).length ≤ edges.countP fun e => e.source = id := by
    have hsub := (nodup_distinct ((edges.filter fun e => e.source = id).map
      DependencyEdge.target)).length_le_of_subset fun t ht => mem_distinct.1 ht
    rwa [List.length_map, ← List.countP_eq_length_filter] at hsub
  have hsplit := countP_source_add_pending edges h
  omega

namespace Search

variable {s s' : Search}

@[simp] theorem round?_eq_none_iff : s.round? edges = none ↔ s.stack = [] := by
  unfold round?
  split
  · simp [*]
  · split <;> simp [*]

/-- What a round can do: drop an entry whose module was visited before, or visit the module. -/
theorem round?_cases (h : s.round? edges = some s') :
    ∃ id depth stack, s.stack = (id, depth) :: stack ∧
      (id ∈ s.visited ∧ s' = { s with stack } ∨
        id ∉ s.visited ∧
          s' = ⟨id :: s.visited, max s.deepest depth,
            (((targets edges id).filter fun t => t ∉ id :: s.visited).map
              fun t => (t, depth + 1)) ++ stack⟩) := by
  unfold round? at h
  split at h
  · cases h
  · rename_i id depth stack hstack
    refine ⟨id, depth, stack, hstack, ?_⟩
    split at h
    · rename_i hmem
      exact Or.inl ⟨hmem, (Option.some.inj h).symm⟩
    · rename_i hmem
      exact Or.inr ⟨hmem, (Option.some.inj h).symm⟩

/-- **Each round leaves less to do.**  It takes an entry off the stack, and the entries that it
    brings are paid for by the references of the module, which cannot bring entries again. -/
theorem work_round_lt (h : s.round? edges = some s') : s'.work edges < s.work edges := by
  obtain ⟨id, depth, stack, hstack, ⟨-, rfl⟩ | ⟨hnew, rfl⟩⟩ := round?_cases h
  · simp [work, hstack]
  · have hle := length_targets_add_pending_le edges hnew
    have hfilter := List.length_filter_le (fun t => decide (t ∉ id :: s.visited)) (targets edges id)
    simp only [work, hstack, List.length_append, List.length_map, List.length_cons]
    omega

/-- **A round keeps the visits**, those made and those to come, in their order. -/
theorem visits_round (h : s.round? edges = some s') :
    s'.visited.reverse ++ (s'.rest edges).map Prod.fst =
      s.visited.reverse ++ (s.rest edges).map Prod.fst := by
  obtain ⟨id, depth, stack, hstack, ⟨hmem, rfl⟩ | ⟨hnew, rfl⟩⟩ := round?_cases h
  · simp [rest, hstack, visits, hmem]
  · simp [rest, hstack, visits, hnew]

/-- A round keeps the greatest depth of all visits, those made and those to come. -/
theorem deepest_round (h : s.round? edges = some s') :
    ((s'.rest edges).map Prod.snd).foldl max s'.deepest =
      ((s.rest edges).map Prod.snd).foldl max s.deepest := by
  obtain ⟨id, depth, stack, hstack, ⟨hmem, rfl⟩ | ⟨hnew, rfl⟩⟩ := round?_cases h
  · simp [rest, hstack, visits, hmem]
  · simp [rest, hstack, visits, hnew]

/-- **A search comes to its end** within as many rounds as it has work, and has then made the
    visits that it was going to make. -/
theorem run_eq (h : s.work edges ≤ n) :
    s.run edges n = ⟨((s.rest edges).map Prod.fst).reverse ++ s.visited,
      ((s.rest edges).map Prod.snd).foldl max s.deepest, []⟩ := by
  induction n generalizing s with
  | zero =>
    have hstack : s.stack = [] := List.eq_nil_of_length_eq_zero (by unfold work at h; omega)
    obtain ⟨visited, deepest, stack⟩ := s
    subst hstack
    simp [run, rest, visits]
  | succ n ih =>
    cases hround : s.round? edges with
    | none =>
      have hstack := round?_eq_none_iff.1 hround
      obtain ⟨visited, deepest, stack⟩ := s
      subst hstack
      simp [run, hround, rest, visits]
    | some s' =>
      have hwork := work_round_lt hround
      have hvisits := congrArg List.reverse (visits_round hround)
      rw [List.reverse_append, List.reverse_reverse, List.reverse_append,
        List.reverse_reverse] at hvisits
      simp only [run, hround]
      rw [ih (by omega), hvisits, deepest_round hround]

end Search

/-! ## What is visited -/

/-- **A chain can be made simple**, by leaving out what lies between two visits to a module. -/
theorem exists_route_of_chain (h : Chain edges a p c) : ∃ q, Route edges [] a q c := by
  induction h with
  | nil a => exact ⟨[], route_nil_iff.2 ⟨rfl, List.not_mem_nil⟩⟩
  | @cons a b c p first rest ih =>
    obtain ⟨q, hq⟩ := ih
    by_cases ha : a ∈ b :: q
    · exact hq.onward ha
    · exact ⟨b :: q, .cons first hq.chain, List.nodup_cons.2 ⟨ha, hq.simple⟩,
        fun _ _ => List.not_mem_nil⟩

/-- The walk from a module visits what chains lead to. -/
theorem mem_map_fst_visits_iff :
    c ∈ (visits edges [] [(root, 0)]).map Prod.fst ↔ ∃ p, Chain edges root p c := by
  constructor
  · intro h
    obtain ⟨⟨c, k⟩, hmem, rfl⟩ := List.mem_map.1 h
    obtain ⟨p, hp, -⟩ := mem_visits_root_iff.1 hmem
    exact ⟨p, hp.route.chain⟩
  · rintro ⟨p, hp⟩
    obtain ⟨q, hq⟩ := exists_firstRoute (exists_route_of_chain hp)
    exact List.mem_map.2 ⟨(c, q.length), mem_visits_root_iff.2 ⟨q, hq, rfl⟩, rfl⟩

/-- The walk visits no module twice: what comes behind a visit keeps clear of it. -/
theorem nodup_map_fst_visits (edges : List DependencyEdge) (avoid : List Text)
    (stack : List (Text × Nat)) : ((visits edges avoid stack).map Prod.fst).Nodup := by
  induction avoid, stack using visits.induct edges with
  | case1 avoid => simp [visits]
  | case2 avoid a depth stack hmem ih => rwa [visits, if_pos hmem]
  | case3 avoid a depth stack ha next ih =>
    rw [visits, if_neg ha, List.map_cons, List.nodup_cons]
    refine ⟨?_, ih⟩
    intro h
    obtain ⟨⟨b, k⟩, hmem, rfl⟩ := List.mem_map.1 h
    obtain ⟨e, p, -, hp, -⟩ := mem_visits_iff.1 hmem
    exact hp.route.end_clear List.mem_cons_self

/-! ## Bounds on the depth -/

theorem length_le_depth (h : FirstRoute edges [] root p c) :
    p.length ≤ depth edges root :=
  depth_le_iff.1 (Nat.le_refl _) c p h

/-- **A simple chain is as long as the depth.** -/
theorem exists_route_length_depth (edges : List DependencyEdge) (root : Text) :
    ∃ c p, Route edges [] root p c ∧ p.length = depth edges root := by
  cases hd : depth edges root with
  | zero => exact ⟨root, [], route_nil_iff.2 ⟨rfl, List.not_mem_nil⟩, rfl⟩
  | succ d =>
    by_contra hnone
    -- no first route is as long as the depth, so that one less would be a bound as well
    have hle : depth edges root ≤ d := by
      refine depth_le_iff.2 fun c p hp => ?_
      have hbound := length_le_depth hp
      have hne : p.length ≠ d + 1 := fun heq => hnone ⟨c, p, hp.route, heq⟩
      omega
    omega

/-- To every module that is reached some shortest chain leads, no longer than the depth. -/
theorem exists_shortest_chain (h : Chain edges root p c) :
    ∃ q, Chain edges root q c ∧ (∀ q', Chain edges root q' c → q.length ≤ q'.length) ∧
      q.length ≤ depth edges root := by
  obtain ⟨q, hq, hleast⟩ :=
    (measure List.length).wf.has_min {q | Chain edges root q c} ⟨p, h⟩
  have hshortest : ∀ q', Chain edges root q' c → q.length ≤ q'.length :=
    fun q' hq' => Nat.le_of_not_lt (hleast q' hq')
  obtain ⟨r, hr⟩ := exists_firstRoute (exists_route_of_chain h)
  exact ⟨q, hq, hshortest, (hshortest r hr.route.chain).trans (length_le_depth hr)⟩

theorem depth_eq_zero_iff :
    depth edges root = 0 ↔ ∀ c p, Chain edges root p c → c = root := by
  constructor
  · intro hd c p hp
    obtain ⟨q, hq⟩ := exists_firstRoute (exists_route_of_chain hp)
    have hle := length_le_depth hq
    rw [hd, Nat.le_zero, List.length_eq_zero_iff] at hle
    subst hle
    exact hq.route.chain.eq_of_nil.symm
  · intro hall
    obtain ⟨c, p, hp, hlength⟩ := exists_route_length_depth edges root
    obtain rfl := hall c p hp.chain
    rw [← hlength, (route_self_iff.1 hp).1, List.length_nil]

/-- The walk is as long as there are modules that are reached. -/
theorem ncard_reached (edges : List DependencyEdge) (root : Text) :
    {c | ∃ p, Chain edges root p c}.ncard = (visits edges [] [(root, 0)]).length := by
  have hset : {c | ∃ p, Chain edges root p c} =
      (((visits edges [] [(root, 0)]).map Prod.fst).toFinset : Set Text) := by
    ext c
    rw [List.coe_toFinset, Set.mem_ofPred_eq, Set.mem_ofPred_eq, mem_map_fst_visits_iff]
  rw [hset, Set.ncard_coe_finset, List.toFinset_card_of_nodup (nodup_map_fst_visits _ _ _),
    List.length_map]

/-- The modules of a simple chain are reached, so that there are more of them than references. -/
theorem depth_lt_ncard (edges : List DependencyEdge) (root : Text) :
    depth edges root < {c | ∃ p, Chain edges root p c}.ncard := by
  obtain ⟨c, p, hp, hlength⟩ := exists_route_length_depth edges root
  have hsub : root :: p ⊆ (visits edges [] [(root, 0)]).map Prod.fst := by
    intro x hx
    rw [mem_map_fst_visits_iff]
    rcases List.mem_cons.1 hx with rfl | hx
    · exact ⟨[], .nil x⟩
    · obtain ⟨q, -, hq⟩ := hp.chain.upTo x hx
      exact ⟨q, hq⟩
  have hle := hp.simple.length_le_of_subset hsub
  rw [List.length_cons, List.length_map, ← ncard_reached, hlength] at hle
  exact hle

/-- **The search visits what is reached from its root, once each, and its depth lies between two
    bounds.**  It ends within one round more than there are references, and what it has found by
    then are the depth and the modules that chains lead to.  Some simple chain from the root has
    as many references as the depth says, and the shortest chain to any module has no more.
    Hence the depth is zero exactly if nothing but the root is reached, and it is less than the
    number of modules reached; cycles make no difference. -/
theorem search_visits_reachable (edges : List DependencyEdge) (root : Text) :
    (∃ visited : List Text,
      (∀ n, edges.length < n →
        Search.run edges n (.start root) = ⟨visited, depth edges root, []⟩) ∧
      visited.Nodup ∧ ∀ c, c ∈ visited ↔ ∃ p, Chain edges root p c) ∧
    (∃ c p, Chain edges root p c ∧ (root :: p).Nodup ∧
      p.length = depth edges root) ∧
    (∀ c, (∃ p, Chain edges root p c) → ∃ q, Chain edges root q c ∧
      (∀ q', Chain edges root q' c → q.length ≤ q'.length) ∧
      q.length ≤ depth edges root) ∧
    (depth edges root = 0 ↔ ∀ c p, Chain edges root p c → c = root) ∧
    depth edges root < {c | ∃ p, Chain edges root p c}.ncard := by
  refine ⟨⟨((visits edges [] [(root, 0)]).map Prod.fst).reverse, ?_, ?_, ?_⟩, ?_, ?_,
    depth_eq_zero_iff, depth_lt_ncard edges root⟩
  · intro n hn
    have hwork : (Search.start root).work edges ≤ n := by
      have hle : pending edges [] ≤ edges.length := List.countP_le_length
      simp only [Search.work, Search.start, List.length_singleton]
      omega
    rw [Search.run_eq hwork]
    simp [Search.rest, Search.start, depth]
  · exact List.nodup_reverse.2 (nodup_map_fst_visits edges [] _)
  · intro c
    rw [List.mem_reverse, mem_map_fst_visits_iff]
  · obtain ⟨c, p, hp, hlength⟩ := exists_route_length_depth edges root
    exact ⟨c, p, hp.chain, hp.simple, hlength⟩
  · rintro c ⟨p, hp⟩
    exact exists_shortest_chain hp

/-- Three modules that refer to each other in a cycle, the first also to itself and twice to the
    second. -/
def cycleEdges : List DependencyEdge :=
  [⟨Text.ofString "a", Text.ofString "b", .import_⟩, ⟨Text.ofString "a", Text.ofString "a", .require⟩,
    ⟨Text.ofString "a", Text.ofString "b", .dynamic⟩, ⟨Text.ofString "b", Text.ofString "c", .import_⟩,
    ⟨Text.ofString "c", Text.ofString "a", .import_⟩]

theorem search_visits_reachable_cycle :
    cycleEdges.length < 6 ∧ depth cycleEdges (Text.ofString "a") = 2 ∧
    (∃ p, Chain cycleEdges (Text.ofString "a") p (Text.ofString "c")) ∧
    ∃ visited, Search.run cycleEdges 6 (.start (Text.ofString "a")) = ⟨visited, 2, []⟩ ∧
      visited.Nodup ∧ Text.ofString "c" ∈ visited := by
  have hlength : cycleEdges.length < 6 := by decide
  have hdepth : depth cycleEdges (Text.ofString "a") = 2 := by cbv
  have hchain : ∃ p, Chain cycleEdges (Text.ofString "a") p (Text.ofString "c") := by
    have hb : Text.ofString "b" ∈ targets cycleEdges (Text.ofString "a") := by decide +kernel
    have hc : Text.ofString "c" ∈ targets cycleEdges (Text.ofString "b") := by decide +kernel
    exact ⟨_, .cons hb (.cons hc (.nil _))⟩
  obtain ⟨⟨visited, hrun, hnodup, hmem⟩, -⟩ :=
    search_visits_reachable cycleEdges (Text.ofString "a")
  refine ⟨hlength, hdepth, hchain, visited, ?_, hnodup, (hmem _).2 hchain⟩
  rw [hrun 6 hlength, hdepth]

end CodeSurvey.Dependency
