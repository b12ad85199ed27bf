/-
  The walk over a stack as a recursive search.

  * `explore`, `exploreAll`: the recursive depth-first search; it marks a module on entry and
    goes on to its targets one after the other;
  * `visits_filter`: entries of modules that are marked are of no use to a stack;
  * `visits_cons_of_new`: an entry that is not marked is worked off with its targets before the rest
    of the stack;
  * `visits_explore`: so a stack is worked off entry by entry, each as the search explores it;
  * `visits_eq_explore`: the walk from a module is the search, visit by visit.
-/
import CodeSurvey.Proofs.Dependency.Search
import Mathlib.Order.Bounds.Basic

namespace CodeSurvey.Dependency

variable {edges : List DependencyEdge} {marked gone : List Text} {id root : Text}

/-! ## The search -/

/-- The modules that are marked after some visits, the last one first. -/
def marks (visits : List (Text × Nat)) (marked : List Text) : List Text :=
  (visits.map Prod.fst).reverse ++ marked

theorem pending_append_le (edges : List DependencyEdge) (l marked : List Text) :
    pending edges (l ++ marked) ≤ pending edges marked := by
  induction l with
  | nil => exact Nat.le_refl _
  | cons id l ih => exact (pending_cons_le edges (l ++ marked) id).trans ih

/-- What is left to a search: the references of modules that are not marked, then the modules that
    it is asked to enter, or one where it has entered a module. -/
abbrev Less (p q : Nat × Nat) : Prop :=
  Prod.Lex (· < ·) (· < ·) p q

/-- Entering a module leaves less to the search of its targets. -/
theorem less_targets (h : id ∉ marked) :
    Less (pending edges (id :: marked), 2 * (targets edges id).length)
      (pending edges marked, 1) := by
  by_cases hnil : targets edges id = []
  · rcases Nat.lt_or_eq_of_le (pending_cons_le edges marked id) with lt | eq
    · exact Prod.Lex.left _ _ lt
    · rw [eq, hnil]
      exact Prod.Lex.right _ Nat.zero_lt_one
  · exact Prod.Lex.left _ _ (pending_cons_lt h hnil)

theorem less_first (id : Text) (ids : List Text) :
    Less (pending edges marked, 1) (pending edges marked, 2 * (id :: ids).length) :=
  Prod.Lex.right _ (by rw [List.length_cons]; omega)

theorem less_rest (found : List (Text × Nat)) (id : Text) (ids : List Text) :
    Less (pending edges (marks found marked), 2 * ids.length)
      (pending edges marked, 2 * (id :: ids).length) := by
  rcases Nat.lt_or_eq_of_le (pending_append_le edges (found.map Prod.fst).reverse marked) with
    lt | eq
  · exact Prod.Lex.left _ _ lt
  · rw [marks, eq]
    exact Prod.Lex.right _ (by rw [List.length_cons]; omega)

mutual

/-- The visits of the search that enters a module at a depth.  It does nothing where the module is
    marked; else it marks the module and goes on to all its targets. -/
def explore (edges : List DependencyEdge) (marked : List Text) (id : Text) (depth : Nat) :
    List (Text × Nat) :=
  if id ∈ marked then []
  else (id, depth) :: exploreAll edges (id :: marked) (targets edges id) (depth + 1)
  termination_by (pending edges marked, 1)
  decreasing_by exact less_targets (by assumption)

/-- The visits of the search that enters modules one after the other at a depth.  What it visits
    from one of them is marked for those behind. -/
def exploreAll (edges : List DependencyEdge) (marked : List Text) :
    List Text → Nat → List (Text × Nat)
  | [], _ => []
  | id :: ids, depth =>
    let found := explore edges marked id depth
    found ++ exploreAll edges (marks found marked) ids depth
  termination_by ids => (pending edges marked, 2 * ids.length)
  decreasing_by
    · exact less_first id ids
    · exact less_rest _ id ids

end

/-! ## Working off a stack -/

/-- Entries of modules that are marked make no difference to a stack, wherever they lie on it. -/
theorem visits_filter (hgone : gone ⊆ marked) (stack : List (Text × Nat)) :
    visits edges marked (stack.filter fun e => e.1 ∉ gone) = visits edges marked stack := by
  induction marked, stack using visits.induct edges with
  | case1 marked => rfl
  | case2 marked id depth stack hmem ih =>
    rw [visits, if_pos hmem, List.filter_cons]
    split
    · rw [visits, if_pos hmem, ih hgone]
    · rw [ih hgone]
  | case3 marked id depth stack hnew next ih =>
    have hkept : decide ((id, depth).1 ∉ gone) = true :=
      decide_eq_true fun hmem => hnew (hgone hmem)
    -- what is brought onto the stack is not marked
    have hnext : (next.map fun t => (t, depth + 1)).filter (fun e => e.1 ∉ gone) =
        next.map fun t => (t, depth + 1) := by
      refine List.filter_eq_self.2 fun e he => decide_eq_true ?_
      obtain ⟨t, ht, rfl⟩ := List.mem_map.1 he
      have hout := of_decide_eq_true (List.mem_filter.1 ht).2
      exact fun hmem => hout (List.mem_cons_of_mem id (hgone hmem))
    have hrest := ih fun x hx => List.mem_cons_of_mem id (hgone hx)
    rw [List.filter_append, hnext] at hrest
    rw [List.filter_cons, if_pos hkept, visits, if_neg hnew, visits, if_neg hnew]
    exact congrArg _ hrest

/-- A module that is not marked is visited, and all its targets come before what is left of the
    stack, those that are marked too. -/
theorem visits_cons_of_new (hnew : id ∉ marked) (depth : Nat) (stack : List (Text × Nat)) :
    visits edges marked ((id, depth) :: stack) =
      (id, depth) ::
        visits edges (id :: marked) ((targets edges id).map (fun t => (t, depth + 1)) ++ stack) := by
  rw [visits, if_neg hnew, List.cons.injEq]
  refine ⟨rfl, ?_⟩
  rw [← visits_filter (List.Subset.refl _), ← visits_filter (List.Subset.refl _) (_ ++ stack)]
  simp only [List.filter_append, List.filter_map, List.filter_filter, Function.comp_def,
    Bool.and_self]

/-- **A stack is worked off as the recursive search explores it.**  The entry on top, or the entries
    on top that were brought there together, give the visits of the search; the rest of the stack
    follows with all of these marked.  Further entries of the same modules may lie anywhere in that
    rest: by the time of their turn they are marked. -/
theorem visits_explore (edges : List DependencyEdge) :
    (∀ marked id depth stack, visits edges marked ((id, depth) :: stack) =
      explore edges marked id depth ++
        visits edges (marks (explore edges marked id depth) marked) stack) ∧
    (∀ marked ids depth stack,
      visits edges marked (ids.map (fun t => (t, depth)) ++ stack) =
        exploreAll edges marked ids depth ++
          visits edges (marks (exploreAll edges marked ids depth) marked) stack) := by
  refine explore.mutual_induct edges _ _ ?marked ?new ?none ?some
  case marked =>
    intro marked id depth hmem stack
    rw [visits, if_pos hmem, explore, if_pos hmem]
    rfl
  case new =>
    intro marked id depth hnew ih stack
    rw [visits_cons_of_new hnew, explore, if_neg hnew, ih]
    simp only [marks, List.map_cons, List.reverse_cons, List.append_assoc, List.cons_append,
      List.nil_append]
  case none =>
    intro marked depth stack
    rw [exploreAll]
    rfl
  case some =>
    intro marked id ids depth found ihFirst ihRest stack
    rw [List.map_cons, List.cons_append, ihFirst, ihRest, exploreAll]
    simp only [marks, List.map_append, List.reverse_append, List.append_assoc, found]

/-! ## The walk from a module -/

theorem foldl_max_mem (l : List Nat) (m : Nat) : l.foldl max m ∈ m :: l := by
  induction l generalizing m with
  | nil => exact List.mem_singleton_self m
  | cons k l ih =>
    rw [List.foldl_cons]
    rcases List.mem_cons.1 (ih (max m k)) with heq | hmem
    · rw [heq]
      rcases Nat.le_total m k with hle | hle
      · rw [Nat.max_eq_right hle]
        exact List.mem_cons_of_mem m List.mem_cons_self
      · rw [Nat.max_eq_left hle]
        exact List.mem_cons_self
    · exact List.mem_cons_of_mem m (List.mem_cons_of_mem k hmem)

theorem explore_root (edges : List DependencyEdge) (root : Text) :
    explore edges [] root 0 = (root, 0) :: exploreAll edges [root] (targets edges root) 1 := by
  rw [explore, if_neg List.not_mem_nil]

/-- **The walk over the stack is the recursive search.**  From every module it makes the same visits
    in the same order and at the same depths, and the rounds of the search over a stack come to
    their end with just these modules visited; so the depth is the greatest of the recursive
    search. -/
theorem visits_eq_explore (edges : List DependencyEdge) (root : Text) :
    visits edges [] [(root, 0)] = explore edges [] root 0 ∧
    (∀ n, edges.length < n → Search.run edges n (.start root) =
      ⟨((explore edges [] root 0).map Prod.fst).reverse, depth edges root, []⟩) ∧
    IsGreatest {k | ∃ c, (c, k) ∈ explore edges [] root 0} (depth edges root) := by
  have hvisits : visits edges [] [(root, 0)] = explore edges [] root 0 := by
    rw [(visits_explore edges).1, visits, List.append_nil]
  refine ⟨hvisits, ?_, ?_, ?_⟩
  · intro n hn
    have hwork : (Search.start root).work edges ≤ n := by
      have hle : pending edges [] ≤ edges.length := List.countP_le_length
      simp only [Search.work, Search.start, List.length_singleton]
      omega
    rw [Search.run_eq hwork, Search.rest, depth, ← hvisits]
    simp [Search.start]
  · rw [depth, hvisits]
    rcases List.mem_cons.1 (foldl_max_mem ((explore edges [] root 0).map Prod.snd) 0) with
      hzero | hmem
    · rw [hzero, explore_root]
      exact ⟨root, List.mem_cons_self⟩
    · obtain ⟨⟨c, k⟩, hc, hk⟩ := List.mem_map.1 hmem
      exact ⟨c, hk ▸ hc⟩
  · rintro k ⟨c, hc⟩
    rw [← hvisits] at hc
    exact (foldl_max_le_iff.1 (Nat.le_refl (depth edges root))).2 k (List.mem_map.2 ⟨(c, k), hc, rfl⟩)

/-- A module refers to two others, and the first of them also to the second, which refers back. -/
def detourEdges : List DependencyEdge :=
  [⟨Text.ofString "a", Text.ofString "b", .import_⟩, ⟨Text.ofString "a", Text.ofString "c", .import_⟩,
    ⟨Text.ofString "b", Text.ofString "c", .require⟩, ⟨Text.ofString "c", Text.ofString "a", .import_⟩]

/-- The entry of `c` that `a` has brought onto the stack is still there when `c` is visited. -/
theorem visits_eq_explore_detour :
    detourEdges.length < 5 ∧
    explore detourEdges [] (Text.ofString "a") 0 =
      [(Text.ofString "a", 0), (Text.ofString "b", 1), (Text.ofString "c", 2)] ∧
    Search.run detourEdges 5 (.start (Text.ofString "a")) =
      ⟨[Text.ofString "c", Text.ofString "b", Text.ofString "a"], 2, []⟩ := by
  have hlength : detourEdges.length < 5 := by decide
  have hwalk : visits detourEdges [] [(Text.ofString "a", 0)] =
      [(Text.ofString "a", 0), (Text.ofString "b", 1), (Text.ofString "c", 2)] := by cbv
  have hdepth : depth detourEdges (Text.ofString "a") = 2 := by cbv
  obtain ⟨hvisits, hrun, -⟩ := visits_eq_explore detourEdges (Text.ofString "a")
  have hexplore := hvisits.symm.trans hwalk
  refine ⟨hlength, hexplore, ?_⟩
  rw [hrun 5 hlength, hexplore, hdepth]
  rfl

end CodeSurvey.Dependency
