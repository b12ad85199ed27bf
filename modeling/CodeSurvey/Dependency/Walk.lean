/-
  What follows from the references of a graph.

  * `Dependency.targets`: the distinct modules that a module refers to;
  * `Dependency.cycles`: the pairs of modules that refer to each other, each once;
  * `Dependency.visits`: the depth-first walk from a root, with the depth at which
    each module is first reached;
  * `Dependency.depth`: the greatest of these depths.
-/
import CodeSurvey.Dependency.Basic

namespace CodeSurvey.Dependency

/-! ## Neighbours -/

/-- The distinct modules that refer to others, in the order of the references. -/
def sources (edges : List DependencyEdge) : List Text :=
  distinct (edges.map DependencyEdge.source)

/-- The distinct modules that a module refers to, in the order of the references. -/
def targets (edges : List DependencyEdge) (id : Text) : List Text :=
  distinct ((edges.filter fun e => e.source = id).map DependencyEdge.target)

/-! ## Mutual references -/

/-- Whether two pairs join the same modules. -/
def samePair (p q : Text × Text) : Bool :=
  p = q || p = q.swap

/-- The pairs without those that join the same modules as an earlier one. -/
def distinctPairs : List (Text × Text) → List (Text × Text)
  | [] => []
  | p :: ps => p :: (distinctPairs ps).filter fun q => !samePair p q

/-- The pairs of modules that refer to each other, by source and then by target. -/
def mutualPairs (edges : List DependencyEdge) : List (Text × Text) :=
  (sources edges).flatMap fun a =>
    ((targets edges a).filter fun b => a ∈ targets edges b).map fun b => (a, b)

/-- The pairs of modules that refer to each other, each once. -/
def cycles (edges : List DependencyEdge) : List (Text × Text) :=
  distinctPairs (mutualPairs edges)

/-! ## Depth -/

/-- The number of references of modules that are still to be visited. -/
def pending (edges : List DependencyEdge) (visited : List Text) : Nat :=
  edges.countP fun e => e.source ∉ visited

theorem pending_cons_le (edges : List DependencyEdge) (visited : List Text) (id : Text) :
    pending edges (id :: visited) ≤ pending edges visited := by
  refine List.countP_mono_left fun e _ h => ?_
  simp only [List.mem_cons, not_or, decide_eq_true_eq] at h ⊢
  exact h.2

theorem countP_lt_countP {α : Type} {p q : α → Bool} {a : α} (le : ∀ b, p b → q b) (hq : q a)
    (hp : p a = false) : ∀ {l : List α}, a ∈ l → l.countP p < l.countP q
  | b :: l, h => by
    have mono := List.countP_mono_left (l := l) fun c _ => le c
    rw [List.countP_cons, List.countP_cons]
    by_cases hb : b = a
    · subst hb
      simp only [hq, hp, if_true, Bool.false_eq_true, if_false]
      omega
    · have lt := countP_lt_countP le hq hp ((List.mem_cons.1 h).resolve_left (Ne.symm hb))
      have := le b
      split <;> split <;> first | omega | simp_all

/-- Visiting a module that has references leaves fewer of them. -/
theorem pending_cons_lt {edges : List DependencyEdge} {visited : List Text} {id : Text}
    (new : id ∉ visited) (h : targets edges id ≠ []) :
    pending edges (id :: visited) < pending edges visited := by
  obtain ⟨e, he, rfl⟩ : ∃ e ∈ edges, e.source = id := by
    refine Classical.byContradiction fun none => h ?_
    have : edges.filter (fun e => e.source = id) = [] := by
      refine List.filter_eq_nil_iff.2 fun e he => ?_
      simpa using fun hs => none ⟨e, he, hs⟩
    simp [targets, this, distinct]
  refine countP_lt_countP (fun d hd => ?_) (by simpa using new) (by simp) he
  simp only [List.mem_cons, not_or, decide_eq_true_eq] at hd ⊢
  exact hd.2

/-- The depth-first walk over a stack of modules with their depths: the modules in the order of the
    first visit.  The targets of a module come before what is left of the stack. -/
def visits (edges : List DependencyEdge) (visited : List Text) :
    List (Text × Nat) → List (Text × Nat)
  | [] => []
  | (id, depth) :: stack =>
    if id ∈ visited then visits edges visited stack
    else
      let next := (targets edges id).filter fun t => t ∉ id :: visited
      (id, depth) ::
        visits edges (id :: visited) (next.map (fun t => (t, depth + 1)) ++ stack)
  termination_by stack => (pending edges visited, stack.length)
  decreasing_by
    · exact Prod.Lex.right _ (by simp)
    · by_cases h : targets edges id = []
      · have le := pending_cons_le edges visited id
        rcases Nat.lt_or_eq_of_le le with lt | eq
        · exact Prod.Lex.left _ _ lt
        · rw [eq]
          exact Prod.Lex.right _ (by simp [h])
      · exact Prod.Lex.left _ _ (pending_cons_lt (by assumption) h)

/-- The greatest depth at which the walk from a root reaches a module. -/
def depth (edges : List DependencyEdge) (root : Text) : Nat :=
  ((visits edges [] [(root, 0)]).map Prod.snd).foldl max 0

end CodeSurvey.Dependency
