/-
  What the depth-first walk reaches, and how far.

  * `Reached`: where the first routes from the entries of a stack lead;
    `reached_targets_iff`: opening an entry changes nothing about it;
  * `mem_visits_iff`: the walk over a stack visits what is reached, at that depth;
  * `depth_le_iff`: the depth from a root is the length of the longest first route.
-/
import CodeSurvey.Proofs.Dependency.Chain

namespace CodeSurvey.Dependency

variable {edges : List DependencyEdge} {avoid : List Text} {a b c root : Text} {k depth : Nat}
  {stack : List (Text × Nat)}

/-! ## Stacks -/

/-- A module is reached at a depth from the first entry of a stack from which a route leads to it,
    over the first of these routes. -/
def Reached (edges : List DependencyEdge) (avoid : List Text) (stack : List (Text × Nat))
    (c : Text) (k : Nat) : Prop :=
  ∃ e p, stack.find? (fun e => leads edges avoid c e.1) = some e ∧
    FirstRoute edges avoid e.1 p c ∧ k = e.2 + p.length

theorem reached_cons_iff_of_route (h : ∃ q, Route edges avoid a q c) :
    Reached edges avoid ((a, depth) :: stack) c k ↔
      ∃ p, FirstRoute edges avoid a p c ∧ k = depth + p.length := by
  simp only [Reached, List.find?_cons, leads_iff.2 h, Option.some.injEq]
  constructor
  · rintro ⟨_, p, rfl, hp, hk⟩
    exact ⟨p, hp, hk⟩
  · rintro ⟨p, hp, hk⟩
    exact ⟨(a, depth), p, rfl, hp, hk⟩

theorem reached_cons_iff_of_no_route (h : ¬ ∃ q, Route edges avoid a q c) :
    Reached edges avoid ((a, depth) :: stack) c k ↔ Reached edges avoid stack c k := by
  simp only [Reached, List.find?_cons, leads_eq_false h]

/-- Keeping clear of a module from which no route leads on is no loss to a stack either. -/
theorem reached_cons_avoid_iff (h : ¬ ∃ q, Route edges avoid a q c) :
    Reached edges (a :: avoid) stack c k ↔ Reached edges avoid stack c k := by
  have hlead : ∀ x, leads edges (a :: avoid) c x = leads edges avoid c x := by
    intro x
    rw [Bool.eq_iff_iff, leads_iff, leads_iff]
    exact exists_congr fun p => route_cons_avoid_iff h
  simp only [Reached, hlead, firstRoute_cons_avoid_iff h]

/-- The first entry that leads on is the first target that does, if any. -/
theorem find?_targets_append :
    (((targets edges a).filter fun t => t ∉ a :: avoid).map (fun t => (t, depth)) ++ stack).find?
        (fun e => leads edges (a :: avoid) c e.1) =
      (((targets edges a).find? (leads edges (a :: avoid) c)).map fun t => (t, depth)).or
        (stack.find? fun e => leads edges (a :: avoid) c e.1) := by
  -- no route that keeps clear of a module starts there, so that the filter leaves out nothing
  have hclear : ∀ t, (decide (t ∉ a :: avoid) && leads edges (a :: avoid) c t) =
      leads edges (a :: avoid) c t := by
    intro t
    by_cases hlead : leads edges (a :: avoid) c t = true
    · obtain ⟨p, hp⟩ := leads_iff.1 hlead
      rw [hlead, Bool.and_true, decide_eq_true hp.start_clear]
    · rw [eq_false_of_ne_true hlead, Bool.and_false]
  rw [List.find?_append, List.find?_map, List.find?_filter]
  simp only [Function.comp_def, Bool.decide_and, Bool.decide_eq_true, hclear]

/-- **Opening an entry of a stack changes nothing about what is reached elsewhere.** -/
theorem reached_targets_iff (ha : a ∉ avoid) (hne : a ≠ c) :
    Reached edges (a :: avoid)
        (((targets edges a).filter fun t => t ∉ a :: avoid).map (fun t => (t, depth + 1)) ++ stack)
        c k ↔
      Reached edges avoid ((a, depth) :: stack) c k := by
  by_cases h : ∃ q, Route edges avoid a q c
  -- the first route from the entry leads over the first target that leads on
  · rw [reached_cons_iff_of_route h]
    obtain ⟨p, hp⟩ := exists_firstRoute h
    cases p with
    | nil => exact absurd hp.route.chain.eq_of_nil hne
    | cons b p =>
      obtain ⟨-, hb, -⟩ := (firstRoute_cons_iff hne).1 hp
      simp only [Reached, find?_targets_append, hb, Option.map_some, Option.some_or,
        Option.some.injEq]
      constructor
      · rintro ⟨_, q, rfl, hq, rfl⟩
        refine ⟨b :: q, (firstRoute_cons_iff hne).2 ⟨ha, hb, hq⟩, ?_⟩
        rw [List.length_cons]
        omega
      · rintro ⟨q, hq, rfl⟩
        cases q with
        | nil => exact absurd hq.route.chain.eq_of_nil hne
        | cons d q =>
          obtain ⟨-, hd, hq⟩ := (firstRoute_cons_iff hne).1 hq
          obtain rfl : b = d := Option.some.inj (hb.symm.trans hd)
          refine ⟨_, q, rfl, hq, ?_⟩
          rw [List.length_cons]
          omega
  -- no target leads on, and the rest of the stack does not need the entry
  · rw [reached_cons_iff_of_no_route h, ← reached_cons_avoid_iff h]
    have hnone : (targets edges a).find? (leads edges (a :: avoid) c) = none := by
      refine List.find?_eq_none.2 fun t ht hlead => h ?_
      obtain ⟨q, hq⟩ := leads_iff.1 hlead
      exact ⟨t :: q, route_cons_iff.2 ⟨ha, ht, hq⟩⟩
    simp only [Reached, find?_targets_append, hnone, Option.map_none, Option.none_or]

/-! ## The walk -/

/-- **The walk over a stack visits the modules that are reached from it, and at that depth.**  By
    induction on the walk: an entry that was visited leads nowhere, and opening any other one
    changes nothing but that it is reached itself. -/
theorem mem_visits_iff :
    (c, k) ∈ visits edges avoid stack ↔ Reached edges avoid stack c k := by
  induction avoid, stack using visits.induct edges with
  | case1 avoid =>
    simp [visits, Reached]
  | case2 avoid a depth stack hmem ih =>
    have hclosed : ¬ ∃ q, Route edges avoid a q c := by
      rintro ⟨q, hq⟩
      exact hq.start_clear hmem
    rw [visits, if_pos hmem, ih, reached_cons_iff_of_no_route hclosed]
  | case3 avoid a depth stack ha next ih =>
    rw [visits, if_neg ha, List.mem_cons, ih]
    by_cases hac : a = c
    · subst hac
      rw [reached_cons_iff_of_route ⟨[], route_self_iff.2 ⟨rfl, ha⟩⟩]
      constructor
      · rintro (heq | ⟨e, p, -, hp, -⟩)
        · exact ⟨[], firstRoute_self_iff.2 ⟨rfl, ha⟩, (Prod.mk.inj heq).2⟩
        · exact absurd List.mem_cons_self hp.route.end_clear
      · rintro ⟨p, hp, rfl⟩
        obtain ⟨rfl, -⟩ := firstRoute_self_iff.1 hp
        exact Or.inl rfl
    · rw [reached_targets_iff ha hac]
      refine or_iff_right ?_
      intro heq
      exact hac (Prod.mk.inj heq).1.symm

theorem mem_visits_root_iff :
    (c, k) ∈ visits edges [] [(root, 0)] ↔ ∃ p, FirstRoute edges [] root p c ∧ p.length = k := by
  rw [mem_visits_iff]
  by_cases h : ∃ q, Route edges [] root q c
  · rw [reached_cons_iff_of_route h]
    simp only [Nat.zero_add, eq_comm]
  · rw [reached_cons_iff_of_no_route h]
    constructor
    · rintro ⟨e, p, he, -, -⟩
      exact absurd he (by simp)
    · rintro ⟨p, hp, -⟩
      exact absurd ⟨p, hp.route⟩ h

/-! ## The depth -/

theorem foldl_max_le_iff {l : List Nat} {m n : Nat} :
    l.foldl max m ≤ n ↔ m ≤ n ∧ ∀ k ∈ l, k ≤ n := by
  induction l generalizing m with
  | nil => simp
  | cons k l ih =>
    rw [List.foldl_cons, ih, Nat.max_le, List.forall_mem_cons, and_assoc]

/-- **The depth from a root is the length of the longest first route from there**: it bounds
    exactly what bounds all of them. -/
theorem depth_le_iff {n : Nat} :
    Dependency.depth edges root ≤ n ↔
      ∀ c p, FirstRoute edges [] root p c → p.length ≤ n := by
  rw [Dependency.depth, foldl_max_le_iff]
  simp only [Nat.zero_le, true_and, List.forall_mem_map]
  constructor
  · intro h c p hp
    exact h (c, p.length) (mem_visits_root_iff.2 ⟨p, hp, rfl⟩)
  · rintro h ⟨c, k⟩ hmem
    obtain ⟨p, hp, rfl⟩ := mem_visits_root_iff.1 hmem
    exact h c p hp

end CodeSurvey.Dependency
