/-
  Mutual references.

  * `DependencyEdge.ends`, `joins`: the modules that a reference joins;
  * `referencePairs`: what refers to what, by source; `mem_referencePairs_iff`;
    `mutualPairs_eq_filter`: the mutual ones among them;
  * `mem_distinctPairs_iff`: of the pairs that join the same modules the first stays;
  * `referencePairs_append`, `referencePairs_of_source`: where the references of a module stand
    together, going through them by source is going through them one by one;
  * `mem_cycles_or_swap_iff`: a pair of modules is found exactly if both refer to each other;
    `find?_joins_of_mem_cycles`, `pairwise_cycles`: where references stand together, pairs are
    listed like the earliest reference that joins the two.
-/
import CodeSurvey.Proofs.Dependency.Chain

namespace CodeSurvey

/-- The two ends of a reference, its source first. -/
def DependencyEdge.ends (e : DependencyEdge) : Text × Text :=
  (e.source, e.target)

namespace Dependency

variable {edges : List DependencyEdge} {p q : Text × Text} {a b : Text}

/-- Whether a reference joins the two modules of a pair, in either direction. -/
def joins (p : Text × Text) (e : DependencyEdge) : Bool :=
  samePair p e.ends

/-! ## Pairs -/

theorem samePair_iff : samePair p q = true ↔ p = q ∨ p = q.swap := by
  simp [samePair]

theorem samePair_self : samePair p p = true :=
  samePair_iff.2 (Or.inl rfl)

theorem samePair_comm : samePair p q = samePair q p := by
  rw [Bool.eq_iff_iff, samePair_iff, samePair_iff]
  refine or_congr eq_comm ?_
  constructor
  · rintro rfl
    exact q.swap_swap.symm
  · rintro rfl
    exact p.swap_swap.symm

theorem samePair_swap_left : samePair p.swap q = samePair p q := by
  rw [Bool.eq_iff_iff, samePair_iff, samePair_iff, Prod.swap_inj, or_comm]
  refine or_congr Iff.rfl ?_
  constructor
  · rintro rfl
    exact p.swap_swap.symm
  · rintro rfl
    exact q.swap_swap

/-- Of the pairs that join the same modules, the first one stays. -/
theorem mem_distinctPairs_iff {l : List (Text × Text)} :
    p ∈ distinctPairs l ↔ l.find? (samePair p) = some p := by
  induction l with
  | nil => simp [distinctPairs]
  | cons q l ih =>
    rw [distinctPairs, List.mem_cons, List.mem_filter, ih]
    by_cases h : samePair p q = true
    · rw [List.find?_cons_of_pos h, samePair_comm (p := q), h, Option.some.injEq]
      simp [eq_comm]
    · have hne : p ≠ q := by
        rintro rfl
        exact h samePair_self
      rw [List.find?_cons_of_neg h, samePair_comm (p := q), eq_false_of_ne_true h]
      simp [hne]

theorem distinctPairs_sublist (l : List (Text × Text)) : (distinctPairs l).Sublist l := by
  induction l with
  | nil => exact List.Sublist.refl []
  | cons p l ih => exact (List.filter_sublist.trans ih).cons_cons p

/-! ## What refers to what -/

/-- What refers to what, by source and then by target, each once. -/
def referencePairs (edges : List DependencyEdge) : List (Text × Text) :=
  (sources edges).flatMap fun a => (targets edges a).map fun b => (a, b)

theorem mem_targets_iff_ends : b ∈ targets edges a ↔ (a, b) ∈ edges.map DependencyEdge.ends := by
  simp only [mem_targets_iff, List.mem_map, DependencyEdge.ends, Prod.mk.injEq]

theorem mem_referencePairs_iff : p ∈ referencePairs edges ↔ p ∈ edges.map DependencyEdge.ends := by
  obtain ⟨a, b⟩ := p
  rw [← mem_targets_iff_ends]
  simp only [referencePairs, List.mem_flatMap, List.mem_map, Prod.mk.injEq]
  constructor
  · rintro ⟨_, -, _, hb, rfl, rfl⟩
    exact hb
  · intro hb
    refine ⟨a, ?_, b, hb, rfl, rfl⟩
    obtain ⟨e, he, hends⟩ := List.mem_map.1 (mem_targets_iff_ends.1 hb)
    rw [sources, mem_distinct]
    exact List.mem_map.2 ⟨e, he, (Prod.mk.inj hends).1⟩

theorem mutualPairs_eq_filter :
    mutualPairs edges =
      (referencePairs edges).filter fun p => p.swap ∈ edges.map DependencyEdge.ends := by
  rw [mutualPairs, referencePairs, List.filter_flatMap]
  refine List.flatMap_congr fun a _ => ?_
  rw [List.filter_map]
  congr 1
  refine List.filter_congr fun b _ => ?_
  simp only [mem_targets_iff_ends, Function.comp_apply, Prod.swap_prod_mk]

theorem mem_mutualPairs_iff :
    p ∈ mutualPairs edges ↔
      p ∈ edges.map DependencyEdge.ends ∧ p.swap ∈ edges.map DependencyEdge.ends := by
  rw [mutualPairs_eq_filter, List.mem_filter, mem_referencePairs_iff, decide_eq_true_eq]

/-! ## References that stand together -/

section
variable {l l' : List DependencyEdge}

theorem targets_append_left (h : ∀ e ∈ l, e.source ≠ a) : targets (l ++ l') a = targets l' a := by
  have hnil : l.filter (fun e => e.source = a) = [] :=
    List.filter_eq_nil_iff.2 fun e he hsource => h e he (of_decide_eq_true hsource)
  rw [targets, List.filter_append, hnil, List.nil_append, targets]

theorem targets_append_right (h : ∀ e ∈ l', e.source ≠ a) : targets (l ++ l') a = targets l a := by
  have hnil : l'.filter (fun e => e.source = a) = [] :=
    List.filter_eq_nil_iff.2 fun e he hsource => h e he (of_decide_eq_true hsource)
  rw [targets, List.filter_append, hnil, List.append_nil, targets]

theorem exists_of_mem_sources (h : a ∈ sources edges) : ∃ e ∈ edges, e.source = a :=
  List.mem_map.1 (mem_distinct.1 h)

/-- References of other modules are gone through apart from the first ones. -/
theorem referencePairs_append (h : ∀ e ∈ l, ∀ e' ∈ l', e.source ≠ e'.source) :
    referencePairs (l ++ l') = referencePairs l ++ referencePairs l' := by
  have hsources : sources (l ++ l') = sources l ++ sources l' := by
    rw [sources, List.map_append, distinct_append, ← sources, ← sources]
    intro a ha hmem
    obtain ⟨e', he', rfl⟩ := List.mem_map.1 ha
    obtain ⟨e, he, heq⟩ := List.mem_map.1 hmem
    exact h e he e' he' heq
  rw [referencePairs, hsources, List.flatMap_append]
  congr 1
  · refine List.flatMap_congr fun a ha => ?_
    obtain ⟨e, he, rfl⟩ := exists_of_mem_sources ha
    rw [targets_append_right fun e' he' => (h e he e' he').symm]
  · refine List.flatMap_congr fun a ha => ?_
    obtain ⟨e', he', rfl⟩ := exists_of_mem_sources ha
    rw [targets_append_left fun e he => h e he e' he']

theorem distinct_ends_append (h : ∀ e ∈ l, ∀ e' ∈ l', e.source ≠ e'.source) :
    distinct ((l ++ l').map DependencyEdge.ends) =
      distinct (l.map DependencyEdge.ends) ++ distinct (l'.map DependencyEdge.ends) := by
  rw [List.map_append, distinct_append]
  intro p hp hmem
  obtain ⟨e', he', rfl⟩ := List.mem_map.1 hp
  obtain ⟨e, he, heq⟩ := List.mem_map.1 hmem
  exact h e he e' he' (Prod.mk.inj heq).1

/-- The references of one module are gone through in their order. -/
theorem referencePairs_of_source (h : ∀ e ∈ l, e.source = a) :
    referencePairs l = distinct (l.map DependencyEdge.ends) := by
  have hends : l.map DependencyEdge.ends =
      (l.map DependencyEdge.target).map fun b => (a, b) := by
    rw [List.map_map]
    refine List.map_congr_left fun e he => ?_
    rw [DependencyEdge.ends, h e he, Function.comp_apply]
  have hsources : l.map DependencyEdge.source = List.replicate l.length a :=
    List.map_eq_replicate_iff.2 h
  have htargets : l.filter (fun e => e.source = a) = l :=
    List.filter_eq_self.2 fun e he => decide_eq_true (h e he)
  rw [referencePairs, sources, hsources, hends, distinct_map fun b b' heq => (Prod.mk.inj heq).2]
  cases l with
  | nil => rfl
  | cons e l =>
    rw [List.length_cons, distinct_replicate_succ, List.flatMap_singleton, targets, htargets]

end

/-! ## The pairs found -/

theorem mem_mutualPairs_of_mem_cycles (h : p ∈ cycles edges) : p ∈ mutualPairs edges :=
  (distinctPairs_sublist _).subset h

/-- **A pair of modules is found, one way round, exactly if both refer to each other.** -/
theorem mem_cycles_or_swap_iff :
    p ∈ cycles edges ∨ p.swap ∈ cycles edges ↔
      p ∈ edges.map DependencyEdge.ends ∧ p.swap ∈ edges.map DependencyEdge.ends := by
  constructor
  · rintro (h | h)
    · exact mem_mutualPairs_iff.1 (mem_mutualPairs_of_mem_cycles h)
    · exact (mem_mutualPairs_iff.1 (mem_mutualPairs_of_mem_cycles h)).symm
  · intro h
    have hsome : ((mutualPairs edges).find? (samePair p)).isSome = true :=
      List.find?_isSome.2 ⟨p, mem_mutualPairs_iff.2 h, samePair_self⟩
    obtain ⟨q, hq⟩ := Option.isSome_iff_exists.1 hsome
    have hswap : samePair p.swap = samePair p := funext fun _ => samePair_swap_left
    rcases samePair_iff.1 (List.find?_some hq) with rfl | rfl
    · exact Or.inl (mem_distinctPairs_iff.2 hq)
    · refine Or.inr (mem_distinctPairs_iff.2 ?_)
      rw [hswap, hq, Prod.swap_swap]

/-! ## Their order -/

section
variable (h : referencePairs edges = distinct (edges.map DependencyEdge.ends))
include h

/-- The earliest reference that joins the modules of a pair gives the pair its direction. -/
theorem find?_joins_of_mem_cycles (hp : p ∈ cycles edges) :
    (edges.find? (joins p)).map DependencyEdge.ends = some p := by
  have hmutual := mem_mutualPairs_iff.1 (mem_mutualPairs_of_mem_cycles hp)
  have hfind := mem_distinctPairs_iff.1 hp
  -- pairs that join the same modules are mutual together, so that the filter leaves out nothing
  have hsame : (fun q => decide (decide (q.swap ∈ edges.map DependencyEdge.ends) = true ∧
      samePair p q = true)) = samePair p := by
    funext q
    by_cases hpq : samePair p q = true
    · rcases samePair_iff.1 hpq with rfl | rfl
      · simp [hmutual.2, hpq]
      · simp [hmutual.1, hpq]
    · simp [hpq]
  rw [mutualPairs_eq_filter, List.find?_filter, hsame, h, find?_distinct, List.find?_map] at hfind
  exact hfind

theorem pairwise_cycles :
    (cycles edges).Pairwise fun p q => edges.findIdx (joins p) < edges.findIdx (joins q) := by
  have hsorted : (cycles edges).Pairwise fun p q =>
      (edges.map DependencyEdge.ends).idxOf p < (edges.map DependencyEdge.ends).idxOf q := by
    refine List.Pairwise.sublist (distinctPairs_sublist _) ?_
    rw [mutualPairs_eq_filter, h]
    exact (pairwise_distinct _).filter _
  have hidx : ∀ p ∈ cycles edges,
      edges.findIdx (joins p) = (edges.map DependencyEdge.ends).idxOf p := by
    intro p hp
    rw [← findIdx_eq_idxOf (q := samePair p), List.findIdx_map]
    · rfl
    · rw [List.find?_map]
      exact find?_joins_of_mem_cycles h hp
  refine hsorted.imp_of_mem ?_
  intro p q hp hq hlt
  rwa [hidx p hp, hidx q hq]

end

end Dependency

end CodeSurvey
