/-
  The pairs of modules that refer to each other.

  * `unorderedCycles`: the pairs found, without their direction; `mem_unorderedCycles_iff`,
    `nodup_unorderedCycles`: they are the mutual references, each once;
  * `Rewritten`: references put in another order, repeated or of another kind;
    `cycles_exact`: these make no difference to the pairs found;
  * `listing`: where a pair is come across, going through the references by source and then by
    target; `pairwise_listing_cycles`, `mem_cycles_iff`: the pairs stand in this order, each with
    the direction in which it is come across first;
  * `Grouped`, `referencePairs_of_grouped`: references of a module that stand together;
  * `cycles_order`: when the pairs stand in the order of the first references that join them;
    `cycles_order_interleaved`: they need not.
-/
import CodeSurvey.Proofs.Dependency.Mutual
import Mathlib.Data.List.Triplewise
import Mathlib.Data.Sym.Sym2
import Mathlib.Data.Prod.Lex

namespace CodeSurvey.Dependency

variable {edges edges' : List DependencyEdge} {p q : Text × Text} {a b : Text}

/-! ## Pairs without a direction -/

theorem samePair_iff_sym2 : samePair p q = true ↔ s(p.1, p.2) = s(q.1, q.2) := by
  rw [samePair_iff, Sym2.mk_eq_mk_iff]

theorem pairwise_distinctPairs (l : List (Text × Text)) :
    (distinctPairs l).Pairwise fun p q => samePair p q = false := by
  induction l with
  | nil => exact List.Pairwise.nil
  | cons p l ih =>
    rw [distinctPairs, List.pairwise_cons]
    refine ⟨fun q hq => ?_, ih.filter _⟩
    simpa using (List.mem_filter.1 hq).2

/-- The pairs of modules that are found to refer to each other, without their direction. -/
def unorderedCycles (edges : List DependencyEdge) : List (Sym2 Text) :=
  (cycles edges).map fun p => s(p.1, p.2)

theorem mem_unorderedCycles_iff :
    s(a, b) ∈ unorderedCycles edges ↔
      (a, b) ∈ edges.map DependencyEdge.ends ∧ (b, a) ∈ edges.map DependencyEdge.ends := by
  have hcycles : (a, b) ∈ cycles edges ∨ (b, a) ∈ cycles edges ↔
      (a, b) ∈ edges.map DependencyEdge.ends ∧ (b, a) ∈ edges.map DependencyEdge.ends :=
    mem_cycles_or_swap_iff
  rw [← hcycles, unorderedCycles, List.mem_map]
  constructor
  · rintro ⟨⟨c, d⟩, hmem, heq⟩
    rcases Sym2.eq_iff.1 heq with ⟨rfl, rfl⟩ | ⟨rfl, rfl⟩
    · exact Or.inl hmem
    · exact Or.inr hmem
  · rintro (hmem | hmem)
    · exact ⟨(a, b), hmem, rfl⟩
    · exact ⟨(b, a), hmem, Sym2.eq_swap⟩

theorem nodup_unorderedCycles (edges : List DependencyEdge) : (unorderedCycles edges).Nodup := by
  refine List.pairwise_map.2 ((pairwise_distinctPairs _).imp ?_)
  intro p q hne heq
  rw [samePair_iff_sym2.2 heq] at hne
  exact Bool.noConfusion hne

/-! ## The same references -/

/-- References put in another order, repeated, or of another kind, any number of times. -/
inductive Rewritten (edges : List DependencyEdge) : List DependencyEdge → Prop
  | refl : Rewritten edges edges
  | permute {l l' : List DependencyEdge} (first : Rewritten edges l) (same : l.Perm l') :
      Rewritten edges l'
  | repeat_ {l : List DependencyEdge} {e : DependencyEdge} (first : Rewritten edges l)
      (old : e ∈ l) : Rewritten edges (e :: l)
  | retype {l l' : List DependencyEdge} (first : Rewritten edges l)
      (same : l'.map DependencyEdge.ends = l.map DependencyEdge.ends) : Rewritten edges l'

theorem Rewritten.mem_ends_iff (h : Rewritten edges edges') (p : Text × Text) :
    p ∈ edges'.map DependencyEdge.ends ↔ p ∈ edges.map DependencyEdge.ends := by
  induction h with
  | refl => exact Iff.rfl
  | permute first same ih => rw [← ih, (same.map DependencyEdge.ends).mem_iff]
  | repeat_ first old ih =>
    rw [← ih, List.map_cons, List.mem_cons]
    refine or_iff_right_of_imp ?_
    rintro rfl
    exact List.mem_map_of_mem old
  | retype first same ih => rw [← ih, same]

/-- **The pairs found are exactly the mutual references**, each once and one way round, a module
    with itself where it refers to itself; so the order of the references, their repetitions and
    their kinds make no difference to which pairs are found. -/
theorem cycles_exact (edges : List DependencyEdge) :
    (∀ a b, s(a, b) ∈ unorderedCycles edges ↔
      (∃ e ∈ edges, e.source = a ∧ e.target = b) ∧ ∃ e ∈ edges, e.source = b ∧ e.target = a) ∧
    (unorderedCycles edges).Nodup ∧
    ∀ edges', Rewritten edges edges' → (unorderedCycles edges').Perm (unorderedCycles edges) := by
  refine ⟨?_, nodup_unorderedCycles edges, ?_⟩
  · intro a b
    simp only [mem_unorderedCycles_iff, List.mem_map, DependencyEdge.ends, Prod.mk.injEq]
  · intro edges' h
    refine (List.perm_ext_iff_of_nodup (nodup_unorderedCycles _) (nodup_unorderedCycles _)).2 ?_
    intro z
    induction z with
    | _ a b => rw [mem_unorderedCycles_iff, mem_unorderedCycles_iff, h.mem_ends_iff, h.mem_ends_iff]

/-- Two modules that refer to each other, one of them also to itself and to a third one. -/
def mutualEdges : List DependencyEdge :=
  [⟨Text.ofString "a", Text.ofString "b", .import_⟩, ⟨Text.ofString "b", Text.ofString "a", .require⟩,
    ⟨Text.ofString "b", Text.ofString "b", .import_⟩, ⟨Text.ofString "b", Text.ofString "c", .import_⟩]

/-- The same references from the last to the first, that of `b` to itself twice. -/
def mutualEdgesReversed : List DependencyEdge :=
  ⟨Text.ofString "b", Text.ofString "b", .import_⟩ :: mutualEdges.reverse

theorem cycles_exact_reversed :
    Rewritten mutualEdges mutualEdgesReversed ∧
    (unorderedCycles mutualEdgesReversed).Perm (unorderedCycles mutualEdges) ∧
    s(Text.ofString "b", Text.ofString "b") ∈ unorderedCycles mutualEdgesReversed := by
  have hpermuted : Rewritten mutualEdges mutualEdges.reverse :=
    .permute .refl (List.reverse_perm mutualEdges).symm
  have hrewritten : Rewritten mutualEdges mutualEdgesReversed :=
    .repeat_ hpermuted (by decide)
  refine ⟨hrewritten, (cycles_exact mutualEdges).2.2 _ hrewritten, ?_⟩
  exact ((cycles_exact mutualEdgesReversed).1 _ _).2 (by decide)

/-! ## The order of the pairs -/

/-- Where a pair is come across: at the first reference that its first module makes at all, then at
    the first of those to its second module. -/
def listing (edges : List DependencyEdge) (p : Text × Text) : Nat ×ₗ Nat :=
  toLex ((edges.map DependencyEdge.source).idxOf p.1, (edges.map DependencyEdge.ends).idxOf p)

theorem map_targets (edges : List DependencyEdge) (a : Text) :
    (targets edges a).map (fun b => (a, b)) =
      (distinct (edges.map DependencyEdge.ends)).filter fun p => p.1 = a := by
  have hends : (edges.map DependencyEdge.ends).filter (fun p => p.1 = a) =
      ((edges.filter fun e => e.source = a).map DependencyEdge.target).map fun b => (a, b) := by
    rw [List.filter_map, List.map_map]
    refine List.map_congr_left fun e he => ?_
    have hsource := of_decide_eq_true (List.mem_filter.1 he).2
    rw [Function.comp_apply, ← hsource, DependencyEdge.ends]
  rw [← distinct_filter, hends, distinct_map fun b b' heq => (Prod.mk.inj heq).2, targets]

theorem pairwise_listing_referencePairs (edges : List DependencyEdge) :
    (referencePairs edges).Pairwise fun p q => listing edges p < listing edges q := by
  rw [referencePairs, List.pairwise_flatMap]
  constructor
  · intro a _
    rw [map_targets]
    refine ((pairwise_distinct _).filter _).imp_of_mem ?_
    intro p q hp hq hlt
    have hp := of_decide_eq_true (List.mem_filter.1 hp).2
    have hq := of_decide_eq_true (List.mem_filter.1 hq).2
    refine Prod.Lex.toLex_lt_toLex.2 (Or.inr ⟨?_, hlt⟩)
    rw [hp, hq]
  · refine (pairwise_distinct _).imp ?_
    intro a b hlt p hp q hq
    obtain ⟨c, -, rfl⟩ := List.mem_map.1 hp
    obtain ⟨d, -, rfl⟩ := List.mem_map.1 hq
    exact Prod.Lex.toLex_lt_toLex.2 (Or.inl hlt)

theorem pairwise_listing_mutualPairs (edges : List DependencyEdge) :
    (mutualPairs edges).Pairwise fun p q => listing edges p < listing edges q := by
  rw [mutualPairs_eq_filter]
  exact (pairwise_listing_referencePairs edges).filter _

/-- **Pairs stand in the order in which they are come across.** -/
theorem pairwise_listing_cycles (edges : List DependencyEdge) :
    (cycles edges).Pairwise fun p q => listing edges p < listing edges q :=
  (pairwise_listing_mutualPairs edges).sublist (distinctPairs_sublist _)

/-- **A pair has the direction in which it is come across first**: its first module is the one that
    makes a reference earlier. -/
theorem mem_cycles_iff :
    p ∈ cycles edges ↔
      (p ∈ edges.map DependencyEdge.ends ∧ p.swap ∈ edges.map DependencyEdge.ends) ∧
        (edges.map DependencyEdge.source).idxOf p.1 ≤
          (edges.map DependencyEdge.source).idxOf p.2 := by
  rw [cycles, mem_distinctPairs_iff,
    find?_eq_some_iff_of_pairwise (pairwise_listing_mutualPairs edges), mem_mutualPairs_iff]
  refine and_congr_right fun hmutual => ?_
  constructor
  · rintro ⟨-, hfirst⟩
    have hle := hfirst p.swap (mem_mutualPairs_iff.2 hmutual.symm)
      (samePair_iff.2 (Or.inr p.swap_swap.symm))
    rcases Prod.Lex.toLex_le_toLex.1 hle with hlt | ⟨heq, -⟩
    · exact hlt.le
    · exact heq.le
  · intro hle
    refine ⟨samePair_self, fun q _ hq => ?_⟩
    rcases samePair_iff.1 hq with rfl | rfl
    · exact le_rfl
    · rcases hle.lt_or_eq with hlt | heq
      · exact (Prod.Lex.toLex_lt_toLex.2 (Or.inl hlt)).le
      · -- both modules make the same first reference, so that they are the same
        have hmem : q.swap.1 ∈ edges.map DependencyEdge.source := by
          obtain ⟨e, he, hends⟩ := List.mem_map.1 hmutual.1
          exact List.mem_map.2 ⟨e, he, congrArg Prod.fst hends⟩
        have hsame : q.swap.1 = q.swap.2 := (List.idxOf_inj hmem).1 heq
        have hself : q.swap = q := Prod.ext_iff.2 ⟨hsame, hsame.symm⟩
        rw [hself]

/-! ## The first references that join pairs -/

/-- Pairs that stand in one order stand in another one exactly if this one ranks no two of them the
    other way round. -/
theorem pairwise_lt_iff {α β : Type} [LinearOrder β] {f : α → β} {g : α → Nat} {l : List α}
    (hf : l.Pairwise fun x y => f x < f y) (hg : l.Pairwise fun x y => g x ≠ g y) :
    (l.Pairwise fun x y => g x < g y) ↔ ∀ x ∈ l, ∀ y ∈ l, g x < g y → f x < f y := by
  constructor
  · intro h x hx y hy
    let Agree (x y : α) : Prop := (g x < g y → f x < f y) ∧ (g y < g x → f y < f x)
    have : Std.Symm Agree := ⟨fun _ _ h => h.symm⟩
    have hagree : l.Pairwise Agree := by
      refine (hf.and h).imp ?_
      rintro x y ⟨hfxy, hgxy⟩
      exact ⟨fun _ => hfxy, fun hgyx => absurd hgyx hgxy.asymm⟩
    have hself : ∀ x ∈ l, Agree x x :=
      fun x _ => ⟨fun h => absurd h (Nat.lt_irrefl _), fun h => absurd h (Nat.lt_irrefl _)⟩
    exact (hagree.forall_of_forall hself hx hy).1
  · intro h
    refine (hf.and hg).imp_of_mem ?_
    rintro x y hx hy ⟨hfxy, hne⟩
    rcases Nat.lt_or_gt_of_ne hne with hlt | hgt
    · exact hlt
    · exact absurd (h y hy x hx hgt) hfxy.asymm

/-- No reference joins two pairs, so that the first ones that do are different. -/
theorem findIdx_joins_ne (hp : p ∈ edges.map DependencyEdge.ends) (hne : samePair p q = false) :
    edges.findIdx (joins p) ≠ edges.findIdx (joins q) := by
  intro heq
  obtain ⟨e, he, rfl⟩ := List.mem_map.1 hp
  have hlt : edges.findIdx (joins e.ends) < edges.length :=
    List.findIdx_lt_length_of_exists ⟨e, he, samePair_self⟩
  have hjoin := ((List.findIdx_eq hlt).1 rfl).1
  have hjoin' := ((List.findIdx_eq hlt).1 heq.symm).1
  have hsame : samePair e.ends q = true :=
    samePair_iff_sym2.2 ((samePair_iff_sym2.1 hjoin).trans (samePair_iff_sym2.1 hjoin').symm)
  rw [hne] at hsame
  exact Bool.noConfusion hsame

theorem pairwise_findIdx_ne_cycles (edges : List DependencyEdge) :
    (cycles edges).Pairwise fun p q =>
      edges.findIdx (joins p) ≠ edges.findIdx (joins q) := by
  refine (pairwise_distinctPairs (mutualPairs edges)).imp_of_mem ?_
  intro p q hp _ hne
  exact findIdx_joins_ne (mem_cycles_iff.1 hp).1.1 hne

/-! ## References that stand together -/

/-- The references of each module stand together: between two of them there are no others. -/
def Grouped (edges : List DependencyEdge) : Prop :=
  edges.Triplewise fun d x e => d.source = e.source → x.source = d.source

/-- The references of the first module stand in front of all others. -/
theorem Grouped.split {e : DependencyEdge} {rest : List DependencyEdge}
    (h : Grouped (e :: rest)) :
    ∃ own others, rest = own ++ others ∧ (∀ x ∈ own, x.source = e.source) ∧
      ∀ y ∈ others, y.source ≠ e.source := by
  induction rest with
  | nil => exact ⟨[], [], rfl, nofun, nofun⟩
  | cons x rest ih =>
    obtain ⟨hfirst, hrest⟩ := List.triplewise_cons.1 h
    obtain ⟨hbetween, hfirst⟩ := List.pairwise_cons.1 hfirst
    by_cases hx : x.source = e.source
    · obtain ⟨own, others, rfl, hown, hothers⟩ :=
        ih (List.triplewise_cons.2 ⟨hfirst, (List.triplewise_cons.1 hrest).2⟩)
      refine ⟨x :: own, others, rfl, ?_, hothers⟩
      intro y hy
      rcases List.mem_cons.1 hy with rfl | hy
      · exact hx
      · exact hown y hy
    · refine ⟨[], x :: rest, rfl, nofun, ?_⟩
      intro y hy
      rcases List.mem_cons.1 hy with rfl | hy
      · exact hx
      · exact fun hsource => hx (hbetween y hy hsource.symm)

/-- Where references stand together, going through them by source and then by target is going
    through them one by one.  By induction on the modules that make references. -/
theorem referencePairs_of_grouped (h : Grouped edges) :
    referencePairs edges = distinct (edges.map DependencyEdge.ends) := by
  induction hn : edges.length using Nat.strongRecOn generalizing edges with
  | ind n ih =>
    subst hn
    cases edges with
    | nil => rfl
    | cons e rest =>
      obtain ⟨own, others, rfl, hown, hothers⟩ := h.split
      have hsource : ∀ x ∈ e :: own, x.source = e.source := List.forall_mem_cons.2 ⟨rfl, hown⟩
      have hapart : ∀ x ∈ e :: own, ∀ y ∈ others, x.source ≠ y.source := by
        intro x hx y hy
        rw [hsource x hx]
        exact (hothers y hy).symm
      have hlt : others.length < (e :: (own ++ others)).length := by
        rw [List.length_cons, List.length_append]
        omega
      rw [← List.cons_append] at h ⊢
      have hgrouped : Grouped others := (List.triplewise_append.1 h).2.1
      rw [referencePairs_append hapart, distinct_ends_append hapart,
        referencePairs_of_source hsource, ih _ hlt hgrouped rfl]

/-- **The order of the pairs.**  A pair is listed from the module that makes a reference earlier;
    pairs stand by the first reference of that module at all, then by its first one to the other
    module.  This is the order of the first references that join the pairs, in either direction,
    exactly if no two pairs are come across the other way round; in particular if the references of
    each module stand together. -/
theorem cycles_order (edges : List DependencyEdge) :
    (∀ p, p ∈ cycles edges ↔
      (p ∈ edges.map DependencyEdge.ends ∧ p.swap ∈ edges.map DependencyEdge.ends) ∧
        (edges.map DependencyEdge.source).idxOf p.1 ≤
          (edges.map DependencyEdge.source).idxOf p.2) ∧
    ((cycles edges).Pairwise fun p q => listing edges p < listing edges q) ∧
    (((cycles edges).Pairwise fun p q => edges.findIdx (joins p) < edges.findIdx (joins q)) ↔
      ∀ p ∈ cycles edges, ∀ q ∈ cycles edges,
        edges.findIdx (joins p) < edges.findIdx (joins q) → listing edges p < listing edges q) ∧
    (Grouped edges →
      (cycles edges).Pairwise fun p q => edges.findIdx (joins p) < edges.findIdx (joins q)) :=
  ⟨fun _ => mem_cycles_iff, pairwise_listing_cycles edges,
    pairwise_lt_iff (pairwise_listing_cycles edges) (pairwise_findIdx_ne_cycles edges),
    fun h => pairwise_cycles (referencePairs_of_grouped h)⟩

/-- Three modules of which two pairs refer to each other, one of them also to itself. -/
def groupedEdges : List DependencyEdge :=
  [⟨Text.ofString "b", Text.ofString "c", .import_⟩, ⟨Text.ofString "b", Text.ofString "b", .import_⟩,
    ⟨Text.ofString "a", Text.ofString "b", .import_⟩, ⟨Text.ofString "c", Text.ofString "a", .import_⟩,
    ⟨Text.ofString "c", Text.ofString "b", .require⟩]

theorem cycles_order_grouped :
    Grouped groupedEdges ∧
    cycles groupedEdges =
      [(Text.ofString "b", Text.ofString "c"), (Text.ofString "b", Text.ofString "b")] ∧
    (cycles groupedEdges).Pairwise fun p q =>
      groupedEdges.findIdx (joins p) < groupedEdges.findIdx (joins q) := by
  have hgrouped : Grouped groupedEdges := by
    simp only [Grouped, groupedEdges, List.triplewise_cons]
    exact ⟨by decide, by decide, by decide, by decide, by decide, .nil⟩
  exact ⟨hgrouped, by decide +kernel, (cycles_order groupedEdges).2.2.2 hgrouped⟩

/-- Two pairs that refer to each other; a module of the second one has made a reference before. -/
def interleavedEdges : List DependencyEdge :=
  [⟨Text.ofString "a", Text.ofString "x", .import_⟩, ⟨Text.ofString "c", Text.ofString "d", .import_⟩,
    ⟨Text.ofString "d", Text.ofString "c", .import_⟩, ⟨Text.ofString "a", Text.ofString "b", .import_⟩,
    ⟨Text.ofString "b", Text.ofString "a", .import_⟩]

/-- **The order need not be that of the first references that join the pairs.**  Here `c` and `d` are
    joined first, but `a` makes a reference before them, if to none of its partners. -/
theorem cycles_order_interleaved :
    cycles interleavedEdges =
      [(Text.ofString "a", Text.ofString "b"), (Text.ofString "c", Text.ofString "d")] ∧
    interleavedEdges.findIdx (joins (Text.ofString "c", Text.ofString "d")) <
      interleavedEdges.findIdx (joins (Text.ofString "a", Text.ofString "b")) ∧
    ¬ (cycles interleavedEdges).Pairwise fun p q =>
      interleavedEdges.findIdx (joins p) < interleavedEdges.findIdx (joins q) := by
  have hcycles : cycles interleavedEdges =
      [(Text.ofString "a", Text.ofString "b"), (Text.ofString "c", Text.ofString "d")] := by
    decide +kernel
  have hlt : interleavedEdges.findIdx (joins (Text.ofString "c", Text.ofString "d")) <
      interleavedEdges.findIdx (joins (Text.ofString "a", Text.ofString "b")) := by
    decide +kernel
  refine ⟨hcycles, hlt, ?_⟩
  rw [hcycles]
  intro h
  have hgt := (List.pairwise_cons.1 h).1 _ (List.mem_singleton_self _)
  exact Nat.lt_asymm hlt hgt

end CodeSurvey.Dependency
