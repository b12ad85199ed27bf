/-
  Every subtree is a segment of the listing of a tree.

  * `Spot.Within`, `Spot.Below`, `Spot.Apart`: one node lies in the tree of another, properly
    below it, or neither in the tree of the other, as their addresses tell;
  * `Node.filter_below_spots`: the nodes below a listed node are the rest of the tree under
    it, in order; `Node.mem_descendants_of_below`: they are its descendants;
  * `sum_countP_eq`: counts for tests that exclude each other add up;
  * `Node.sum_countP_descendants_le`: what is counted below nodes apart from each other is
    counted once below a node above them.
-/
import CodeSurvey.Proofs.Tree.Preorder
import Mathlib.Algebra.GroupWithZero.Nat
import Mathlib.Data.List.Infix

namespace CodeSurvey

/-! ## Addresses -/

namespace Spot

/-- The address starts with that of the outer node: the outer node itself, or a node below it. -/
def Within (sp outer : Spot) : Prop :=
  outer.address <+: sp.address

/-- The address goes on beyond that of the outer node. -/
def Below (sp outer : Spot) : Prop :=
  sp.Within outer ∧ outer.address.length < sp.address.length

/-- Neither node is the other or lies below it. -/
def Apart (sp sp' : Spot) : Prop :=
  ¬ sp.Within sp' ∧ ¬ sp'.Within sp

instance (sp outer : Spot) : Decidable (sp.Within outer) :=
  inferInstanceAs (Decidable (_ <+: _))

instance (sp outer : Spot) : Decidable (sp.Below outer) :=
  inferInstanceAs (Decidable (_ ∧ _))

variable {sp sp' outer inner : Spot} {a : List Nat}

theorem Below.within (h : inner.Below sp) (h' : sp.Within outer) : inner.Below outer :=
  ⟨List.IsPrefix.trans h' h.1, h'.length_le.trans_lt h.2⟩

/-- No node lies below two nodes that are apart. -/
theorem Apart.not_below (h : sp.Apart sp') (hb : inner.Below sp) : ¬ inner.Below sp' := by
  intro hb'
  rcases List.prefix_or_prefix_of_prefix hb.1 hb'.1 with hp | hp
  · exact h.2 hp
  · exact h.1 hp

theorem below_of_address {i : Nat} {rest : List Nat}
    (h : sp.address = outer.address ++ i :: rest) : sp.Below outer := by
  rw [Below, Within, h]
  exact ⟨List.prefix_append _ _, by simp⟩

/-- Nodes under different children of one node are not below each other. -/
theorem not_below_of_ne {i j : Nat} {rest rest' : List Nat} (h : sp.address = a ++ i :: rest)
    (h' : outer.address = a ++ j :: rest') (hne : i ≠ j) : ¬ sp.Below outer := by
  rintro ⟨hp, -⟩
  rw [Within, h, h', List.prefix_append_right_inj, List.cons_prefix_cons] at hp
  exact hne hp.1.symm

end Spot

namespace Node

variable {root : Node} {sp sp' : Spot}

/-- Of nodes under other children of a node none lies below a node under one child. -/
theorem filter_below_eq_nil {a rest : List Nat} {j : Nat} {l : List Spot}
    (h : sp.address = a ++ j :: rest)
    (hl : ∀ q ∈ l, ∃ i rest, q.address = a ++ i :: rest ∧ i ≠ j) :
    l.filter (fun q => decide (q.Below sp)) = [] := by
  refine List.filter_eq_nil_iff.2 fun q hq => ?_
  obtain ⟨i, rest, hq, hne⟩ := hl q hq
  simpa using Spot.not_below_of_ne hq h hne

mutual

theorem filter_spotsBelow (address : List Nat) (above : List Node) (sp : Spot) :
    ∀ n : Node, sp ∈ n.spotsBelow address above →
      (n.spotsBelow address above).filter (fun q => decide (q.Below sp)) =
        sp.place.node.spotsBelow sp.address sp.place.ancestors
  | mk info children => by
    rw [spotsBelow]
    exact filter_spotsOf address _ sp children 0

theorem filter_spotsOf (address : List Nat) (above : List Node) (sp : Spot) :
    ∀ (ns : List Node) (k : Nat), sp ∈ spotsOf address above k ns →
      (spotsOf address above k ns).filter (fun q => decide (q.Below sp)) =
        sp.place.node.spotsBelow sp.address sp.place.ancestors
  | [], k, h => by rw [spotsOf] at h; cases h
  | n :: ns, k, h => by
    have hlater : ∀ q ∈ spotsOf address above (k + 1) ns,
        ∃ i rest, q.address = address ++ i :: rest ∧ i ≠ k := by
      intro q hq
      obtain ⟨i, rest, hq, hlt⟩ := address_of_mem_spotsOf hq
      exact ⟨i, rest, hq, Nat.ne_of_gt hlt⟩
    rw [spotsOf, List.mem_cons, List.mem_append] at h
    rw [spotsOf, List.filter_cons, List.filter_append]
    rcases h with rfl | h | h
    · -- the child itself: all that is listed for it, and nothing of its siblings
      have hall : (n.spotsBelow (address ++ [k]) above).filter
          (fun q => decide (q.Below ⟨address ++ [k], ⟨n, above⟩⟩)) =
            n.spotsBelow (address ++ [k]) above := by
        refine List.filter_eq_self.2 fun q hq => decide_eq_true ?_
        obtain ⟨i, rest, hq⟩ := address_of_mem_spotsBelow hq
        exact Spot.below_of_address (by rw [hq, List.append_assoc]; rfl)
      rw [if_neg (by simp [Spot.Below]), hall, filter_below_eq_nil rfl hlater, List.append_nil]
    · -- below the child
      obtain ⟨i, rest, hsp⟩ := address_of_mem_spotsBelow h
      have hhead : ¬ Spot.Below ⟨address ++ [k], ⟨n, above⟩⟩ sp := by
        rintro ⟨-, hlt⟩
        simp [hsp] at hlt
      rw [if_neg (by simpa using hhead), filter_below_eq_nil hsp hlater, List.append_nil]
      exact filter_spotsBelow (address ++ [k]) above sp n h
    · -- at or below a later sibling
      obtain ⟨i, rest, hsp, hlt⟩ := address_of_mem_spotsOf h
      have hhead : ¬ Spot.Below ⟨address ++ [k], ⟨n, above⟩⟩ sp :=
        Spot.not_below_of_ne rfl hsp (Nat.ne_of_lt hlt)
      have hearlier : ∀ q ∈ n.spotsBelow (address ++ [k]) above,
          ∃ j rest, q.address = address ++ j :: rest ∧ j ≠ i := by
        intro q hq
        obtain ⟨j, rest, hq⟩ := address_of_mem_spotsBelow hq
        exact ⟨k, j :: rest, hq, Nat.ne_of_lt hlt⟩
      rw [if_neg (by simpa using hhead), filter_below_eq_nil hsp hearlier, List.nil_append]
      exact filter_spotsOf address above sp ns (k + 1) h

end

/-- **The nodes below a listed node are one segment of the listing**: that of its own tree. -/
theorem filter_below_spots (h : sp ∈ root.spots) :
    root.spots.filter (fun q => decide (q.Below sp)) =
      sp.place.node.spotsBelow sp.address sp.place.ancestors :=
  filter_spotsBelow [] [] sp root h

theorem map_node_filter_below (h : sp ∈ root.spots) :
    (root.spots.filter fun q => decide (q.Below sp)).map (fun q => q.place.node) =
      sp.place.node.descendants := by
  rw [filter_below_spots h, map_node_spotsBelow]

/-- What lies below a listed node by its address is a descendant of it. -/
theorem mem_descendants_of_below (h : sp ∈ root.spots) (h' : sp' ∈ root.spots)
    (hb : sp'.Below sp) : sp'.place.node ∈ sp.place.node.descendants := by
  rw [← map_node_filter_below h]
  exact List.mem_map_of_mem (List.mem_filter.2 ⟨h', decide_eq_true hb⟩)

theorem eq_or_below_of_within (h : sp ∈ root.spots) (h' : sp' ∈ root.spots)
    (hw : sp'.Within sp) : sp' = sp ∨ sp'.Below sp := by
  rcases hw.length_le.eq_or_lt with heq | hlt
  · exact .inl (List.inj_on_of_nodup_map (nodup_spots root) h' h (hw.eq_of_length heq).symm)
  · exact .inr ⟨hw, hlt⟩

/-- Two listed nodes of which none is the other or an ancestor of the other are apart. -/
theorem apart_of_not_below (h : sp ∈ root.spots) (h' : sp' ∈ root.spots) (hne : sp ≠ sp')
    (hb : ¬ sp.Below sp') (hb' : ¬ sp'.Below sp) : sp.Apart sp' := by
  constructor
  · exact fun hw => (eq_or_below_of_within h' h hw).elim hne hb
  · exact fun hw => (eq_or_below_of_within h h' hw).elim (Ne.symm hne) hb'

end Node

/-! ## Counting -/

section

variable {α β : Type} {l : List α}

theorem countP_or_of_disjoint {p q : α → Bool} (h : ∀ a ∈ l, p a = true → ¬ q a = true) :
    (l.countP fun a => p a || q a) = l.countP p + l.countP q := by
  induction l with
  | nil => rfl
  | cons a l ih =>
    have hl := ih fun b hb => h b (List.mem_cons_of_mem a hb)
    have ha := h a List.mem_cons_self
    rw [List.countP_cons, List.countP_cons, List.countP_cons, hl]
    cases hp : p a with
    | false =>
      simp only [Bool.false_or, Bool.false_eq_true, if_false]
      omega
    | true =>
      simp only [eq_false_of_ne_true (ha hp), Bool.or_false, if_true, Bool.false_eq_true, if_false]
      omega

/-- Counts for tests that exclude each other add up. -/
theorem sum_countP_eq {gs : List β} {p : β → α → Bool}
    (h : gs.Pairwise fun g g' => ∀ a ∈ l, p g a = true → ¬ p g' a = true) :
    (gs.map fun g => l.countP (p g)).sum = l.countP fun a => gs.any fun g => p g a := by
  induction gs with
  | nil => simp
  | cons g gs ih =>
    obtain ⟨hg, hgs⟩ := List.pairwise_cons.1 h
    simp only [List.map_cons, List.sum_cons, ih hgs, List.any_cons]
    refine (countP_or_of_disjoint fun a ha hpa hany => ?_).symm
    obtain ⟨g', hg', hpa'⟩ := List.any_eq_true.1 hany
    exact hg g' hg' a ha hpa hpa'

end

namespace Node

variable {root : Node} {sp : Spot}

theorem countP_descendants (h : sp ∈ root.spots) (test : Node → Bool) :
    sp.place.node.descendants.countP test =
      root.spots.countP fun q => test q.place.node && decide (q.Below sp) := by
  rw [← map_node_filter_below h, List.countP_map, List.countP_filter]
  rfl

/-- **What is counted below nodes apart from each other is counted below a node above them, and
    only once.** -/
theorem sum_countP_descendants_le (h : sp ∈ root.spots) {inner : List Spot}
    (hinner : ∀ g ∈ inner, g ∈ root.spots ∧ g.Within sp) (apart : inner.Pairwise Spot.Apart)
    (test : Node → Bool) :
    (inner.map fun g => g.place.node.descendants.countP test).sum ≤
      sp.place.node.descendants.countP test := by
  have hcounts : inner.map (fun g => g.place.node.descendants.countP test) =
      inner.map fun g => root.spots.countP fun q => test q.place.node && decide (q.Below g) :=
    List.map_congr_left fun g hg => countP_descendants (hinner g hg).1 test
  have hdisjoint : inner.Pairwise fun g g' => ∀ q ∈ root.spots,
      (test q.place.node && decide (q.Below g)) = true →
        ¬ (test q.place.node && decide (q.Below g')) = true := by
    refine apart.imp fun {g g'} hap q _ hg hg' => ?_
    rw [Bool.and_eq_true, decide_eq_true_eq] at hg hg'
    exact hap.not_below hg.2 hg'.2
  rw [hcounts, sum_countP_eq hdisjoint, countP_descendants h]
  refine List.countP_mono_left fun q _ hany => ?_
  obtain ⟨g, hg, hq⟩ := List.any_eq_true.1 hany
  rw [Bool.and_eq_true, decide_eq_true_eq] at hq ⊢
  exact ⟨hq.1, hq.2.within (hinner g hg).2⟩

end Node

end CodeSurvey
