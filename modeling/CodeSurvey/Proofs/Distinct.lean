/-
  The distinct members of a list.

  * `mem_distinct`, `nodup_distinct`, `pairwise_distinct`: the same members, each once, in
    the order of first appearance; `pairwise_distinct_filterMap`: likewise for what is noted
    along a list; `FirstSeen`: all of this together;
  * `distinct_append`, `distinct_map`, `distinct_filter`, `distinct_replicate_succ`: those of
    joined lists with nothing in common, of mapped, filtered and constant lists;
    `distinct_prefix_append`: what a list goes on with only adds to them at the end;
  * `length_distinct_le`, `length_distinct_le_of_subset`, `length_distinct_flatten_le`: how many
    there are at most;
  * `find?_distinct`, `findIdx_eq_idxOf`: the first member with a property;
    `find?_eq_some_iff_of_pairwise`, `find?_eq_some_iff_idxOf`: no other one with it stands before.
-/
import CodeSurvey.Text.Basic
import Mathlib.Algebra.GroupWithZero.Nat
import Mathlib.Data.List.Nodup
import Mathlib.Data.List.Perm.Subperm
import Mathlib.Data.Nat.Basic
import Mathlib.Order.Lattice

namespace CodeSurvey

variable {α β : Type} [DecidableEq α] [DecidableEq β]

@[simp] theorem mem_distinct {l : List α} {a : α} : a ∈ distinct l ↔ a ∈ l := by
  induction l with
  | nil => simp [distinct]
  | cons b l ih =>
    rw [distinct, List.mem_cons, List.mem_filter, ih, List.mem_cons]
    by_cases hab : a = b <;> simp [hab]

theorem nodup_distinct (l : List α) : (distinct l).Nodup := by
  induction l with
  | nil => exact List.nodup_nil
  | cons a l ih =>
    rw [distinct, List.nodup_cons]
    exact ⟨by simp, ih.filter _⟩

/-- Values noted along a list stand in the order in which they are first come across. -/
theorem pairwise_distinct_filterMap {γ : Type} (f : γ → Option α) (l : List γ) :
    (distinct (l.filterMap f)).Pairwise fun a b =>
      (l.findIdx fun x => f x = some a) < l.findIdx fun x => f x = some b := by
  induction l with
  | nil => exact List.Pairwise.nil
  | cons x l ih =>
    have later : ∀ a, f x ≠ some a → ((x :: l).findIdx fun x => f x = some a) =
        (l.findIdx fun x => f x = some a) + 1 := by
      intro a ha
      rw [List.findIdx_cons, decide_eq_false ha, cond_false]
    cases hx : f x with
    | none =>
      rw [List.filterMap_cons_none hx]
      refine ih.imp fun {a b} hlt => ?_
      rw [later a (by simp [hx]), later b (by simp [hx])]
      exact Nat.succ_lt_succ hlt
    | some y =>
      rw [List.filterMap_cons_some hx, distinct, List.pairwise_cons]
      have hne : ∀ a, a ≠ y → f x ≠ some a := fun a ha h =>
        ha (Option.some.inj (h.symm.trans hx))
      constructor
      · intro b hb
        have hby : b ≠ y := by simpa using (List.mem_filter.1 hb).2
        rw [later b (hne b hby), List.findIdx_cons, decide_eq_true hx, cond_true]
        exact Nat.succ_pos _
      · refine (ih.filter _).imp_of_mem ?_
        intro a b ha hb hlt
        have hay : a ≠ y := by simpa using (List.mem_filter.1 ha).2
        have hby : b ≠ y := by simpa using (List.mem_filter.1 hb).2
        rw [later a (hne a hay), later b (hne b hby)]
        exact Nat.succ_lt_succ hlt

/-- Members stand in the order of their first appearance. -/
theorem pairwise_distinct [BEq α] [LawfulBEq α] (l : List α) :
    (distinct l).Pairwise fun a b => l.idxOf a < l.idxOf b := by
  have h := pairwise_distinct_filterMap some l
  have hidx : ∀ a, (l.findIdx fun x => some x = some a) = l.idxOf a := by
    intro a
    rw [List.idxOf]
    congr 1
    funext x
    rw [Bool.eq_iff_iff, beq_iff_eq, decide_eq_true_eq, Option.some.injEq]
  simpa only [List.filterMap_some, hidx] using h

/-- The second list has the members of the first one, each once, in the order in which they are first
    come across there. -/
structure FirstSeen (l result : List α) : Prop where
  nodup : result.Nodup
  mem_iff : ∀ a, a ∈ result ↔ a ∈ l
  ordered : result.Pairwise fun a b => l.idxOf a < l.idxOf b

theorem firstSeen_distinct (l : List α) : FirstSeen l (distinct l) where
  nodup := nodup_distinct l
  mem_iff _ := mem_distinct
  ordered := pairwise_distinct l

theorem distinct_prefix_append (l r : List α) : distinct l <+: distinct (l ++ r) := by
  induction l with
  | nil => exact List.nil_prefix
  | cons a l ih =>
    rw [List.cons_append, distinct, distinct, List.cons_prefix_cons]
    exact ⟨rfl, ih.filter _⟩

theorem distinct_append {l r : List α} (h : ∀ a ∈ r, a ∉ l) :
    distinct (l ++ r) = distinct l ++ distinct r := by
  induction l with
  | nil => rfl
  | cons b l ih =>
    have hb : (distinct r).filter (· ≠ b) = distinct r := by
      refine List.filter_eq_self.2 fun a ha => decide_eq_true ?_
      rintro rfl
      exact h a (mem_distinct.1 ha) List.mem_cons_self
    have hl : distinct (l ++ r) = distinct l ++ distinct r :=
      ih fun a ha hmem => h a ha (List.mem_cons_of_mem b hmem)
    rw [List.cons_append, distinct, distinct, hl, List.filter_append, hb, List.cons_append]

theorem distinct_map {f : α → β} (hf : Function.Injective f) (l : List α) :
    distinct (l.map f) = (distinct l).map f := by
  induction l with
  | nil => rfl
  | cons a l ih =>
    rw [List.map_cons, distinct, distinct, ih, List.map_cons, List.filter_map]
    congr 2
    refine List.filter_congr fun b _ => ?_
    simp [hf.eq_iff]

theorem distinct_filter (p : α → Bool) (l : List α) :
    distinct (l.filter p) = (distinct l).filter p := by
  induction l with
  | nil => rfl
  | cons a l ih =>
    by_cases ha : p a = true
    · rw [List.filter_cons_of_pos ha, distinct, distinct, List.filter_cons_of_pos ha, ih,
        List.filter_comm]
    · rw [List.filter_cons_of_neg ha, distinct, List.filter_cons_of_neg ha, ih, List.filter_filter]
      refine List.filter_congr fun b _ => ?_
      by_cases hba : b = a <;> simp [hba, ha]

theorem distinct_replicate_succ (n : Nat) (a : α) : distinct (List.replicate (n + 1) a) = [a] := by
  rw [List.replicate_succ, distinct, List.cons.injEq]
  refine ⟨rfl, List.filter_eq_nil_iff.2 fun b hb => ?_⟩
  simpa using List.eq_of_mem_replicate (mem_distinct.1 hb)

/-- A list has no more distinct members than one that holds them all. -/
theorem length_distinct_le_of_subset {l m : List α} (h : l ⊆ m) :
    (distinct l).length ≤ (distinct m).length := by
  have hsubset : distinct l ⊆ distinct m := fun a ha => mem_distinct.2 (h (mem_distinct.1 ha))
  exact ((nodup_distinct l).subperm hsubset).length_le

theorem length_distinct_le (l : List α) : (distinct l).length ≤ l.length :=
  ((nodup_distinct l).subperm fun _ ha => mem_distinct.1 ha).length_le

/-- Joined lists have no more distinct members than each of them by itself together. -/
theorem length_distinct_flatten_le (ls : List (List α)) :
    (distinct ls.flatten).length ≤ (ls.map fun l => (distinct l).length).sum := by
  have hmap : (ls.map fun l => (distinct l).length).sum = (ls.flatMap distinct).length := by
    rw [List.length_flatMap]
  have hsubset : distinct ls.flatten ⊆ ls.flatMap distinct := by
    intro a ha
    obtain ⟨l, hl, hal⟩ := List.mem_flatten.1 (mem_distinct.1 ha)
    exact List.mem_flatMap.2 ⟨l, hl, mem_distinct.2 hal⟩
  rw [hmap]
  exact ((nodup_distinct _).subperm hsubset).length_le

/-- The first member with a property is the first of the distinct ones. -/
theorem find?_distinct (l : List α) (q : α → Bool) : (distinct l).find? q = l.find? q := by
  induction l with
  | nil => rfl
  | cons a l ih =>
    rw [distinct]
    by_cases ha : q a = true
    · rw [List.find?_cons_of_pos ha, List.find?_cons_of_pos ha]
    · rw [List.find?_cons_of_neg ha, List.find?_cons_of_neg ha, List.find?_filter, ← ih]
      congr 1
      funext b
      by_cases hba : b = a <;> simp [hba, ha]

theorem findIdx_eq_idxOf {α : Type} [BEq α] [LawfulBEq α] {l : List α} {q : α → Bool} {a : α}
    (h : l.find? q = some a) : l.findIdx q = l.idxOf a := by
  induction l with
  | nil => cases h
  | cons b l ih =>
    by_cases hb : q b = true
    · rw [List.find?_cons_of_pos hb, Option.some.injEq] at h
      subst h
      rw [List.findIdx_cons, hb, List.idxOf_cons_self, cond_true]
    · rw [List.find?_cons_of_neg hb] at h
      have hne : b ≠ a := by
        rintro rfl
        exact hb (List.find?_some h)
      rw [List.findIdx_cons, eq_false_of_ne_true hb, List.idxOf_cons_ne l hne, cond_false,
        ih h]

/-- In an ascending list the first member with a property is the least. -/
theorem find?_eq_some_iff_of_pairwise {α β : Type} [LinearOrder β] {f : α → β} {q : α → Bool}
    {l : List α} {a : α} (h : l.Pairwise fun a b => f a < f b) :
    l.find? q = some a ↔ a ∈ l ∧ q a = true ∧ ∀ b ∈ l, q b = true → f a ≤ f b := by
  induction l with
  | nil => simp
  | cons c l ih =>
    obtain ⟨hleast, h⟩ := List.pairwise_cons.1 h
    by_cases hc : q c = true
    · rw [List.find?_cons_of_pos hc, Option.some.injEq]
      constructor
      · rintro rfl
        refine ⟨List.mem_cons_self, hc, fun b hb _ => ?_⟩
        rcases List.mem_cons.1 hb with rfl | hb
        · exact le_rfl
        · exact (hleast b hb).le
      · rintro ⟨ha, -, hfirst⟩
        refine ((List.mem_cons.1 ha).resolve_right fun hmem => ?_).symm
        exact (hleast a hmem).not_ge (hfirst c List.mem_cons_self hc)
    · rw [List.find?_cons_of_neg hc, ih h]
      have hne : ∀ b, q b = true → b ≠ c := by
        rintro b hb rfl
        exact hc hb
      constructor
      · rintro ⟨ha, hq, hfirst⟩
        refine ⟨List.mem_cons_of_mem c ha, hq, fun b hb hqb => ?_⟩
        exact hfirst b ((List.mem_cons.1 hb).resolve_left (hne b hqb)) hqb
      · rintro ⟨ha, hq, hfirst⟩
        exact ⟨(List.mem_cons.1 ha).resolve_left (hne a hq), hq,
          fun b hb => hfirst b (List.mem_cons_of_mem c hb)⟩

/-- The first member with a property has it, and no other one with it stands earlier. -/
theorem find?_eq_some_iff_idxOf [BEq α] [LawfulBEq α] {l : List α} {q : α → Bool} {a : α} :
    l.find? q = some a ↔ a ∈ l ∧ q a = true ∧ ∀ b ∈ l, q b = true → l.idxOf a ≤ l.idxOf b := by
  rw [← find?_distinct, find?_eq_some_iff_of_pairwise (f := fun b => l.idxOf b) (pairwise_distinct l)]
  simp only [mem_distinct]

end CodeSurvey
