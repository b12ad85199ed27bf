/-
  What holds in every state of a store with computations in flight.

  * `Flights.Coherent`: the recorded computations are those that callers run, one for
    each key; who waits, waits for one of them; the store keeps to its bound;
  * `Flights.coherent_new`, `Flights.Coherent.run`: it holds after every run of a new store;
  * `Flights.run_concat`, `Flights.capacity_run`: runs step by step.
-/
import CodeSurvey.Proofs.Cache.Move
import Mathlib.Data.List.Induction

namespace CodeSurvey.Flights

variable {κ ρ ε : Type} {f f' : Flights κ ρ ε} {e : Event κ ρ ε}

/-- The recorded computations, the waiting callers and the store fit together. -/
structure Coherent (f : Flights κ ρ ε) : Prop where
  /-- A computation is recorded exactly while its caller computes. -/
  recorded : ∀ key l, (key, l) ∈ f.pending ↔ f.Computes l key
  once : (f.pending.map Prod.fst).Nodup
  /-- Who waits, waits for a computation of the same key that is in flight. -/
  joined : ∀ n key l, f.Waits n key l → f.Computes l key
  small : f.store.size ≤ f.capacity
  distinct : f.store.keys.Nodup

/-- A new store with room for something. -/
theorem create_eq {capacity : Int} (h : 1 ≤ capacity) :
    (create capacity : Except CapacityError (Flights κ ρ ε)) =
      .ok { capacity := capacity.toNat } := by
  unfold create
  rw [if_neg (by omega)]

theorem coherent_new (capacity : Nat) : Coherent ({ capacity } : Flights κ ρ ε) where
  recorded key l := by simp [Computes]
  once := List.nodup_nil
  joined n key l h := by simp [Waits] at h
  small := Nat.zero_le _
  distinct := List.nodup_nil

namespace Coherent

/-- A new caller that does not compute leaves the records right. -/
theorem recorded_concat (h : Coherent f) {c : Call κ ρ ε} (hc : c.state ≠ .computing) (key : κ)
    (l : Nat) : (key, l) ∈ f.pending ↔ (f.calls ++ [c])[l]? = some ⟨key, .computing⟩ := by
  rw [h.recorded, getElem?_concat_eq_some_iff]
  constructor
  · exact Or.inl
  · rintro (hl | ⟨-, rfl⟩)
    · exact hl
    · exact absurd rfl hc

/-- A new caller does not end what the others wait for. -/
theorem joined_concat (h : Coherent f) {c : Call κ ρ ε}
    (hc : ∀ l, c.state = .waiting l → f.Computes l c.key) (n : Nat) (key : κ) (l : Nat)
    (hw : (f.calls ++ [c])[n]? = some ⟨key, .waiting l⟩) :
    (f.calls ++ [c])[l]? = some ⟨key, .computing⟩ := by
  rw [getElem?_concat_eq_some_iff] at hw ⊢
  rcases hw with hw | ⟨-, rfl⟩
  · exact Or.inl (h.joined n key l hw)
  · exact Or.inl (hc l rfl)

/-- A new caller that computes is recorded. -/
theorem recorded_started (h : Coherent f) (key k : κ) (l : Nat) :
    (k, l) ∈ f.pending ++ [(key, f.calls.length)] ↔
      (f.calls ++ [⟨key, .computing⟩])[l]? = some ⟨k, .computing⟩ := by
  rw [List.mem_append, List.mem_singleton, getElem?_concat_eq_some_iff, h.recorded]
  refine or_congr Iff.rfl ?_
  constructor
  · rintro ⟨⟩
    exact ⟨rfl, rfl⟩
  · rintro ⟨rfl, ⟨⟩⟩
    rfl

/-- A waiting caller that ends is not waited for. -/
theorem left (h : Coherent f) {n l : Nat} {key : κ} (hn : f.Waits n key l) (o : Outcome ρ ε) :
    Coherent { f with calls := f.calls.set n ⟨key, .done o⟩ } := by
  have other : ∀ m c, c.state ≠ .done o →
      ((f.calls.set n ⟨key, .done o⟩)[m]? = some c ↔ m ≠ n ∧ f.calls[m]? = some c) := by
    intro m c hc
    by_cases hm : n = m
    · subst hm
      have hlt : n < f.calls.length := (List.getElem?_eq_some_iff.1 hn).1
      simp only [List.getElem?_set_self hlt, ne_eq, not_true, false_and, iff_false]
      rintro ⟨⟩
      exact hc rfl
    · simp [List.getElem?_set_ne hm, Ne.symm hm]
  have notN : ∀ m k, f.Computes m k → m ≠ n := by
    rintro m k hm rfl
    cases hm.symm.trans hn
  refine ⟨fun k m => ?_, h.once, fun i k m hw => ?_, h.small, h.distinct⟩
  · refine (h.recorded k m).trans (Iff.trans ?_ (other m ⟨k, .computing⟩ nofun).symm)
    exact ⟨fun hm => ⟨notN m k hm, hm⟩, And.right⟩
  · obtain ⟨-, hw⟩ := (other i ⟨k, .waiting m⟩ nofun).1 hw
    have hm := h.joined i k m hw
    exact (other m ⟨k, .computing⟩ nofun).2 ⟨notN m k hm, hm⟩

variable [DecidableEq κ]


theorem lookup_pending (h : Coherent f) {key : κ} {l : Nat} :
    f.pending.lookup key = some l ↔ f.Computes l key :=
  (lookup_eq_some_iff_mem h.once).trans (h.recorded key l)

/-- For each key at most one caller computes. -/
theorem computes_unique (h : Coherent f) {key : κ} {l m : Nat} (hl : f.Computes l key)
    (hm : f.Computes m key) : l = m :=
  Option.some.inj ((h.lookup_pending.2 hl).symm.trans (h.lookup_pending.2 hm))

theorem not_mem_pending (h : Coherent f) {key : κ} (hp : f.pending.lookup key = none) (l : Nat) :
    ¬ f.Computes l key := fun hl => by
  rw [h.lookup_pending.2 hl] at hp
  cases hp

theorem once_started (h : Coherent f) {key : κ} (hp : f.pending.lookup key = none) (l : Nat) :
    ((f.pending ++ [(key, l)]).map Prod.fst).Nodup := by
  rw [List.map_append]
  refine List.Nodup.append h.once (List.nodup_singleton _) fun k hk hk' => ?_
  simp only [List.map_cons, List.map_nil, List.mem_singleton] at hk'
  subst hk'
  obtain ⟨⟨k, m⟩, hm, rfl⟩ := List.mem_map.1 hk
  exact h.not_mem_pending hp m ((h.recorded _ _).1 hm)

theorem small_touch (h : Coherent f) (key : κ) : (f.store.touch key).size ≤ f.capacity := by
  rw [Recency.size_touch h.distinct]
  exact h.small

/-- A computation that ends takes its record with it, and nobody waits for it any longer. -/
theorem landed (h : Coherent f) {l : Nat} {key : κ} (hl : f.Computes l key) (o : Outcome ρ ε) :
    Coherent (f.landed l key o) where
  recorded k m := by
    rw [computes_landed, ← h.recorded]
    simp only [Flights.landed, List.mem_filter, decide_eq_true_eq]
    constructor
    · rintro ⟨hm, hk⟩
      refine ⟨?_, hm⟩
      rintro rfl
      have := (h.recorded _ _).1 hm
      cases hl.symm.trans this
      exact hk rfl
    · rintro ⟨hn, hm⟩
      refine ⟨hm, ?_⟩
      rintro rfl
      exact hn (h.computes_unique ((h.recorded _ _).1 hm) hl)
  once := h.once.sublist (List.filter_sublist.map Prod.fst)
  joined n k m hw := by
    obtain ⟨-, hm, hw⟩ := waits_landed.1 hw
    exact computes_landed.2 ⟨hm, h.joined n k m hw⟩
  small := by
    cases o with
    | report r => exact Recency.size_put_le _ _ _
    | failure | cancelled => exact h.small
  distinct := by
    cases o with
    | report r => exact Recency.nodup_keys_put h.distinct _ _ _
    | failure | cancelled => exact h.distinct

end Coherent

variable [DecidableEq κ]

/-- **A step keeps a coherent state coherent.** -/
theorem Move.coherent (m : Move f e f') (h : Coherent f) : Coherent f' := by
  cases m with
  | @answered key r hr =>
    exact ⟨h.recorded_concat nofun, h.once, h.joined_concat nofun,
      h.small_touch key, Recency.nodup_keys_touch h.distinct key⟩
  | @joined key l hr hp =>
    refine ⟨h.recorded_concat nofun, h.once, h.joined_concat ?_, h.small, h.distinct⟩
    rintro m ⟨⟩
    exact h.lookup_pending.1 hp
  | started hr hp =>
    exact ⟨h.recorded_started _, h.once_started hp _, h.joined_concat nofun, h.small, h.distinct⟩
  | ended hl he => exact h.landed hl _
  | late => exact h
  | left hn => exact h.left hn _
  | spared => exact h
  | used =>
    exact ⟨h.recorded, h.once, h.joined, h.small_touch _,
      Recency.nodup_keys_touch h.distinct _⟩
  | stored =>
    exact ⟨h.recorded, h.once, h.joined, Recency.size_put_le _ _ _,
      Recency.nodup_keys_put h.distinct _ _ _⟩
  | cleared => exact ⟨h.recorded, h.once, h.joined, Nat.zero_le _, List.nodup_nil⟩

/-! ## Runs -/

theorem run_concat (f : Flights κ ρ ε) (es : List (Event κ ρ ε)) (e : Event κ ρ ε) :
    f.run (es ++ [e]) = (f.run es).step e := by
  simp [run]

theorem Move.capacity (m : Move f e f') : f'.capacity = f.capacity := by
  cases m <;> rfl

theorem capacity_run (f : Flights κ ρ ε) (es : List (Event κ ρ ε)) :
    (f.run es).capacity = f.capacity := by
  induction es using List.reverseRecOn with
  | nil => rfl
  | append_singleton es e ih => rw [run_concat, (move_step _ e).capacity, ih]

theorem Coherent.run (h : Coherent f) (es : List (Event κ ρ ε)) : Coherent (f.run es) := by
  induction es using List.reverseRecOn with
  | nil => exact h
  | append_singleton es e ih =>
    rw [run_concat]
    exact (move_step _ e).coherent ih

end CodeSurvey.Flights
