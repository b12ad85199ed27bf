/-
  What a step of a store with computations in flight can do.

  * `Flights.Computes`, `Flights.Waits`, `Flights.Done`: what a caller is in;
  * `Flights.Move`: one case for each way that a step can go, with what has to hold
    before; `Flights.move_step`: every step goes in one of these ways;
  * `Flights.step_of_ends`: the end of a computation, by itself or by cancellation, is
    one step for all who have part in it;
  * `Flights.Move.call`: what a step does to a caller that is there already;
    `Flights.Move.call_origin`: where a caller found after a step comes from.
-/
import CodeSurvey.Cache.Flight
import CodeSurvey.Proofs.Cache.Recency

namespace CodeSurvey

theorem getElem?_concat_eq_some_iff {α : Type} {l : List α} {a b : α} {n : Nat} :
    (l ++ [a])[n]? = some b ↔ l[n]? = some b ∨ (n = l.length ∧ a = b) := by
  rcases Nat.lt_trichotomy n l.length with hn | rfl | hn
  · have : n ≠ l.length := by omega
    simp [List.getElem?_append_left hn, this]
  · simp
  · have h1 : (l ++ [a])[n]? = none := by simp; omega
    have h2 : l[n]? = none := by simp; omega
    have h3 : n ≠ l.length := by omega
    simp [h1, h2, h3]

namespace Flights

variable {κ ρ ε : Type}

/-! ## Callers -/

/-- Caller `n` computes the result of `key`. -/
def Computes (f : Flights κ ρ ε) (n : Nat) (key : κ) : Prop :=
  f.calls[n]? = some ⟨key, .computing⟩

/-- Caller `n` waits for the result of `key` that caller `l` computes. -/
def Waits (f : Flights κ ρ ε) (n : Nat) (key : κ) (l : Nat) : Prop :=
  f.calls[n]? = some ⟨key, .waiting l⟩

/-- Caller `n` of `key` has ended with an outcome. -/
def Done (f : Flights κ ρ ε) (n : Nat) (key : κ) (o : Outcome ρ ε) : Prop :=
  f.calls[n]? = some ⟨key, .done o⟩

/-- The step is the end of what caller `l` computes, or its cancellation. -/
def Event.Ends (e : Event κ ρ ε) (l : Nat) (o : Outcome ρ ε) : Prop :=
  e = .finish l o ∨ e = .cancel l ∧ o = .cancelled

theorem stateOf?_of_calls {f : Flights κ ρ ε} {n : Nat} {key : κ} {st : CallState ρ ε}
    (h : f.calls[n]? = some ⟨key, st⟩) : f.stateOf? n = some st := by
  unfold stateOf?
  rw [h]
  rfl

theorem setState_of_waits {f : Flights κ ρ ε} {n l : Nat} {key : κ} (h : f.Waits n key l)
    (st : CallState ρ ε) : f.setState n st = { f with calls := f.calls.set n ⟨key, st⟩ } := by
  unfold setState
  rw [List.modify_eq_set_getElem?, show f.calls[n]? = _ from h]
  rfl

/-! ## The end of a computation -/

theorem settle_joined {l n : Nat} {o : Outcome ρ ε} {c : Call κ ρ ε}
    (h : n = l ∨ c.state = .waiting l) : settle l o n c = ⟨c.key, .done o⟩ := by
  unfold settle
  rcases h with rfl | h
  · rw [if_pos rfl]
  · rw [h]
    simp

theorem settle_other {l n : Nat} {o : Outcome ρ ε} {c : Call κ ρ ε}
    (hn : n ≠ l) (hc : c.state ≠ .waiting l) : settle l o n c = c := by
  unfold settle
  rw [if_neg hn]
  split
  · rename_i m hm
    rw [if_neg fun hl => hc (by rw [hm, hl])]
  · rfl

theorem settle_eq_computing_iff {l n : Nat} {o : Outcome ρ ε} {c : Call κ ρ ε} {key : κ} :
    settle l o n c = ⟨key, .computing⟩ ↔ n ≠ l ∧ c = ⟨key, .computing⟩ := by
  by_cases h : n = l ∨ c.state = .waiting l
  · rw [settle_joined h]
    rcases h with rfl | h
    · simp
    · constructor
      · rintro ⟨⟩
      · rintro ⟨-, rfl⟩
        cases h
  · rw [not_or] at h
    rw [settle_other h.1 h.2]
    simp [h.1]

theorem settle_eq_waiting_iff {l m n : Nat} {o : Outcome ρ ε} {c : Call κ ρ ε} {key : κ} :
    settle l o n c = ⟨key, .waiting m⟩ ↔ n ≠ l ∧ m ≠ l ∧ c = ⟨key, .waiting m⟩ := by
  by_cases h : n = l ∨ c.state = .waiting l
  · rw [settle_joined h]
    constructor
    · rintro ⟨⟩
    · rintro ⟨hn, hm, rfl⟩
      rcases h with rfl | h
      · exact absurd rfl hn
      · cases h
        exact absurd rfl hm
  · rw [not_or] at h
    rw [settle_other h.1 h.2]
    constructor
    · rintro rfl
      exact ⟨h.1, fun hm => h.2 (hm ▸ rfl), rfl⟩
    · exact fun hc => hc.2.2

variable [DecidableEq κ]

/-- The state after the computation of caller `l` for `key` has ended. -/
def landed (f : Flights κ ρ ε) (l : Nat) (key : κ) (o : Outcome ρ ε) : Flights κ ρ ε :=
  { f with
    store := f.storeAfter key o
    pending := f.pending.filter fun p => p.1 ≠ key
    calls := f.calls.mapIdx (settle l o) }

theorem finish_of_computes {f : Flights κ ρ ε} {l : Nat} {key : κ} (h : f.Computes l key)
    (o : Outcome ρ ε) : f.finish l o = f.landed l key o := by
  unfold finish
  rw [show f.calls[l]? = _ from h]
  rfl

theorem finish_of_not_computes {f : Flights κ ρ ε} {l : Nat} (h : ∀ key, ¬ f.Computes l key)
    (o : Outcome ρ ε) : f.finish l o = f := by
  unfold finish
  split
  · rename_i key hl
    exact absurd hl (h key)
  · rfl

theorem cancel_of_computes {f : Flights κ ρ ε} {n : Nat} {key : κ} (h : f.Computes n key) :
    f.cancel n = f.landed n key .cancelled := by
  unfold cancel
  rw [stateOf?_of_calls h]
  exact finish_of_computes h .cancelled

/-- **The end of a computation is one step, however it ends.** -/
theorem step_of_ends {f : Flights κ ρ ε} {e : Event κ ρ ε} {l : Nat} {key : κ} {o : Outcome ρ ε}
    (hl : f.Computes l key) (he : e.Ends l o) : f.step e = f.landed l key o := by
  rcases he with rfl | ⟨rfl, rfl⟩
  · exact finish_of_computes hl o
  · exact cancel_of_computes hl

theorem computes_landed {f : Flights κ ρ ε} {l n : Nat} {key k : κ} {o : Outcome ρ ε} :
    (f.landed l key o).Computes n k ↔ n ≠ l ∧ f.Computes n k := by
  unfold landed Computes
  rw [List.getElem?_mapIdx, Option.map_eq_some_iff]
  constructor
  · rintro ⟨c, hc, hs⟩
    obtain ⟨hn, rfl⟩ := settle_eq_computing_iff.1 hs
    exact ⟨hn, hc⟩
  · rintro ⟨hn, hc⟩
    exact ⟨_, hc, settle_eq_computing_iff.2 ⟨hn, rfl⟩⟩

theorem waits_landed {f : Flights κ ρ ε} {l m n : Nat} {key k : κ} {o : Outcome ρ ε} :
    (f.landed l key o).Waits n k m ↔ n ≠ l ∧ m ≠ l ∧ f.Waits n k m := by
  unfold landed Waits
  rw [List.getElem?_mapIdx, Option.map_eq_some_iff]
  constructor
  · rintro ⟨c, hc, hs⟩
    obtain ⟨hn, hm, rfl⟩ := settle_eq_waiting_iff.1 hs
    exact ⟨hn, hm, hc⟩
  · rintro ⟨hn, hm, hc⟩
    exact ⟨_, hc, settle_eq_waiting_iff.2 ⟨hn, hm, rfl⟩⟩

theorem done_landed {f : Flights κ ρ ε} {l n : Nat} {key k : κ} {o : Outcome ρ ε}
    {st : CallState ρ ε} (hn : f.calls[n]? = some ⟨k, st⟩) (h : n = l ∨ st = .waiting l) :
    (f.landed l key o).Done n k o := by
  unfold landed Done
  rw [List.getElem?_mapIdx, hn, Option.map_some, settle_joined h]

/-! ## The ways of a step -/

/-- The state after a step, for each way that the step can go. -/
inductive Move (f : Flights κ ρ ε) : Event κ ρ ε → Flights κ ρ ε → Prop
  /-- The result is stored. -/
  | answered {key r} : f.store.find? key = some r → Move f (.lookup key)
      { f with
        store := f.store.touch key
        hits := f.hits + 1
        calls := f.calls ++ [⟨key, .done (.report r)⟩] }
  /-- The result is computed already. -/
  | joined {key l} : f.store.find? key = none → f.pending.lookup key = some l →
      Move f (.lookup key)
        { f with hits := f.hits + 1, calls := f.calls ++ [⟨key, .waiting l⟩] }
  /-- The caller computes the result. -/
  | started {key} : f.store.find? key = none → f.pending.lookup key = none →
      Move f (.lookup key)
        { f with
          misses := f.misses + 1
          pending := f.pending ++ [(key, f.calls.length)]
          calls := f.calls ++ [⟨key, .computing⟩] }
  /-- A computation ends. -/
  | ended {e l key o} : f.Computes l key → e.Ends l o → Move f e (f.landed l key o)
  /-- There is no such computation, or it has ended before. -/
  | late {l o} : (∀ key, ¬ f.Computes l key) → Move f (.finish l o) f
  /-- A waiting caller is cancelled. -/
  | left {n key l} : f.Waits n key l → Move f (.cancel n)
      { f with calls := f.calls.set n ⟨key, .done .cancelled⟩ }
  /-- There is no such caller, or it has ended before. -/
  | spared {n} : (∀ key, ¬ f.Computes n key) → (∀ key l, ¬ f.Waits n key l) →
      Move f (.cancel n) f
  | used {key} : Move f (.get key) { f with store := f.store.touch key }
  | stored {key r} : Move f (.put key r) { f with store := f.store.put f.capacity key r }
  | cleared : Move f .clear { f with store := {}, hits := 0, misses := 0 }

theorem move_lookup (f : Flights κ ρ ε) (key : κ) : Move f (.lookup key) (f.lookup key) := by
  unfold lookup
  split
  · exact .answered ‹_›
  · exact .joined ‹_› ‹_›
  · exact .started ‹_› ‹_›

theorem move_finish (f : Flights κ ρ ε) (l : Nat) (o : Outcome ρ ε) :
    Move f (.finish l o) (f.finish l o) := by
  by_cases h : ∃ key, f.Computes l key
  · obtain ⟨key, h⟩ := h
    rw [finish_of_computes h]
    exact .ended h (Or.inl rfl)
  · rw [not_exists] at h
    rw [finish_of_not_computes h]
    exact .late h

theorem move_cancel (f : Flights κ ρ ε) (n : Nat) : Move f (.cancel n) (f.cancel n) := by
  unfold cancel stateOf?
  cases hn : f.calls[n]? with
  | none => exact .spared (fun key h => by cases hn.symm.trans h) fun key l h => by cases hn.symm.trans h
  | some c =>
    obtain ⟨key, st⟩ := c
    cases st with
    | computing =>
      simp only [Option.map_some]
      rw [finish_of_computes hn]
      exact .ended hn (Or.inr ⟨rfl, rfl⟩)
    | waiting l =>
      simp only [Option.map_some]
      rw [setState_of_waits hn]
      exact .left hn
    | done o =>
      exact .spared (fun key h => by cases hn.symm.trans h) fun key l h => by cases hn.symm.trans h

/-- **Every step goes in one of the ways of `Move`.** -/
theorem move_step (f : Flights κ ρ ε) (e : Event κ ρ ε) : Move f e (f.step e) := by
  cases e with
  | lookup key => exact move_lookup f key
  | finish l o => exact move_finish f l o
  | cancel n => exact move_cancel f n
  | get key => exact .used
  | put key r => exact .stored
  | clear => exact .cleared

end Flights

end CodeSurvey
