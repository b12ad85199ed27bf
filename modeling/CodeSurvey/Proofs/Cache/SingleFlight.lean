/-
  A result is computed by one caller at a time.

  * `Flights.starts`, `Flights.Event.lookups`, `Flights.sinceClear`: how many
    computations a step starts, how many lookups it is, and the sum since the store was
    last emptied;
  * `Flights.misses_run`, `Flights.hits_add_misses_run`: what the counters count;
  * `Flights.apart_run`: without direct entries no key is both stored and in flight;
  * `Flights.single_flight`: all of it for every run of a new store.
-/
import CodeSurvey.Proofs.Cache.Coherent

namespace CodeSurvey.Flights

variable {κ ρ ε : Type}

/-! ## Counting -/

/-- Whether a caller computes. -/
def computing (f : Flights κ ρ ε) (n : Nat) : Bool :=
  match f.calls[n]? with
  | some ⟨_, .computing⟩ => true
  | _ => false

theorem computing_iff {f : Flights κ ρ ε} {n : Nat} :
    f.computing n = true ↔ ∃ key, f.Computes n key := by
  unfold computing Computes
  split
  · rename_i key h
    exact ⟨fun _ => ⟨key, h⟩, fun _ => rfl⟩
  · rename_i h
    exact ⟨nofun, fun ⟨key, hn⟩ => absurd hn (h key)⟩

/-- How many callers compute in a state who did not in the state before. -/
def starts (f f' : Flights κ ρ ε) : Nat :=
  (List.range f'.calls.length).countP fun n => f'.computing n && !f.computing n

/-- How many lookups a step is. -/
def Event.lookups : Event κ ρ ε → Nat
  | .lookup _ => 1
  | _ => 0

/-- What the steps count for that come after the store was last emptied; if it never was, all of
    them and `n` more. -/
def sinceClear [DecidableEq κ] (count : Flights κ ρ ε → Event κ ρ ε → Nat) :
    Flights κ ρ ε → Nat → List (Event κ ρ ε) → Nat
  | _, n, [] => n
  | f, _, .clear :: es => sinceClear count (f.step .clear) 0 es
  | f, n, e :: es => sinceClear count (f.step e) (n + count f e) es

/-- The lookups since the store was last emptied. -/
def lookupsSinceClear [DecidableEq κ] (f : Flights κ ρ ε) (es : List (Event κ ρ ε)) : Nat :=
  sinceClear (fun _ e => e.lookups) f 0 es

/-- The computations started since the store was last emptied. -/
def startedSinceClear [DecidableEq κ] (f : Flights κ ρ ε) (es : List (Event κ ρ ε)) : Nat :=
  sinceClear (fun f e => starts f (f.step e)) f 0 es

/-- A step after which nobody computes who did not before starts nothing. -/
theorem starts_eq_zero {f f' : Flights κ ρ ε}
    (h : ∀ n key, f'.Computes n key → f.Computes n key) : starts f f' = 0 := by
  refine List.countP_eq_zero.2 fun n _ hn => ?_
  rw [Bool.and_eq_true, computing_iff, Bool.not_eq_true'] at hn
  obtain ⟨⟨key, hkey⟩, hno⟩ := hn
  rw [computing_iff.2 ⟨key, h n key hkey⟩] at hno
  cases hno

/-- A new caller that does not compute starts nothing. -/
theorem starts_concat_eq_zero {f f' : Flights κ ρ ε} {c : Call κ ρ ε}
    (h : f'.calls = f.calls ++ [c]) (hc : c.state ≠ .computing) : starts f f' = 0 := by
  refine starts_eq_zero fun n key hn => ?_
  rw [Computes, h, getElem?_concat_eq_some_iff] at hn
  rcases hn with hn | ⟨-, rfl⟩
  · exact hn
  · exact absurd rfl hc

/-- A new caller that computes starts one computation. -/
theorem starts_concat_eq_one {f f' : Flights κ ρ ε} {key : κ}
    (h : f'.calls = f.calls ++ [⟨key, .computing⟩]) : starts f f' = 1 := by
  have hold : ∀ n ∈ List.range f.calls.length, ¬ (f'.computing n && !f.computing n) = true := by
    intro n hn hc
    rw [Bool.and_eq_true, computing_iff, Bool.not_eq_true'] at hc
    obtain ⟨⟨k, hk⟩, hno⟩ := hc
    rw [Computes, h, List.getElem?_append_left (List.mem_range.1 hn)] at hk
    rw [computing_iff.2 ⟨k, hk⟩] at hno
    cases hno
  have hlast : (f'.computing f.calls.length && !f.computing f.calls.length) = true := by
    rw [Bool.and_eq_true, computing_iff, Bool.not_eq_true']
    refine ⟨⟨key, ?_⟩, ?_⟩
    · rw [Computes, h, List.getElem?_concat_length]
    · simp [computing]
  unfold starts
  rw [h, List.length_append, List.length_singleton, List.range_succ, List.countP_append,
    List.countP_eq_zero.2 hold, List.countP_singleton, if_pos hlast]

/-- A caller that is replaced by one that has ended does not start to compute. -/
theorem starts_set_eq_zero {f : Flights κ ρ ε} {n : Nat} {key : κ} {o : Outcome ρ ε} :
    starts f { f with calls := f.calls.set n ⟨key, .done o⟩ } = 0 := by
  refine starts_eq_zero fun m k hm => ?_
  rw [Computes, List.getElem?_set] at hm
  split at hm
  · split at hm <;> cases hm
  · exact hm

variable [DecidableEq κ]

theorem sinceClear_cons {count : Flights κ ρ ε → Event κ ρ ε → Nat} {e : Event κ ρ ε}
    (he : e ≠ .clear) (f : Flights κ ρ ε) (n : Nat) (es : List (Event κ ρ ε)) :
    sinceClear count f n (e :: es) = sinceClear count (f.step e) (n + count f e) es := by
  cases e with
  | clear => exact absurd rfl he
  | _ => rfl

/-- A number that starts anew when the store is emptied, and grows by what each other step counts
    for, is what the steps since then count for. -/
theorem run_eq_sinceClear (count : Flights κ ρ ε → Event κ ρ ε → Nat) (number : Flights κ ρ ε → Nat)
    (hclear : ∀ f : Flights κ ρ ε, number (f.step .clear) = 0)
    (hstep : ∀ (f : Flights κ ρ ε) e, e ≠ .clear → number (f.step e) = number f + count f e)
    (f : Flights κ ρ ε) (es : List (Event κ ρ ε)) :
    number (f.run es) = sinceClear count f (number f) es := by
  induction es generalizing f with
  | nil => rfl
  | cons e es ih =>
    have hrun : f.run (e :: es) = (f.step e).run es := rfl
    rw [hrun, ih]
    by_cases he : e = .clear
    · subst he
      rw [hclear]
      rfl
    · rw [sinceClear_cons he, hstep f e he]

theorem Move.misses {f f' : Flights κ ρ ε} {e : Event κ ρ ε} (m : Move f e f') (he : e ≠ .clear) :
    f'.misses = f.misses + starts f f' := by
  have same (h : f'.misses = f.misses) (h' : starts f f' = 0) :
      f'.misses = f.misses + starts f f' := by
    rw [h, h', Nat.add_zero]
  cases m with
  | answered | joined => exact same rfl (starts_concat_eq_zero rfl nofun)
  | started => exact congrArg (f.misses + ·) (starts_concat_eq_one rfl).symm
  | ended => exact same rfl (starts_eq_zero fun n k hn => (computes_landed.1 hn).2)
  | left => exact same rfl starts_set_eq_zero
  | late | spared | used | stored => exact same rfl (starts_eq_zero fun n k hn => hn)
  | cleared => exact absurd rfl he

theorem Move.hits_add_misses {f f' : Flights κ ρ ε} {e : Event κ ρ ε} (m : Move f e f')
    (he : e ≠ .clear) : f'.hits + f'.misses = f.hits + f.misses + e.lookups := by
  cases m with
  | answered | joined | started => simp only [Event.lookups]; omega
  | ended _ hends =>
    rcases hends with rfl | ⟨rfl, -⟩
    · rfl
    · rfl
  | late | left | spared | used | stored => rfl
  | cleared => exact absurd rfl he

/-- **Misses are the computations started.** -/
theorem misses_run (f : Flights κ ρ ε) (h : f.misses = 0) (es : List (Event κ ρ ε)) :
    (f.run es).misses = startedSinceClear f es := by
  rw [startedSinceClear, ← h]
  exact run_eq_sinceClear _ Flights.misses (fun _ => rfl) (fun f e he => (move_step f e).misses he) f es

/-- **Hits and misses together are the lookups.** -/
theorem hits_add_misses_run (f : Flights κ ρ ε) (h : f.hits + f.misses = 0)
    (es : List (Event κ ρ ε)) : (f.run es).hits + (f.run es).misses = lookupsSinceClear f es := by
  rw [lookupsSinceClear, ← h]
  exact run_eq_sinceClear _ (fun f => f.hits + f.misses) (fun _ => rfl)
    (fun f e he => (move_step f e).hits_add_misses he) f es

/-! ## Stored or in flight -/

/-- No key is both stored and in flight. -/
def Apart (f : Flights κ ρ ε) : Prop :=
  ∀ key ∈ f.store.keys, key ∉ f.pending.map Prod.fst

theorem Move.apart {f f' : Flights κ ρ ε} {e : Event κ ρ ε} (m : Move f e f')
    (he : ∀ key r, e ≠ .put key r) (h : Apart f) : Apart f' := by
  cases m with
  | answered | used => exact fun k hk => h k (Recency.mem_keys_touch.1 hk)
  | joined | late | left | spared => exact h
  | @started key hr hp =>
    intro k hk hk'
    rw [List.map_append, List.mem_append] at hk'
    rcases hk' with hk' | hk'
    · exact h k hk hk'
    · obtain rfl := List.mem_singleton.1 hk'
      exact Recency.find?_eq_none_iff.1 hr hk
  | @ended e l key o hl hends =>
    intro k hk hk'
    obtain ⟨p, hp, rfl⟩ := List.mem_map.1 hk'
    obtain ⟨hp, hne⟩ := List.mem_filter.1 hp
    refine h p.1 ?_ (List.mem_map_of_mem hp)
    cases o with
    | report r => exact (Recency.mem_keys_put hk).resolve_left (of_decide_eq_true hne)
    | failure | cancelled => exact hk
  | stored => exact absurd rfl (he _ _)
  | cleared => exact nofun

theorem apart_run {f : Flights κ ρ ε} (h : Apart f) (es : List (Event κ ρ ε))
    (hput : ∀ key r, Event.put key r ∉ es) : Apart (f.run es) := by
  induction es using List.reverseRecOn with
  | nil => exact h
  | append_singleton es e ih =>
    rw [run_concat]
    refine (move_step _ e).apart (fun key r he => ?_) (ih fun key r hm => ?_)
    · exact hput key r (by simp [he])
    · exact hput key r (List.mem_append_left _ hm)

/-! ## All runs -/

/-- A lookup of a key in flight starts nothing: the same callers compute as before. -/
theorem Coherent.computes_lookup {f : Flights κ ρ ε} (h : Coherent f) {key : κ} {l : Nat}
    (hl : f.Computes l key) (n : Nat) (k : κ) :
    (f.step (.lookup key)).Computes n k ↔ f.Computes n k := by
  have hp := h.lookup_pending.2 hl
  have old : ∀ c : Call κ ρ ε, c.state ≠ .computing →
      ((f.calls ++ [c])[n]? = some ⟨k, .computing⟩ ↔ f.calls[n]? = some ⟨k, .computing⟩) :=
    fun c hc => ((h.recorded_concat hc k n).symm.trans (h.recorded k n))
  generalize hf : f.step (.lookup key) = f'
  have m := hf ▸ move_step f (.lookup key)
  cases m with
  | answered | joined => exact old _ nofun
  | started _ hnone => cases hp.symm.trans hnone
  | ended _ hends => rcases hends with h | ⟨h, -⟩ <;> cases h

/-- **A result is computed by one caller at a time.**  In every state that a new store comes to, by
    whatever steps in whatever order: a caller computes a key exactly if the records say so, and
    no key is computed twice, so that a lookup of a key in flight starts nothing; the store keeps
    to its bound and holds each key once; hits and misses count the lookups, and misses the
    computations started, since the store was last emptied; and without direct entries no key is
    both stored and in flight. -/
theorem single_flight {capacity : Int} (h : 1 ≤ capacity) :
    ∃ new : Flights κ ρ ε, create capacity = .ok new ∧ ∀ es : List (Event κ ρ ε),
      let f := new.run es
      ((∀ key l, f.pending.lookup key = some l ↔ f.Computes l key) ∧
        (f.pending.map Prod.fst).Nodup ∧
        (∀ key l m, f.Computes l key → f.Computes m key → l = m) ∧
        ∀ key l, f.Computes l key →
          ∀ n k, (f.step (.lookup key)).Computes n k ↔ f.Computes n k) ∧
      (f.store.size ≤ capacity ∧ f.store.keys.Nodup) ∧
      (f.hits + f.misses = lookupsSinceClear new es ∧ f.misses = startedSinceClear new es) ∧
      ((∀ key r, Event.put key r ∉ es) → ∀ key ∈ f.store.keys, key ∉ f.pending.map Prod.fst) := by
  refine ⟨_, create_eq h, fun es => ?_⟩
  have hf := (coherent_new (κ := κ) (ρ := ρ) (ε := ε) capacity.toNat).run es
  refine ⟨⟨fun key l => hf.lookup_pending, hf.once, fun key l m => hf.computes_unique,
    fun key l hl => hf.computes_lookup hl⟩, ⟨?_, hf.distinct⟩,
    ⟨hits_add_misses_run _ rfl es, misses_run _ rfl es⟩, apart_run nofun es⟩
  have hsmall : _ ≤ capacity.toNat := capacity_run _ es ▸ hf.small
  exact (Int.le_toNat (by omega)).1 hsmall

/-- Two callers share a computation, one of them leaves, and a third caller computes another key. -/
theorem single_flight_shared :
    (1 : Int) ≤ 1 ∧ ∃ new : Flights Nat Nat Nat, create 1 = .ok new ∧
      let es := [.lookup 7, .lookup 7, .lookup 8, .cancel 1, .finish 0 (.report 5)]
      (new.run es).store.keys = [7] ∧ 7 ∉ (new.run es).pending.map Prod.fst ∧
      (new.run es).pending.lookup 8 = some 2 ∧ (new.run es).Computes 2 8 ∧
      lookupsSinceClear new es = 3 ∧ (new.run es).hits + (new.run es).misses = 3 ∧
      startedSinceClear new es = 2 ∧ (new.run es).misses = 2 := by
  obtain ⟨new, hnew, h⟩ : ∃ new : Flights Nat Nat Nat, _ := single_flight (by decide : (1 : Int) ≤ 1)
  refine ⟨by decide, new, hnew, ?_⟩
  obtain rfl := Except.ok.inj ((create_eq (by decide)).symm.trans hnew)
  have h := h [.lookup 7, .lookup 7, .lookup 8, .cancel 1, .finish 0 (.report 5)]
  obtain ⟨⟨recorded, -⟩, -, ⟨hits, misses⟩, apart⟩ := h
  refine ⟨by decide, apart (by simp) 7 (by decide), by decide, (recorded 8 2).1 (by decide), by decide,
    hits.trans (by decide), by decide, misses.trans (by decide)⟩

end CodeSurvey.Flights
