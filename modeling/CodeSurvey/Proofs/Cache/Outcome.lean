/-
  What a computation leaves behind.

  * `Flights.aboard_of_flew`: who has had part in a computation still has when it ends,
    unless cancelled before;
  * `Flights.pending_landed`: the end takes the record of the computation away and no
    other; `Flights.idle_run`: only a lookup of the key brings one back;
  * `Flights.withdrawn_run`: a caller that waits and is cancelled makes no difference to
    anything else, however the run goes on;
  * `Flights.one_outcome`: all of it for every run of a new store.
-/
import CodeSurvey.Proofs.Cache.Cancellation

namespace CodeSurvey.Flights

variable {κ ρ ε : Type} [DecidableEq κ] {f f' new : Flights κ ρ ε} {e : Event κ ρ ε}
  {es : List (Event κ ρ ε)} {n l : Nat} {key k : κ} {o : Outcome ρ ε}

/-! ## The end of a computation -/

/-- Who has had part in a computation that is in flight still has, unless cancelled. -/
theorem aboard_of_flew (hnew : Coherent new) (h : Flew new es n key l)
    (hl : (new.run es).Computes l key) (hc : n = l ∨ ¬ Cancelled new es n) :
    (new.run es).Aboard n key l := by
  rcases hc with rfl | hc
  · exact Or.inr ⟨rfl, hl⟩
  rcases fate hnew h with ha | ⟨o, -, hn | hp⟩
  · exact ha
  · exact absurd hn.1 hc
  · cases hl.symm.trans hp.done

theorem Aboard.done_landed (h : f.Aboard n key l) (o : Outcome ρ ε) : (f.landed l key o).Done n key o := by
  rcases h with h | ⟨rfl, h⟩
  · exact Flights.done_landed h (Or.inr rfl)
  · exact Flights.done_landed h (Or.inl rfl)

/-! ## The record of a computation -/

/-- **The end of a computation takes its record away, and no other.** -/
theorem Coherent.pending_landed (h : Coherent f) (hl : f.Computes l key) (o : Outcome ρ ε) (k : κ) :
    (f.landed l key o).pending.lookup k = if k = key then none else f.pending.lookup k := by
  have h' := h.landed hl o
  refine Option.ext fun m => ?_
  rw [h'.lookup_pending, computes_landed]
  split
  · rename_i hk
    subst hk
    simp only [reduceCtorEq, iff_false, not_and]
    exact fun hm hc => hm (h.computes_unique hc hl)
  · rename_i hk
    rw [h.lookup_pending, and_iff_right_iff_imp]
    rintro hc rfl
    cases hc.symm.trans hl
    exact hk rfl

theorem Move.idle (m : Move f e f') (he : e ≠ .lookup key) (h : f.pending.lookup key = none) :
    f'.pending.lookup key = none := by
  cases m with
  | answered | joined | late | left | spared | used | stored | cleared => exact h
  | @started k =>
    have hk : k ≠ key := by
      rintro rfl
      exact he rfl
    rw [List.lookup_append, h, Option.none_or, List.lookup_cons, beq_false_of_ne (Ne.symm hk)]
    rfl
  | ended =>
    rw [List.lookup_eq_none_iff] at h ⊢
    exact fun p hp => h p (List.mem_of_mem_filter hp)

/-- Only a lookup of a key lets somebody compute it. -/
theorem idle_run (h : f.pending.lookup key = none) (hes : .lookup key ∉ es) :
    (f.run es).pending.lookup key = none := by
  induction es using List.reverseRecOn with
  | nil => exact h
  | append_singleton es e ih =>
    rw [List.mem_append, List.mem_singleton, not_or] at hes
    rw [run_concat]
    exact (move_step _ e).idle (Ne.symm hes.2) (ih hes.1)

/-- A lookup of a key that is neither stored nor computed starts a computation. -/
theorem computes_lookup (hs : f.store.find? key = none) (hp : f.pending.lookup key = none) :
    (f.step (.lookup key)).Computes f.calls.length key ∧
      (f.step (.lookup key)).misses = f.misses + 1 := by
  have hstep : f.step (.lookup key) =
      { f with
        misses := f.misses + 1
        pending := f.pending ++ [(key, f.calls.length)]
        calls := f.calls ++ [⟨key, .computing⟩] } := by
    simp only [step, lookup, hs, hp]
  rw [hstep]
  exact ⟨by simp [Computes], rfl⟩

/-! ## A caller that leaves -/

/-- The state with one difference: a caller has ended as cancelled, whatever it was in. -/
def withdrawn (f : Flights κ ρ ε) (n : Nat) (key : κ) : Flights κ ρ ε :=
  { f with calls := f.calls.set n ⟨key, .done .cancelled⟩ }

omit [DecidableEq κ] in
theorem getElem?_withdrawn_ne {m : Nat} (h : m ≠ n) : (f.withdrawn n key).calls[m]? = f.calls[m]? :=
  List.getElem?_set_ne (Ne.symm h)

omit [DecidableEq κ] in
theorem getElem?_withdrawn_self (h : n < f.calls.length) :
    (f.withdrawn n key).calls[n]? = some ⟨key, .done .cancelled⟩ :=
  List.getElem?_set_self h

theorem withdrawn_lookup (hn : n < f.calls.length) (k : κ) :
    (f.withdrawn n key).lookup k = (f.lookup k).withdrawn n key := by
  have hset (c : Call κ ρ ε) :
      f.calls.set n ⟨key, .done .cancelled⟩ ++ [c] = (f.calls ++ [c]).set n ⟨key, .done .cancelled⟩ :=
    (List.set_append_left n _ hn).symm
  simp only [lookup, withdrawn, List.length_set]
  cases f.store.find? k with
  | some r => simp only [hset]
  | none =>
    cases f.pending.lookup k with
    | some l => simp only [hset]
    | none => simp only [hset]

theorem withdrawn_landed (hn : n ≠ l) :
    (f.withdrawn n key).landed l k o = (f.landed l k o).withdrawn n key := by
  have hs : settle l o n ⟨key, .done .cancelled⟩ = ⟨key, .done .cancelled⟩ := settle_other hn nofun
  simp only [landed, withdrawn, List.mapIdx_set, hs]
  rfl

theorem withdrawn_finish (hn : n < f.calls.length) (hc : ∀ k, ¬ f.Computes n k) (l : Nat)
    (o : Outcome ρ ε) : (f.withdrawn n key).finish l o = (f.finish l o).withdrawn n key := by
  by_cases hl : ∃ k, f.Computes l k
  · obtain ⟨k, hl⟩ := hl
    have hnl : n ≠ l := by
      rintro rfl
      exact hc k hl
    have hl' : (f.withdrawn n key).Computes l k := (getElem?_withdrawn_ne (Ne.symm hnl)).trans hl
    rw [finish_of_computes hl, finish_of_computes hl', withdrawn_landed hnl]
  · rw [not_exists] at hl
    have hl' : ∀ k, ¬ (f.withdrawn n key).Computes l k := by
      intro k hk
      by_cases hln : l = n
      · subst hln
        cases (getElem?_withdrawn_self hn).symm.trans hk
      · exact hl k ((getElem?_withdrawn_ne hln).symm.trans hk)
    rw [finish_of_not_computes hl, finish_of_not_computes hl']

theorem cancel_of_waits (h : f.Waits n key l) : f.cancel n = f.withdrawn n key :=
  cancel_waiting h

theorem cancel_of_not_aboard (hc : ∀ k, ¬ f.Computes n k) (hw : ∀ k l, ¬ f.Waits n k l) :
    f.cancel n = f := by
  generalize hf : f.cancel n = f'
  have m := hf ▸ move_cancel f n
  cases m with
  | ended hl hends =>
    rcases hends with he | ⟨he, -⟩
    · cases he
    · cases he
      exact absurd hl (hc _)
  | left hm => exact absurd hm (hw _ _)
  | spared => rfl

/-- A second cancellation changes nothing. -/
theorem withdrawn_cancel_self (hn : n < f.calls.length) :
    (f.withdrawn n key).cancel n = f.withdrawn n key := by
  have hd : (f.withdrawn n key).calls[n]? = some ⟨key, .done .cancelled⟩ := getElem?_withdrawn_self hn
  exact cancel_of_not_aboard (fun k hk => by cases hd.symm.trans hk)
    fun k l hk => by cases hd.symm.trans hk

theorem withdrawn_cancel (hn : n < f.calls.length) (hc : ∀ k, ¬ f.Computes n k) (m : Nat) :
    (f.withdrawn n key).cancel m = (f.cancel m).withdrawn n key := by
  by_cases hm : m = n
  · subst hm
    rw [withdrawn_cancel_self hn]
    by_cases hw : ∃ k l, f.Waits m k l
    · obtain ⟨k, l, hw⟩ := hw
      rw [cancel_of_waits hw]
      simp only [withdrawn, List.set_set]
    · rw [cancel_of_not_aboard hc fun k l h => hw ⟨k, l, h⟩]
  have hcall : (f.withdrawn n key).calls[m]? = f.calls[m]? := getElem?_withdrawn_ne hm
  by_cases hl : ∃ k, f.Computes m k
  · obtain ⟨k, hl⟩ := hl
    rw [cancel_of_computes hl, cancel_of_computes (hcall.trans hl), withdrawn_landed (Ne.symm hm)]
  by_cases hw : ∃ k l, f.Waits m k l
  · obtain ⟨k, l, hw⟩ := hw
    rw [cancel_of_waits hw, cancel_of_waits (hcall.trans hw)]
    simp only [withdrawn]
    rw [List.set_comm _ _ (Ne.symm hm)]
  · rw [cancel_of_not_aboard (fun k h => hl ⟨k, h⟩) fun k l h => hw ⟨k, l, h⟩,
      cancel_of_not_aboard (fun k h => hl ⟨k, hcall.symm.trans h⟩)
        fun k l h => hw ⟨k, l, hcall.symm.trans h⟩]

/-- **A step takes no notice of a caller that does not compute.** -/
theorem withdrawn_step (hn : n < f.calls.length) (hc : ∀ k, ¬ f.Computes n k) (e : Event κ ρ ε) :
    (f.withdrawn n key).step e = (f.step e).withdrawn n key := by
  cases e with
  | lookup k => exact withdrawn_lookup hn k
  | finish l o => exact withdrawn_finish hn hc l o
  | cancel m => exact withdrawn_cancel hn hc m
  | get | put | clear => rfl

/-- Who does not compute never will. -/
theorem Move.not_computes (m : Move f e f') (hn : n < f.calls.length) (hc : ∀ k, ¬ f.Computes n k) :
    n < f'.calls.length ∧ ∀ k, ¬ f'.Computes n k := by
  cases m with
  | answered | joined | started =>
    refine ⟨by rw [List.length_append]; omega, fun k hk => hc k ?_⟩
    exact (List.getElem?_append_left hn).symm.trans hk
  | ended =>
    exact ⟨by rw [landed, List.length_mapIdx]; exact hn, fun k hk => hc k (computes_landed.1 hk).2⟩
  | left =>
    refine ⟨by rw [List.length_set]; exact hn, fun k hk => hc k ?_⟩
    rw [Computes, List.getElem?_set] at hk
    split at hk
    · split at hk <;> cases hk
    · exact hk
  | late | spared | used | stored | cleared => exact ⟨hn, hc⟩

/-- **A caller that waits and is cancelled makes no difference to anything else**, however the run goes
    on. -/
theorem withdrawn_run (hn : n < f.calls.length) (hc : ∀ k, ¬ f.Computes n k)
    (es : List (Event κ ρ ε)) : (f.withdrawn n key).run es = (f.run es).withdrawn n key := by
  induction es generalizing f with
  | nil => rfl
  | cons e es ih =>
    have hrun (g : Flights κ ρ ε) : g.run (e :: es) = (g.step e).run es := rfl
    obtain ⟨hn', hc'⟩ := (move_step f e).not_computes hn hc
    rw [hrun, hrun, withdrawn_step hn hc, ih hn' hc']

/-! ## All runs -/

/-- **A computation has one outcome, and leaves a result behind or nothing.**  In every run of a new
    store, when a computation ends: all who have had part in it and were not cancelled before end
    with its outcome, for good; a result is stored, and any other outcome leaves the store as it
    is; the record of the computation goes and all other records stay, so that the next lookup of
    the key, unless it is stored then, starts a new computation.  The cancellation of a caller that
    waits changes that caller and nothing else, now and later. -/
theorem one_outcome {capacity : Int} (h : 1 ≤ capacity) :
    ∃ new : Flights κ ρ ε, create capacity = .ok new ∧ ∀ es : List (Event κ ρ ε),
      let f := new.run es
      (∀ l key e o, f.Computes l key → e.Ends l o →
        let f' := f.step e
        (∀ n, Flew new es n key l → n = l ∨ ¬ Cancelled new es n →
          ∀ later, (f'.run later).Done n key o) ∧
        (∀ r, o = .report r →
          f'.store = f.store.put f.capacity key r ∧ f'.store.find? key = some r) ∧
        ((∀ r, o ≠ .report r) → f'.store = f.store) ∧
        (∀ k, f'.pending.lookup k = if k = key then none else f.pending.lookup k) ∧
        ∀ later, .lookup key ∉ later →
          let g := f'.run later
          g.store.find? key = none →
            (g.step (.lookup key)).Computes g.calls.length key ∧
              (g.step (.lookup key)).misses = g.misses + 1) ∧
      ∀ n key l, f.Waits n key l → ∀ later,
        (f.step (.cancel n)).run later = (f.run later).withdrawn n key := by
  refine ⟨_, create_eq h, fun es => ?_⟩
  have hnew := coherent_new (κ := κ) (ρ := ρ) (ε := ε) capacity.toNat
  have hf := hnew.run es
  refine ⟨fun l key e o hl he => ?_, fun n key l hw later => ?_⟩
  · rw [step_of_ends hl he]
    have hp := hf.pending_landed hl o
    refine ⟨fun n hn hc later => ?_, ?_, ?_, hp, fun later hlater hs => ?_⟩
    · exact done_run ((aboard_of_flew hnew hn hl hc).done_landed o) later
    · rintro r rfl
      refine ⟨rfl, Recency.find?_put_self hf.distinct ?_ key r⟩
      rw [capacity_run]
      exact Int.lt_toNat.2 h
    · intro ho
      cases o with
      | report r => exact absurd rfl (ho r)
      | failure | cancelled => rfl
    · exact computes_lookup hs (idle_run ((hp key).trans (if_pos rfl)) hlater)
  · rw [step, cancel_of_waits hw]
    refine withdrawn_run (List.getElem?_eq_some_iff.1 hw).1 (fun k hk => ?_) later
    cases hw.symm.trans hk

/-- Three callers share a computation while another key is computed; one of them is cancelled, and the
    computation fails: the other two end with the failure, nothing is stored, and the next caller
    computes the key anew. -/
theorem one_outcome_failure :
    (1 : Int) ≤ 1 ∧ ∃ new : Flights Nat Nat Nat, create 1 = .ok new ∧
      let es := [.put 5 50, .lookup 7, .lookup 7, .lookup 7, .lookup 8, .cancel 1]
      let later : List (Event Nat Nat Nat) := [.put 9 90, .lookup 8]
      let f := new.run es
      let f' := f.step (.finish 0 (.failure 3))
      (f.Computes 0 7 ∧ Flew new es 2 7 0 ∧ ¬ Cancelled new es 2 ∧ (f'.run later).Done 2 7 (.failure 3)) ∧
      f'.store = f.store ∧ f'.pending.lookup 7 = none ∧ f'.pending.lookup 8 = some 3 ∧
      (.lookup 7 ∉ later ∧ (f'.run later).store.find? 7 = none ∧
        ((f'.run later).step (.lookup 7)).Computes 5 7) ∧
      f.Waits 2 7 0 ∧ ((f.step (.cancel 2)).run later).store = (f.run later).store := by
  obtain ⟨new, hnew, h⟩ : ∃ new : Flights Nat Nat Nat, _ := one_outcome (by decide : (1 : Int) ≤ 1)
  refine ⟨by decide, new, hnew, ?_⟩
  obtain rfl := Except.ok.inj ((create_eq (by decide)).symm.trans hnew)
  obtain ⟨ends, leaves⟩ := h [.put 5 50, .lookup 7, .lookup 7, .lookup 7, .lookup 8, .cancel 1]
  obtain ⟨joined, -, kept, record, anew⟩ := ends 0 7 (.finish 0 (.failure 3)) (.failure 3) rfl (Or.inl rfl)
  have hflew : Flew ({ capacity := 1 } : Flights Nat Nat Nat)
      [.put 5 50, .lookup 7, .lookup 7, .lookup 7, .lookup 8, .cancel 1] 2 7 0 := Aboard.flew (Or.inl rfl)
  have hc : ¬ Cancelled ({ capacity := 1 } : Flights Nat Nat Nat)
      [.put 5 50, .lookup 7, .lookup 7, .lookup 7, .lookup 8, .cancel 1] 2 := not_cancelled (by decide)
  exact ⟨⟨rfl, hflew, hc, joined 2 hflew (Or.inr hc) _⟩, kept nofun, record 7, record 8,
    ⟨by decide, rfl, (anew [.put 9 90, .lookup 8] (by decide) rfl).1⟩, rfl,
    by rw [leaves 2 7 0 rfl]; rfl⟩

end CodeSurvey.Flights
