/-
  How far a cancellation reaches.

  * `Flights.cancel_waiting`: a cancelled caller that waits changes nothing but itself;
  * `Flights.done_cancelled_iff`: a caller ends cancelled exactly if it is cancelled
    itself, or the computation that it has part in ends cancelled;
  * `Flights.cancellation_confined`: both, with what all other callers end with;
  * `Flights.first_caller_takes_others`: the first caller takes the others with it.
-/
import CodeSurvey.Proofs.Cache.History

namespace CodeSurvey.Flights

variable {κ ρ ε : Type} [DecidableEq κ] {f new : Flights κ ρ ε} {es : List (Event κ ρ ε)}
  {n l : Nat} {key : κ} {o : Outcome ρ ε}

theorem cancel_waiting (h : f.Waits n key l) :
    f.step (.cancel n) = { f with calls := f.calls.set n ⟨key, .done .cancelled⟩ } := by
  have hc : f.cancel n = f.setState n (.done .cancelled) := by
    unfold cancel
    rw [stateOf?_of_calls h]
  exact hc.trans (setState_of_waits h _)

/-- A caller that is cancelled while it is aboard ends cancelled. -/
theorem Cancelled.done (hnew : Coherent new) (h : Cancelled new es n) (hd : (new.run es).Done n key o) :
    o = .cancelled := by
  obtain ⟨before, after, rfl, k, l, ha⟩ := h
  rw [run_split] at hd
  have hc : ((new.run before).step (.cancel n)).Done n k .cancelled := by
    rcases (move_step _ (.cancel n)).aboard (hnew.run before) ha with hb | ⟨-, hc⟩ | ⟨o', -, he, hc⟩
    · rcases ha with ha | ⟨rfl, ha⟩
      · rw [cancel_waiting ha] at hb
        rcases hb with hb | ⟨rfl, hb⟩
        · rw [Waits, List.getElem?_set_self (List.getElem?_eq_some_iff.1 ha).1] at hb
          cases hb
        · rw [Computes, List.getElem?_set_self (List.getElem?_eq_some_iff.1 ha).1] at hb
          cases hb
      · exact absurd (done_of_ends ha (Or.inr ⟨rfl, rfl⟩)) hb.not_done
    · exact hc
    · rcases he with he | ⟨-, rfl⟩
      · cases he
      · exact hc
  exact (hd.unique (done_run hc after)).2

/-- **A caller ends cancelled exactly if it is cancelled itself, or what it has part in is.** -/
theorem done_cancelled_iff (hnew : Coherent new) (hcalls : new.calls = [])
    (hd : (new.run es).Done n key o) :
    o = .cancelled ↔
      Cancelled new es n ∨ ∃ l, Flew new es n key l ∧ Produced new es l key .cancelled := by
  constructor
  · rintro rfl
    rcases boarded_or_answered hcalls hd with ⟨r, -, ⟨⟩⟩ | ⟨l, hl⟩
    rcases fate hnew hl with ha | ⟨o, ho, hc | hp⟩
    · exact absurd hd ha.not_done
    · exact Or.inl hc.1
    · obtain ⟨-, rfl⟩ := hd.unique ho
      exact Or.inr ⟨l, hl, hp⟩
  · rintro (hc | ⟨l, hl, hp⟩)
    · exact hc.done hnew hd
    · rcases fate hnew hl with ha | ⟨o', ho, ⟨-, rfl⟩ | hp'⟩
      · exact absurd hd ha.not_done
      · exact (hd.unique ho).2
      · rw [(hd.unique ho).2]
        exact (hp'.done.unique hp.done).2

/-- What a caller ends with that is not cancelled itself: what came of the computation that it has
    part in, or a result that was stored under its key. -/
theorem done_origin (hnew : Coherent new) (hcalls : new.calls = []) (hstore : new.store = {})
    (hd : (new.run es).Done n key o) (hc : ¬ Cancelled new es n) :
    (∃ l, Flew new es n key l ∧ Produced new es l key o) ∨
      ∃ r, o = .report r ∧ ((∃ l, Produced new es l key (.report r)) ∨ .put key r ∈ es) := by
  rcases boarded_or_answered hcalls hd with ⟨r, ⟨before, after, rfl, -, hr⟩, ho⟩ | ⟨l, hl⟩
  · cases ho
    refine Or.inr ⟨r, rfl, ?_⟩
    rcases stored_origin hnew hstore hr with ⟨l, b, e, a, rfl, hl⟩ | hp
    · exact Or.inl ⟨l, b, e, a ++ .lookup key :: after, by simp, hl⟩
    · exact Or.inr (List.mem_append_left _ hp)
  · rcases fate hnew hl with ha | ⟨o', ho, hc' | hp⟩
    · exact absurd hd ha.not_done
    · exact absurd hc'.1 hc
    · obtain ⟨-, rfl⟩ := hd.unique ho
      exact Or.inl ⟨l, hl, hp⟩

/-- **Cancellation is confined to a computation.**  In every run of a new store, a caller that ends
    cancelled was cancelled itself, or the computation that it ran or waited for was; every other
    caller ends with what that computation produced for its key, or with what was stored under
    it.  Cancelling a caller that waits changes nothing but that caller, and who waits ends as
    soon as the computation does, and with its outcome. -/
theorem cancellation_confined {capacity : Int} (h : 1 ≤ capacity) :
    ∃ new : Flights κ ρ ε, create capacity = .ok new ∧ ∀ es : List (Event κ ρ ε),
      let f := new.run es
      (∀ n key o, f.Done n key o →
        (o = .cancelled ↔
          Cancelled new es n ∨ ∃ l, Flew new es n key l ∧ Produced new es l key .cancelled) ∧
        (¬ Cancelled new es n →
          (∃ l, Flew new es n key l ∧ Produced new es l key o) ∨
            ∃ r, o = .report r ∧ ((∃ l, Produced new es l key (.report r)) ∨ .put key r ∈ es))) ∧
      ∀ n key l, f.Waits n key l →
        f.step (.cancel n) = { f with calls := f.calls.set n ⟨key, .done .cancelled⟩ } ∧
        f.Computes l key ∧ ∀ o, (f.step (.finish l o)).Done n key o := by
  refine ⟨_, create_eq h, fun es => ?_⟩
  have hnew := coherent_new (κ := κ) (ρ := ρ) (ε := ε) capacity.toNat
  refine ⟨fun n key o hd => ⟨done_cancelled_iff hnew rfl hd, done_origin hnew rfl rfl hd⟩,
    fun n key l hw => ⟨cancel_waiting hw, ?_⟩⟩
  have hl := (hnew.run es).joined n key l hw
  refine ⟨hl, fun o => ?_⟩
  rw [step, finish_of_computes hl]
  exact done_landed hw (Or.inr rfl)

theorem not_cancelled (h : .cancel n ∉ es) : ¬ Cancelled new es n := by
  rintro ⟨before, after, rfl, -⟩
  simp at h

/-- One of two callers that wait is cancelled, and the computation fails: the other one ends with
    the failure. -/
theorem cancellation_confined_failure :
    (1 : Int) ≤ 1 ∧ ∃ new : Flights Nat Nat Nat, create 1 = .ok new ∧
      let es := [.lookup 7, .lookup 7, .lookup 7, .cancel 1, .finish 0 (.failure 3)]
      (new.run es).Done 2 7 (.failure 3) ∧ ¬ Cancelled new es 2 ∧
      (∃ l, Flew new es 2 7 l ∧ Produced new es l 7 (.failure 3)) ∧
      (new.run es).Done 1 7 .cancelled ∧
      (Cancelled new es 1 ∨ ∃ l, Flew new es 1 7 l ∧ Produced new es l 7 .cancelled) := by
  obtain ⟨new, hnew, h⟩ : ∃ new : Flights Nat Nat Nat, _ :=
    cancellation_confined (by decide : (1 : Int) ≤ 1)
  refine ⟨by decide, new, hnew, ?_⟩
  obtain rfl := Except.ok.inj ((create_eq (by decide)).symm.trans hnew)
  have h := (h [.lookup 7, .lookup 7, .lookup 7, .cancel 1, .finish 0 (.failure 3)]).1
  refine ⟨rfl, not_cancelled (by decide),
    ((h 2 7 _ rfl).2 (not_cancelled (by decide))).resolve_right ?_, rfl, (h 1 7 _ rfl).1.1 rfl⟩
  rintro ⟨r, ⟨⟩, -⟩

/-- **The first caller takes the others with it.**  A caller may end cancelled that is not
    cancelled itself, although no computation ends so by itself. -/
theorem first_caller_takes_others :
    ¬ ∀ (new : Flights Nat Nat Nat) (es : List (Event Nat Nat Nat)) (n key : Nat)
        (o : Outcome Nat Nat), create 1 = .ok new → (∀ l, .finish l .cancelled ∉ es) →
        (new.run es).Done n key o → ¬ Cancelled new es n → o ≠ .cancelled := by
  intro h
  refine h { capacity := 1 } [.lookup 7, .lookup 7, .cancel 0] 1 7 .cancelled rfl ?_ rfl ?_ rfl
  · simp
  · exact not_cancelled (by decide)

end CodeSurvey.Flights
