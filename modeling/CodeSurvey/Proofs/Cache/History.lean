/-
  How callers come to their outcomes.

  * `Flights.Aboard`: the caller computes, or waits for what another one computes;
  * `Flights.Produced`, `Flights.Flew`, `Flights.Answered`, `Flights.Cancelled`: what
    happened in a run;
  * `Flights.done_run`: an outcome is final;
  * `Flights.boarded_or_answered`: every caller was answered from the store or aboard;
  * `Flights.fate`: who was aboard still is, was cancelled, or ended as the computation;
  * `Flights.stored_origin`: what is stored was computed or entered directly.
-/
import CodeSurvey.Proofs.Cache.Coherent

namespace CodeSurvey

namespace Recency

variable {κ ρ : Type} [DecidableEq κ] {s : Recency κ ρ}

theorem find?_eq_some_iff (h : s.keys.Nodup) {key : κ} {r : ρ} :
    s.find? key = some r ↔ (key, r) ∈ s.entries :=
  lookup_eq_some_iff_mem h

theorem find?_of_find?_touch (h : s.keys.Nodup) {key k : κ} {r : ρ}
    (hf : (s.touch key).find? k = some r) : s.find? k = some r := by
  rw [find?_eq_some_iff (nodup_keys_touch h key)] at hf
  unfold touch at hf
  split at hf
  · rename_i v hv
    rw [List.mem_append, List.mem_singleton] at hf
    rcases hf with hf | hf
    · exact (find?_eq_some_iff h).2 (List.mem_filter.1 hf).1
    · obtain ⟨rfl, rfl⟩ := Prod.mk.inj hf
      exact hv
  · exact (find?_eq_some_iff h).2 hf

theorem find?_of_find?_put (h : s.keys.Nodup) {capacity : Nat} {key k : κ} {v r : ρ}
    (hf : (s.put capacity key v).find? k = some r) : s.find? k = some r ∨ (k = key ∧ r = v) := by
  rw [find?_eq_some_iff (nodup_keys_put h capacity key v)] at hf
  have hm : (k, r) ∈ s.without key ++ [(key, v)] := List.mem_of_mem_drop hf
  rw [List.mem_append, List.mem_singleton] at hm
  rcases hm with hm | hm
  · exact Or.inl ((find?_eq_some_iff h).2 (List.mem_filter.1 hm).1)
  · exact Or.inr (Prod.mk.inj hm)

/-- A new entry does not make room by leaving itself out. -/
theorem find?_put_self (h : s.keys.Nodup) {capacity : Nat} (hc : 0 < capacity) (key : κ) (r : ρ) :
    (s.put capacity key r).find? key = some r := by
  rw [find?_eq_some_iff (nodup_keys_put h capacity key r)]
  have hlen : (s.without key ++ [(key, r)]).length - capacity ≤ (s.without key).length := by
    rw [List.length_append, List.length_singleton]
    omega
  rw [put, List.drop_append_of_le_length hlen]
  exact List.mem_append_right _ (List.mem_singleton_self _)

end Recency

namespace Flights

variable {κ ρ ε : Type}

/-- Caller `n` of `key` computes, or waits for what caller `l` computes. -/
def Aboard (f : Flights κ ρ ε) (n : Nat) (key : κ) (l : Nat) : Prop :=
  f.Waits n key l ∨ (n = l ∧ f.Computes l key)

variable {f f' new : Flights κ ρ ε} {e : Event κ ρ ε} {es : List (Event κ ρ ε)} {n l : Nat} {key : κ}
  {o : Outcome ρ ε}

theorem Done.unique {o' : Outcome ρ ε} {k : κ} (h : f.Done n key o) (h' : f.Done n k o') :
    key = k ∧ o = o' := by
  cases h.symm.trans h'
  exact ⟨rfl, rfl⟩

/-- Who is aboard has not ended. -/
theorem Aboard.not_done (h : f.Aboard n key l) {k : κ} : ¬ f.Done n k o := by
  intro hd
  rcases h with h | ⟨rfl, h⟩
  · cases h.symm.trans hd
  · cases h.symm.trans hd

variable [DecidableEq κ]

/-! ## Steps -/

/-- **An outcome is final.** -/
theorem Move.done (m : Move f e f') (h : f.Done n key o) : f'.Done n key o := by
  have hlt : n < f.calls.length := (List.getElem?_eq_some_iff.1 h).1
  cases m with
  | answered | joined | started => exact (List.getElem?_append_left hlt).trans h
  | @ended _ l k o' hl _ =>
    have hn : n ≠ l := by
      rintro rfl
      cases hl.symm.trans h
    have hs : settle l o' n ⟨key, .done o⟩ = ⟨key, .done o⟩ := settle_other hn nofun
    rw [Done, landed, List.getElem?_mapIdx, show f.calls[n]? = _ from h, Option.map_some, hs]
  | @left m k l hm =>
    have hne : m ≠ n := by
      rintro rfl
      cases hm.symm.trans h
    exact (List.getElem?_set_ne hne).trans h
  | late | spared | used | stored | cleared => exact h

/-- A caller aboard stays there, or it is cancelled, or the computation ends. -/
theorem Move.aboard (m : Move f e f') (hf : Coherent f) (h : f.Aboard n key l) :
    f'.Aboard n key l ∨ (e = .cancel n ∧ f'.Done n key .cancelled) ∨
      ∃ o, f.Computes l key ∧ e.Ends l o ∧ f'.Done n key o := by
  have hl : f.Computes l key := h.elim (hf.joined n key l) And.right
  obtain ⟨st, hn, hst⟩ : ∃ st, f.calls[n]? = some ⟨key, st⟩ ∧ (n = l ∨ st = .waiting l) := by
    rcases h with h | ⟨rfl, h⟩
    · exact ⟨_, h, Or.inr rfl⟩
    · exact ⟨_, h, Or.inl rfl⟩
  have hlt : n < f.calls.length := (List.getElem?_eq_some_iff.1 hn).1
  have hlt' : l < f.calls.length := (List.getElem?_eq_some_iff.1 hl).1
  cases m with
  | answered | joined | started =>
    refine Or.inl (h.imp (fun hw => ?_) (And.imp_right fun hc => ?_))
    · exact (List.getElem?_append_left hlt).trans hw
    · exact (List.getElem?_append_left hlt').trans hc
  | @ended _ m k o hm hends =>
    by_cases hml : m = l
    · subst hml
      exact Or.inr (Or.inr ⟨o, hl, hends, done_landed hn hst⟩)
    · refine Or.inl (h.imp (fun hw => ?_) (And.imp_right fun hc => ?_))
      · refine waits_landed.2 ⟨?_, Ne.symm hml, hw⟩
        rintro rfl
        cases hm.symm.trans hw
      · exact computes_landed.2 ⟨Ne.symm hml, hc⟩
  | @left m k l' hm =>
    by_cases hmn : m = n
    · subst hmn
      cases hm.symm.trans hn
      exact Or.inr (Or.inl ⟨rfl, List.getElem?_set_self hlt⟩)
    · refine Or.inl (h.imp (fun hw => ?_) (And.imp_right fun hc => ?_))
      · exact (List.getElem?_set_ne hmn).trans hw
      · refine (List.getElem?_set_ne ?_).trans hc
        rintro rfl
        cases hm.symm.trans hc
  | late | spared | used | stored | cleared => exact Or.inl h

/-- A caller found after a step was there before, or it has just looked its key up. -/
theorem Move.call_origin (m : Move f e f') {st : CallState ρ ε}
    (h : f'.calls[n]? = some ⟨key, st⟩) :
    (∃ st', f.calls[n]? = some ⟨key, st'⟩) ∨
      (e = .lookup key ∧ n = f.calls.length ∧
        ((∃ r, f.store.find? key = some r ∧ st = .done (.report r)) ∨
          f.store.find? key = none ∧ ∃ l, f'.Aboard n key l)) := by
  cases m with
  | @answered _ r hr =>
    rcases getElem?_concat_eq_some_iff.1 h with h | ⟨hn, ⟨⟩⟩
    · exact Or.inl ⟨st, h⟩
    · exact Or.inr ⟨rfl, hn, Or.inl ⟨r, hr, rfl⟩⟩
  | @joined _ l hr _ =>
    rcases getElem?_concat_eq_some_iff.1 h with h' | ⟨hn, ⟨⟩⟩
    · exact Or.inl ⟨st, h'⟩
    · exact Or.inr ⟨rfl, hn, Or.inr ⟨hr, l, Or.inl h⟩⟩
  | started hr _ =>
    rcases getElem?_concat_eq_some_iff.1 h with h' | ⟨hn, ⟨⟩⟩
    · exact Or.inl ⟨st, h'⟩
    · exact Or.inr ⟨rfl, hn, Or.inr ⟨hr, n, Or.inr ⟨rfl, h⟩⟩⟩
  | @ended _ l k o _ _ =>
    rw [landed, List.getElem?_mapIdx, Option.map_eq_some_iff] at h
    obtain ⟨⟨k', st'⟩, hc, hs⟩ := h
    refine Or.inl ⟨st', ?_⟩
    by_cases hj : n = l ∨ st' = .waiting l
    · rw [settle_joined hj] at hs
      cases hs
      exact hc
    · rw [not_or] at hj
      rw [settle_other hj.1 hj.2] at hs
      cases hs
      exact hc
  | @left m k l hm =>
    rw [List.getElem?_set] at h
    split at h
    · rename_i hmn
      subst hmn
      split at h
      · cases h
        exact Or.inl ⟨_, hm⟩
      · cases h
    · exact Or.inl ⟨st, h⟩
  | late | spared | used | stored | cleared => exact Or.inl ⟨st, h⟩

/-- What is stored after a step was stored before, entered directly, or has just been computed. -/
theorem Move.stored_origin (m : Move f e f') (hf : Coherent f) {r : ρ}
    (h : f'.store.find? key = some r) :
    f.store.find? key = some r ∨ e = .put key r ∨ ∃ l, f.Computes l key ∧ e.Ends l (.report r) := by
  cases m with
  | answered | used => exact Or.inl (Recency.find?_of_find?_touch hf.distinct h)
  | @ended _ l k o hl hends =>
    cases o with
    | report v =>
      rcases Recency.find?_of_find?_put hf.distinct h with h | ⟨rfl, rfl⟩
      · exact Or.inl h
      · exact Or.inr (Or.inr ⟨l, hl, hends⟩)
    | failure | cancelled => exact Or.inl h
  | stored =>
    rcases Recency.find?_of_find?_put hf.distinct h with h | ⟨rfl, rfl⟩
    · exact Or.inl h
    · exact Or.inr (Or.inl rfl)
  | joined | started | late | left | spared => exact Or.inl h
  | cleared => cases h

/-! ## Runs -/

/-- In the run, what caller `l` computes for `key` ends with an outcome. -/
def Produced (new : Flights κ ρ ε) (es : List (Event κ ρ ε)) (l : Nat) (key : κ)
    (o : Outcome ρ ε) : Prop :=
  ∃ before e after, es = before ++ e :: after ∧ (new.run before).Computes l key ∧ e.Ends l o

/-- At some time of the run, caller `n` is aboard what caller `l` computes for `key`. -/
def Flew (new : Flights κ ρ ε) (es : List (Event κ ρ ε)) (n : Nat) (key : κ) (l : Nat) : Prop :=
  ∃ before after, es = before ++ after ∧ (new.run before).Aboard n key l

/-- In the run, caller `n` looks `key` up and finds a stored result. -/
def Answered (new : Flights κ ρ ε) (es : List (Event κ ρ ε)) (n : Nat) (key : κ) (r : ρ) : Prop :=
  ∃ before after, es = before ++ .lookup key :: after ∧ n = (new.run before).calls.length ∧
    (new.run before).store.find? key = some r

/-- In the run, caller `n` is cancelled before it has ended. -/
def Cancelled (new : Flights κ ρ ε) (es : List (Event κ ρ ε)) (n : Nat) : Prop :=
  ∃ before after, es = before ++ .cancel n :: after ∧ ∃ key l, (new.run before).Aboard n key l

theorem Produced.concat (h : Produced new es l key o) (e : Event κ ρ ε) :
    Produced new (es ++ [e]) l key o := by
  obtain ⟨before, e', after, rfl, hl⟩ := h
  exact ⟨before, e', after ++ [e], by simp, hl⟩

theorem Flew.concat (h : Flew new es n key l) (e : Event κ ρ ε) :
    Flew new (es ++ [e]) n key l := by
  obtain ⟨before, after, rfl, hn⟩ := h
  exact ⟨before, after ++ [e], by simp, hn⟩

theorem Answered.concat {r : ρ} (h : Answered new es n key r) (e : Event κ ρ ε) :
    Answered new (es ++ [e]) n key r := by
  obtain ⟨before, after, rfl, hn⟩ := h
  exact ⟨before, after ++ [e], by simp, hn⟩

theorem Cancelled.concat (h : Cancelled new es n) (e : Event κ ρ ε) :
    Cancelled new (es ++ [e]) n := by
  obtain ⟨before, after, rfl, hn⟩ := h
  exact ⟨before, after ++ [e], by simp, hn⟩

/-- Who is aboard at the end of a run has been aboard. -/
theorem Aboard.flew (h : (new.run es).Aboard n key l) : Flew new es n key l :=
  ⟨es, [], by simp, h⟩

/-- Who has been aboard was so before the last step, or is so now. -/
theorem flew_concat (h : Flew new (es ++ [e]) n key l) :
    Flew new es n key l ∨ (new.run (es ++ [e])).Aboard n key l := by
  obtain ⟨before, after, hes, hn⟩ := h
  rcases List.eq_nil_or_concat' after with rfl | ⟨after, e', rfl⟩
  · rw [List.append_nil] at hes
    exact Or.inr (hes ▸ hn)
  · rw [← List.append_assoc] at hes
    exact Or.inl ⟨before, after, (List.append_inj' hes rfl).1, hn⟩

theorem done_run (h : f.Done n key o) (es : List (Event κ ρ ε)) : (f.run es).Done n key o := by
  induction es using List.reverseRecOn with
  | nil => exact h
  | append_singleton es e ih =>
    rw [run_concat]
    exact (move_step _ e).done ih

/-- A computation that ends leaves its caller with its outcome. -/
theorem done_of_ends (hl : f.Computes l key) (he : e.Ends l o) : (f.step e).Done l key o := by
  rw [step_of_ends hl he]
  exact done_landed hl (Or.inl rfl)

theorem run_append (f : Flights κ ρ ε) (es es' : List (Event κ ρ ε)) :
    f.run (es ++ es') = (f.run es).run es' := by
  simp [run]

theorem run_split (f : Flights κ ρ ε) (before : List (Event κ ρ ε)) (e : Event κ ρ ε)
    (after : List (Event κ ρ ε)) :
    f.run (before ++ e :: after) = ((f.run before).step e).run after := by
  simp [run]

/-- A computation ends once. -/
theorem Produced.done (h : Produced new es l key o) : (new.run es).Done l key o := by
  obtain ⟨before, e, after, rfl, hl, he⟩ := h
  rw [run_split]
  exact done_run (done_of_ends hl he) after

/-- **Every caller was answered from the store or has been aboard.** -/
theorem boarded_or_answered {st : CallState ρ ε} (hnew : new.calls = [])
    (h : (new.run es).calls[n]? = some ⟨key, st⟩) :
    (∃ r, Answered new es n key r ∧ st = .done (.report r)) ∨ ∃ l, Flew new es n key l := by
  induction es using List.reverseRecOn generalizing st with
  | nil =>
    rw [show new.run [] = new from rfl, hnew] at h
    cases h
  | append_singleton es e ih =>
    have m := move_step (new.run es) e
    rw [← run_concat] at m
    rcases m.call_origin h with ⟨st', h'⟩ | ⟨rfl, hn, ⟨r, hr, hst⟩ | ⟨-, l, hl⟩⟩
    · rcases ih h' with ⟨r, hr, rfl⟩ | ⟨l, hl⟩
      · refine Or.inl ⟨r, hr.concat e, ?_⟩
        cases (m.done h').symm.trans h
        rfl
      · exact Or.inr ⟨l, hl.concat e⟩
    · exact Or.inl ⟨r, ⟨es, [], rfl, hn, hr⟩, hst⟩
    · exact Or.inr ⟨l, hl.flew⟩

/-- **Who has been aboard still is, or was cancelled, or ended as the computation did.** -/
theorem fate (hnew : Coherent new) (h : Flew new es n key l) :
    (new.run es).Aboard n key l ∨ ∃ o, (new.run es).Done n key o ∧
      (Cancelled new es n ∧ o = .cancelled ∨ Produced new es l key o) := by
  induction es using List.reverseRecOn with
  | nil =>
    obtain ⟨before, after, hes, hn⟩ := h
    obtain ⟨rfl, rfl⟩ := List.append_eq_nil_iff.1 hes.symm
    exact Or.inl hn
  | append_singleton es e ih =>
    rcases flew_concat h with h | h
    swap
    · exact Or.inl h
    have m := move_step (new.run es) e
    rw [← run_concat] at m
    rcases ih h with ha | ⟨o, hd, ho⟩
    · rcases m.aboard (hnew.run es) ha with hb | ⟨rfl, hd⟩ | ⟨o, hl, he, hd⟩
      · exact Or.inl hb
      · exact Or.inr ⟨_, hd, Or.inl ⟨⟨es, [], rfl, key, l, ha⟩, rfl⟩⟩
      · exact Or.inr ⟨o, hd, Or.inr ⟨es, e, [], rfl, hl, he⟩⟩
    · exact Or.inr ⟨o, m.done hd, ho.imp (And.imp_left fun hc => hc.concat e) fun hp => hp.concat e⟩

/-- **What is stored was computed for its key, or entered directly.** -/
theorem stored_origin {r : ρ} (hnew : Coherent new) (hempty : new.store = {})
    (h : (new.run es).store.find? key = some r) :
    (∃ l, Produced new es l key (.report r)) ∨ .put key r ∈ es := by
  induction es using List.reverseRecOn with
  | nil =>
    rw [show new.run [] = new from rfl, hempty] at h
    cases h
  | append_singleton es e ih =>
    have m := move_step (new.run es) e
    rw [← run_concat] at m
    rcases m.stored_origin (hnew.run es) h with h | rfl | ⟨l, hl, he⟩
    · exact (ih h).imp (fun ⟨l, hl⟩ => ⟨l, hl.concat e⟩) fun hp => List.mem_append_left _ hp
    · exact Or.inr (by simp)
    · exact Or.inl ⟨l, es, e, [], rfl, hl, he⟩

end Flights

end CodeSurvey
