/-
  The store holds what was touched last.

  * `latest`: the last `n` distinct members of a list, in the order of their last
    appearance; `latest_concat`: what one more member does to them;
  * `Touch`, `lastEntered?`: the uses and entries of keys, and what was entered last
    under a key;
  * `Recency.Recalls`: a store that holds the latest keys, each with its last entry;
    `Recency.Recalls.put`, `Recency.Recalls.touch`: one more entry or use keeps it so;
  * `Flights.touched`, `Flights.touchesSinceClear`: what the steps of a run touch;
  * `Flights.least_recently_used`: after every run of a new store, it holds the keys
    touched last, each with its last entry.
-/
import CodeSurvey.Cache.Session
import CodeSurvey.Proofs.Cache.History
import CodeSurvey.Proofs.Distinct

namespace CodeSurvey

/-! ## The last distinct members of a list -/

section
variable {α : Type} [DecidableEq α]

/-- The last `n` distinct members of a list, in the order of their last appearance. -/
def latest (n : Nat) (l : List α) : List α :=
  ((distinct l.reverse).take n).reverse

/-- The first `n` members other than `a` are found among the first `n + 1` members, if none of them
    is repeated. -/
theorem take_filter_take {l : List α} (h : l.Nodup) (a : α) (n : Nat) :
    ((l.take (n + 1)).filter (· ≠ a)).take n = (l.filter (· ≠ a)).take n := by
  induction l generalizing n with
  | nil => rfl
  | cons b l ih =>
    obtain ⟨hb, hl⟩ := List.nodup_cons.1 h
    rw [List.take_succ_cons]
    by_cases hba : b = a
    · subst hba
      have hall : ∀ c ∈ l, decide (c ≠ b) = true := by
        intro c hc
        refine decide_eq_true ?_
        rintro rfl
        exact hb hc
      have hsome : ∀ c ∈ l.take n, decide (c ≠ b) = true :=
        fun c hc => hall c (List.mem_of_mem_take hc)
      rw [List.filter_cons_of_neg (by simp), List.filter_cons_of_neg (by simp),
        List.filter_eq_self.2 hall, List.filter_eq_self.2 hsome, List.take_take, Nat.min_self]
    · rw [List.filter_cons_of_pos (by simpa using hba), List.filter_cons_of_pos (by simpa using hba)]
      cases n with
      | zero => rfl
      | succ n => rw [List.take_succ_cons, List.take_succ_cons, ih hl n]

omit [DecidableEq α] in
/-- The end of a list is the start of its reverse. -/
theorem drop_length_sub (l : List α) (n : Nat) : l.drop (l.length - n) = (l.reverse.take n).reverse := by
  rw [List.take_reverse, List.reverse_reverse]

/-- **One more member comes last, and makes room for itself.** -/
theorem latest_concat {n : Nat} (hn : 0 < n) (l : List α) (a : α) :
    latest n (l ++ [a]) =
      let moved := (latest n l).filter (· ≠ a) ++ [a]
      moved.drop (moved.length - n) := by
  obtain ⟨n, rfl⟩ : ∃ m, n = m + 1 := ⟨n - 1, by omega⟩
  simp only [drop_length_sub, latest, List.reverse_append, List.reverse_cons, List.reverse_nil,
    List.nil_append, List.cons_append, distinct, List.take_succ_cons, List.filter_reverse,
    List.reverse_reverse, take_filter_take (nodup_distinct _)]

end

/-! ## Touches -/

/-- A key is touched: a result stored under it is used, or one is entered. -/
inductive Touch (κ ρ : Type) where
  | use (key : κ)
  | entry (key : κ) (r : ρ)
  deriving DecidableEq, Repr

namespace Touch

variable {κ ρ : Type}

/-- The key that is touched. -/
def key : Touch κ ρ → κ
  | .use key | .entry key _ => key

/-- What is entered under a key. -/
def entered? [DecidableEq κ] (key : κ) : Touch κ ρ → Option ρ
  | .use _ => none
  | .entry k r => if k = key then some r else none

theorem entered?_of_ne [DecidableEq κ] {t : Touch κ ρ} {key : κ} (h : t.key ≠ key) :
    t.entered? key = none := by
  cases t with
  | use => rfl
  | entry k r => exact if_neg h

end Touch

variable {κ ρ : Type} [DecidableEq κ]

/-- What was entered last under a key. -/
def lastEntered? (touches : List (Touch κ ρ)) (key : κ) : Option ρ :=
  touches.reverse.findSome? (Touch.entered? key)

theorem lastEntered?_concat (touches : List (Touch κ ρ)) (t : Touch κ ρ) (key : κ) :
    lastEntered? (touches ++ [t]) key = (t.entered? key).or (lastEntered? touches key) := by
  unfold lastEntered?
  rw [List.reverse_append, List.reverse_singleton, List.singleton_append, List.findSome?_cons]
  cases t.entered? key <;> rfl

namespace Recency

variable {s : Recency κ ρ} {capacity : Nat} {touches : List (Touch κ ρ)} {key : κ} {r : ρ}

theorem keys_put (capacity : Nat) (s : Recency κ ρ) (key : κ) (r : ρ) :
    (s.put capacity key r).keys =
      let moved := s.keys.filter (· ≠ key) ++ [key]
      moved.drop (moved.length - capacity) := by
  have hm : (s.without key ++ [(key, r)]).map Prod.fst = s.keys.filter (· ≠ key) ++ [key] := by
    rw [List.map_append, map_fst_without]
    rfl
  simp only [put, keys, List.map_drop, ← List.length_map (f := Prod.fst)]
  rw [hm]
  rfl

/-- A stored result that is used is entered anew. -/
theorem touch_eq_put (h : s.keys.Nodup) (hs : s.size ≤ capacity) (hf : s.find? key = some r) :
    s.touch key = s.put capacity key r := by
  have ht : s.touch key = ⟨s.without key ++ [(key, r)]⟩ := by
    unfold touch
    rw [hf]
  have hsize : (s.without key ++ [(key, r)]).length = s.size := by
    rw [← size_touch h key, ht]
    rfl
  rw [ht, put, hsize, Nat.sub_eq_zero_of_le hs, List.drop_zero]

theorem touch_of_find?_eq_none (hf : s.find? key = none) : s.touch key = s := by
  unfold touch
  rw [hf]

theorem isSome_find?_iff : (s.find? key).isSome = true ↔ key ∈ s.keys := by
  rw [Option.isSome_iff_ne_none, ne_eq, find?_eq_none_iff, Classical.not_not]

/-- A store that holds the keys touched last, each with what was entered last under it. -/
structure Recalls (capacity : Nat) (touches : List (Touch κ ρ)) (s : Recency κ ρ) : Prop where
  keys : s.keys = latest capacity (touches.map Touch.key)
  values : ∀ key r, s.find? key = some r → lastEntered? touches key = some r

theorem recalls_nil (capacity : Nat) : ({} : Recency κ ρ).Recalls capacity [] where
  keys := by simp [Recency.keys, latest, distinct]
  values key r h := by cases h

theorem Recalls.nodup (h : s.Recalls capacity touches) : s.keys.Nodup := by
  rw [h.keys, latest, List.nodup_reverse]
  exact (nodup_distinct _).sublist (List.take_sublist _ _)

theorem Recalls.size_le (h : s.Recalls capacity touches) : s.size ≤ capacity := by
  rw [size_eq_length_keys, h.keys, latest, List.length_reverse]
  exact List.length_take_le _ _

/-- A touched key moves to the end, with its last entry. -/
theorem Recalls.concat (h : s.Recalls capacity touches) (hc : 0 < capacity) {t : Touch κ ρ}
    (hr : lastEntered? (touches ++ [t]) t.key = some r) :
    (s.put capacity t.key r).Recalls capacity (touches ++ [t]) where
  keys := by
    rw [keys_put, h.keys, List.map_append, List.map_singleton, latest_concat hc]
  values k v hv := by
    by_cases hk : k = t.key
    · subst hk
      rw [find?_put_self h.nodup hc] at hv
      exact hr.trans hv
    · rcases find?_of_find?_put h.nodup hv with hv | ⟨hk', -⟩
      · rw [lastEntered?_concat, Touch.entered?_of_ne (Ne.symm hk)]
        exact h.values k v hv
      · exact absurd hk' hk

/-- **A new entry leaves the keys touched last.** -/
theorem Recalls.put (h : s.Recalls capacity touches) (hc : 0 < capacity) (key : κ) (r : ρ) :
    (s.put capacity key r).Recalls capacity (touches ++ [.entry key r]) := by
  refine h.concat hc ?_
  rw [lastEntered?_concat, Touch.entered?, Touch.key, if_pos rfl]
  rfl

/-- **A use of a stored key leaves the keys touched last.** -/
theorem Recalls.touch (h : s.Recalls capacity touches) (hc : 0 < capacity)
    (hf : s.find? key = some r) : (s.touch key).Recalls capacity (touches ++ [.use key]) := by
  rw [touch_eq_put h.nodup h.size_le hf]
  refine h.concat hc ?_
  rw [lastEntered?_concat]
  exact h.values key r hf

end Recency

/-! ## What the steps of a run touch -/

namespace Flights

variable {ε : Type} {f f' : Flights κ ρ ε} {e : Event κ ρ ε} {touches : List (Touch κ ρ)}

/-- What a step touches: a lookup or a direct use touches a key that is stored; a direct entry and the
    end of a computation with a result touch the key that it is entered under. -/
def touched (f : Flights κ ρ ε) : Event κ ρ ε → List (Touch κ ρ)
  | .lookup key | .get key => if key ∈ f.store.keys then [.use key] else []
  | .put key r => [.entry key r]
  | .finish caller (.report r) =>
    match f.calls[caller]? with
    | some ⟨key, .computing⟩ => [.entry key r]
    | _ => []
  | .finish .. | .cancel _ | .clear => []

/-- All touches since the store was last emptied, the first one first; if it never was, those of all
    steps after the given ones. -/
def touchesSinceClear : Flights κ ρ ε → List (Touch κ ρ) → List (Event κ ρ ε) → List (Touch κ ρ)
  | _, touches, [] => touches
  | f, _, .clear :: es => touchesSinceClear (f.step .clear) [] es
  | f, touches, e :: es => touchesSinceClear (f.step e) (touches ++ f.touched e) es

theorem touchesSinceClear_cons (he : e ≠ .clear) (f : Flights κ ρ ε) (touches : List (Touch κ ρ))
    (es : List (Event κ ρ ε)) :
    touchesSinceClear f touches (e :: es) =
      touchesSinceClear (f.step e) (touches ++ f.touched e) es := by
  cases e with
  | clear => exact absurd rfl he
  | _ => rfl

theorem touched_of_find?_eq_none {key : κ} (h : f.store.find? key = none) :
    f.touched (.lookup key) = [] :=
  if_neg (Recency.find?_eq_none_iff.1 h)

theorem touched_of_find? {key : κ} {r : ρ} (h : f.store.find? key = some r) :
    f.touched (.lookup key) = [.use key] :=
  if_pos (Recency.mem_keys_of_find? h)

theorem touched_finish {l : Nat} {key : κ} (h : f.Computes l key) (r : ρ) :
    f.touched (.finish l (.report r)) = [.entry key r] := by
  simp only [touched]
  rw [show f.calls[l]? = _ from h]

theorem touched_finish_of_not_computes {l : Nat} (h : ∀ key, ¬ f.Computes l key) (o : Outcome ρ ε) :
    f.touched (.finish l o) = [] := by
  cases o with
  | report r =>
    simp only [touched]
    split
    · rename_i key hl
      exact absurd hl (h key)
    · rfl
  | failure | cancelled => rfl

theorem recalls_touch {capacity : Nat} (h : f.store.Recalls capacity touches) (hc : 0 < capacity)
    (key : κ) : (f.store.touch key).Recalls capacity (touches ++ f.touched (.lookup key)) := by
  cases hf : f.store.find? key with
  | none =>
    rw [touched_of_find?_eq_none hf, List.append_nil, Recency.touch_of_find?_eq_none hf]
    exact h
  | some r =>
    rw [touched_of_find? hf]
    exact h.touch hc hf

/-- **A step that does not empty the store leaves the keys touched last.** -/
theorem Move.recalls (m : Move f e f') (he : e ≠ .clear) (hc : 0 < f.capacity)
    (h : f.store.Recalls f.capacity touches) :
    f'.store.Recalls f.capacity (touches ++ f.touched e) := by
  have same (ht : f.touched e = []) : f.store.Recalls f.capacity (touches ++ f.touched e) := by
    rw [ht, List.append_nil]
    exact h
  cases m with
  | answered | used => exact recalls_touch h hc _
  | joined hr | started hr => exact same (touched_of_find?_eq_none hr)
  | @ended _ l key o hl hends =>
    cases o with
    | report r =>
      obtain rfl : e = .finish l (.report r) := hends.resolve_right fun hx => nomatch hx.2
      rw [touched_finish hl]
      exact h.put hc key r
    | failure | cancelled =>
      refine same ?_
      rcases hends with rfl | ⟨rfl, -⟩ <;> rfl
  | late hl => exact same (touched_finish_of_not_computes hl _)
  | left | spared => exact same rfl
  | stored => exact h.put hc _ _
  | cleared => exact absurd rfl he

/-- **After every run the store holds the keys touched last.** -/
theorem recalls_run (hc : 0 < f.capacity) (h : f.store.Recalls f.capacity touches)
    (es : List (Event κ ρ ε)) :
    (f.run es).store.Recalls f.capacity (touchesSinceClear f touches es) := by
  induction es generalizing f touches with
  | nil => exact h
  | cons e es ih =>
    have hcap : (f.step e).capacity = f.capacity := (move_step f e).capacity
    have hrun : f.run (e :: es) = (f.step e).run es := rfl
    rw [hrun, ← hcap]
    rw [← hcap] at hc
    by_cases he : e = .clear
    · subst he
      exact ih hc (Recency.recalls_nil _)
    · rw [touchesSinceClear_cons he]
      refine ih hc ?_
      rw [hcap]
      exact (move_step f e).recalls he (hcap ▸ hc) h

/-- **The store is least recently used.**  After every run of a new store, it holds, the one touched
    longest ago first, the last keys touched since it was last emptied, as many different ones as
    it has room for, each with what was entered last under it.  A direct use of a key that is not
    stored changes nothing, and neither does the question whether a key is stored. -/
theorem least_recently_used {capacity : Int} (h : 1 ≤ capacity) :
    ∃ new : Flights κ ρ ε, create capacity = .ok new ∧
      (∀ es : List (Event κ ρ ε),
        let f := new.run es
        let touches := touchesSinceClear new [] es
        f.store.keys = latest capacity.toNat (touches.map Touch.key) ∧
        (∀ key ∈ f.store.keys, ∃ r, f.store.find? key = some r ∧ lastEntered? touches key = some r) ∧
        ∀ key ∉ f.store.keys, f.step (.get key) = f) ∧
      ∀ (s : Session) (key : Text),
        s.perform (.contains key) = (s, .truth (decide (key ∈ s.cache.store.keys)), []) := by
  refine ⟨_, create_eq h, fun es => ?_, fun s key => ?_⟩
  · have hr := recalls_run (f := ({ capacity := capacity.toNat } : Flights κ ρ ε))
      (Int.lt_toNat.2 h) (Recency.recalls_nil _) es
    refine ⟨hr.keys, fun key hk => ?_, fun key hk => ?_⟩
    · obtain ⟨r, hf⟩ := Option.ne_none_iff_exists'.1 fun hn => Recency.find?_eq_none_iff.1 hn hk
      exact ⟨r, hf, hr.values key r hf⟩
    · rw [step, get, Recency.touch_of_find?_eq_none (Recency.find?_eq_none_iff.2 hk)]
  · have hk : (s.cache.store.find? key).isSome = decide (key ∈ s.cache.store.keys) := by
      rw [Bool.eq_iff_iff, Recency.isSome_find?_iff, decide_eq_true_iff]
    rw [Session.perform, hk]

/-- Two keys have room: one is used and another entered, one is entered anew, one is forgotten and not
    found, and a computation enters a fourth. -/
theorem least_recently_used_four :
    (1 : Int) ≤ 2 ∧ ∃ new : Flights Nat Nat Nat, create 2 = .ok new ∧
      let es := [.put 1 10, .put 2 20, .get 1, .put 3 30, .get 2, .put 1 11, .lookup 4, .lookup 3,
        .finish 0 (.report 40)]
      (new.run es).store.keys = [3, 4] ∧
      (∃ r, (new.run es).store.find? 3 = some r ∧ lastEntered? (touchesSinceClear new [] es) 3 = some r) ∧
      (new.run es).step (.get 1) = new.run es := by
  obtain ⟨new, hnew, h, -⟩ : ∃ new : Flights Nat Nat Nat, _ :=
    least_recently_used (by decide : (1 : Int) ≤ 2)
  refine ⟨by decide, new, hnew, ?_⟩
  obtain rfl := Except.ok.inj ((create_eq (by decide)).symm.trans hnew)
  obtain ⟨keys, values, missed⟩ := h [.put 1 10, .put 2 20, .get 1, .put 3 30, .get 2, .put 1 11, .lookup 4,
    .lookup 3, .finish 0 (.report 40)]
  exact ⟨keys.trans (by decide), values 3 (by decide), missed 1 (by decide)⟩

end Flights

end CodeSurvey
