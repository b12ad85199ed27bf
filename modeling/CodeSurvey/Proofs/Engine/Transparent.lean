/-
  An engine with a cache answers as one without.

  * `Engine.Service`: an engine in use, with the calls that have started;
    `Engine.Service.step`: a call starts, the report that a call has to build is built,
    or the cache is emptied, in any order;
  * `Engine.Service.result?`: what a call has ended with;
  * `Engine.batch_eq_run`: a batch of calls is one order of these steps;
  * `Engine.Event.flight?`, `Engine.tracks_run`: the steps that the cache takes meanwhile;
  * `Engine.produced_report`: every computation of a key produces the report of a call
    with that key;
  * `Engine.caching_transparent`: each call ends with the report of its own source.
-/
import CodeSurvey.Engine
import CodeSurvey.Proofs.Cache.Outcome
import CodeSurvey.Proofs.Fingerprint

namespace CodeSurvey

/-! ## The keys of the callers -/

namespace Flights

variable {κ ρ ε : Type} {f f' : Flights κ ρ ε} {e : Event κ ρ ε}

/-- The keys that a step looks up. -/
def Event.sought : Event κ ρ ε → List κ
  | .lookup key => [key]
  | _ => []

theorem settle_key (l : Nat) (o : Outcome ρ ε) (n : Nat) (c : Call κ ρ ε) :
    (settle l o n c).key = c.key := by
  by_cases h : n = l ∨ c.state = .waiting l
  · rw [settle_joined h]
  · rw [not_or] at h
    rw [settle_other h.1 h.2]

variable [DecidableEq κ]

/-- Callers keep their keys, and a lookup brings one more. -/
theorem Move.keys (m : Move f e f') :
    f'.calls.map Call.key = f.calls.map Call.key ++ e.sought := by
  cases m with
  | answered | joined | started => simp [Event.sought]
  | @ended _ l key o hl he =>
    have hsought : e.sought = [] := by rcases he with rfl | ⟨rfl, -⟩ <;> rfl
    rw [hsought, List.append_nil]
    refine List.ext_getElem? fun n => ?_
    simp only [landed, List.getElem?_map, List.getElem?_mapIdx, Option.map_map]
    exact Option.map_congr fun c _ => settle_key l o n c
  | @left n key l hn =>
    refine (List.ext_getElem? fun m => ?_).trans (List.append_nil _).symm
    rw [List.getElem?_map, List.getElem?_map, List.getElem?_set]
    split
    · rename_i hnm
      subst hnm
      rw [if_pos (List.getElem?_eq_some_iff.1 hn).1, show f.calls[n]? = _ from hn]
      rfl
    · rfl
  | late | spared | used | stored | cleared => simp [Event.sought]

end Flights

namespace Engine

/-! ## An engine in use -/

/-- What happens to an engine in use. -/
inductive Event where
  /-- The report of a source is asked for. -/
  | call (source language : Text)
  /-- The report that the call with this number has to build is built. -/
  | build (number : Nat)
  | clear

/-- An engine with all calls so far; a call's number is its position. -/
structure Service where
  engine : Engine
  started : List Started := []

namespace Service

/-- The engine and its calls after a step. -/
def step (s : Service) : Event → Service
  | .call source language =>
    let started := s.engine.start ⟨.text source, .text language⟩
    ⟨started.1, s.started ++ [started.2]⟩
  | .build number =>
    match s.started[number]? with
    | some call => { s with engine := s.engine.complete call }
    | none => s
  | .clear => { s with engine := { s.engine with cache := s.engine.cache.map Flights.clear } }

/-- The engine and its calls after some steps. -/
def run (s : Service) (es : List Event) : Service :=
  es.foldl step s

/-- What a call has ended with, if it has. -/
def result? (s : Service) (number : Nat) : Option Response :=
  match s.started[number]? with
  | some (.called caller _ _) =>
    match s.engine.cache.bind fun cache => cache.stateOf? caller with
    | some (.done (.report r)) => some (.ok r)
    | _ => none
  | some call => some (s.engine.response call)
  | none => none

/-- What a call has ended with is the engine's response to it. -/
theorem response_of_result? {s : Service} {number : Nat} {response : Response}
    (h : s.result? number = some response) :
    ∃ call, s.started[number]? = some call ∧ s.engine.response call = response := by
  unfold result? at h
  split at h
  · rename_i hcall
    refine ⟨_, hcall, ?_⟩
    split at h
    · rename_i hdone
      simp only [Engine.response, hdone]
      exact Option.some.inj h
    · cases h
  · rename_i hcall
    exact ⟨_, hcall, Option.some.inj h⟩
  · cases h

theorem run_append (s : Service) (es es' : List Event) :
    s.run (es ++ es') = (s.run es).run es' := by
  simp [run]

end Service

/-! ## A batch -/

/-- The request of a source and its language. -/
def requestOf (c : Text × Text) : Request :=
  ⟨.text c.1, .text c.2⟩

theorem run_calls (e : Engine) (started : List Started) (cs : List (Text × Text)) :
    Service.run ⟨e, started⟩ (cs.map fun c => .call c.1 c.2) =
      ⟨(e.startAll (cs.map requestOf)).1, started ++ (e.startAll (cs.map requestOf)).2⟩ := by
  induction cs generalizing e started with
  | nil => simp [Service.run, startAll]
  | cons c cs ih =>
    have hrun : Service.run ⟨e, started⟩ ((c :: cs).map fun c => .call c.1 c.2) =
        Service.run ⟨(e.start (requestOf c)).1, started ++ [(e.start (requestOf c)).2]⟩
          (cs.map fun c => .call c.1 c.2) := rfl
    rw [hrun, ih, List.append_assoc]
    rfl

theorem run_builds (e : Engine) (before l : List Started) :
    Service.run ⟨e, before ++ l⟩ ((List.range' before.length l.length).map .build) =
      ⟨l.foldl complete e, before ++ l⟩ := by
  induction l generalizing e before with
  | nil => rfl
  | cons call l ih =>
    have hstep : Service.step ⟨e, before ++ call :: l⟩ (.build before.length) =
        ⟨e.complete call, (before ++ [call]) ++ l⟩ := by
      simp [Service.step]
    have hrun := ih (e.complete call) (before ++ [call])
    rw [List.length_append, List.length_singleton] at hrun
    rw [List.length_cons, List.range'_succ, List.map_cons, Service.run, List.foldl_cons, hstep]
    refine hrun.trans ?_
    simp

theorem length_startAll (e : Engine) (rs : List Request) : (e.startAll rs).2.length = rs.length := by
  induction rs generalizing e with
  | nil => rfl
  | cons r rs ih => exact congrArg (· + 1) (ih _)

/-- **A batch is one order of the steps**: all calls start, and then they build, one after the other. -/
theorem batch_eq_run (e : Engine) (cs : List (Text × Text)) :
    let s := Service.run ⟨e, []⟩
      (cs.map (fun c => .call c.1 c.2) ++ (List.range' 0 cs.length).map .build)
    e.batch (cs.map requestOf) = (s.engine, s.started.map s.engine.response) := by
  have hbuilds := run_builds (e.startAll (cs.map requestOf)).1 [] (e.startAll (cs.map requestOf)).2
  rw [length_startAll, List.length_map, List.length_nil, List.nil_append] at hbuilds
  rw [Service.run_append, run_calls, List.nil_append]
  intro s
  have hs : s = ⟨(e.startAll (cs.map requestOf)).2.foldl complete (e.startAll (cs.map requestOf)).1,
    (e.startAll (cs.map requestOf)).2⟩ := hbuilds
  rw [hs]
  rfl

/-! ## The calls of a run -/

/-- The calls among some steps, each with its source and its language. -/
def calls (es : List Event) : List (Text × Text) :=
  es.filterMap fun
    | .call source language => some (source, language)
    | _ => none

/-- The key of a call. -/
def keyOf (c : Text × Text) : Text :=
  Fingerprint.key c.2 c.1

/-! ## The steps of the cache -/

variable {e : Engine} {all asked : List (Text × Text)} {f new : ReportCache} {s : Service} {n : Nat}

/-- The step of the cache in a step of the engine, when `all` are the calls of a run. -/
def Event.flight? (e : Engine) (all : List (Text × Text)) : Event → Option (Flights.Event Text Report Empty)
  | .call source language => some (.lookup (keyOf (source, language)))
  | .build number => all[number]?.map fun c => .finish number (.report (e.report c.1 c.2))
  | .clear => some .clear

/-- The engine holds the cache `f`, and its calls are the callers of the cache. -/
structure Tracks (e : Engine) (asked : List (Text × Text)) (f : ReportCache) (s : Service) : Prop where
  parser : s.engine.parser = e.parser
  config : s.engine.config = e.config
  cache : s.engine.cache = some f
  started : s.started = asked.mapIdx fun n c => .called n c.1 c.2
  keys : f.calls.map Call.key = asked.map keyOf

namespace Tracks

theorem length (h : Tracks e asked f s) : f.calls.length = asked.length := by
  simpa using congrArg List.length h.keys

theorem report (h : Tracks e asked f s) (source language : Text) :
    s.engine.report source language = e.report source language := by
  rw [Engine.report, Engine.report, h.parser, h.config]

theorem started_get (h : Tracks e asked f s) (n : Nat) :
    s.started[n]? = asked[n]?.map fun c => .called n c.1 c.2 := by
  rw [h.started, List.getElem?_mapIdx]

theorem key_eq (h : Tracks e asked f s) {key : Text} {st : CallState Report Empty} {c : Text × Text}
    (hn : f.calls[n]? = some ⟨key, st⟩) (hc : asked[n]? = some c) : key = keyOf c := by
  have hk := congrArg (fun l => l[n]?) h.keys
  simpa [hn, hc] using hk

/-- A build is the end of a computation, and nothing if there is none. -/
theorem complete (h : Tracks e asked f s) (n : Nat) (source language : Text) :
    (s.engine.complete (.called n source language)).cache =
        some (f.finish n (.report (e.report source language))) ∧
      (s.engine.complete (.called n source language)).parser = e.parser ∧
      (s.engine.complete (.called n source language)).config = e.config := by
  unfold Engine.complete
  simp only [h.cache]
  split
  · exact ⟨by rw [h.report], h.parser, h.config⟩
  · rename_i hn
    refine ⟨?_, h.parser, h.config⟩
    rw [h.cache, Flights.finish_of_not_computes]
    intro key hk
    exact hn (Flights.stateOf?_of_calls hk)

theorem call (h : Tracks e asked f s) (source language : Text) :
    Tracks e (asked ++ [(source, language)]) (f.lookup (keyOf (source, language)))
      (s.step (.call source language)) := by
  have hstart : s.engine.start ⟨.text source, .text language⟩ =
      ({ s.engine with cache := some (f.lookup (keyOf (source, language))) },
        .called f.calls.length source language) := by
    simp only [Engine.start, Report.arguments?, h.cache]
    rfl
  refine ⟨?_, ?_, ?_, ?_, ?_⟩
  · rw [Service.step, hstart]
    exact h.parser
  · rw [Service.step, hstart]
    exact h.config
  · rw [Service.step, hstart]
  · rw [Service.step, hstart, h.started, h.length, List.mapIdx_append]
    simp
  · rw [(Flights.move_lookup f _).keys, h.keys, List.map_append]
    rfl

theorem build (h : Tracks e asked f s) (n : Nat) (hall : asked <+: all) :
    Tracks e asked (f.run ((Event.build n).flight? e all).toList) (s.step (.build n)) := by
  obtain ⟨rest, rfl⟩ := hall
  have hget := h.started_get n
  rw [Service.step]
  cases hn : asked[n]? with
  | none =>
    -- the call comes later in the run, if at all, so that nobody computes for it yet
    rw [hn] at hget
    have hlen : f.calls.length ≤ n := h.length ▸ List.getElem?_eq_none_iff.1 hn
    have hc : ∀ key, ¬ f.Computes n key := fun key hk =>
      absurd (List.getElem?_eq_some_iff.1 hk).1 (by omega)
    have hf : f.run ((Event.build n).flight? e (asked ++ rest)).toList = f := by
      rw [Event.flight?]
      cases (asked ++ rest)[n]? with
      | none => rfl
      | some c => exact Flights.finish_of_not_computes hc _
    rw [hf, hget]
    exact h
  | some c =>
    rw [hn] at hget
    have hlt : n < asked.length := (List.getElem?_eq_some_iff.1 hn).1
    have hc := h.complete n c.1 c.2
    rw [Event.flight?, List.getElem?_append_left hlt, hn, hget]
    refine ⟨hc.2.1, hc.2.2, hc.1, h.started, ?_⟩
    have hkeys := (Flights.move_finish f n (.report (e.report c.1 c.2))).keys
    exact (hkeys.trans (List.append_nil _)).trans h.keys

theorem clear (h : Tracks e asked f s) : Tracks e asked f.clear (s.step .clear) where
  parser := h.parser
  config := h.config
  cache := by
    rw [Service.step, h.cache]
    rfl
  started := h.started
  keys := h.keys

/-- **A step of the engine is a step of its cache.** -/
theorem step (h : Tracks e asked f s) (ev : Event) (hall : asked ++ calls [ev] <+: all) :
    Tracks e (asked ++ calls [ev]) (f.run (ev.flight? e all).toList) (s.step ev) := by
  cases ev with
  | call source language => exact h.call source language
  | build n =>
    have hnone : asked ++ calls [.build n] = asked := List.append_nil _
    rw [hnone] at hall ⊢
    exact h.build n hall
  | clear =>
    have hnone : asked ++ calls [.clear] = asked := List.append_nil _
    rw [hnone]
    exact h.clear

end Tracks

/-- **The cache of an engine in use is in the state that its own steps lead to.** -/
theorem tracks_run (h : Tracks e [] new s) (es : List Event) (hall : calls es <+: all) :
    Tracks e (calls es) (new.run (es.filterMap (Event.flight? e all))) (s.run es) := by
  induction es using List.reverseRecOn with
  | nil => exact h
  | append_singleton es ev ih =>
    have hcalls : calls (es ++ [ev]) = calls es ++ calls [ev] := List.filterMap_append
    rw [hcalls] at hall ⊢
    have hflight : (es ++ [ev]).filterMap (Event.flight? e all) =
        es.filterMap (Event.flight? e all) ++ (ev.flight? e all).toList := by
      rw [List.filterMap_append, List.filterMap_cons]
      cases ev.flight? e all <;> rfl
    rw [hflight, Flights.run_append, Service.run_append]
    exact (ih ((List.prefix_append _ _).trans hall)).step ev hall

/-! ## What the cache holds and hands out -/

/-- The cache takes the steps that the engine's steps come to and no others. -/
theorem mem_flights {es : List Event} {x : Flights.Event Text Report Empty}
    (hx : x ∈ es.filterMap (Event.flight? e all)) :
    (∃ key, x = .lookup key) ∨
      (∃ n c, all[n]? = some c ∧ x = .finish n (.report (e.report c.1 c.2))) ∨ x = .clear := by
  obtain ⟨ev, -, hev⟩ := List.mem_filterMap.1 hx
  cases ev with
  | call source language => exact Or.inl ⟨_, (Option.some.inj hev).symm⟩
  | build n =>
    obtain ⟨c, hc, hx⟩ := Option.map_eq_some_iff.1 hev
    exact Or.inr (Or.inl ⟨n, c, hc, hx.symm⟩)
  | clear => exact Or.inr (Or.inr (Option.some.inj hev).symm)

variable {es : List Event} {l : Nat} {key : Text} {o : Outcome Report Empty} {c : Text × Text}

/-- **Every computation of a key produces the report of a call with that key.** -/
theorem produced_report (h : Tracks e all (new.run (es.filterMap (Event.flight? e all))) s)
    (hp : Flights.Produced new (es.filterMap (Event.flight? e all)) l key o) :
    ∃ c ∈ all, key = keyOf c ∧ o = .report (e.report c.1 c.2) := by
  have hkey {c : Text × Text} (hc : all[l]? = some c) : key = keyOf c := h.key_eq hp.done hc
  obtain ⟨before, x, after, hes, -, hx⟩ := hp
  have hmem : x ∈ es.filterMap (Event.flight? e all) := by simp [hes]
  rcases mem_flights hmem with ⟨k, rfl⟩ | ⟨n, c, hc, rfl⟩ | rfl
  · rcases hx with hx | ⟨hx, -⟩ <;> cases hx
  · rcases hx with hx | ⟨hx, -⟩
    · cases hx
      exact ⟨c, List.mem_of_getElem? hc, hkey hc, rfl⟩
    · cases hx
  · rcases hx with hx | ⟨hx, -⟩ <;> cases hx

/-- Calls with the same key are the same call. -/
def ToldApart (all : List (Text × Text)) : Prop :=
  ∀ c ∈ all, ∀ d ∈ all, keyOf c = keyOf d → c = d

/-- **A caller that ends, ends with the report of its own call.** -/
theorem done_report (htold : ToldApart all) (hnew : new.Coherent) (hcalls : new.calls = [])
    (hstore : new.store = {})
    (h : Tracks e all (new.run (es.filterMap (Event.flight? e all))) s)
    (hc : all[n]? = some c)
    (hd : (new.run (es.filterMap (Event.flight? e all))).Done n key o) :
    o = .report (e.report c.1 c.2) := by
  have hkey : key = keyOf c := h.key_eq hd hc
  have own {l : Nat} {o : Outcome Report Empty}
      (hp : Flights.Produced new (es.filterMap (Event.flight? e all)) l key o) :
      o = .report (e.report c.1 c.2) := by
    obtain ⟨d, hd, hk, rfl⟩ := produced_report h hp
    rw [htold c (List.mem_of_getElem? hc) d hd (hkey.symm.trans hk)]
  have hcancel : ¬ Flights.Cancelled new (es.filterMap (Event.flight? e all)) n := by
    refine Flights.not_cancelled fun hm => ?_
    rcases mem_flights hm with ⟨_, hx⟩ | ⟨_, _, _, hx⟩ | hx <;> cases hx
  rcases Flights.done_origin hnew hcalls hstore hd hcancel with ⟨l, -, hp⟩ | ⟨r, rfl, ⟨l, hp⟩ | hm⟩
  · exact own hp
  · exact own hp
  · rcases mem_flights hm with ⟨_, hx⟩ | ⟨_, _, _, hx⟩ | hx <;> cases hx

/-! ## What the calls end with -/

namespace Tracks

theorem result?_eq_some_iff (h : Tracks e asked f s) (hc : asked[n]? = some c) {response : Response} :
    s.result? n = some response ↔ ∃ key r, f.Done n key (.report r) ∧ response = .ok r := by
  have hget : s.started[n]? = some (.called n c.1 c.2) := by
    rw [h.started_get, hc]
    rfl
  unfold Service.result?
  simp only [hget, h.cache, Option.bind_some]
  constructor
  · intro hs
    split at hs
    · rename_i r hr
      obtain ⟨⟨key, st⟩, hn, rfl⟩ := Option.map_eq_some_iff.1 hr
      exact ⟨key, r, hn, (Option.some.inj hs).symm⟩
    · cases hs
  · rintro ⟨key, r, hd, rfl⟩
    rw [Flights.stateOf?_of_calls hd]

/-- Every call has a caller, under its key. -/
theorem exists_call (h : Tracks e asked f s) (hc : asked[n]? = some c) :
    ∃ st, f.calls[n]? = some ⟨keyOf c, st⟩ := by
  have hlt : n < f.calls.length := by
    rw [h.length]
    exact (List.getElem?_eq_some_iff.1 hc).1
  obtain ⟨⟨key, st⟩, hn⟩ : ∃ call, f.calls[n]? = some call := ⟨_, List.getElem?_eq_getElem hlt⟩
  exact ⟨st, h.key_eq hn hc ▸ hn⟩

/-- **A call that has not ended has part in a computation of its own report**, and ends with it. -/
theorem ends_with_build (h : Tracks e all f s) (htold : ToldApart all) (hf : f.Coherent)
    (hc : all[n]? = some c) (hn : s.result? n = none)
    (hreport : ∀ key o, f.Done n key o → ∃ r, o = .report r) :
    ∃ l, (s.engine.cache.bind fun cache => cache.stateOf? l) = some .computing ∧
      (s.step (.build l)).result? n = some (.ok (e.report c.1 c.2)) := by
  obtain ⟨st, hst⟩ := h.exists_call hc
  obtain ⟨l, hal⟩ : ∃ l, f.Aboard n (keyOf c) l := by
    cases st with
    | computing => exact ⟨n, Or.inr ⟨rfl, hst⟩⟩
    | waiting l => exact ⟨l, Or.inl hst⟩
    | done o =>
      obtain ⟨r, rfl⟩ := hreport _ o hst
      rw [(h.result?_eq_some_iff hc).2 ⟨_, r, hst, rfl⟩] at hn
      cases hn
  have hl : f.Computes l (keyOf c) := hal.elim (hf.joined n _ l) And.right
  have hlt : l < all.length := h.length ▸ (List.getElem?_eq_some_iff.1 hl).1
  obtain ⟨d, hd⟩ : ∃ d, all[l]? = some d := ⟨_, List.getElem?_eq_getElem hlt⟩
  have hcd : c = d :=
    htold c (List.mem_of_getElem? hc) d (List.mem_of_getElem? hd) (h.key_eq hl hd)
  refine ⟨l, ?_, ?_⟩
  · rw [h.cache, Option.bind_some, Flights.stateOf?_of_calls hl]
  · have hb := h.build l (List.prefix_refl all)
    rw [Event.flight?, hd, ← hcd] at hb
    refine (hb.result?_eq_some_iff hc).2 ⟨keyOf c, _, ?_, rfl⟩
    have hfinish : f.run ((some c).map fun c => .finish l (.report (e.report c.1 c.2))).toList =
        f.landed l (keyOf c) (.report (e.report c.1 c.2)) := Flights.finish_of_computes hl _
    rw [hfinish]
    exact hal.done_landed _

end Tracks

/-- **An engine with a cache answers as one without.**  Take an engine with a new cache of any size, and
    any calls of texts whose language tags hold no zero and whose bytes do not share their digests,
    in any order with the ends of the computations and with emptying the cache.  At any time, each
    call that has ended has ended with the report of its own source and language; and for each call
    that has not, there is a computation with whose end it will. -/
theorem caching_transparent (parser : Parser) (config : AnalysisConfig) {capacity : Int}
    (h : 1 ≤ capacity) (es : List Event) (htags : ∀ c ∈ calls es, 0 ∉ c.2)
    (hdigests : ∀ c ∈ calls es, ∀ d ∈ calls es,
      Sha256.hex (Fingerprint.bytes c.2 c.1) = Sha256.hex (Fingerprint.bytes d.2 d.1) →
        Fingerprint.bytes c.2 c.1 = Fingerprint.bytes d.2 d.1) :
    ∃ cache : ReportCache, Flights.create capacity = .ok cache ∧
      let s := Service.run { engine := { parser, config, cache := some cache } } es
      ∀ n source language, (calls es)[n]? = some (source, language) →
        let report := (Report.build parser config source language).1
        (∀ response, s.result? n = some response → response = .ok report) ∧
        (s.result? n = none →
          ∃ l, (s.engine.cache.bind fun cache => cache.stateOf? l) = some .computing ∧
            (s.step (.build l)).result? n = some (.ok report)) := by
  refine ⟨_, Flights.create_eq h, fun n source language hn => ?_⟩
  have hnew : ({ capacity := capacity.toNat } : ReportCache).Coherent := Flights.coherent_new _
  have htold : ToldApart (calls es) := by
    intro c hc d hd hk
    obtain ⟨hl, hs⟩ := Fingerprint.key_injective (htags c hc) (htags d hd) (hdigests c hc d hd) hk
    exact Prod.ext hs hl
  have hstart : Tracks { parser, config, cache := some { capacity := capacity.toNat } } []
      { capacity := capacity.toNat }
      { engine := { parser, config, cache := some { capacity := capacity.toNat } } } :=
    ⟨rfl, rfl, rfl, rfl, rfl⟩
  have h := tracks_run hstart es (List.prefix_refl _)
  have hdone {n : Nat} {c : Text × Text} {key : Text} {o : Outcome Report Empty}
      (hc : (calls es)[n]? = some c) (hd : Flights.Done _ n key o) :
      o = .report (Report.build parser config c.1 c.2).1 := done_report htold hnew rfl rfl h hc hd
  refine ⟨fun response hr => ?_, fun hr => ?_⟩
  · obtain ⟨key, r, hd, rfl⟩ := (h.result?_eq_some_iff hn).1 hr
    obtain ⟨rfl⟩ := hdone hn hd
    rfl
  · have hbuild := h.ends_with_build htold (hnew.run _) hn hr fun key o hd => ⟨_, hdone hn hd⟩
    exact hbuild

/-- Two calls share a computation, which ends after the cache was emptied, and the computation of a
    third one goes on. -/
theorem caching_transparent_shared :
    let python := Text.ofString "python"
    let es : List Event := [.call (Text.ofString "x") python, .call (Text.ofString "y") python,
      .call (Text.ofString "x") python, .clear, .build 0]
    (1 : Int) ≤ 1 ∧ (∀ c ∈ calls es, 0 ∉ c.2) ∧
      (∀ c ∈ calls es, ∀ d ∈ calls es,
        Sha256.hex (Fingerprint.bytes c.2 c.1) = Sha256.hex (Fingerprint.bytes d.2 d.1) →
          Fingerprint.bytes c.2 c.1 = Fingerprint.bytes d.2 d.1) ∧
      ∃ cache : ReportCache, Flights.create 1 = .ok cache ∧
        let parser := Parser.tree none true []
        let s := Service.run { engine := { parser, cache := some cache } } es
        s.result? 2 = some (.ok (Report.build parser {} (Text.ofString "x") python).1) ∧
        s.result? 1 = none ∧
        ∃ l, (s.step (.build l)).result? 1 =
          some (.ok (Report.build parser {} (Text.ofString "y") python).1) := by
  intro python es
  have htags : ∀ c ∈ calls es, 0 ∉ c.2 := by decide +kernel
  have hdigests : ∀ c ∈ calls es, ∀ d ∈ calls es,
      Sha256.hex (Fingerprint.bytes c.2 c.1) = Sha256.hex (Fingerprint.bytes d.2 d.1) →
        Fingerprint.bytes c.2 c.1 = Fingerprint.bytes d.2 d.1 := by decide +kernel
  refine ⟨by decide, htags, hdigests, ?_⟩
  obtain ⟨cache, hcache, h⟩ :=
    caching_transparent (Parser.tree none true []) {} (by decide : (1 : Int) ≤ 1) es htags hdigests
  refine ⟨cache, hcache, ?_⟩
  obtain rfl := Except.ok.inj ((Flights.create_eq (by decide)).symm.trans hcache)
  intro parser s
  have hstate : (s.result? 2).isSome = true ∧ (s.result? 1).isNone = true := by decide +kernel
  have hnone : s.result? 1 = none := Option.isNone_iff_eq_none.1 hstate.2
  obtain ⟨response, hresponse⟩ := Option.isSome_iff_exists.1 hstate.1
  obtain rfl := (h 2 (Text.ofString "x") python rfl).1 response hresponse
  obtain ⟨l, -, hl⟩ := (h 1 (Text.ofString "y") python rfl).2 hnone
  exact ⟨hresponse, hnone, l, hl⟩

end Engine

end CodeSurvey
