/-
  Chains of references.

  * `Chain`: a chain of references from one module to another;
  * `Route`: a chain that repeats no module and keeps clear of given ones;
    `route_cons_iff`: its first reference and the rest;
  * `Before`: the order of two chains, by the references at which they part;
    `FirstRoute`: the first of the routes between two modules;
  * `firstRoute_cons_iff`: a first route takes the first reference that leads on at all;
    `exists_firstRoute`: there is a first route if there is any;
  * `Acyclic`, `FirstChain`: without cycles every chain is a route (`route_iff_chain`), and
    the first of them is the first chain (`firstRoute_iff_firstChain`).
-/
import CodeSurvey.Dependency.Walk
import CodeSurvey.Proofs.Distinct

namespace CodeSurvey.Dependency

variable {edges : List DependencyEdge} {avoid : List Text} {a b c x : Text} {p q : List Text}

/-! ## Chains -/

/-- A chain of references from one module over the listed ones, in turn, to the last of them. -/
inductive Chain (edges : List DependencyEdge) : Text → List Text → Text → Prop
  | nil (a : Text) : Chain edges a [] a
  | cons {a b c : Text} {p : List Text} (first : b ∈ targets edges a) (rest : Chain edges b p c) :
      Chain edges a (b :: p) c

theorem mem_targets_iff : b ∈ targets edges a ↔ ∃ e ∈ edges, e.source = a ∧ e.target = b := by
  simp only [targets, mem_distinct, List.mem_map, List.mem_filter, decide_eq_true_eq, and_assoc]

theorem Chain.end_mem (h : Chain edges a p c) : c ∈ a :: p := by
  induction h with
  | nil a => exact List.mem_cons_self
  | cons _ _ ih => exact List.mem_cons_of_mem _ ih

theorem Chain.eq_of_nil (h : Chain edges a [] c) : a = c := by
  cases h
  rfl

/-- Every module of a chain is reached by a part of it. -/
theorem Chain.upTo (h : Chain edges a p c) : ∀ x ∈ p, ∃ q, q ≠ [] ∧ Chain edges a q x := by
  induction h with
  | nil a => exact nofun
  | cons first rest ih =>
    intro x hx
    rcases List.mem_cons.1 hx with rfl | hx
    · exact ⟨[x], List.cons_ne_nil _ _, .cons first (.nil x)⟩
    · obtain ⟨q, -, hq⟩ := ih x hx
      exact ⟨_ :: q, List.cons_ne_nil _ _, .cons first hq⟩

/-- All modules of a chain but the first are referred to. -/
theorem Chain.referred (h : Chain edges a p c) : ∀ x ∈ p, ∃ e ∈ edges, e.target = x := by
  induction h with
  | nil a => exact nofun
  | cons first rest ih =>
    intro x hx
    rcases List.mem_cons.1 hx with rfl | hx
    · obtain ⟨e, he, -, ht⟩ := mem_targets_iff.1 first
      exact ⟨e, he, ht⟩
    · exact ih x hx

/-! ## Routes -/

/-- A chain that repeats no module and keeps clear of the modules in `avoid`. -/
structure Route (edges : List DependencyEdge) (avoid : List Text) (a : Text) (p : List Text)
    (c : Text) : Prop where
  chain : Chain edges a p c
  simple : (a :: p).Nodup
  clear : ∀ x ∈ a :: p, x ∉ avoid

theorem Route.start_clear (h : Route edges avoid a p c) : a ∉ avoid :=
  h.clear a List.mem_cons_self

theorem Route.end_clear (h : Route edges avoid a p c) : c ∉ avoid :=
  h.clear c h.chain.end_mem

theorem route_nil_iff : Route edges avoid a [] c ↔ a = c ∧ a ∉ avoid := by
  constructor
  · intro h
    exact ⟨h.chain.eq_of_nil, h.start_clear⟩
  · rintro ⟨rfl, ha⟩
    exact ⟨.nil a, List.nodup_singleton a, by simpa using ha⟩

/-- A route leads over a reference to a route that keeps clear of where it started. -/
theorem route_cons_iff :
    Route edges avoid a (b :: p) c ↔
      a ∉ avoid ∧ b ∈ targets edges a ∧ Route edges (a :: avoid) b p c := by
  constructor
  · rintro ⟨_ | ⟨first, rest⟩, simple, clear⟩
    obtain ⟨ha, simple⟩ := List.nodup_cons.1 simple
    refine ⟨clear a List.mem_cons_self, first, rest, simple, ?_⟩
    intro x hx hmem
    rcases List.mem_cons.1 hmem with rfl | hmem
    · exact ha hx
    · exact clear x (List.mem_cons_of_mem a hx) hmem
  · rintro ⟨ha, first, rest, simple, clear⟩
    refine ⟨.cons first rest, List.nodup_cons.2 ⟨?_, simple⟩, ?_⟩
    · intro hmem
      exact clear a hmem List.mem_cons_self
    · intro x hx
      rcases List.mem_cons.1 hx with rfl | hx
      · exact ha
      · exact fun hmem => clear x hx (List.mem_cons_of_mem a hmem)

theorem route_self_iff : Route edges avoid a p a ↔ p = [] ∧ a ∉ avoid := by
  constructor
  · intro h
    refine ⟨?_, h.start_clear⟩
    cases p with
    | nil => rfl
    | cons b p => exact absurd List.mem_cons_self (route_cons_iff.1 h).2.2.end_clear
  · rintro ⟨rfl, ha⟩
    exact route_nil_iff.2 ⟨rfl, ha⟩

theorem Route.of_cons (h : Route edges (x :: avoid) a p c) : Route edges avoid a p c :=
  ⟨h.chain, h.simple, fun y hy hmem => h.clear y hy (List.mem_cons_of_mem x hmem)⟩

/-- From every module of a route a route leads on. -/
theorem Route.onward (h : Route edges avoid a p c) (hx : x ∈ a :: p) :
    ∃ q, Route edges avoid x q c := by
  induction p generalizing a avoid with
  | nil =>
    obtain rfl := List.mem_singleton.1 hx
    exact ⟨[], h⟩
  | cons b p ih =>
    rcases List.mem_cons.1 hx with rfl | hx
    · exact ⟨_, h⟩
    · obtain ⟨q, hq⟩ := ih (route_cons_iff.1 h).2.2 hx
      exact ⟨q, hq.of_cons⟩

/-- Where no route leads on from a module, keeping clear of it is no loss. -/
theorem route_cons_avoid_iff (h : ¬ ∃ q, Route edges avoid x q c) :
    Route edges (x :: avoid) a p c ↔ Route edges avoid a p c := by
  refine ⟨Route.of_cons, fun hr => ⟨hr.chain, hr.simple, ?_⟩⟩
  intro y hy hmem
  rcases List.mem_cons.1 hmem with rfl | hmem
  · exact h (hr.onward hy)
  · exact hr.clear y hy hmem

/-! ## The first route -/

/-- One chain from `a` comes before another: where they part, its reference is listed earlier. -/
def Before (edges : List DependencyEdge) : Text → List Text → List Text → Prop
  | a, x :: p, y :: q =>
    (targets edges a).idxOf x < (targets edges a).idxOf y ∨ x = y ∧ Before edges x p q
  | _, _, _ => False

/-- A route that comes before all others with the same ends. -/
structure FirstRoute (edges : List DependencyEdge) (avoid : List Text) (a : Text)
    (p : List Text) (c : Text) : Prop where
  route : Route edges avoid a p c
  first : ∀ q, Route edges avoid a q c → q = p ∨ Before edges a p q

theorem firstRoute_self_iff : FirstRoute edges avoid a p a ↔ p = [] ∧ a ∉ avoid := by
  constructor
  · intro h
    exact route_self_iff.1 h.route
  · rintro ⟨rfl, ha⟩
    exact ⟨route_self_iff.2 ⟨rfl, ha⟩, fun q hq => Or.inl (route_self_iff.1 hq).1⟩

theorem firstRoute_cons_avoid_iff (h : ¬ ∃ q, Route edges avoid x q c) :
    FirstRoute edges (x :: avoid) a p c ↔ FirstRoute edges avoid a p c := by
  constructor
  · rintro ⟨hr, hfirst⟩
    exact ⟨(route_cons_avoid_iff h).1 hr, fun q hq => hfirst q ((route_cons_avoid_iff h).2 hq)⟩
  · rintro ⟨hr, hfirst⟩
    exact ⟨(route_cons_avoid_iff h).2 hr, fun q hq => hfirst q ((route_cons_avoid_iff h).1 hq)⟩

open Classical in
/-- Whether a route leads from a module. -/
noncomputable def leads (edges : List DependencyEdge) (avoid : List Text) (c x : Text) : Bool :=
  decide (∃ p, Route edges avoid x p c)

theorem leads_iff : leads edges avoid c x = true ↔ ∃ p, Route edges avoid x p c := by
  simp [leads]

theorem leads_eq_false (h : ¬ ∃ p, Route edges avoid x p c) : leads edges avoid c x = false := by
  simpa [leads] using h

/-- **A first route takes the first reference that leads on at all**, and from there the first
    route that keeps clear of where it started. -/
theorem firstRoute_cons_iff (hne : a ≠ c) :
    FirstRoute edges avoid a (b :: p) c ↔
      a ∉ avoid ∧ (targets edges a).find? (leads edges (a :: avoid) c) = some b ∧
        FirstRoute edges (a :: avoid) b p c := by
  rw [find?_eq_some_iff_idxOf]
  constructor
  · rintro ⟨hr, hfirst⟩
    obtain ⟨ha, hb, hrest⟩ := route_cons_iff.1 hr
    refine ⟨ha, ⟨hb, leads_iff.2 ⟨p, hrest⟩, ?_⟩, hrest, ?_⟩
    · intro x hx hlead
      obtain ⟨q, hq⟩ := leads_iff.1 hlead
      rcases hfirst (x :: q) (route_cons_iff.2 ⟨ha, hx, hq⟩) with heq | hlt | ⟨rfl, -⟩
      · exact Nat.le_of_eq (by rw [(List.cons.inj heq).1])
      · exact Nat.le_of_lt hlt
      · exact Nat.le_refl _
    · intro q hq
      rcases hfirst (b :: q) (route_cons_iff.2 ⟨ha, hb, hq⟩) with heq | hlt | ⟨-, hbefore⟩
      · exact Or.inl (List.cons.inj heq).2
      · exact absurd hlt (Nat.lt_irrefl _)
      · exact Or.inr hbefore
  · rintro ⟨ha, ⟨hb, -, hleast⟩, hrest, hfirst⟩
    refine ⟨route_cons_iff.2 ⟨ha, hb, hrest⟩, ?_⟩
    intro q hq
    cases q with
    | nil => exact absurd hq.chain.eq_of_nil hne
    | cons y q =>
      obtain ⟨-, hy, hq⟩ := route_cons_iff.1 hq
      rcases Nat.lt_or_eq_of_le (hleast y hy (leads_iff.2 ⟨q, hq⟩)) with hlt | heq
      · exact Or.inr (Or.inl hlt)
      · obtain rfl := (List.idxOf_inj hb).1 heq
        rcases hfirst q hq with rfl | hbefore
        · exact Or.inl rfl
        · exact Or.inr (Or.inr ⟨rfl, hbefore⟩)

/-- **There is a first route wherever there is a route.**  By induction on the references that are
    not kept clear of. -/
theorem exists_firstRoute (h : ∃ p, Route edges avoid a p c) :
    ∃ p, FirstRoute edges avoid a p c := by
  induction hn : pending edges avoid using Nat.strongRecOn generalizing avoid a with
  | ind n ih =>
    subst hn
    obtain ⟨p, hp⟩ := h
    by_cases hac : a = c
    · subst hac
      exact ⟨[], firstRoute_self_iff.2 ⟨rfl, hp.start_clear⟩⟩
    · cases p with
      | nil => exact absurd hp.chain.eq_of_nil hac
      | cons b p =>
        obtain ⟨ha, hb, hp⟩ := route_cons_iff.1 hp
        have hfind : ((targets edges a).find? (leads edges (a :: avoid) c)).isSome = true :=
          List.find?_isSome.2 ⟨b, hb, leads_iff.2 ⟨p, hp⟩⟩
        obtain ⟨d, hd⟩ := Option.isSome_iff_exists.1 hfind
        have hlt : pending edges (a :: avoid) < pending edges avoid :=
          pending_cons_lt ha (List.ne_nil_of_mem hb)
        obtain ⟨q, hq⟩ := ih _ hlt (leads_iff.1 (find?_eq_some_iff_idxOf.1 hd).2.1) rfl
        exact ⟨d :: q, (firstRoute_cons_iff hac).2 ⟨ha, hd, hq⟩⟩

/-! ## Without cycles -/

/-- No chain leads from a module to itself. -/
def Acyclic (edges : List DependencyEdge) : Prop :=
  ∀ a p, Chain edges a p a → p = []

theorem Acyclic.nodup (h : Acyclic edges) (hc : Chain edges a p c) : (a :: p).Nodup := by
  induction hc with
  | nil a => exact List.nodup_singleton a
  | cons first rest ih =>
    refine List.nodup_cons.2 ⟨?_, ih⟩
    intro hmem
    obtain ⟨q, hq, hback⟩ := (Chain.cons first rest).upTo _ hmem
    exact hq (h _ q hback)

/-- Without cycles every chain is a route. -/
theorem route_iff_chain (h : Acyclic edges) : Route edges [] a p c ↔ Chain edges a p c :=
  ⟨Route.chain, fun hc => ⟨hc, h.nodup hc, fun _ _ => List.not_mem_nil⟩⟩

/-- A chain that comes before all others with the same ends. -/
structure FirstChain (edges : List DependencyEdge) (a : Text) (p : List Text) (c : Text) :
    Prop where
  chain : Chain edges a p c
  first : ∀ q, Chain edges a q c → q = p ∨ Before edges a p q

theorem firstRoute_iff_firstChain (h : Acyclic edges) :
    FirstRoute edges [] a p c ↔ FirstChain edges a p c := by
  constructor
  · rintro ⟨hr, hfirst⟩
    exact ⟨hr.chain, fun q hq => hfirst q ((route_iff_chain h).2 hq)⟩
  · rintro ⟨hc, hfirst⟩
    exact ⟨(route_iff_chain h).2 hc, fun q hq => hfirst q hq.chain⟩

end CodeSurvey.Dependency
