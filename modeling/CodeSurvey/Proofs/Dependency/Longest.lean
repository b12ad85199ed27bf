/-
  The depth of a project without cycles.

  * `Chain.rank_le`, `acyclic_of_rank`: references that all lead to a lower rank form no cycle,
    and chains of them are no longer than the rank;
  * `Before.asymm`, `FirstChain.unique`, `existsUnique_firstChain`: of the chains to a module one
    is the first;
  * `lengths`: the lengths of the chains of a kind from some modules;
  * `depth_eq_longest_firstChain`: the depth is the length of the longest first chain;
    `longest_chain_missed`: there may be longer ones.
-/
import CodeSurvey.Proofs.Dependency.Graph
import Mathlib.Data.List.Permutation
import Mathlib.Order.Lattice.Nat

namespace CodeSurvey.Dependency

variable {edges : List DependencyEdge} {platform : List Text} {modules : List Module}
  {roots : List Text} {a c r : Text} {p q : List Text}

/-! ## No cycles -/

/-- Along a chain the rank sinks. -/
theorem Chain.rank_le {rank : Text → Nat} (hrank : ∀ e ∈ edges, rank e.target < rank e.source)
    (h : Chain edges a p c) : rank c + p.length ≤ rank a := by
  induction h with
  | nil a => exact Nat.le_refl _
  | cons first rest ih =>
    obtain ⟨e, he, rfl, rfl⟩ := mem_targets_iff.1 first
    have hlt := hrank e he
    rw [List.length_cons]
    omega

theorem acyclic_of_rank (rank : Text → Nat)
    (hrank : ∀ e ∈ edges, rank e.target < rank e.source) : Acyclic edges := by
  intro a p h
  have hle := h.rank_le hrank
  exact List.eq_nil_of_length_eq_zero (by omega)

/-! ## The first chain -/

theorem Before.asymm (h : Before edges a p q) : ¬ Before edges a q p := by
  induction p generalizing a q with
  | nil => exact h.elim
  | cons x p ih =>
    cases q with
    | nil => exact h.elim
    | cons y q =>
      intro h'
      rcases h with hlt | ⟨rfl, h⟩
      · rcases h' with hlt' | ⟨rfl, -⟩
        · exact Nat.lt_asymm hlt hlt'
        · exact Nat.lt_irrefl _ hlt
      · rcases h' with hlt' | ⟨-, h'⟩
        · exact Nat.lt_irrefl _ hlt'
        · exact ih h h'

theorem FirstChain.unique (hp : FirstChain edges a p c) (hq : FirstChain edges a q c) : q = p := by
  rcases hp.first q hq.chain with heq | hpq
  · exact heq
  · rcases hq.first p hp.chain with heq | hqp
    · exact heq.symm
    · exact absurd hqp hpq.asymm

/-- Without cycles, one chain to each module that is reached is the first. -/
theorem existsUnique_firstChain (hacyclic : Acyclic edges) (h : ∃ p, Chain edges a p c) :
    ∃! p, FirstChain edges a p c := by
  obtain ⟨p, hp⟩ := h
  obtain ⟨q, hq⟩ := exists_firstRoute ⟨p, (route_iff_chain hacyclic).2 hp⟩
  have hfirst := (firstRoute_iff_firstChain hacyclic).1 hq
  exact ⟨q, hfirst, fun q' hq' => hfirst.unique hq'⟩

/-! ## The longest chain -/

/-- The numbers of references of the chains of a kind that start at one of some modules. -/
def lengths (kind : Text → List Text → Text → Prop) (starts : List Text) : Set Nat :=
  {k | ∃ r ∈ starts, ∃ c p, kind r p c ∧ p.length = k}

theorem firstChain_lengths_subset (rs : List Text) :
    lengths (FirstChain edges) rs ⊆ lengths (Chain edges) rs := by
  rintro k ⟨r, hr, c, p, hp, hk⟩
  exact ⟨r, hr, c, p, hp.chain, hk⟩

theorem isLUB_depth (h : Acyclic (project platform modules roots).edges) :
    IsLUB (lengths (FirstChain (project platform modules roots).edges) (starts modules roots))
      (project platform modules roots).depth := by
  rw [isLUB_iff_le_iff]
  intro n
  rw [project_depth_le_iff]
  simp only [firstRoute_iff_firstChain h]
  constructor
  · rintro hle k ⟨r, hr, c, p, hp, rfl⟩
    exact hle r hr c p hp
  · intro hle r hr c p hp
    exact hle ⟨r, hr, c, p, hp, rfl⟩

/-- The first chains from a module include the one that leads nowhere. -/
theorem lengths_nonempty (h : Acyclic edges) {rs : List Text} (hne : rs ≠ []) :
    (lengths (FirstChain edges) rs).Nonempty := by
  obtain ⟨r, hr⟩ := List.exists_mem_of_ne_nil rs hne
  obtain ⟨p, hp, -⟩ := existsUnique_firstChain h ⟨[], .nil r⟩
  exact ⟨p.length, r, hr, r, p, hp, rfl⟩

/-- **Without cycles the depth of a project is the length of the longest first chain** from one of
    the modules it is measured from.  No bound on all chains is less than it, and the longest of
    all chains is as long exactly if none is longer than every first one. -/
theorem depth_eq_longest_firstChain (platform : List Text) (modules : List Module)
    (roots : List Text) (hacyclic : Acyclic (project platform modules roots).edges) :
    (∀ r c, (∃ p, Chain (project platform modules roots).edges r p c) →
      ∃! p, FirstChain (project platform modules roots).edges r p c) ∧
    IsLUB (lengths (FirstChain (project platform modules roots).edges) (starts modules roots))
      (project platform modules roots).depth ∧
    (starts modules roots ≠ [] → (project platform modules roots).depth ∈
      lengths (FirstChain (project platform modules roots).edges) (starts modules roots)) ∧
    (∀ n ∈ upperBounds
        (lengths (Chain (project platform modules roots).edges) (starts modules roots)),
      (project platform modules roots).depth ≤ n) ∧
    (IsLUB (lengths (Chain (project platform modules roots).edges) (starts modules roots))
        (project platform modules roots).depth ↔
      ∀ k ∈ lengths (Chain (project platform modules roots).edges) (starts modules roots),
        ∃ l ∈ lengths (FirstChain (project platform modules roots).edges) (starts modules roots),
          k ≤ l) := by
  have hlub := isLUB_depth hacyclic
  have hattained : starts modules roots ≠ [] → (project platform modules roots).depth ∈
      lengths (FirstChain (project platform modules roots).edges) (starts modules roots) := by
    intro hne
    have hnonempty := lengths_nonempty hacyclic hne
    rw [← hlub.csSup_eq hnonempty]
    exact Nat.sSup_mem hnonempty ⟨_, hlub.1⟩
  have hbound : ∀ n ∈ upperBounds
      (lengths (Chain (project platform modules roots).edges) (starts modules roots)),
      (project platform modules roots).depth ≤ n := by
    intro n hn
    exact hlub.2 fun k hk => hn (firstChain_lengths_subset _ hk)
  refine ⟨fun r c => existsUnique_firstChain hacyclic, hlub, hattained, hbound, ?_⟩
  constructor
  · intro hlongest k hk
    have hne : starts modules roots ≠ [] := by
      obtain ⟨r, hr, -⟩ := hk
      exact List.ne_nil_of_mem hr
    exact ⟨_, hattained hne, hlongest.1 hk⟩
  · intro hfirst
    refine ⟨fun k hk => ?_, hbound⟩
    obtain ⟨l, hl, hkl⟩ := hfirst k hk
    exact hkl.trans (hlub.1 hl)

/-- `main` has some imports, and `a` imports `c`. -/
def triangle (imports : List Text) : List Module :=
  [(mainModule, imports.map fun source => { source }),
    (Text.ofString "a", [{ source := Text.ofString "c" }])]

/-- How many references lead on from a module of the triangle, at most. -/
def triangleRank (id : Text) : Nat :=
  if id = mainModule then 2 else if id = Text.ofString "a" then 1 else 0

/-- The references of the triangle where `main` imports `c` before `a`. -/
def triangleEdges : List DependencyEdge :=
  (project platformModules (triangle [Text.ofString "c", Text.ofString "a"]) [mainModule]).edges

theorem rank_triangle : ∀ e ∈ triangleEdges, triangleRank e.target < triangleRank e.source := by
  decide +kernel

theorem depth_triangle : (project platformModules
    (triangle [Text.ofString "c", Text.ofString "a"]) [mainModule]).depth = 1 := by
  rw [project_depth]
  cbv

theorem depth_triangle_reversed : (project platformModules
    (triangle [Text.ofString "a", Text.ofString "c"]) [mainModule]).depth = 2 := by
  rw [project_depth]
  cbv

/-- Where `main` imports `c` before `a`, the first chain to `c` has one reference. -/
theorem depth_eq_longest_firstChain_triangle :
    Acyclic triangleEdges ∧ IsLUB (lengths (FirstChain triangleEdges) [mainModule]) 1 := by
  have hacyclic : Acyclic triangleEdges := acyclic_of_rank triangleRank rank_triangle
  refine ⟨hacyclic, ?_⟩
  have hlub := (depth_eq_longest_firstChain platformModules _ _ hacyclic).2.1
  rw [depth_triangle] at hlub
  exact hlub

/-- **The longest chain may be missed**, and the order of the imports decides: the chain from `main`
    over `a` to `c` has two references and there is no longer one, but the depth is 1, unless
    `main` imports `a` before `c`. -/
theorem longest_chain_missed :
    ((triangle [Text.ofString "c", Text.ofString "a"]).map Prod.fst).Nodup ∧
    Acyclic triangleEdges ∧
    IsLUB (lengths (Chain triangleEdges) [mainModule]) 2 ∧
    (project platformModules
      (triangle [Text.ofString "c", Text.ofString "a"]) [mainModule]).depth = 1 ∧
    (project platformModules
      (triangle [Text.ofString "a", Text.ofString "c"]) [mainModule]).depth = 2 := by
  refine ⟨by decide, acyclic_of_rank triangleRank rank_triangle, ⟨?_, ?_⟩, depth_triangle,
    depth_triangle_reversed⟩
  · rintro k ⟨r, hr, c, p, hp, rfl⟩
    obtain rfl := List.mem_singleton.1 hr
    have hle := hp.rank_le rank_triangle
    have hmain : triangleRank mainModule = 2 := by decide
    omega
  · intro n hn
    have ha : Text.ofString "a" ∈ targets triangleEdges mainModule := by decide +kernel
    have hc : Text.ofString "c" ∈ targets triangleEdges (Text.ofString "a") := by decide +kernel
    exact hn ⟨mainModule, List.mem_singleton_self _, _, _, .cons ha (.cons hc (.nil _)), rfl⟩

end CodeSurvey.Dependency
