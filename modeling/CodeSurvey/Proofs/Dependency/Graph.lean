/-
  The graph of a project, piece by piece.

  * `mentions`: the modules in the order in which a project mentions them; the nodes of its
    graph are these, each once (`map_id_nodes`);
  * `outgoing_project`, `outgoing_project_of_not_mem`: the references of a module are its imports;
  * `referencePairs_project`: references of a module stand together;
  * `starts`, `project_depth_le_iff`: the depth of a project is measured along first routes;
    `length_lt_of_route`: a route passes fewer references than there are nodes;
  * `project_faithful`: a graph says about its project what `Faithful` lists.
-/
import CodeSurvey.Dependency.Graph
import CodeSurvey.Proofs.Dependency.Mutual
import CodeSurvey.Proofs.Dependency.Walk

namespace CodeSurvey.Dependency

variable {platform : List Text} {modules : List Module} {roots : List Text} {m : Module}
  {a c id r : Text} {p : List Text}

/-! ## Nodes -/

/-- The modules that a project mentions: each module, then what it imports. -/
def mentions (modules : List Module) : List Text :=
  modules.flatMap fun m => m.1 :: m.2.map ImportInfo.source

theorem makeNode_id (platform : List Text) (id : Text) : (makeNode platform id).id = id := by
  unfold makeNode
  split <;> rfl

theorem map_id_nodes (platform : List Text) (modules : List Module) (roots : List Text) :
    (project platform modules roots).nodes.map DependencyNode.id = distinct (mentions modules) := by
  have hid : DependencyNode.id ∘ makeNode platform = id := funext (makeNode_id platform)
  rw [project, List.map_map, hid, List.map_id, moduleIds, mentions]

theorem mem_mentions_iff :
    id ∈ mentions modules ↔ ∃ m ∈ modules, id = m.1 ∨ ∃ i ∈ m.2, id = i.source := by
  simp only [mentions, List.mem_flatMap, List.mem_cons, List.mem_map, eq_comm]

/-- Every module that is mentioned has a node. -/
theorem exists_node (roots : List Text) (h : id ∈ mentions modules) :
    ∃ n, (project platform modules roots).node? id = some n ∧ n.id = id := by
  have hmem : id ∈ (project platform modules roots).nodes.map DependencyNode.id := by
    rw [map_id_nodes, mem_distinct]
    exact h
  obtain ⟨n, hn, rfl⟩ := List.mem_map.1 hmem
  have hsome : ((project platform modules roots).node? n.id).isSome = true :=
    List.find?_isSome.2 ⟨n, hn, decide_eq_true rfl⟩
  obtain ⟨n', hn'⟩ := Option.isSome_iff_exists.1 hsome
  have hid := List.find?_some hn'
  exact ⟨n', hn', of_decide_eq_true hid⟩

/-! ## References -/

theorem project_edges (platform : List Text) (modules : List Module) (roots : List Text) :
    (project platform modules roots).edges = modules.flatMap moduleEdges :=
  rfl

theorem mem_edges_iff {e : DependencyEdge} :
    e ∈ modules.flatMap moduleEdges ↔
      ∃ m ∈ modules, ∃ i ∈ m.2, e = ⟨m.1, i.source, edgeKind i⟩ := by
  simp only [moduleEdges, List.mem_flatMap, List.mem_map, eq_comm]

theorem source_of_mem_edges {e : DependencyEdge} (h : e ∈ modules.flatMap moduleEdges) :
    e.source ∈ modules.map Prod.fst := by
  obtain ⟨m, hm, i, -, rfl⟩ := mem_edges_iff.1 h
  exact List.mem_map_of_mem hm

theorem ends_mem_mentions {e : DependencyEdge} (h : e ∈ modules.flatMap moduleEdges) :
    e.source ∈ mentions modules ∧ e.target ∈ mentions modules := by
  obtain ⟨m, hm, i, hi, rfl⟩ := mem_edges_iff.1 h
  rw [mem_mentions_iff, mem_mentions_iff]
  exact ⟨⟨m, hm, Or.inl rfl⟩, m, hm, Or.inr ⟨i, hi, rfl⟩⟩

theorem source_of_mem_moduleEdges {e : DependencyEdge} (h : e ∈ moduleEdges m) :
    e.source = m.1 := by
  obtain ⟨i, -, rfl⟩ := List.mem_map.1 h
  rfl

theorem filter_moduleEdges (m : Module) :
    (moduleEdges m).filter (fun e => e.source = m.1) = moduleEdges m :=
  List.filter_eq_self.2 fun _ he => decide_eq_true (source_of_mem_moduleEdges he)

theorem filter_moduleEdges_of_ne (h : m.1 ≠ id) :
    (moduleEdges m).filter (fun e => e.source = id) = [] := by
  refine List.filter_eq_nil_iff.2 fun e he hsource => h ?_
  rw [← source_of_mem_moduleEdges he]
  exact of_decide_eq_true hsource

theorem filter_edges_of_not_mem (h : id ∉ modules.map Prod.fst) :
    (modules.flatMap moduleEdges).filter (fun e => e.source = id) = [] := by
  refine List.filter_eq_nil_iff.2 fun e he hsource => h ?_
  rw [← of_decide_eq_true hsource]
  exact source_of_mem_edges he

theorem outgoing_project_of_not_mem (h : id ∉ modules.map Prod.fst) :
    (project platform modules roots).outgoing id = [] :=
  filter_edges_of_not_mem h

theorem outgoing_project (hnodup : (modules.map Prod.fst).Nodup) (hm : m ∈ modules) :
    (project platform modules roots).outgoing m.1 = moduleEdges m := by
  unfold DependencyGraph.outgoing
  rw [project_edges]
  induction modules with
  | nil => cases hm
  | cons m' modules ih =>
    rw [List.map_cons, List.nodup_cons] at hnodup
    rw [List.flatMap_cons, List.filter_append]
    rcases List.mem_cons.1 hm with rfl | hm
    · rw [filter_moduleEdges, filter_edges_of_not_mem hnodup.1, List.append_nil]
    · have hne : m'.1 ≠ m.1 := by
        intro heq
        exact hnodup.1 (heq ▸ List.mem_map_of_mem hm)
      rw [filter_moduleEdges_of_ne hne, List.nil_append, ih hnodup.2 hm]

/-- **The references of a module stand together**, so that going through them by source and then by
    target is going through them one by one. -/
theorem referencePairs_project (hnodup : (modules.map Prod.fst).Nodup) :
    referencePairs (modules.flatMap moduleEdges) =
      distinct ((modules.flatMap moduleEdges).map DependencyEdge.ends) := by
  induction modules with
  | nil => rfl
  | cons m modules ih =>
    rw [List.map_cons, List.nodup_cons] at hnodup
    have hother : ∀ e ∈ moduleEdges m, ∀ e' ∈ modules.flatMap moduleEdges,
        e.source ≠ e'.source := by
      intro e he e' he' heq
      rw [source_of_mem_moduleEdges he] at heq
      exact hnodup.1 (heq ▸ source_of_mem_edges he')
    rw [List.flatMap_cons, referencePairs_append hother, distinct_ends_append hother,
      ih hnodup.2, referencePairs_of_source fun e he => source_of_mem_moduleEdges he]

/-! ## Depth -/

/-- Where the depth of a project is measured from. -/
def starts (modules : List Module) (roots : List Text) : List Text :=
  if roots.isEmpty then modules.map Prod.fst else roots

theorem project_depth (platform : List Text) (modules : List Module) (roots : List Text) :
    (project platform modules roots).depth =
      ((starts modules roots).map (depth (modules.flatMap moduleEdges))).foldl max 0 :=
  rfl

theorem project_depth_le_iff {n : Nat} :
    (project platform modules roots).depth ≤ n ↔
      ∀ r ∈ starts modules roots, ∀ c p,
        FirstRoute (project platform modules roots).edges [] r p c → p.length ≤ n := by
  rw [project_depth, foldl_max_le_iff, project_edges]
  simp only [List.forall_mem_map, depth_le_iff, Nat.zero_le, true_and]

/-- A route passes fewer references than the graph has nodes. -/
theorem length_lt_of_route (h : Route (project platform modules roots).edges [] r p c)
    (hne : p ≠ []) : p.length < (project platform modules roots).nodes.length := by
  have hsub : r :: p ⊆ (project platform modules roots).nodes.map DependencyNode.id := by
    intro x hx
    rw [map_id_nodes, mem_distinct]
    rcases List.mem_cons.1 hx with rfl | hx
    · obtain ⟨b, q, rfl⟩ := List.exists_cons_of_ne_nil hne
      obtain ⟨e, he, rfl, -⟩ := mem_targets_iff.1 (route_cons_iff.1 h).2.1
      exact (ends_mem_mentions he).1
    · obtain ⟨e, he, rfl⟩ := h.chain.referred x hx
      exact (ends_mem_mentions he).2
  have hle := h.simple.length_le_of_subset hsub
  rw [List.length_cons, List.length_map] at hle
  exact hle

/-! ## The whole graph -/

/-- What a graph says about the modules of a project. -/
structure Faithful (modules : List Module) (g : DependencyGraph) : Prop where
  /-- No two nodes have the same id. -/
  nodup_ids : (g.nodes.map DependencyNode.id).Nodup
  /-- There is a node for each module and for each import, and no other. -/
  ids : ∀ id, id ∈ g.nodes.map DependencyNode.id ↔
    ∃ m ∈ modules, id = m.1 ∨ ∃ i ∈ m.2, id = i.source
  /-- Nodes stand in the order in which the project first mentions them. -/
  ids_ordered : (g.nodes.map DependencyNode.id).Pairwise fun a b =>
    (mentions modules).idxOf a < (mentions modules).idxOf b
  /-- There is a reference for each import, in order and with repetitions. -/
  edges : g.edges = modules.flatMap fun m => m.2.map fun i => ⟨m.1, i.source, edgeKind i⟩
  /-- The references of a module lead to what it imports. -/
  outgoing : ∀ m ∈ modules,
    (g.outgoing m.1).map DependencyEdge.target = m.2.map ImportInfo.source
  /-- Nothing else has references. -/
  outgoing_other : ∀ id, id ∉ modules.map Prod.fst → g.outgoing id = []
  /-- Both ends of a reference have a node. -/
  ends : ∀ e ∈ g.edges, (∃ n, g.node? e.source = some n ∧ n.id = e.source) ∧
    ∃ n, g.node? e.target = some n ∧ n.id = e.target
  /-- Two modules are a cycle, one way round, exactly if each imports the other. -/
  cycles : ∀ p : Text × Text, p ∈ g.cycles ∨ p.swap ∈ g.cycles ↔
    p ∈ g.edges.map DependencyEdge.ends ∧ p.swap ∈ g.edges.map DependencyEdge.ends
  /-- A cycle has the direction of the earliest reference that joins the two modules. -/
  cycles_directed : ∀ p ∈ g.cycles, (g.edges.find? (joins p)).map DependencyEdge.ends = some p
  /-- Cycles stand in the order of the earliest references that join the two modules; no two of
  them join the same ones. -/
  cycles_ordered : g.cycles.Pairwise fun p q =>
    g.edges.findIdx (joins p) < g.edges.findIdx (joins q)
  /-- The depth is less than the number of nodes, if there are any. -/
  depth_le : g.depth ≤ g.nodes.length - 1

/-- **The graph of a project is faithful to it**, whatever its roots are. -/
theorem project_faithful (platform : List Text) (modules : List Module) (roots : List Text)
    (hnodup : (modules.map Prod.fst).Nodup) :
    Faithful modules (project platform modules roots) where
  nodup_ids := by
    rw [map_id_nodes]
    exact nodup_distinct _
  ids id := by
    rw [map_id_nodes, mem_distinct, mem_mentions_iff]
  ids_ordered := by
    rw [map_id_nodes]
    exact pairwise_distinct _
  edges := rfl
  outgoing m hm := by
    rw [outgoing_project hnodup hm, moduleEdges, List.map_map]
    rfl
  outgoing_other id hid := outgoing_project_of_not_mem hid
  ends e he := by
    obtain ⟨hsource, htarget⟩ := ends_mem_mentions he
    exact ⟨exists_node roots hsource, exists_node roots htarget⟩
  cycles p := mem_cycles_or_swap_iff
  cycles_directed p hp := find?_joins_of_mem_cycles (referencePairs_project hnodup) hp
  cycles_ordered := pairwise_cycles (referencePairs_project hnodup)
  depth_le := by
    refine project_depth_le_iff.2 fun r _ c p hp => ?_
    by_cases hne : p = []
    · rw [hne]
      exact Nat.zero_le _
    · exact Nat.le_sub_one_of_lt (length_lt_of_route hp.route hne)

/-- Two modules that import each other, one of them also itself and the other one twice. -/
def mutualModules : List Module :=
  [(Text.ofString "a", [⟨Text.ofString "b", [], false, false, false, 1⟩,
      ⟨Text.ofString "a", [], false, true, false, 2⟩,
      ⟨Text.ofString "b", [], false, false, true, 3⟩]),
    (Text.ofString "b", [⟨Text.ofString "c", [], false, false, false, 1⟩,
      ⟨Text.ofString "a", [], false, false, false, 2⟩])]

theorem project_faithful_mutual :
    (mutualModules.map Prod.fst).Nodup ∧
    Faithful mutualModules (project platformModules mutualModules []) ∧
    (project platformModules mutualModules []).edges.length = 5 ∧
    (project platformModules mutualModules []).cycles =
      [(Text.ofString "a", Text.ofString "b"), (Text.ofString "a", Text.ofString "a")] := by
  have hnodup : (mutualModules.map Prod.fst).Nodup := by decide
  refine ⟨hnodup, project_faithful platformModules mutualModules [] hnodup, ?_, ?_⟩
  · decide
  · decide +kernel

end CodeSurvey.Dependency
