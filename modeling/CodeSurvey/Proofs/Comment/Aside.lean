/-
  Comments that stand aside.

  * `Node.CommentsAside`: no comment stands where a record reads a child by its position;
  * `Extract.undisturbed_of_commentsAside`: such comments disturb no structure;
  * `Extract.structureOf_withoutComments_of_commentsAside`: the structure is the same
    without them, whatever the source says.
-/
import CodeSurvey.Proofs.Comment.Undisturbed

namespace CodeSurvey

namespace Node

/-- The nodes of which the first child that is a node of the grammar is read. -/
def firstReadKinds : List String :=
  ["rest_pattern", "extends_clause", "parenthesized_expression"]

/-- The nodes of which all children that are nodes of the grammar are read. -/
def allReadKinds : List String :=
  ["class_heritage", "implements_clause"]

/-- No comment stands where a child is read by its position. -/
structure CommentsAside (root : Node) : Prop where
  first : ∀ n ∈ root.descendants, n.kind ∈ firstReadKinds →
    ∀ c ∈ n.namedChildren.head?, c.isComment = false
  every : ∀ n ∈ root.descendants, n.kind ∈ allReadKinds →
    ∀ c ∈ n.namedChildren, c.isComment = false
  keyword : ∀ n ∈ root.descendants, n.kind = "lexical_declaration" →
    ∀ c ∈ n.children.head?, c.isComment = false

theorem head?_proper {ns : List Node} (h : ∀ c ∈ ns.head?, c.isComment = false) :
    (proper ns).head? = ns.head? := by
  cases ns with
  | nil => rfl
  | cons c ns => simp [proper, h c rfl]

theorem proper_eq {ns : List Node} (h : ∀ c ∈ ns, c.isComment = false) : proper ns = ns :=
  List.filter_eq_self.2 fun c hc => by rw [h c hc]; rfl

theorem CommentsAside.of_mem {root n : Node} (h : root.CommentsAside) (hn : n ∈ root.descendants) :
    n.CommentsAside where
  first m hm := h.first m (descendants_trans hn hm)
  every m hm := h.every m (descendants_trans hn hm)
  keyword m hm := h.keyword m (descendants_trans hn hm)

theorem placed_mem_descendants {root : Node} {p : Place} (h : p ∈ root.namedPlaces) :
    p.node ∈ root.descendants := by
  obtain ⟨sp, hsp, rfl⟩ := List.mem_map.1 (List.mem_filter.1 h).1
  exact node_mem_descendants hsp

end Node

namespace Extract

variable {s : Source} {root n : Node} {p : Place}

theorem properPattern_of_commentsAside (h : root.CommentsAside) (hn : n ∈ root.descendants) :
    properPattern n = parameterPattern n := by
  induction n using Node.children_induction with
  | h n ih =>
    have hinner : properInner? n = innerPattern? n := by
      unfold properInner?
      split_ifs with hk
      · rw [Node.head?_proper (h.first n hn (by rw [eq_of_beq hk]; decide))]
        simp [innerPattern?, eq_of_beq hk]
      · rfl
    rw [properPattern_eq, parameterPattern_eq, hinner]
    cases hc : innerPattern? n with
    | none => rfl
    | some c =>
      have hmem := innerPattern?_mem hc
      exact ih c hmem (Node.descendants_trans hn (Node.mem_descendants_of_mem_children hmem))

theorem parametersClear_of_commentsAside (h : root.CommentsAside) (hn : n ∈ root.descendants) :
    ParametersClear s n := fun c hc => by
  rw [properPattern_of_commentsAside h (Node.descendants_trans hn (parameterNodes_subset hc))]

theorem addProperHeritage_of_commentsAside (h : root.CommentsAside) (hn : n ∈ root.descendants)
    (known : Option Text × List Text) : addProperHeritage s known n = addHeritage s known n := by
  unfold addProperHeritage addHeritage
  split_ifs with hk hk'
  · rw [Node.head?_proper (h.first n hn (by rw [eq_of_beq hk]; decide))]
  · rw [Node.proper_eq (h.every n hn (by rw [eq_of_beq hk']; decide))]
  · rfl
  · rfl

theorem properHeritage_of_commentsAside (h : root.CommentsAside) (hn : n ∈ root.descendants) :
    properHeritage s n = heritage s n := by
  unfold properHeritage heritage
  cases hc : n.namedChildren.find? fun c => c.kind == "class_heritage" with
  | none => rfl
  | some clause =>
    have hkind : clause.kind = "class_heritage" := by simpa using List.find?_some hc
    have hclause := Node.descendants_trans hn (Node.namedChild_mem_descendants
      (List.mem_of_find?_eq_some hc))
    simp only
    rw [Node.proper_eq (h.every clause hclause (by rw [hkind]; decide))]
    refine List.foldl_ext _ _ _ fun known c hc => addProperHeritage_of_commentsAside h ?_ known
    exact Node.descendants_trans hclause
      (Node.namedChild_mem_descendants hc)

theorem declarationKeyword_ne_comment (h : root.CommentsAside) (hn : n ∈ root.descendants)
    (hd : n.isDeclaration = true) : declarationKeyword n ≠ "comment" := by
  have hkind : n.kind = "lexical_declaration" ∨ n.kind = "variable_declaration" := by
    simpa [Node.isDeclaration, Node.declarationKinds] using hd
  unfold declarationKeyword
  rcases hkind with hk | hk
  · have hfirst := h.keyword n hn hk
    rw [hk, if_neg (by decide)]
    cases hns : n.children with
    | nil => decide
    | cons first rest =>
      rw [hns] at hfirst
      exact ne_of_beq_false (hfirst first rfl)
  · rw [hk, if_pos (by decide)]
    decide

theorem properReassigned_of_commentsAside (h : root.CommentsAside) {target : Option Node}
    (ht : ∀ n ∈ target, n ∈ root.descendants) : properReassigned s target = reassigned s target := by
  cases target with
  | none => rfl
  | some n =>
    simp only [properReassigned, reassigned]
    cases hk : n.kind == "parenthesized_expression" with
    | false => rfl
    | true => rw [Node.head?_proper (h.first n (ht n rfl) (by rw [eq_of_beq hk]; decide))]

theorem properAssignedAt_of_commentsAside (h : root.CommentsAside)
    (hn : p.node ∈ root.descendants) : properAssignedAt s p = assignedAt s p := by
  have hfield : ∀ field, ∀ n ∈ p.node.child? field, n ∈ root.descendants := fun field n hc =>
    Node.descendants_trans hn (Node.field_mem_descendants hc)
  unfold properAssignedAt assignedAt
  rw [properReassigned_of_commentsAside h (hfield "left"),
    properReassigned_of_commentsAside h (hfield "argument")]

/-- **Comments that stand aside disturb nothing.** -/
theorem undisturbed_of_commentsAside (h : root.CommentsAside) : Undisturbed s root where
  functions p hp _ := parametersClear_of_commentsAside h (Node.placed_mem_descendants hp)
  methods p hp _ m hm := parametersClear_of_commentsAside h
    (Node.descendants_trans (Node.placed_mem_descendants hp) (methodNodes_subset hm))
  heritages p hp _ := properHeritage_of_commentsAside h (Node.placed_mem_descendants hp)
  exports p hp _ _ d hd hdecl hcom := by
    have hmem := Node.descendants_trans (Node.placed_mem_descendants hp)
      (Node.field_mem_descendants hd)
    exact absurd hcom (declarationKeyword_ne_comment h hmem hdecl)
  declarations p hp hdecl hcom :=
    absurd hcom (declarationKeyword_ne_comment h (Node.placed_mem_descendants hp) hdecl)
  assignments p hp v hv q hq hm :=
    ⟨q, hq, by rwa [properAssignedAt_of_commentsAside h (Node.placed_mem_descendants hq)] at hm⟩

/-- **The structure is the same without comments that stand aside.** -/
theorem structureOf_withoutComments_of_commentsAside (h : root.LooseComments)
    (ha : root.CommentsAside) : structureOf s root.withoutComments = structureOf s root := by
  rw [structureOf_withoutComments h, tally_past_iff.2 (undisturbed_of_commentsAside ha)]
  cases hc : structureOf s root with
  | error e => rfl
  | ok c => rw [eq_tally_of_ok hc]; rfl

end Extract

end CodeSurvey
