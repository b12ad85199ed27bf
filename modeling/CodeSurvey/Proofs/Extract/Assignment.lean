/-
  Which variables count as assigned to.

  * `Node.assignees`: what the assignments and updates of a tree are made to;
  * `Extract.Bare`, `Extract.Enclosed`, `Extract.Targets`: such a node is a name, in at most
    one pair of parentheses; in any number of them; or it holds the name as one of the
    targets of a pattern;
  * `Extract.Inventory.reassigned_iff`: a variable is marked exactly if its bare name is
    assigned to;
  * `Extract.reassigned_by_name`: only names mark variables, in whatever order;
  * `Extract.unmarked_pattern_target`: the targets of a pattern mark none.
-/
import CodeSurvey.Proofs.Extract.Inventory

namespace CodeSurvey

namespace Node

/-- What an assignment or update is made to. -/
def assignee? (n : Node) : Option Node :=
  if n.kind = "assignment_expression" ∨ n.kind = "augmented_assignment_expression" then
    n.child? "left"
  else if n.kind = "update_expression" then n.child? "argument"
  else none

/-- What the assignments and updates below the root are made to, in the order of the source. -/
def assignees (root : Node) : List Node :=
  (root.descendants.filter isNamed).filterMap assignee?

end Node

namespace Extract

variable {s : Source} {root n : Node} {c : CodeStructure} {x : Text}

/-! ## Names as targets -/

/-- The node is the name `x`. -/
def IsName (s : Source) (x : Text) (n : Node) : Prop :=
  n.kind = "identifier" ∧ s.text n = x

/-- The node is the name `x`, or a pair of parentheses in which that name comes first. -/
inductive Bare (s : Source) (x : Text) : Node → Prop
  | name {n : Node} (name : IsName s x n) : Bare s x n
  | parentheses {n inner : Node} (kind : n.kind = "parenthesized_expression")
      (first : n.namedChildren.head? = some inner) (name : IsName s x inner) : Bare s x n

/-- The node is the name `x`, any number of parentheses aside. -/
inductive Enclosed (s : Source) (x : Text) : Node → Prop
  | name {n : Node} (name : IsName s x n) : Enclosed s x n
  | parentheses {n inner : Node} (kind : n.kind = "parenthesized_expression")
      (mem : inner ∈ n.namedChildren) (enclosed : Enclosed s x inner) : Enclosed s x n

/-- The kinds of patterns and of the parts of patterns that hold their targets as children. -/
def patternKinds : List String :=
  ["array_pattern", "object_pattern", "rest_pattern"]

/-- An assignment to the node assigns to the name `x`, possibly through patterns. -/
inductive Targets (s : Source) (x : Text) : Node → Prop
  | name {n : Node} (name : IsName s x n) : Targets s x n
  | parentheses {n inner : Node} (kind : n.kind = "parenthesized_expression")
      (mem : inner ∈ n.namedChildren) (target : Targets s x inner) : Targets s x n
  | shorthand {n : Node} (kind : n.kind = "shorthand_property_identifier_pattern")
      (text : s.text n = x) : Targets s x n
  | element {n part : Node} (kind : n.kind ∈ patternKinds) (mem : part ∈ n.namedChildren)
      (target : Targets s x part) : Targets s x n
  | pair {n part : Node} (kind : n.kind = "pair_pattern") (value : n.child? "value" = some part)
      (target : Targets s x part) : Targets s x n
  | default {n part : Node}
      (kind : n.kind = "assignment_pattern" ∨ n.kind = "object_assignment_pattern")
      (left : n.child? "left" = some part) (target : Targets s x part) : Targets s x n

theorem Bare.enclosed (h : Bare s x n) : Enclosed s x n := by
  cases h with
  | name name => exact .name name
  | parentheses kind first name => exact .parentheses kind (List.mem_of_head? first) (.name name)

/-! ## Marks -/

theorem assignedAt_eq (s : Source) (p : Place) :
    assignedAt s p = reassigned s p.node.assignee? := by
  unfold assignedAt Node.assignee?
  split_ifs <;> rfl

theorem mem_reassigned_iff {target : Option Node} :
    x ∈ reassigned s target ↔ ∃ t, target = some t ∧ Bare s x t := by
  cases target with
  | none => simp [reassigned]
  | some n =>
    simp only [reassigned, Option.some.injEq, exists_eq_left']
    constructor
    · intro h
      split_ifs at h with hp hk hk
      · obtain rfl := List.mem_singleton.1 h
        cases hf : n.namedChildren.head? with
        | none => simp [hf, beq_iff_eq.1 hp] at hk
        | some inner =>
          rw [hf, Option.getD_some] at hk
          exact .parentheses (beq_iff_eq.1 hp) hf ⟨beq_iff_eq.1 hk, rfl⟩
      · cases h
      · obtain rfl := List.mem_singleton.1 h
        exact .name ⟨beq_iff_eq.1 hk, rfl⟩
      · cases h
    · rintro (⟨hk, rfl⟩ | ⟨hp, hf, hk, rfl⟩)
      · simp [hk]
      · simp [hp, hf, hk]

theorem mem_assignees_iff {t : Node} :
    t ∈ root.assignees ↔ ∃ sp ∈ root.namedSpots, sp.place.node.assignee? = some t := by
  rw [Node.assignees, ← Node.map_node_spots, List.filter_map, List.filterMap_map, Node.namedSpots]
  exact List.mem_filterMap

/-- **A variable is marked exactly if its bare name is assigned to.** -/
theorem Inventory.reassigned_iff (h : Inventory s root c) {v : VariableInfo} (hv : v ∈ c.vars) :
    v.reassigned = true ↔ ∃ t ∈ root.assignees, Bare s v.name t := by
  rw [h.vars] at hv
  obtain ⟨w, -, rfl⟩ := List.mem_map.1 hv
  simp only [decide_eq_true_eq, List.mem_flatMap, assignedAt_eq, mem_reassigned_iff,
    mem_assignees_iff]
  constructor
  · rintro ⟨sp, hsp, t, ht, hb⟩
    exact ⟨t, ⟨sp, hsp, ht⟩, hb⟩
  · rintro ⟨t, ⟨sp, hsp, ht⟩, hb⟩
    exact ⟨sp, hsp, t, ht, hb⟩

/-- **Names alone mark the variables of a structure, wherever they are assigned to.**  A variable is
    marked if some assignment or update below the root is made to its name, bare or first in a pair
    of parentheses; it is marked only if one is made to its name in any number of parentheses.  What
    else the tree holds does not matter, nor does the order of the assignments. -/
theorem reassigned_by_name (h : structureOf s root = .ok c) :
    (∀ v ∈ c.vars, (∃ t ∈ root.assignees, Bare s v.name t) → v.reassigned = true) ∧
    (∀ v ∈ c.vars, v.reassigned = true → ∃ t ∈ root.assignees, Enclosed s v.name t) ∧
    ∀ (root' : Node) (c' : CodeStructure), structureOf s root' = .ok c' →
      root'.assignees.Perm root.assignees →
      ∀ v ∈ c.vars, ∀ v' ∈ c'.vars, v'.name = v.name → v'.reassigned = v.reassigned := by
  have hi := inventory_of_ok h
  refine ⟨fun v hv => (hi.reassigned_iff hv).2, ?_, ?_⟩
  · intro v hv hmark
    obtain ⟨t, ht, hbare⟩ := (hi.reassigned_iff hv).1 hmark
    exact ⟨t, ht, hbare.enclosed⟩
  · intro root' c' h' hperm v hv v' hv' hname
    rw [Bool.eq_iff_iff, (inventory_of_ok h').reassigned_iff hv', hi.reassigned_iff hv, hname]
    simp only [hperm.mem_iff]

/-- The source of an assignment in parentheses before a declaration. -/
def lateSource : Source := .ofText (Text.ofString "(x)=1;let x")

/-- The left side `(x)`. -/
def lateTarget : Node :=
  .mk ⟨"parenthesized_expression", 0, 3, true, false, some "left"⟩
    [.mk ⟨"identifier", 1, 2, true, false, none⟩ []]

def lateAssignment : Node :=
  .mk ⟨"assignment_expression", 0, 5, true, false, none⟩
    [lateTarget, .mk ⟨"number", 4, 5, true, false, some "right"⟩ []]

def lateDeclaration : Node :=
  .mk ⟨"lexical_declaration", 6, 11, true, false, none⟩
    [.mk ⟨"let", 6, 9, false, false, some "kind"⟩ [],
      .mk ⟨"variable_declarator", 10, 11, true, false, none⟩
        [.mk ⟨"identifier", 10, 11, true, false, some "name"⟩ []]]

/-- The tree with these nodes in some order. -/
def lateTree (statements : List Node) : Node :=
  .mk ⟨"program", 0, 11, true, false, none⟩ statements

/-- The variable is marked in either order. -/
theorem reassigned_by_name_late :
    ∃ c c', structureOf lateSource (lateTree [lateAssignment, lateDeclaration]) = .ok c ∧
      structureOf lateSource (lateTree [lateDeclaration, lateAssignment]) = .ok c' ∧
      c.vars.map VariableInfo.name = [Text.ofString "x"] ∧ (∀ v ∈ c.vars, v.reassigned = true) ∧
      (∀ v ∈ c.vars, ∃ t ∈ (lateTree [lateAssignment, lateDeclaration]).assignees,
        Enclosed lateSource v.name t) ∧
      ∀ v ∈ c.vars, ∀ v' ∈ c'.vars, v'.name = v.name → v'.reassigned = v.reassigned := by
  have h : structureOf lateSource (lateTree [lateAssignment, lateDeclaration]) =
      .ok { vars := [⟨Text.ofString "x", .let_, .global, true⟩] } := by decide +kernel
  have h' : structureOf lateSource (lateTree [lateDeclaration, lateAssignment]) =
      .ok { vars := [⟨Text.ofString "x", .let_, .global, true⟩] } := by decide +kernel
  have hassignees : (lateTree [lateAssignment, lateDeclaration]).assignees = [lateTarget] := rfl
  have hassignees' : (lateTree [lateDeclaration, lateAssignment]).assignees = [lateTarget] := rfl
  have hbare : Bare lateSource (Text.ofString "x") lateTarget :=
    .parentheses rfl rfl ⟨rfl, by decide +kernel⟩
  obtain ⟨hmark, hname, horder⟩ := reassigned_by_name h
  have hall : ∀ v ∈ [(⟨Text.ofString "x", .let_, .global, true⟩ : VariableInfo)],
      v.reassigned = true := by
    intro v hv
    refine hmark v hv ⟨lateTarget, by rw [hassignees]; exact List.mem_singleton_self _, ?_⟩
    obtain rfl := List.mem_singleton.1 hv
    exact hbare
  exact ⟨_, _, h, h', rfl, hall, fun v hv => hname v hv (hall v hv),
    horder _ _ h' (by rw [hassignees, hassignees'])⟩

/-- The tree of `let x;[x]=y`. -/
def patternTree : Node :=
  .mk ⟨"program", 0, 11, true, false, none⟩
    [.mk ⟨"lexical_declaration", 0, 6, true, false, none⟩
      [.mk ⟨"let", 0, 3, false, false, some "kind"⟩ [],
        .mk ⟨"variable_declarator", 4, 5, true, false, none⟩
          [.mk ⟨"identifier", 4, 5, true, false, some "name"⟩ []]],
      .mk ⟨"expression_statement", 6, 11, true, false, none⟩
        [.mk ⟨"assignment_expression", 6, 11, true, false, none⟩
          [.mk ⟨"array_pattern", 6, 9, true, false, some "left"⟩
              [.mk ⟨"identifier", 7, 8, true, false, none⟩ []],
            .mk ⟨"identifier", 10, 11, true, false, some "right"⟩ []]]]

/-- A variable that is assigned to as a target of a pattern is not marked. -/
theorem unmarked_pattern_target :
    ∃ c, structureOf (.ofText (Text.ofString "let x;[x]=y")) patternTree = .ok c ∧
      ¬ ∀ v ∈ c.vars, v.reassigned = true ↔
        ∃ t ∈ patternTree.assignees, Targets (.ofText (Text.ofString "let x;[x]=y")) v.name t := by
  refine ⟨{ vars := [⟨Text.ofString "x", .let_, .global, false⟩] }, by decide +kernel, ?_⟩
  intro hall
  have hx : IsName (.ofText (Text.ofString "let x;[x]=y")) (Text.ofString "x")
      (.mk ⟨"identifier", 7, 8, true, false, none⟩ []) := ⟨rfl, by decide +kernel⟩
  have hmark := (hall _ (List.mem_singleton_self _)).2
    ⟨_, List.mem_singleton_self _, .element (by decide) (List.mem_singleton_self _) (.name hx)⟩
  cases hmark

end Extract

end CodeSurvey
