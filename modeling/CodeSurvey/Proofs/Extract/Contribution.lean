/-
  What one node contributes to a structure.

  * `mapM_eq_ok_iff`, `fault?_mapM`: when all elements of a list succeed, and which
    failure decides otherwise;
  * `Extract.importsAt`, `exportsAt`, `varsAt`, `constantsAt`, `assignedAt`: the
    contributions by the kind of the node;
  * `Extract.items_token`, `items_function`, `items_class`, `items_other`: the items of
    a node, case by case;
  * `Extract.Recordable`, `Extract.exists_items`, `Extract.recordable_of_items`: a node has
    items exactly if all its records can be made;
  * `Extract.sorted_items`: the items of a node, sort by sort.
-/
import CodeSurvey.Extract.Structure
import Mathlib.Data.List.Forall2

namespace CodeSurvey

/-- All elements succeed exactly with a list of their results. -/
theorem mapM_eq_ok_iff {α β γ : Type} {f : α → Except γ β} {l : List α} {r : List β} :
    l.mapM f = .ok r ↔ List.Forall₂ (fun a b => f a = .ok b) l r := by
  induction l generalizing r with
  | nil =>
    rw [List.mapM_nil, List.forall₂_nil_left_iff]
    exact ⟨fun h => (Except.ok.inj h).symm, fun h => congrArg Except.ok h.symm⟩
  | cons a l ih =>
    rw [List.mapM_cons, List.forall₂_cons_left_iff]
    cases ha : f a with
    | error c =>
      constructor
      · rintro ⟨⟩
      · rintro ⟨b, u, ⟨⟩, -⟩
    | ok b =>
      cases hl : l.mapM f with
      | error c =>
        constructor
        · rintro ⟨⟩
        · rintro ⟨b, u, -, hu, -⟩
          cases hl.symm.trans (ih.2 hu)
      | ok bs =>
        constructor
        · rintro ⟨⟩
          exact ⟨b, bs, rfl, ih.1 hl, rfl⟩
        · rintro ⟨b', u, ⟨⟩, hu, rfl⟩
          cases hl.symm.trans (ih.2 hu)
          rfl

theorem exists_mapM_eq_ok {α β γ : Type} {f : α → Except γ β} {l : List α}
    (h : ∀ a ∈ l, ∃ b, f a = .ok b) : ∃ r, l.mapM f = .ok r := by
  induction l with
  | nil => exact ⟨[], rfl⟩
  | cons a l ih =>
    obtain ⟨b, hb⟩ := h a (by simp)
    obtain ⟨r, hr⟩ := ih fun x hx => h x (by simp [hx])
    exact ⟨b :: r, mapM_eq_ok_iff.2 (.cons hb (mapM_eq_ok_iff.1 hr))⟩

theorem exists_of_mapM_eq_ok {α β γ : Type} {f : α → Except γ β} {l : List α} {r : List β} {a : α}
    (h : l.mapM f = .ok r) (ha : a ∈ l) : ∃ b, f a = .ok b := by
  obtain ⟨i, hi, rfl⟩ := List.getElem_of_mem ha
  have hall := mapM_eq_ok_iff.1 h
  exact ⟨_, hall.get hi (hall.length_eq ▸ hi)⟩

theorem eq_map_of_forall₂ {α β : Type} {R : α → β → Prop} {f : α → β} {l : List α} {r : List β}
    (h : List.Forall₂ R l r) (hf : ∀ a b, R a b → b = f a) : r = l.map f := by
  induction h with
  | nil => rfl
  | cons hab _ ih => rw [List.map_cons, ← ih, ← hf _ _ hab]

theorem exists_left_of_forall₂ {α β : Type} {R : α → β → Prop} {l : List α} {r : List β} {b : β}
    (h : List.Forall₂ R l r) (hb : b ∈ r) : ∃ a ∈ l, R a b := by
  induction h with
  | nil => cases hb
  | cons hab _ ih =>
    rcases List.mem_cons.1 hb with rfl | hb
    · exact ⟨_, List.mem_cons_self, hab⟩
    · obtain ⟨a, ha, hab⟩ := ih hb
      exact ⟨a, List.mem_cons_of_mem _ ha, hab⟩

theorem forall_of_forall₂ {α β : Type} {R : α → β → Prop} {P : β → Prop} {l : List α} {r : List β}
    (h : List.Forall₂ R l r) (hP : ∀ a b, R a b → P b) : ∀ b ∈ r, P b := by
  intro b hb
  obtain ⟨a, -, hab⟩ := exists_left_of_forall₂ h hb
  exact hP a b hab

/-- What went wrong, if anything did. -/
def fault? {α γ : Type} : Except γ α → Option γ
  | .error e => some e
  | .ok _ => none

theorem fault?_map {α β γ : Type} (f : α → β) (r : Except γ α) : fault? (r.map f) = fault? r := by
  cases r with
  | error e => rfl
  | ok a => rfl

/-- The first element that fails decides. -/
theorem fault?_mapM {α β γ : Type} (f : α → Except γ β) (l : List α) :
    fault? (l.mapM f) = l.findSome? fun a => fault? (f a) := by
  induction l with
  | nil => rfl
  | cons a l ih =>
    rw [List.mapM_cons, List.findSome?_cons, ← ih]
    cases f a with
    | error e => rfl
    | ok b =>
      cases l.mapM f with
      | error e => rfl
      | ok bs => rfl

namespace Extract

variable {s : Source} {p : Place} {n : Node}

/-! ## Contributions by kind -/

/-- The imports that a node makes. -/
def importsAt (s : Source) (p : Place) : List ImportInfo :=
  if p.node.kind = "import_statement" then staticImports s p.node
  else if p.node.kind = "call_expression" then callImports s p
  else []

/-- The exports that a node makes. -/
def exportsAt (s : Source) (p : Place) : List ExportInfo :=
  if p.node.kind = "export_statement" then exports s p.node else []

/-- The variables that a node declares. -/
def varsAt (s : Source) (p : Place) : List VariableInfo :=
  if p.node.isDeclaration then vars s p else []

/-- The constants that a node declares. -/
def constantsAt (s : Source) (p : Place) : List ConstantInfo :=
  if p.node.isDeclaration then constants s p else []

/-- The names that a node assigns to. -/
def assignedAt (s : Source) (p : Place) : List Text :=
  if p.node.kind = "assignment_expression" ∨ p.node.kind = "augmented_assignment_expression" then
    reassigned s (p.node.child? "left")
  else if p.node.kind = "update_expression" then reassigned s (p.node.child? "argument")
  else []

theorem kind_ne_of_isFunction (h : n.isFunction = true) {kind : String}
    (hk : kind ∉ Node.functionKinds) : n.kind ≠ kind := by
  rintro rfl
  exact hk (of_decide_eq_true h)

theorem kind_ne_of_isClass (h : n.isClass = true) {kind : String}
    (hk : kind ∉ Node.classKinds) : n.kind ≠ kind := by
  rintro rfl
  exact hk (of_decide_eq_true h)

theorem not_isDeclaration_of_ne (h : n.kind ≠ "lexical_declaration")
    (h' : n.kind ≠ "variable_declaration") : n.isDeclaration = false := by
  simp [Node.isDeclaration, Node.declarationKinds, h, h']

/-- A function is no class. -/
theorem not_isClass_of_isFunction (h : n.isFunction = true) : n.isClass = false := by
  have h1 := kind_ne_of_isFunction h (by decide : "class_declaration" ∉ Node.functionKinds)
  have h2 := kind_ne_of_isFunction h (by decide : "abstract_class_declaration" ∉ Node.functionKinds)
  simp [Node.isClass, Node.classKinds, h1, h2]

/-- The kinds of nodes that contribute something else than themselves. -/
def contributingKinds : List String :=
  ["import_statement", "call_expression", "export_statement", "lexical_declaration",
    "variable_declaration", "assignment_expression", "augmented_assignment_expression",
    "update_expression"]

theorem contributes_nothing (h : ∀ kind ∈ contributingKinds, p.node.kind ≠ kind) :
    importsAt s p = [] ∧ exportsAt s p = [] ∧ varsAt s p = [] ∧ constantsAt s p = [] ∧
      assignedAt s p = [] := by
  have hd := not_isDeclaration_of_ne (h "lexical_declaration" (by decide))
    (h "variable_declaration" (by decide))
  simp only [contributingKinds, List.mem_cons, List.not_mem_nil, or_false, forall_eq_or_imp,
    forall_eq] at h
  simp [importsAt, exportsAt, varsAt, constantsAt, assignedAt, hd, h]

theorem function_contributes_nothing (h : p.node.isFunction = true) :
    importsAt s p = [] ∧ exportsAt s p = [] ∧ varsAt s p = [] ∧ constantsAt s p = [] ∧
      assignedAt s p = [] := by
  have apart : ∀ kind ∈ contributingKinds, kind ∉ Node.functionKinds := by decide
  exact contributes_nothing fun kind hk => kind_ne_of_isFunction h (apart kind hk)

theorem class_contributes_nothing (h : p.node.isClass = true) :
    importsAt s p = [] ∧ exportsAt s p = [] ∧ varsAt s p = [] ∧ constantsAt s p = [] ∧
      assignedAt s p = [] := by
  have apart : ∀ kind ∈ contributingKinds, kind ∉ Node.classKinds := by decide
  exact contributes_nothing fun kind hk => kind_ne_of_isClass h (apart kind hk)

/-! ## The items of a node -/

theorem items_token (h : p.node.isNamed = false) : items s p = .ok [] := by
  simp [items, h]

theorem items_function (hn : p.node.isNamed = true) (h : p.node.isFunction = true) :
    items s p = (functionInfo s p.node (bindingName s p)).map fun f => [.function f] := by
  simp [items, hn, h]

theorem items_class (hn : p.node.isNamed = true) (h : p.node.isClass = true) :
    items s p = (classInfo s p.node).map fun c => [.class_ c] := by
  have hf : p.node.isFunction = false := by
    cases hf : p.node.isFunction with
    | false => rfl
    | true => cases h.symm.trans (not_isClass_of_isFunction hf)
  simp [items, hn, h, hf]

/-- The items of a node that is neither a function nor a class: all its contributions, of which
    its kind leaves one or, for a declaration, two. -/
theorem items_other (hn : p.node.isNamed = true) (hf : p.node.isFunction = false)
    (hc : p.node.isClass = false) :
    items s p = .ok ((importsAt s p).map .import_ ++ (exportsAt s p).map .export_ ++
      (constantsAt s p).map .constant ++ (varsAt s p).map .variable_ ++
      (assignedAt s p).map .reassigned) := by
  have hd : p.node.isDeclaration = true ↔
      p.node.kind = "lexical_declaration" ∨ p.node.kind = "variable_declaration" := by
    simp [Node.isDeclaration, Node.declarationKinds]
  -- the kinds exclude each other, which the order of the cases does not show
  have apart : p.node.kind = "lexical_declaration" ∨ p.node.kind = "variable_declaration" →
      ¬ (p.node.kind = "assignment_expression" ∨
        p.node.kind = "augmented_assignment_expression") := by
    rintro (h | h) <;> rw [h] <;> decide
  simp only [items, hn, hf, hc, Bool.not_true, Bool.false_eq_true, if_false, beq_iff_eq,
    Bool.or_eq_true, hd, importsAt, exportsAt, constantsAt, varsAt, assignedAt]
  split_ifs <;> simp_all

/-! ## Records -/

/-- The node does not end on a line before its start. -/
def Upright (s : Source) (n : Node) : Prop :=
  s.firstLine n ≤ s.lastLine n

instance (s : Source) (n : Node) : Decidable (Upright s n) :=
  inferInstanceAs (Decidable (s.firstLine n ≤ s.lastLine n))

/-- All records that a node calls for can be made. -/
def Recordable (s : Source) (n : Node) : Prop :=
  n.isNamed = true →
    (n.isFunction = true → Upright s n) ∧
      (n.isClass = true → Upright s n ∧ ∀ m ∈ methodNodes n, Upright s m)

instance (s : Source) (n : Node) : Decidable (Recordable s n) :=
  inferInstanceAs (Decidable (_ = true → (_ = true → Upright s n) ∧
    (_ = true → Upright s n ∧ ∀ m ∈ methodNodes n, Upright s m)))

theorem span_eq_ok_iff {range : Span} :
    span s n = .ok range ↔ range.first = s.firstLine n ∧ range.last = s.lastLine n := by
  obtain ⟨first, last, ordered⟩ := range
  unfold span Span.ofLines?
  by_cases h : s.firstLine n ≤ s.lastLine n
  · rw [dif_pos h]
    simp [eq_comm]
  · rw [dif_neg h]
    constructor
    · rintro ⟨⟩
    · rintro ⟨rfl, rfl⟩
      exact absurd ordered h

theorem exists_span (h : Upright s n) : ∃ range, span s n = .ok range :=
  ⟨⟨_, _, h⟩, span_eq_ok_iff.2 ⟨rfl, rfl⟩⟩

/-- The record of a function, from its span. -/
theorem functionInfo_eq_ok_iff {name : Text} {f : FunctionInfo} :
    functionInfo s n name = .ok f ↔ ∃ range, span s n = .ok range ∧ f =
      { name
        params := parameterNames s n
        returnType := returnType? s n
        isAsync := n.children.any fun c => c.kind == "async"
        isArrow := n.kind == "arrow_function"
        span := range
        complexity := complexity n
        calls := calledNames s n } := by
  unfold functionInfo
  cases hr : span s n with
  | error e =>
    constructor
    · rintro ⟨⟩
    · rintro ⟨range, ⟨⟩, -⟩
  | ok range =>
    constructor
    · rintro ⟨⟩
      exact ⟨range, rfl, rfl⟩
    · rintro ⟨range', ⟨⟩, rfl⟩
      rfl

theorem exists_functionInfo (h : Upright s n) (name : Text) :
    ∃ f, functionInfo s n name = .ok f := by
  obtain ⟨range, hr⟩ := exists_span h
  exact ⟨_, functionInfo_eq_ok_iff.2 ⟨range, hr, rfl⟩⟩

/-- The record of a class, from those of its methods. -/
theorem classInfo_eq_ok_iff {c : ClassInfo} :
    classInfo s n = .ok c ↔ ∃ methods range, (methodNodes n).mapM (methodInfo s) = .ok methods ∧
      span s n = .ok range ∧ c =
        { name := (nonEmpty? (s.textOf (n.child? "name"))).getD anonymous
          superclass := (heritage s n).1
          interfaces := (heritage s n).2
          methods
          properties := (members n).filterMap (propertyName? s)
          span := range } := by
  unfold classInfo
  cases hm : (methodNodes n).mapM (methodInfo s) with
  | error e =>
    constructor
    · rintro ⟨⟩
    · rintro ⟨ms, range, ⟨⟩, -⟩
  | ok ms =>
    cases hr : span s n with
    | error e =>
      constructor
      · rintro ⟨⟩
      · rintro ⟨ms, range, -, ⟨⟩, -⟩
    | ok range =>
      constructor
      · rintro ⟨⟩
        exact ⟨ms, range, rfl, rfl, rfl⟩
      · rintro ⟨ms', range', ⟨⟩, ⟨⟩, rfl⟩
        rfl

theorem exists_classInfo (h : Upright s n) (hm : ∀ m ∈ methodNodes n, Upright s m) :
    ∃ c, classInfo s n = .ok c := by
  obtain ⟨range, hr⟩ := exists_span h
  obtain ⟨ms, hms⟩ := exists_mapM_eq_ok fun m hm' => exists_functionInfo (hm m hm') _
  exact ⟨_, classInfo_eq_ok_iff.2 ⟨ms, range, hms, hr, rfl⟩⟩

/-- **A node of which all records can be made has items.** -/
theorem exists_items (h : Recordable s p.node) : ∃ its, items s p = .ok its := by
  cases hn : p.node.isNamed with
  | false => exact ⟨_, items_token hn⟩
  | true =>
    cases hf : p.node.isFunction with
    | true =>
      obtain ⟨f, hf'⟩ := exists_functionInfo ((h hn).1 hf) (bindingName s p)
      rw [items_function hn hf, hf']
      exact ⟨_, rfl⟩
    | false =>
      cases hc : p.node.isClass with
      | true =>
        obtain ⟨hu, hm⟩ := (h hn).2 hc
        obtain ⟨c, hc'⟩ := exists_classInfo hu hm
        rw [items_class hn hc, hc']
        exact ⟨_, rfl⟩
      | false => exact ⟨_, items_other hn hf hc⟩

theorem upright_of_span {range : Span} (h : span s n = .ok range) : Upright s n := by
  obtain ⟨hfirst, hlast⟩ := span_eq_ok_iff.1 h
  rw [Upright, ← hfirst, ← hlast]
  exact range.ordered

theorem span_of_functionInfo {name : Text} {f : FunctionInfo}
    (h : functionInfo s n name = .ok f) : span s n = .ok f.span := by
  obtain ⟨range, hr, rfl⟩ := functionInfo_eq_ok_iff.1 h
  exact hr

theorem span_of_classInfo {c : ClassInfo} (h : classInfo s n = .ok c) : span s n = .ok c.span := by
  obtain ⟨methods, range, -, hr, rfl⟩ := classInfo_eq_ok_iff.1 h
  exact hr

theorem upright_of_functionInfo {name : Text} {f : FunctionInfo}
    (h : functionInfo s n name = .ok f) : Upright s n :=
  upright_of_span (span_of_functionInfo h)

/-- **Of a node that has items all records can be made.** -/
theorem recordable_of_items {its : List Item} (h : items s p = .ok its) : Recordable s p.node := by
  intro hn
  constructor
  · intro hf
    rw [items_function hn hf] at h
    cases hr : functionInfo s p.node (bindingName s p) with
    | error e => rw [hr] at h; cases h
    | ok f => exact upright_of_functionInfo hr
  · intro hc
    rw [items_class hn hc] at h
    cases hr : classInfo s p.node with
    | error e => rw [hr] at h; cases h
    | ok c =>
      obtain ⟨methods, range, hms, hrange, -⟩ := classInfo_eq_ok_iff.1 hr
      refine ⟨upright_of_span hrange, ?_⟩
      intro m hm
      obtain ⟨f, hf⟩ := exists_of_mapM_eq_ok hms hm
      exact upright_of_functionInfo hf

/-! ## The items sorted by sort -/

/-- What the items of a node are, sort by sort. -/
structure Sorted (s : Source) (p : Place) (its : List Item) : Prop where
  functions : List.Forall₂ (fun q f => functionInfo s q.node (bindingName s q) = .ok f)
    (if p.node.isNamed && p.node.isFunction then [p] else []) (its.filterMap Item.asFunction?)
  classes : List.Forall₂ (fun q c => classInfo s q.node = .ok c)
    (if p.node.isNamed && p.node.isClass then [p] else []) (its.filterMap Item.asClass?)
  imports : its.filterMap Item.asImport? = if p.node.isNamed then importsAt s p else []
  exports : its.filterMap Item.asExport? = if p.node.isNamed then exportsAt s p else []
  vars : its.filterMap Item.asVariable? = if p.node.isNamed then varsAt s p else []
  constants : its.filterMap Item.asConstant? = if p.node.isNamed then constantsAt s p else []
  assigned : its.filterMap Item.asReassigned? = if p.node.isNamed then assignedAt s p else []

/-- **The items of a node, sort by sort.** -/
theorem sorted_items {its : List Item} (h : items s p = .ok its) : Sorted s p its := by
  cases hn : p.node.isNamed with
  | false =>
    cases (items_token hn).symm.trans h
    constructor <;> simp [hn]
  | true =>
    cases hf : p.node.isFunction with
    | true =>
      obtain ⟨hi, he, hv, hc, ha⟩ := function_contributes_nothing (s := s) hf
      rw [items_function hn hf] at h
      cases hr : functionInfo s p.node (bindingName s p) with
      | error e => rw [hr] at h; cases h
      | ok f =>
        rw [hr] at h
        cases h
        constructor <;>
          simp [hn, hf, hr, hi, he, hv, hc, ha, not_isClass_of_isFunction hf, Item.asFunction?,
            Item.asClass?, Item.asImport?, Item.asExport?, Item.asVariable?, Item.asConstant?,
            Item.asReassigned?]
    | false =>
      cases hk : p.node.isClass with
      | true =>
        obtain ⟨hi, he, hv, hc, ha⟩ := class_contributes_nothing (s := s) hk
        rw [items_class hn hk] at h
        cases hr : classInfo s p.node with
        | error e => rw [hr] at h; cases h
        | ok c =>
          rw [hr] at h
          cases h
          constructor <;>
            simp [hn, hf, hk, hr, hi, he, hv, hc, ha, Item.asFunction?, Item.asClass?,
              Item.asImport?, Item.asExport?, Item.asVariable?, Item.asConstant?,
              Item.asReassigned?]
      | false =>
        cases (items_other hn hf hk).symm.trans h
        constructor <;>
          simp [hn, hf, hk, List.filterMap_append, List.filterMap_map, Function.comp_def,
            Item.asFunction?, Item.asClass?, Item.asImport?, Item.asExport?, Item.asVariable?,
            Item.asConstant?, Item.asReassigned?]

end Extract

end CodeSurvey
