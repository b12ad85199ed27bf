/-
  What an exported declaration exports, the structure records.

  An export statement and the declaration in it are two nodes of the tree, and each contributes on
  its own.

  * `Extract.ExportedDeclaration`: an export statement at the top level with a declaration of names;
    `Extract.ExportedDeclaration.exports_eq`: what it exports;
  * `Extract.ExportedDeclaration.exists_spot`: both nodes are listed;
  * `Extract.recordedNames`: the names of the records of a sort;
  * `Extract.Published`, `Extract.exported_recorded`: the exports of such a statement beside what
    its declaration contributes.
-/
import CodeSurvey.Proofs.Extract.Scope

namespace CodeSurvey.Extract

variable {s : Source} {root st d name : Node} {c : CodeStructure} {kind : ExportKind}

/-! ## Export statements with a declaration -/

/-- The declarations, other than those of variables, that have a name to export. -/
def namedDeclarationKinds : List String :=
  ["function_declaration", "generator_function_declaration", "class_declaration",
    "abstract_class_declaration"]

/-- The statement, directly in the program, exports what the declaration declares: a function or
    class that has a name, or constants or variables. -/
structure ExportedDeclaration (s : Source) (root st d : Node) : Prop where
  program : root.kind = "program"
  statement : st ∈ root.namedChildren
  kind : st.kind = "export_statement"
  noDefault : ∀ child ∈ st.children, child.kind ≠ "default"
  declaration : st.child? "declaration" = some d
  named : d.isNamed = true
  declares : (d.kind ∈ namedDeclarationKinds ∧ s.textOf (d.child? "name") ≠ []) ∨
    (d.isDeclaration = true ∧ declarationKeyword d ∈ ["const", "let", "var"])

theorem not_isDeclaration_of_mem (h : d.kind ∈ namedDeclarationKinds) :
    d.isDeclaration = false := by
  have apart : ∀ kind ∈ namedDeclarationKinds, kind ∉ Node.declarationKinds := by decide
  exact decide_eq_false (apart d.kind h)

theorem isFunction_or_isClass_of_mem (h : d.kind ∈ namedDeclarationKinds) :
    d.isFunction = true ∨ (d.isFunction = false ∧ d.isClass = true) := by
  have hkinds : ∀ kind ∈ namedDeclarationKinds, kind ∈ Node.functionKinds ∨
      (kind ∉ Node.functionKinds ∧ kind ∈ Node.classKinds) := by decide
  rcases hkinds d.kind h with hf | ⟨hf, hk⟩
  · exact .inl (decide_eq_true hf)
  · exact .inr ⟨decide_eq_false hf, decide_eq_true hk⟩

theorem ExportedDeclaration.exports_eq (h : ExportedDeclaration s root st d) :
    exports s st = declaredExports s d := by
  have hdefault : (st.children.any fun child => child.kind == "default") = false := by
    simpa using h.noDefault
  rw [exports, hdefault, if_neg Bool.false_ne_true, h.declaration]

theorem ExportedDeclaration.exists_spot (h : ExportedDeclaration s root st d) :
    ∃ a b, ⟨a, ⟨st, [root]⟩⟩ ∈ root.spots ∧ ⟨b, ⟨d, [st, root]⟩⟩ ∈ root.spots := by
  obtain ⟨i, hi⟩ := List.getElem?_of_mem (Node.mem_children_of_mem_namedChildren h.statement)
  obtain ⟨j, hj⟩ := List.getElem?_of_mem (Node.child?_mem h.declaration)
  have hst : ⟨[i], ⟨st, [root]⟩⟩ ∈ root.spots := by
    rw [Node.mem_spots_iff]
    refine ⟨List.cons_ne_nil _ _, ?_⟩
    simp [Place.at?, Place.children, hi]
  exact ⟨[i], [i] ++ [j], hst, Node.child_mem_spots hst hj⟩

/-! ## The exports of a declaration -/

theorem declaredExports_of_name (hd : d.isDeclaration = false) (hkind : exportKind? d = some kind)
    (hname : d.child? "name" = some name) :
    declaredExports s d = [{ name := s.text name, kind }] := by
  rw [declaredExports, hd, if_neg Bool.false_ne_true, hkind, hname]

theorem declaredExports_of_isDeclaration (hd : d.isDeclaration = true) :
    (declaredExports s d).map (fun e => (e.name, e.kind)) = (declarators s d).map fun v =>
      (v.1, if declarationKeyword d = "const" then ExportKind.const else .variable) := by
  rw [declaredExports, if_pos hd, List.map_map]
  simp only [beq_iff_eq]
  rfl

/-! ## The records of a node -/

section Records

variable {sp : Spot}

theorem infix_flatMap {α β : Type} {f : α → List β} {l : List α} {x : α} (h : x ∈ l) :
    f x <:+: l.flatMap f := by
  rw [List.flatMap_def]
  exact List.infix_of_mem_flatten (List.mem_map_of_mem h)

theorem mem_namedSpots (h : sp ∈ root.spots) (hn : sp.place.node.isNamed = true) :
    sp ∈ root.namedSpots :=
  List.mem_filter.2 ⟨h, hn⟩

/-- A function of the tree is recorded under the name it is bound to. -/
theorem Inventory.exists_function (hi : Inventory s root c) (h : sp ∈ root.spots)
    (hn : sp.place.node.isNamed = true) (hf : sp.place.node.isFunction = true) :
    ∃ f ∈ c.functions, f.name = bindingName s sp.place := by
  have hsp : sp ∈ root.functionSpots := List.mem_filter.2 ⟨h, by rw [hn, hf]; rfl⟩
  obtain ⟨f, hmem, hinfo⟩ := exists_left_of_forall₂ hi.functions.flip hsp
  obtain ⟨range, -, rfl⟩ := functionInfo_eq_ok_iff.1 hinfo
  exact ⟨_, hmem, rfl⟩

/-- A class of the tree is recorded under its name. -/
theorem Inventory.exists_class (hi : Inventory s root c) (h : sp ∈ root.spots)
    (hn : sp.place.node.isNamed = true) (hk : sp.place.node.isClass = true) :
    ∃ k ∈ c.classes,
      k.name = (nonEmpty? (s.textOf (sp.place.node.child? "name"))).getD anonymous := by
  have hsp : sp ∈ root.classSpots := List.mem_filter.2 ⟨h, by rw [hn, hk]; rfl⟩
  obtain ⟨k, hmem, hinfo, -⟩ := exists_left_of_forall₂ hi.classes.flip hsp
  obtain ⟨methods, range, -, -, rfl⟩ := classInfo_eq_ok_iff.1 hinfo
  exact ⟨_, hmem, rfl⟩

end Records

/-- The names of the records of a sort. -/
def recordedNames (c : CodeStructure) : ExportKind → List Text
  | .function => c.functions.map FunctionInfo.name
  | .class_ => c.classes.map ClassInfo.name
  | .const => c.constants.map ConstantInfo.name
  | .variable => c.vars.map VariableInfo.name

/-! ## Exports beside records -/

/-- What an export statement exports is recorded.  A function or class makes one export; constants
    and variables make those of their names, in order, and the variables are global. -/
structure Published (s : Source) (root : Node) (c : CodeStructure) (st d : Node) : Prop where
  exports : exports s st <:+: c.exports
  recorded : ∀ e ∈ Extract.exports s st, e.name ∈ recordedNames c e.kind
  single : d.isDeclaration = false → ∃ e, Extract.exports s st = [e]
  constants : d.isDeclaration = true → declarationKeyword d = "const" →
    (Extract.exports s st).map (fun e => (e.name, e.kind)) =
      (constantsAt s ⟨d, [st, root]⟩).map fun k => (k.name, .const)
  vars : d.isDeclaration = true → declarationKeyword d ≠ "const" →
    (Extract.exports s st).map (fun e => (e.name, e.kind)) =
      (varsAt s ⟨d, [st, root]⟩).map fun v => (v.name, .variable)
  constantsRecorded : constantsAt s ⟨d, [st, root]⟩ <:+: c.constants
  varsRecorded : ((varsAt s ⟨d, [st, root]⟩).map fun v => (v.name, v.scope)) <:+:
    c.vars.map fun v => (v.name, v.scope)
  global : ∀ v ∈ varsAt s ⟨d, [st, root]⟩, v.scope = .global

namespace ExportedDeclaration

variable (h : ExportedDeclaration s root st d)

include h

theorem isTopLevel : isTopLevel ⟨d, [st, root]⟩ = true :=
  isTopLevel_iff.2 ⟨root, [], h.program, .inr ⟨st, h.kind, rfl⟩⟩

theorem constants_eq (hd : d.isDeclaration = true) (hconst : declarationKeyword d = "const") :
    (exports s st).map (fun e => (e.name, e.kind)) =
      (constantsAt s ⟨d, [st, root]⟩).map fun k => (k.name, .const) := by
  rw [h.exports_eq, declaredExports_of_isDeclaration hd, if_pos hconst, constantsAt, if_pos hd,
    constants, hconst, h.isTopLevel, if_pos (by decide), List.map_map]
  rfl

/-- A declaration under another keyword than that of constants declares variables. -/
theorem exists_variableKind? (hd : d.isDeclaration = true)
    (hconst : declarationKeyword d ≠ "const") :
    ∃ kind, variableKind? (declarationKeyword d) = some kind := by
  rcases h.declares with ⟨hkind, -⟩ | ⟨-, hkeyword⟩
  · cases hd.symm.trans (not_isDeclaration_of_mem hkind)
  · simp only [List.mem_cons, List.not_mem_nil, or_false] at hkeyword
    rcases hkeyword with hkeyword | hkeyword | hkeyword
    · exact absurd hkeyword hconst
    · exact ⟨.let_, by rw [hkeyword]; rfl⟩
    · exact ⟨.var, by rw [hkeyword]; rfl⟩

theorem vars_eq (hd : d.isDeclaration = true) (hconst : declarationKeyword d ≠ "const") :
    (exports s st).map (fun e => (e.name, e.kind)) =
      (varsAt s ⟨d, [st, root]⟩).map fun v => (v.name, .variable) := by
  obtain ⟨kind, hkind⟩ := h.exists_variableKind? hd hconst
  rw [h.exports_eq, declaredExports_of_isDeclaration hd, varsAt, if_pos hd, vars, hkind,
    List.map_map, if_neg hconst]
  rfl

theorem global : ∀ v ∈ varsAt s ⟨d, [st, root]⟩, v.scope = .global := by
  intro v hv
  rw [scope_of_mem_vars (mem_varsAt_iff.1 hv).2, scopeOf_of_isTopLevel h.isTopLevel]

/-- A function or class makes one export, under the name of its record. -/
theorem exists_exports_eq_singleton (hi : Inventory s root c)
    (hkind : d.kind ∈ namedDeclarationKinds) (hname : s.textOf (d.child? "name") ≠ []) :
    ∃ e, exports s st = [e] ∧ e.name ∈ recordedNames c e.kind := by
  obtain ⟨a, b, -, hspot⟩ := h.exists_spot
  obtain ⟨name, hn⟩ : ∃ name, d.child? "name" = some name := by
    refine Option.ne_none_iff_exists'.1 fun hnone => hname ?_
    rw [hnone, Source.textOf]
  have hd := not_isDeclaration_of_mem hkind
  rw [h.exports_eq]
  rcases isFunction_or_isClass_of_mem hkind with hf | ⟨hf, hk⟩
  · have hexport : exportKind? d = some .function := by
      simp [exportKind?, h.named, hf]
    obtain ⟨f, hmem, hfname⟩ := hi.exists_function hspot h.named hf
    refine ⟨_, declaredExports_of_name hd hexport hn, List.mem_map.2 ⟨f, hmem, ?_⟩⟩
    rw [hfname, bindingName, hn]
  · have hexport : exportKind? d = some .class_ := by
      simp [exportKind?, h.named, hf, hk]
    obtain ⟨k, hmem, hkname⟩ := hi.exists_class hspot h.named hk
    refine ⟨_, declaredExports_of_name hd hexport hn, List.mem_map.2 ⟨k, hmem, ?_⟩⟩
    rw [hn] at hname
    rw [hkname, hn, nonEmpty?, if_neg (by simpa using hname)]
    rfl

theorem exports_within (hi : Inventory s root c) : exports s st <:+: c.exports := by
  obtain ⟨a, b, hspot, -⟩ := h.exists_spot
  have hnamed : st.isNamed = true := (List.mem_filter.1 h.statement).2
  have hwithin := infix_flatMap (f := fun sp : Spot => exportsAt s sp.place)
    (mem_namedSpots hspot hnamed)
  rw [exportsAt, if_pos h.kind] at hwithin
  rw [hi.exports]
  exact hwithin

theorem spot_mem_namedSpots : ∃ b, ⟨b, ⟨d, [st, root]⟩⟩ ∈ root.namedSpots := by
  obtain ⟨a, b, -, hspot⟩ := h.exists_spot
  exact ⟨b, mem_namedSpots hspot h.named⟩

theorem constants_within (hi : Inventory s root c) :
    constantsAt s ⟨d, [st, root]⟩ <:+: c.constants := by
  obtain ⟨b, hspot⟩ := h.spot_mem_namedSpots
  rw [hi.constants]
  exact infix_flatMap (f := fun sp : Spot => constantsAt s sp.place) hspot

theorem vars_within (hi : Inventory s root c) :
    ((varsAt s ⟨d, [st, root]⟩).map fun v => (v.name, v.scope)) <:+:
      c.vars.map fun v => (v.name, v.scope) := by
  obtain ⟨b, hspot⟩ := h.spot_mem_namedSpots
  have hwithin := infix_flatMap (f := fun sp : Spot => varsAt s sp.place) hspot
  rw [hi.vars, List.map_map]
  exact hwithin.map fun v => (v.name, v.scope)

/-- The constants and variables of the declaration are recorded under the names of its exports. -/
theorem recorded_of_isDeclaration (hi : Inventory s root c) (hd : d.isDeclaration = true) :
    ∀ e ∈ exports s st, e.name ∈ recordedNames c e.kind := by
  intro e he
  have hpair := List.mem_map_of_mem (f := fun e : ExportInfo => (e.name, e.kind)) he
  by_cases hconst : declarationKeyword d = "const"
  · rw [h.constants_eq hd hconst] at hpair
    obtain ⟨k, hk, heq⟩ := List.mem_map.1 hpair
    obtain ⟨hname, hkind⟩ := Prod.mk.inj heq
    rw [← hname, ← hkind]
    exact List.mem_map_of_mem ((h.constants_within hi).subset hk)
  · rw [h.vars_eq hd hconst] at hpair
    obtain ⟨v, hv, heq⟩ := List.mem_map.1 hpair
    obtain ⟨hname, hkind⟩ := Prod.mk.inj heq
    obtain ⟨w, hw, hsame⟩ := List.mem_map.1 ((h.vars_within hi).subset (List.mem_map_of_mem hv))
    rw [← hname, ← hkind]
    exact List.mem_map.2 ⟨w, hw, (Prod.mk.inj hsame).1⟩

/-- **The exports of a statement beside the records of its declaration.** -/
theorem published (hi : Inventory s root c) : Published s root c st d where
  exports := h.exports_within hi
  recorded := by
    rcases h.declares with ⟨hkind, hname⟩ | ⟨hd, -⟩
    · obtain ⟨e, he, hmem⟩ := h.exists_exports_eq_singleton hi hkind hname
      rw [he, List.forall_mem_singleton]
      exact hmem
    · exact h.recorded_of_isDeclaration hi hd
  single := by
    intro hd
    rcases h.declares with ⟨hkind, hname⟩ | ⟨hd', -⟩
    · obtain ⟨e, he, -⟩ := h.exists_exports_eq_singleton hi hkind hname
      exact ⟨e, he⟩
    · cases hd'.symm.trans hd
  constants := h.constants_eq
  vars := h.vars_eq
  constantsRecorded := h.constants_within hi
  varsRecorded := h.vars_within hi
  global := h.global

end ExportedDeclaration

/-- **Exported declarations are recorded declarations.**  In a tree that has a structure, all that
    an export statement of a declaration exports is recorded, under the same name and sort. -/
theorem exported_recorded (h : structureOf s root = .ok c) :
    ∀ st d, ExportedDeclaration s root st d → Published s root c st d :=
  fun _ _ hd => hd.published (inventory_of_ok h)

/-- Two exports: of variables, one of them in a pattern, and of a function. -/
def exportsText : Text :=
  Text.ofString "export let x,[p],y;export function f()\x7b\x7d"

def exportedVariables : Node :=
  .mk ⟨"lexical_declaration", 7, 19, true, false, some "declaration"⟩
    [.mk ⟨"let", 7, 10, false, false, some "kind"⟩ [],
      .mk ⟨"variable_declarator", 11, 12, true, false, none⟩
        [.mk ⟨"identifier", 11, 12, true, false, some "name"⟩ []],
      .mk ⟨"variable_declarator", 13, 16, true, false, none⟩
        [.mk ⟨"array_pattern", 13, 16, true, false, some "name"⟩
          [.mk ⟨"identifier", 14, 15, true, false, none⟩ []]],
      .mk ⟨"variable_declarator", 17, 18, true, false, none⟩
        [.mk ⟨"identifier", 17, 18, true, false, some "name"⟩ []]]

def exportedFunction : Node :=
  .mk ⟨"function_declaration", 26, 40, true, false, some "declaration"⟩
    [.mk ⟨"identifier", 35, 36, true, false, some "name"⟩ [],
      .mk ⟨"formal_parameters", 36, 38, true, false, some "parameters"⟩ [],
      .mk ⟨"statement_block", 38, 40, true, false, some "body"⟩ []]

/-- An export statement with a declaration. -/
def exportOf (start stop : Nat) (declaration : Node) : Node :=
  .mk ⟨"export_statement", start, stop, true, false, none⟩
    [.mk ⟨"export", start, start + 6, false, false, none⟩ [], declaration]

def exportsTree : Node :=
  .mk ⟨"program", 0, 40, true, false, none⟩
    [exportOf 0 19 exportedVariables, exportOf 19 40 exportedFunction]

/-- The two plain names and the function are exported and recorded. -/
theorem exported_recorded_names :
    ExportedDeclaration (.ofText exportsText) exportsTree (exportOf 0 19 exportedVariables)
      exportedVariables ∧
    ExportedDeclaration (.ofText exportsText) exportsTree (exportOf 19 40 exportedFunction)
      exportedFunction ∧
    ∃ c, structureOf (.ofText exportsText) exportsTree = .ok c ∧
      c.exports.map (fun e => (e.name, e.kind)) = [(Text.ofString "x", .variable),
        (Text.ofString "y", .variable), (Text.ofString "f", .function)] ∧
      Published (.ofText exportsText) exportsTree c (exportOf 0 19 exportedVariables)
        exportedVariables ∧
      Published (.ofText exportsText) exportsTree c (exportOf 19 40 exportedFunction)
        exportedFunction := by
  have hvariables : ExportedDeclaration (.ofText exportsText) exportsTree
      (exportOf 0 19 exportedVariables) exportedVariables := {
    program := rfl
    statement := List.mem_filter.2 ⟨.head _, rfl⟩
    kind := rfl
    noDefault := by decide +kernel
    declaration := rfl
    named := rfl
    declares := .inr ⟨rfl, by decide +kernel⟩ }
  have hfunction : ExportedDeclaration (.ofText exportsText) exportsTree
      (exportOf 19 40 exportedFunction) exportedFunction := {
    program := rfl
    statement := List.mem_filter.2 ⟨.tail _ (.head _), rfl⟩
    kind := rfl
    noDefault := by decide +kernel
    declaration := rfl
    named := rfl
    declares := .inl ⟨by decide +kernel, by decide +kernel⟩ }
  have hshown : (structureOf (.ofText exportsText) exportsTree).map
      (fun c => c.exports.map fun e => (e.name, e.kind)) =
        .ok [(Text.ofString "x", .variable), (Text.ofString "y", .variable),
          (Text.ofString "f", .function)] := by decide +kernel
  cases hc : structureOf (.ofText exportsText) exportsTree with
  | error e =>
    rw [hc] at hshown
    cases hshown
  | ok c =>
    rw [hc] at hshown
    have hpublished := exported_recorded hc
    exact ⟨hvariables, hfunction, c, rfl, Except.ok.inj hshown, hpublished _ _ hvariables,
      hpublished _ _ hfunction⟩

end CodeSurvey.Extract
