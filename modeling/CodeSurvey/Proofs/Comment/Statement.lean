/-
  Imports, declarations, exports and assignments in a tree without its comments.

  Two readings may meet a comment: the keyword of a declaration is its first child, and
  an assignment in parentheses targets the first child inside.

  * `Extract.properKeyword`, `Extract.properReassigned`: these readings with comments
    passed over;
  * `Extract.varsUnder`, `Extract.constantsUnder`, `Extract.exportsUnder`: what a
    statement contributes under a given reading of the keyword;
  * `Extract.importsAt_withoutComments`, `Extract.exportsAt_withoutComments`,
    `Extract.varsAt_withoutComments`, `Extract.constantsAt_withoutComments`,
    `Extract.assignedAt_withoutComments`: the contributions of one node.
-/
import CodeSurvey.Proofs.Comment.Record

namespace CodeSurvey.Extract

variable {s : Source} {n : Node} {p : Place}

/-! ## Imports -/

theorem stringValue_withoutComments (o : Option Node) :
    stringValue s (o.map Node.withoutComments) = stringValue s o := by
  rw [stringValue, Source.textOf_withoutComments, stringValue]

theorem localName?_withoutComments : localName? s n.withoutComments = localName? s n := by
  unfold localName?
  rw [Node.namedChildren_withoutComments, Node.find?_kind_dropComments (by decide),
    Source.textOf_withoutComments]

theorem specifierBinding_withoutComments (h : n.LooseComments) :
    specifierBinding s n.withoutComments = specifierBinding s n := by
  unfold specifierBinding
  rw [h.child?_withoutComments, h.child?_withoutComments, stringValue_withoutComments,
    Option.map_map]
  rw [s.text_comp_withoutComments]

theorem partBindings_withoutComments (h : n.LooseComments) :
    partBindings s n.withoutComments = partBindings s n := by
  unfold partBindings
  rw [Node.kind_withoutComments, Source.text_withoutComments, localName?_withoutComments,
    Node.namedChildren_withoutComments, Node.filter_kind_dropComments (by decide), List.map_map]
  have hspec : (n.namedChildren.filter fun c => c.kind == "import_specifier").map
      (specifierBinding s ∘ Node.withoutComments) =
        (n.namedChildren.filter fun c => c.kind == "import_specifier").map (specifierBinding s) :=
    List.map_congr_left fun c hc => specifierBinding_withoutComments
      (h.namedChild (List.mem_filter.1 hc).1)
  rw [hspec]

theorem addImport_withoutComments (h : n.LooseComments) (known : ImportInfo) :
    addImport s known n.withoutComments = addImport s known n := by
  unfold addImport
  have hparts : (Node.dropComments n.namedChildren).flatMap (partBindings s) =
      n.namedChildren.flatMap (partBindings s) := by
    refine Node.flatMap_dropComments (fun c _ hc => ?_) fun c hc => ?_
    · simp [partBindings, Node.kind_ne_of_isComment hc]
    · exact partBindings_withoutComments (h.namedChild hc)
  rw [Node.kind_withoutComments, h.child?_withoutComments, stringValue_withoutComments,
    localName?_withoutComments, Node.namedChildren_withoutComments,
    Node.any_kind_dropComments (by decide), hparts]

theorem staticImports_withoutComments (h : n.LooseComments) :
    staticImports s n.withoutComments = staticImports s n := by
  unfold staticImports
  rw [h.child?_withoutComments, stringValue_withoutComments, Source.firstLine_withoutComments,
    Node.namedChildren_withoutComments]
  refine congrArg keepNamed (Node.foldl_dropComments (fun c _ hc known => ?_)
    (fun c hc known => ?_) _)
  · simp [addImport, Node.kind_ne_of_isComment hc]
  · exact addImport_withoutComments (h.namedChild hc) known

theorem firstArgument?_withoutComments :
    firstArgument? n.withoutComments = (firstArgument? n).map Node.withoutComments := by
  unfold firstArgument?
  rw [Node.namedChildren_withoutComments]
  refine Node.find?_dropComments (fun c _ hc => ?_) fun c _ => by rw [Node.kind_withoutComments]
  rw [eq_of_beq hc]
  rfl

theorem initialisedName?_withoutComments (h : p.LooseComments) :
    initialisedName? s p.withoutComments = initialisedName? s p := by
  unfold initialisedName?
  rw [declaredName_withoutComments h]
  cases (p.parent?.filter fun n => n.kind == "variable_declarator").bind (·.child? "name") with
  | none => rfl
  | some name => simp

theorem callImports_withoutComments (h : p.LooseComments) :
    callImports s p.withoutComments = callImports s p := by
  unfold callImports
  rw [initialisedName?_withoutComments h, Place.node_withoutComments,
    h.node.child?_withoutComments, h.node.child?_withoutComments, Source.firstLine_withoutComments]
  cases p.node.child? "function" with
  | none => rfl
  | some callee =>
    cases p.node.child? "arguments" with
    | none => rfl
    | some arguments =>
      simp only [Option.map_some, firstArgument?_withoutComments, Node.kind_withoutComments,
        Source.text_withoutComments]
      cases firstArgument? arguments with
      | none => rfl
      | some first =>
        have hvalue : stringValue s (some first.withoutComments) = stringValue s (some first) :=
          stringValue_withoutComments (some first)
        simp only [Option.map_some, Node.kind_withoutComments, hvalue]

/-! ## Declarations -/

/-- The keyword of a declaration, comments passed over. -/
def properKeyword (n : Node) : String :=
  if n.kind == "variable_declaration" then "var"
  else match Node.proper n.children with
    | first :: _ => first.kind
    | [] => "let"

theorem declarationKeyword_withoutComments (n : Node) :
    declarationKeyword n.withoutComments = properKeyword n := by
  unfold declarationKeyword properKeyword
  rw [Node.kind_withoutComments, Node.children_withoutComments, Node.dropComments_eq]
  cases Node.proper n.children with
  | nil => rfl
  | cons first rest => simp

/-- A comment keeps the keyword from being read, if it is the first child. -/
theorem declarationKeyword_eq (n : Node) :
    declarationKeyword n = properKeyword n ∨ declarationKeyword n = "comment" := by
  unfold declarationKeyword properKeyword
  -- the keyword of a variable declaration is known without its children
  split
  · exact Or.inl rfl
  · cases n.children with
    | nil => exact Or.inl rfl
    | cons first rest =>
      cases hc : first.isComment with
      | true => exact Or.inr (eq_of_beq hc)
      | false => simp [Node.proper, hc]

theorem declarators_withoutComments (h : n.LooseComments) :
    declarators s n.withoutComments =
      (declarators s n).map fun d => (d.1, d.2.map Node.withoutComments) := by
  unfold declarators
  rw [Node.namedChildren_withoutComments, List.map_filterMap]
  refine Node.filterMap_dropComments (fun c _ hc => ?_) fun c hc => ?_
  · simp [Node.kind_ne_of_isComment hc]
  · have hc := h.namedChild hc
    rw [Node.kind_withoutComments, hc.child?_withoutComments, hc.child?_withoutComments]
    split
    · cases c.child? "name" with
      | none => rfl
      | some name => simp [Option.filter_some, apply_ite]
    · rfl

theorem map_declarators_withoutComments {β : Type} (h : n.LooseComments) (f : Text → β) :
    (declarators s n.withoutComments).map (fun d => f d.1) =
      (declarators s n).map fun d => f d.1 := by
  rw [declarators_withoutComments h, List.map_map]
  rfl

theorem isTopLevel_withoutComments (p : Place) : isTopLevel p.withoutComments = isTopLevel p := by
  obtain ⟨n, above⟩ := p
  unfold isTopLevel Place.withoutComments
  cases above with
  | nil => rfl
  | cons parent rest =>
    simp only [List.map_cons, Node.kind_withoutComments, List.head?_map]
    split
    · cases rest.head? with
      | none => rfl
      | some a => simp
    · simp

theorem scopeOf_withoutComments (above : List Node) :
    scopeOf (above.map Node.withoutComments) = scopeOf above := by
  induction above with
  | nil => rfl
  | cons parent rest ih =>
    rw [List.map_cons, scopeOf, scopeOf, ih, List.head?_map, Node.kind_withoutComments,
      Node.isFunctionScope_withoutComments]
    cases rest.head? with
    | none => rfl
    | some a => simp

theorem literal_withoutComments (o : Option Node) :
    literal s (o.map Node.withoutComments) = literal s o := by
  cases o with
  | none => rfl
  | some n =>
    have hvalue : stringValue s (some n.withoutComments) = stringValue s (some n) :=
      stringValue_withoutComments (some n)
    simp only [Option.map_some, literal, Node.kind_withoutComments, Source.text_withoutComments,
      Node.isFunction_withoutComments, hvalue]

/-- The variables that a declaration declares under a keyword. -/
def varsUnder (s : Source) (keyword : String) (p : Place) : List VariableInfo :=
  match variableKind? keyword with
  | some kind =>
    (declarators s p.node).map fun d => { name := d.1, kind, scope := scopeOf p.ancestors }
  | none => []

/-- The constants that a declaration declares under a keyword. -/
def constantsUnder (s : Source) (keyword : String) (p : Place) : List ConstantInfo :=
  if keyword == "const" && isTopLevel p then
    (declarators s p.node).map fun d =>
      { name := d.1, value := (literal s d.2).1, type := (literal s d.2).2 }
  else []

theorem vars_withoutComments (h : p.LooseComments) :
    vars s p.withoutComments = varsUnder s (properKeyword p.node) p := by
  unfold vars varsUnder
  rw [Place.node_withoutComments, declarationKeyword_withoutComments,
    Place.ancestors_withoutComments,
    scopeOf_withoutComments]
  cases variableKind? (properKeyword p.node) with
  | none => rfl
  | some kind =>
    exact map_declarators_withoutComments h.node fun name =>
      ({ name, kind, scope := scopeOf p.ancestors } : VariableInfo)

theorem constants_withoutComments (h : p.LooseComments) :
    constants s p.withoutComments = constantsUnder s (properKeyword p.node) p := by
  unfold constants constantsUnder
  rw [isTopLevel_withoutComments, Place.node_withoutComments,
    declarationKeyword_withoutComments, declarators_withoutComments h.node, List.map_map]
  simp only [Function.comp_def, literal_withoutComments]

/-! ## Exports -/

theorem exportKind?_withoutComments (n : Node) :
    exportKind? n.withoutComments = exportKind? n := by
  simp only [exportKind?, Node.isNamed_withoutComments, Node.isFunction_withoutComments,
    Node.isClass_withoutComments, Node.isDeclaration_withoutComments, Node.kind_withoutComments]

theorem defaultExport_withoutComments (h : n.LooseComments) :
    defaultExport s n.withoutComments = defaultExport s n := by
  have htext : s.textOf (if n.kind == "identifier" then some n.withoutComments
      else (n.child? "name").map Node.withoutComments) =
        s.textOf (if n.kind == "identifier" then some n else n.child? "name") := by
    split
    · exact Source.textOf_withoutComments s (some n)
    · exact Source.textOf_withoutComments s (n.child? "name")
  simp only [defaultExport, Node.kind_withoutComments, exportKind?_withoutComments,
    h.child?_withoutComments, htext]

theorem specifierExport_withoutComments (h : n.LooseComments) :
    specifierExport s n.withoutComments = specifierExport s n := by
  unfold specifierExport
  rw [h.child?_withoutComments, h.child?_withoutComments, ← Option.map_or,
    stringValue_withoutComments]

theorem listedExports_withoutComments (h : n.LooseComments) :
    listedExports s n.withoutComments = listedExports s n := by
  unfold listedExports
  rw [Node.namedChildren_withoutComments, Node.filter_kind_dropComments (by decide),
    List.flatMap_map]
  refine List.flatMap_congr fun clause hc => ?_
  have hclause := h.namedChild (List.mem_filter.1 hc).1
  rw [Node.namedChildren_withoutComments, Node.filter_kind_dropComments (by decide), List.map_map]
  exact List.map_congr_left fun c hc => specifierExport_withoutComments
    (hclause.namedChild (List.mem_filter.1 hc).1)

/-- The exports of a declaration under a keyword. -/
def declaredExportsUnder (s : Source) (keyword : String) (declaration : Node) : List ExportInfo :=
  if declaration.isDeclaration then
    let kind := if keyword == "const" then .const else .variable
    (declarators s declaration).map fun d => { name := d.1, kind }
  else match exportKind? declaration, declaration.child? "name" with
    | some kind, some name => [{ name := s.text name, kind }]
    | _, _ => []

theorem declaredExports_withoutComments (h : n.LooseComments) :
    declaredExports s n.withoutComments = declaredExportsUnder s (properKeyword n) n := by
  unfold declaredExports declaredExportsUnder
  rw [Node.isDeclaration_withoutComments, declarationKeyword_withoutComments,
    exportKind?_withoutComments, h.child?_withoutComments]
  have hnames := fun kind => map_declarators_withoutComments (s := s) h fun name =>
    ({ name, kind } : ExportInfo)
  simp only [hnames]
  cases exportKind? n with
  | none => rfl
  | some kind =>
    cases n.child? "name" with
    | none => rfl
    | some name => simp

/-- The exports of a statement under a reading of keywords. -/
def exportsUnder (s : Source) (keyword : Node → String) (n : Node) : List ExportInfo :=
  let declaration := n.child? "declaration"
  if n.children.any fun c => c.kind == "default" then
    ((declaration.or (n.child? "value")).toList).map (defaultExport s)
  else match declaration with
    | some d => declaredExportsUnder s (keyword d) d
    | none => listedExports s n

theorem exports_eq (s : Source) (n : Node) : exports s n = exportsUnder s declarationKeyword n :=
  rfl

theorem exports_withoutComments (h : n.LooseComments) :
    exports s n.withoutComments = exportsUnder s properKeyword n := by
  have hor : (((n.child? "declaration").map Node.withoutComments).or
      ((n.child? "value").map Node.withoutComments)).toList.map (defaultExport s) =
        ((n.child? "declaration").or (n.child? "value")).toList.map (defaultExport s) := by
    rw [← Option.map_or]
    cases ho : (n.child? "declaration").or (n.child? "value") with
    | none => rfl
    | some target =>
      have htarget : target ∈ n.children := by
        rcases Option.or_eq_some_iff.1 ho with hd | ⟨-, hv⟩
        · exact Node.child?_mem hd
        · exact Node.child?_mem hv
      simp [defaultExport_withoutComments (h.child htarget)]
  unfold exports exportsUnder
  simp only [h.child?_withoutComments, Node.children_withoutComments,
    Node.any_kind_dropComments (by decide : "default" ≠ "comment"),
    listedExports_withoutComments h, hor]
  cases hd : n.child? "declaration" with
  | none => rfl
  | some d =>
    simp only [Option.map_some, declaredExports_withoutComments (h.field hd)]

/-! ## Assignments -/

/-- The plain name that an assignment targets, comments passed over. -/
def properReassigned (s : Source) (target : Option Node) : List Text :=
  match target with
  | none => []
  | some n =>
    let inner := if n.kind == "parenthesized_expression" then
        (Node.proper n.namedChildren).head?.getD n
      else n
    if inner.kind == "identifier" then [s.text inner] else []

theorem reassigned_withoutComments (target : Option Node) :
    reassigned s (target.map Node.withoutComments) = properReassigned s target := by
  cases target with
  | none => rfl
  | some n =>
    simp only [Option.map_some, reassigned, properReassigned, Node.kind_withoutComments,
      Node.namedChildren_withoutComments, Node.dropComments_eq, List.head?_map]
    cases hp : n.kind == "parenthesized_expression" with
    | false => simp
    | true =>
      cases (Node.proper n.namedChildren).head? with
      | none => simp
      | some c => simp

/-- A comment keeps the name from being read, if it comes first in parentheses. -/
theorem reassigned_eq (s : Source) (target : Option Node) :
    reassigned s target = properReassigned s target ∨ reassigned s target = [] := by
  cases target with
  | none => exact Or.inl rfl
  | some n =>
    simp only [reassigned, properReassigned]
    cases hp : n.kind == "parenthesized_expression" with
    | false => exact Or.inl rfl
    | true =>
      cases hns : n.namedChildren with
      | nil => exact Or.inl rfl
      | cons c cs =>
        cases hc : c.isComment with
        | true => exact Or.inr (by simp [Node.kind_ne_of_isComment hc])
        | false => exact Or.inl (by simp [Node.proper, hc])

/-! ## The contributions of one node -/

/-- A comment contributes nothing. -/
theorem comment_contributes_nothing (h : p.node.isComment = true) :
    importsAt s p = [] ∧ exportsAt s p = [] ∧ varsAt s p = [] ∧ constantsAt s p = [] ∧
      assignedAt s p = [] := by
  have apart : ∀ kind ∈ contributingKinds, kind ≠ "comment" := by decide
  exact contributes_nothing fun kind hk => Node.kind_ne_of_isComment h (apart kind hk)

/-- **Comments leave the imports alone.** -/
theorem importsAt_withoutComments (h : p.LooseComments) :
    importsAt s p.withoutComments = importsAt s p := by
  unfold importsAt
  rw [callImports_withoutComments h, Place.node_withoutComments,
    staticImports_withoutComments h.node, Node.kind_withoutComments]

/-- The exports that a node makes, comments passed over. -/
def properExportsAt (s : Source) (p : Place) : List ExportInfo :=
  if p.node.kind = "export_statement" then exportsUnder s properKeyword p.node else []

theorem exportsAt_withoutComments (h : p.LooseComments) :
    exportsAt s p.withoutComments = properExportsAt s p := by
  unfold exportsAt properExportsAt
  rw [Place.node_withoutComments, Node.kind_withoutComments, exports_withoutComments h.node]

/-- The variables that a node declares, comments passed over. -/
def properVarsAt (s : Source) (p : Place) : List VariableInfo :=
  if p.node.isDeclaration then varsUnder s (properKeyword p.node) p else []

theorem varsAt_withoutComments (h : p.LooseComments) :
    varsAt s p.withoutComments = properVarsAt s p := by
  unfold varsAt properVarsAt
  rw [vars_withoutComments h, Place.node_withoutComments, Node.isDeclaration_withoutComments]

/-- The constants that a node declares, comments passed over. -/
def properConstantsAt (s : Source) (p : Place) : List ConstantInfo :=
  if p.node.isDeclaration then constantsUnder s (properKeyword p.node) p else []

theorem constantsAt_withoutComments (h : p.LooseComments) :
    constantsAt s p.withoutComments = properConstantsAt s p := by
  unfold constantsAt properConstantsAt
  rw [constants_withoutComments h, Place.node_withoutComments, Node.isDeclaration_withoutComments]

/-- The names that a node assigns to, comments passed over. -/
def properAssignedAt (s : Source) (p : Place) : List Text :=
  if p.node.kind = "assignment_expression" ∨ p.node.kind = "augmented_assignment_expression" then
    properReassigned s (p.node.child? "left")
  else if p.node.kind = "update_expression" then properReassigned s (p.node.child? "argument")
  else []

theorem assignedAt_withoutComments (h : p.LooseComments) :
    assignedAt s p.withoutComments = properAssignedAt s p := by
  unfold assignedAt properAssignedAt
  rw [Place.node_withoutComments, Node.kind_withoutComments,
    h.node.child?_withoutComments, h.node.child?_withoutComments, reassigned_withoutComments,
    reassigned_withoutComments]

end CodeSurvey.Extract
