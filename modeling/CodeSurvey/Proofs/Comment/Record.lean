/-
  The records of functions and classes in a tree without its comments.

  Most of what the records hold is the same with and without comments.  Two readings
  take a child by its position and may meet a comment there: the pattern behind a rest
  mark, and the superclass and interfaces.

  * `Extract.properPattern`, `Extract.properParameterNames`, `Extract.properHeritage`:
    these readings with comments passed over;
  * `Extract.parameterNames_withoutComments`, `Extract.heritage_withoutComments`: they
    are what is read of the tree without comments;
  * `Extract.functionRecord_withoutComments`, `Extract.classRecord_withoutComments`: the
    records; `Extract.fault?_classInfo_withoutComments`: when there are none.
-/
import CodeSurvey.Proofs.Extract.Inventory
import CodeSurvey.Proofs.Tree.Comment

namespace CodeSurvey

/-! ## Kinds and texts -/

namespace Node

@[simp] theorem isComment_withoutComments (n : Node) : n.withoutComments.isComment = n.isComment := by
  rw [isComment, kind_withoutComments, isComment]

@[simp] theorem isFunction_withoutComments (n : Node) :
    n.withoutComments.isFunction = n.isFunction := by
  rw [isFunction, kind_withoutComments, isFunction]

@[simp] theorem isFunctionScope_withoutComments (n : Node) :
    n.withoutComments.isFunctionScope = n.isFunctionScope := by
  rw [isFunctionScope, isFunction_withoutComments, kind_withoutComments, isFunctionScope]

@[simp] theorem isClass_withoutComments (n : Node) : n.withoutComments.isClass = n.isClass := by
  rw [isClass, kind_withoutComments, isClass]

@[simp] theorem isDeclaration_withoutComments (n : Node) :
    n.withoutComments.isDeclaration = n.isDeclaration := by
  rw [isDeclaration, kind_withoutComments, isDeclaration]

theorem not_isFunction_of_isComment {n : Node} (h : n.isComment = true) : n.isFunction = false := by
  simp [isFunction, functionKinds, kind_ne_of_isComment h]

theorem not_isClass_of_isComment {n : Node} (h : n.isComment = true) : n.isClass = false := by
  simp [isClass, classKinds, kind_ne_of_isComment h]

variable {ns : List Node} {kind : String}

theorem filter_kind_dropComments (hk : kind ≠ "comment") :
    ((dropComments ns).filter fun c => c.kind == kind) =
      (ns.filter fun c => c.kind == kind).map withoutComments :=
  filter_dropComments (fun _ _ hc => beq_false_of_ne (kind_ne_of_isComment hc hk))
    fun c _ => by rw [kind_withoutComments]

theorem find?_kind_dropComments (hk : kind ≠ "comment") :
    ((dropComments ns).find? fun c => c.kind == kind) =
      (ns.find? fun c => c.kind == kind).map withoutComments :=
  find?_dropComments (fun _ _ hc => beq_false_of_ne (kind_ne_of_isComment hc hk))
    fun c _ => by rw [kind_withoutComments]

theorem any_kind_dropComments (hk : kind ≠ "comment") :
    ((dropComments ns).any fun c => c.kind == kind) = ns.any fun c => c.kind == kind :=
  any_dropComments (fun _ _ hc => beq_false_of_ne (kind_ne_of_isComment hc hk))
    fun c _ => by rw [kind_withoutComments]

end Node

namespace Source

variable (s : Source)

@[simp] theorem text_withoutComments (n : Node) : s.text n.withoutComments = s.text n := by
  rw [text, Node.info_withoutComments, text]

theorem text_comp_withoutComments : s.text ∘ Node.withoutComments = s.text :=
  funext fun n => text_withoutComments s n

@[simp] theorem textOf_withoutComments (o : Option Node) :
    s.textOf (o.map Node.withoutComments) = s.textOf o := by
  cases o with
  | none => rfl
  | some n => exact text_withoutComments s n

@[simp] theorem firstLine_withoutComments (n : Node) :
    s.firstLine n.withoutComments = s.firstLine n := by
  rw [firstLine, Node.info_withoutComments, firstLine]

@[simp] theorem lastLine_withoutComments (n : Node) :
    s.lastLine n.withoutComments = s.lastLine n := by
  rw [lastLine, Node.info_withoutComments, lastLine]

end Source

namespace Extract

variable {s : Source} {n : Node} {p : Place}

/-! ## Functions -/

@[simp] theorem span_withoutComments : span s n.withoutComments = span s n := by
  simp only [span, Source.firstLine_withoutComments, Source.lastLine_withoutComments]

/-- The lines that a node covers, if these are in order. -/
def lines (s : Source) (n : Node) : Span :=
  (Span.ofLines? (s.firstLine n) (s.lastLine n)).getD .unknown

theorem lines_of_span {range : Span} (h : span s n = .ok range) : range = lines s n := by
  unfold span at h
  unfold lines
  cases hr : Span.ofLines? (s.firstLine n) (s.lastLine n) with
  | none => rw [hr] at h; cases h
  | some r => rw [hr] at h; exact (Except.ok.inj h).symm

theorem lines_withoutComments : lines s n.withoutComments = lines s n := by
  rw [lines, Source.firstLine_withoutComments, Source.lastLine_withoutComments, lines]

/-- The name that the variable around a node declares. -/
theorem declaredName_withoutComments (h : p.LooseComments) :
    (p.withoutComments.parent?.filter fun n => n.kind == "variable_declarator").bind
        (·.child? "name") =
      ((p.parent?.filter fun n => n.kind == "variable_declarator").bind
        (·.child? "name")).map Node.withoutComments := by
  obtain ⟨n, above⟩ := p
  cases above with
  | nil => rfl
  | cons a above =>
    have ha := (h.above a (List.mem_cons_self ..)).child?_withoutComments "name"
    cases hk : a.kind == "variable_declarator" with
    | false => simp [Place.parent?, Place.withoutComments, Option.filter, hk]
    | true => simpa [Place.parent?, Place.withoutComments, Option.filter, hk] using ha

theorem bindingName_withoutComments (h : p.LooseComments) :
    bindingName s p.withoutComments = bindingName s p := by
  unfold bindingName
  rw [declaredName_withoutComments h, Place.node_withoutComments, h.node.child?_withoutComments]
  cases p.node.child? "name" with
  | some name => exact s.text_withoutComments name
  | none =>
    cases (p.parent?.filter fun n => n.kind == "variable_declarator").bind (·.child? "name") with
    | none => rfl
    | some target => simp

/-- The pattern inside a parameter, comments passed over. -/
def properInner? (n : Node) : Option Node :=
  if n.kind == "rest_pattern" then (Node.proper n.namedChildren).head? else innerPattern? n

theorem innerPattern?_mem {c : Node} (h : innerPattern? n = some c) : c ∈ n.children := by
  unfold innerPattern? at h
  split at h
  · exact Node.child?_mem h
  split at h
  · exact Node.child?_mem h
  split at h
  · exact Node.mem_children_of_mem_namedChildren (List.mem_of_head? h)
  · cases h

theorem properInner?_mem {c : Node} (h : properInner? n = some c) : c ∈ n.children := by
  unfold properInner? at h
  split at h
  · exact Node.mem_children_of_mem_namedChildren (Node.mem_proper_iff.1 (List.mem_of_head? h)).1
  · exact innerPattern?_mem h

/-- The innermost pattern of a parameter, comments passed over. -/
def properPattern (n : Node) : Node :=
  match _h : properInner? n with
  | some c => properPattern c
  | none => n
  termination_by n.size
  decreasing_by exact Node.size_lt_of_mem (properInner?_mem (by assumption))

theorem innerPattern?_withoutComments (h : n.LooseComments) :
    innerPattern? n.withoutComments = (properInner? n).map Node.withoutComments := by
  unfold properInner? innerPattern?
  simp only [Node.kind_withoutComments, h.child?_withoutComments,
    Node.namedChildren_withoutComments, Node.dropComments_eq, List.head?_map, beq_iff_eq,
    Bool.or_eq_true]
  split_ifs <;> simp_all

theorem parameterPattern_eq (n : Node) :
    parameterPattern n = match innerPattern? n with
      | some c => parameterPattern c
      | none => n := by
  rw [parameterPattern]
  split <;> simp_all

theorem properPattern_eq (n : Node) :
    properPattern n = match properInner? n with
      | some c => properPattern c
      | none => n := by
  rw [properPattern]
  split <;> simp_all

theorem parameterPattern_withoutComments (h : n.LooseComments) :
    parameterPattern n.withoutComments = (properPattern n).withoutComments := by
  induction n using Node.children_induction with
  | h n ih =>
    rw [parameterPattern_eq, properPattern_eq, innerPattern?_withoutComments h]
    cases hc : properInner? n with
    | none => rfl
    | some c => exact ih c (properInner?_mem hc) (h.child (properInner?_mem hc))

/-- The nodes of the parameters in a list of them. -/
def parameterNodes (n : Node) : List Node :=
  match n.child? "parameter", n.child? "parameters" with
  | none, some list =>
    list.namedChildren.filter fun c => c.kind != "comment" && c.kind != "decorator"
  | _, _ => []

/-- The parameters of a function, comments passed over. -/
def properParameterNames (s : Source) (n : Node) : List Text :=
  match n.child? "parameter" with
  | some single => [s.text single]
  | none => (parameterNodes n).map fun c => s.text (properPattern c)

theorem parameterNames_eq (s : Source) (n : Node) :
    parameterNames s n = match n.child? "parameter" with
      | some single => [s.text single]
      | none => (parameterNodes n).map fun c => s.text (parameterPattern c) := by
  unfold parameterNames parameterNodes
  cases n.child? "parameter" with
  | some single => rfl
  | none =>
    cases n.child? "parameters" with
    | none => rfl
    | some list => rfl

theorem parameterNodes_subset {c : Node} (hc : c ∈ parameterNodes n) : c ∈ n.descendants := by
  unfold parameterNodes at hc
  split at hc
  · rename_i list _ hl
    have hc := Node.mem_children_of_mem_namedChildren (List.mem_filter.1 hc).1
    exact Node.mem_descendants_iff.2
      ⟨list, Node.child?_mem hl, Or.inr (Node.mem_descendants_of_mem_children hc)⟩
  · cases hc

theorem parameterNodes_withoutComments (h : n.LooseComments) :
    parameterNodes n.withoutComments = (parameterNodes n).map Node.withoutComments := by
  unfold parameterNodes
  rw [h.child?_withoutComments, h.child?_withoutComments]
  cases n.child? "parameter" with
  | some single => rfl
  | none =>
    cases n.child? "parameters" with
    | none => rfl
    | some list =>
      simp only [Option.map_none, Option.map_some, Node.namedChildren_withoutComments]
      refine Node.filter_dropComments (fun c _ hc => ?_) fun c _ => by
        rw [Node.kind_withoutComments]
      rw [eq_of_beq hc]
      rfl

theorem parameterNames_withoutComments (h : n.LooseComments) :
    parameterNames s n.withoutComments = properParameterNames s n := by
  rw [parameterNames_eq, properParameterNames, h.child?_withoutComments,
    parameterNodes_withoutComments h]
  cases n.child? "parameter" with
  | some single => simp
  | none =>
    simp only [Option.map_none, List.map_map]
    refine List.map_congr_left fun c hc => ?_
    rw [Function.comp_apply, parameterPattern_withoutComments (h.of_mem (parameterNodes_subset hc)),
      Source.text_withoutComments]

/-- Comments leave the parameters alone exactly if they leave the pattern of each alone. -/
theorem properParameterNames_eq_iff :
    properParameterNames s n = parameterNames s n ↔
      ∀ c ∈ parameterNodes n, s.text (properPattern c) = s.text (parameterPattern c) := by
  rw [parameterNames_eq, properParameterNames]
  cases hs : n.child? "parameter" with
  | some single => simp [parameterNodes, hs]
  | none => exact List.map_inj_left

theorem isBranch_withoutComments (h : n.LooseComments) :
    n.withoutComments.isBranch = n.isBranch := by
  unfold Node.isBranch
  rw [Node.kind_withoutComments, h.child?_withoutComments]
  cases n.child? "operator" with
  | none => rfl
  | some op => simp

theorem complexity_withoutComments (h : n.LooseComments) :
    complexity n.withoutComments = complexity n := by
  unfold complexity
  rw [Node.walkBelow_eq, Node.walkBelow_eq, Node.descendants_withoutComments h]
  refine congrArg (· + 1) (Node.countP_dropComments (fun c _ hc => ?_) fun c hc => ?_)
  · simp [Node.isBranch, Node.branchKinds, Node.kind_ne_of_isComment hc]
  · exact isBranch_withoutComments (h.of_mem hc)

theorem calleeName?_withoutComments (h : n.LooseComments) :
    calleeName? s n.withoutComments = calleeName? s n := by
  unfold calleeName?
  rw [Node.kind_withoutComments, h.child?_withoutComments]
  cases hf : n.child? "function" with
  | none => rfl
  | some callee =>
    have hp := (h.field hf).child?_withoutComments "property"
    simp only [Option.map_some, Option.bind_some, Node.kind_withoutComments,
      Source.text_withoutComments, hp]
    cases callee.child? "property" with
    | none => rfl
    | some name =>
      simp only [Option.map_some, Option.filter_some, Node.kind_withoutComments]
      split_ifs <;> simp

theorem calledNames_withoutComments (h : n.LooseComments) :
    calledNames s n.withoutComments = calledNames s n := by
  unfold calledNames
  rw [Node.walkBelow_eq, Node.walkBelow_eq, Node.descendants_withoutComments h]
  refine congrArg distinct (Node.filterMap_dropComments (fun c _ hc => ?_) fun c hc => ?_)
  · simp [calleeName?, Node.kind_ne_of_isComment hc]
  · exact calleeName?_withoutComments (h.of_mem hc)

theorem returnType?_withoutComments (h : n.LooseComments) :
    returnType? s n.withoutComments = returnType? s n := by
  unfold returnType?
  rw [h.child?_withoutComments, Source.textOf_withoutComments]

/-- The record of a function, on the lines it covers if these are in order. -/
def functionRecord (s : Source) (n : Node) (name : Text) : FunctionInfo :=
  { name
    params := parameterNames s n
    returnType := returnType? s n
    isAsync := n.children.any fun c => c.kind == "async"
    isArrow := n.kind == "arrow_function"
    span := lines s n
    complexity := complexity n
    calls := calledNames s n }

theorem functionInfo_eq (s : Source) (n : Node) (name : Text) :
    functionInfo s n name = (span s n).map fun _ => functionRecord s n name := by
  unfold functionInfo functionRecord
  cases hr : span s n with
  | error e => rfl
  | ok range => rw [← lines_of_span hr]; rfl

theorem functionRecord_of_functionInfo {name : Text} {f : FunctionInfo}
    (h : functionInfo s n name = .ok f) : f = functionRecord s n name := by
  rw [functionInfo_eq] at h
  cases hr : span s n with
  | error e => rw [hr] at h; cases h
  | ok range => rw [hr] at h; exact (Except.ok.inj h).symm

/-- The record of a function, comments passed over. -/
def properFunctionRecord (s : Source) (n : Node) (name : Text) : FunctionInfo :=
  { functionRecord s n name with params := properParameterNames s n }

/-- **What is recorded of a function without its comments.** -/
theorem functionRecord_withoutComments (h : n.LooseComments) (name : Text) :
    functionRecord s n.withoutComments name = properFunctionRecord s n name := by
  unfold properFunctionRecord functionRecord
  rw [lines_withoutComments, parameterNames_withoutComments h, returnType?_withoutComments h,
    complexity_withoutComments h, calledNames_withoutComments h, Node.kind_withoutComments,
    Node.children_withoutComments, Node.any_kind_dropComments (by decide)]

theorem properFunctionRecord_eq_iff {name : Text} :
    properFunctionRecord s n name = functionRecord s n name ↔
      properParameterNames s n = parameterNames s n := by
  simp [properFunctionRecord, functionRecord]

/-! ## Classes -/

/-- The superclass and interfaces after one more child of the heritage, comments passed over. -/
def addProperHeritage (s : Source) (known : Option Text × List Text) (child : Node) :
    Option Text × List Text :=
  if child.kind == "extends_clause" then
    let value := (child.child? "value").or (Node.proper child.namedChildren).head?
    (nonEmpty? (s.textOf value), known.2)
  else if child.kind == "implements_clause" then
    (known.1, known.2 ++ (Node.proper child.namedChildren).map s.text)
  else if known.1.isNone then (some (s.text child), known.2)
  else known

/-- The superclass and the interfaces of a class, comments passed over. -/
def properHeritage (s : Source) (n : Node) : Option Text × List Text :=
  match n.namedChildren.find? fun c => c.kind == "class_heritage" with
  | some clause => (Node.proper clause.namedChildren).foldl (addProperHeritage s) (none, [])
  | none => (none, [])

theorem map_text_dropComments (ns : List Node) :
    (Node.dropComments ns).map s.text = (Node.proper ns).map s.text := by
  rw [Node.dropComments_eq, List.map_map]
  exact List.map_congr_left fun c _ => s.text_withoutComments c

theorem addHeritage_withoutComments {child : Node} (h : child.LooseComments)
    (known : Option Text × List Text) :
    addHeritage s known child.withoutComments = addProperHeritage s known child := by
  unfold addHeritage addProperHeritage
  rw [Node.kind_withoutComments, h.child?_withoutComments, Node.namedChildren_withoutComments,
    map_text_dropComments, Source.text_withoutComments]
  have hvalue : s.textOf (((child.child? "value").map Node.withoutComments).or
      (Node.dropComments child.namedChildren).head?) =
        s.textOf ((child.child? "value").or (Node.proper child.namedChildren).head?) := by
    rw [Node.dropComments_eq, List.head?_map, ← Option.map_or, Source.textOf_withoutComments]
  simp only [hvalue]

theorem heritage_withoutComments (h : n.LooseComments) :
    heritage s n.withoutComments = properHeritage s n := by
  unfold heritage properHeritage
  rw [Node.namedChildren_withoutComments, Node.find?_kind_dropComments (by decide)]
  cases hc : n.namedChildren.find? fun c => c.kind == "class_heritage" with
  | none => rfl
  | some clause =>
    have hclause := h.namedChild (List.mem_of_find?_eq_some hc)
    simp only [Option.map_some, Node.namedChildren_withoutComments, Node.dropComments_eq,
      List.foldl_map]
    refine List.foldl_ext _ _ _ fun known c hc => addHeritage_withoutComments ?_ known
    exact hclause.namedChild (Node.mem_proper_iff.1 hc).1

theorem members_withoutComments (h : n.LooseComments) :
    members n.withoutComments = Node.dropComments (members n) := by
  unfold members
  rw [h.child?_withoutComments]
  cases n.child? "body" with
  | none => rw [Option.map_none, Node.dropComments]
  | some body => exact Node.namedChildren_withoutComments body

theorem methodNodes_withoutComments (h : n.LooseComments) :
    methodNodes n.withoutComments = (methodNodes n).map Node.withoutComments := by
  unfold methodNodes
  rw [members_withoutComments h, Node.filter_kind_dropComments (by decide)]

/-- The record of a method. -/
def methodRecord (s : Source) (m : Node) : FunctionInfo :=
  functionRecord s m ((nonEmpty? (s.textOf (m.child? "name"))).getD anonymous)

/-- The record of a method, comments passed over. -/
def properMethodRecord (s : Source) (m : Node) : FunctionInfo :=
  properFunctionRecord s m ((nonEmpty? (s.textOf (m.child? "name"))).getD anonymous)

theorem methodRecord_withoutComments (h : n.LooseComments) :
    methodRecord s n.withoutComments = properMethodRecord s n := by
  unfold methodRecord properMethodRecord
  rw [h.child?_withoutComments, Source.textOf_withoutComments, functionRecord_withoutComments h]

theorem propertyName?_withoutComments (h : n.LooseComments) :
    propertyName? s n.withoutComments = propertyName? s n := by
  unfold propertyName?
  rw [Node.kind_withoutComments, h.child?_withoutComments, h.child?_withoutComments,
    ← Option.map_or, Option.map_map]
  rw [s.text_comp_withoutComments]

theorem properties_withoutComments (h : n.LooseComments) :
    (members n.withoutComments).filterMap (propertyName? s) =
      (members n).filterMap (propertyName? s) := by
  rw [members_withoutComments h]
  refine Node.filterMap_dropComments (fun c _ hc => ?_) fun c hc => ?_
  · simp [propertyName?, Node.fieldKinds, Node.kind_ne_of_isComment hc]
  · exact propertyName?_withoutComments (h.of_mem (members_subset hc))

/-- The record of a class, on the lines it covers if these are in order. -/
def classRecord (s : Source) (n : Node) : ClassInfo :=
  { name := (nonEmpty? (s.textOf (n.child? "name"))).getD anonymous
    superclass := (heritage s n).1
    interfaces := (heritage s n).2
    methods := (methodNodes n).map (methodRecord s)
    properties := (members n).filterMap (propertyName? s)
    span := lines s n }

theorem classRecord_of_classInfo {c : ClassInfo} (h : classInfo s n = .ok c) :
    c = classRecord s n := by
  obtain ⟨methods, range, hm, hr, rfl⟩ := classInfo_eq_ok_iff.1 h
  have hmethods : methods = (methodNodes n).map (methodRecord s) :=
    eq_map_of_forall₂ (mapM_eq_ok_iff.1 hm) fun m f hf => functionRecord_of_functionInfo hf
  unfold classRecord
  rw [hmethods, lines_of_span hr]

theorem fault?_functionInfo (s : Source) (n : Node) (name : Text) :
    fault? (functionInfo s n name) = fault? (span s n) := by
  rw [functionInfo_eq, fault?_map]

theorem fault?_classInfo (s : Source) (n : Node) :
    fault? (classInfo s n) =
      ((methodNodes n).findSome? fun m => fault? (span s m)).or (fault? (span s n)) := by
  have hm := fault?_mapM (methodInfo s) (methodNodes n)
  simp only [methodInfo, fault?_functionInfo] at hm
  rw [← hm]
  unfold classInfo
  cases (methodNodes n).mapM (methodInfo s) with
  | error e => rfl
  | ok methods =>
    cases span s n with
    | error e => rfl
    | ok range => rfl

/-- The record of a class, comments passed over. -/
def properClassRecord (s : Source) (n : Node) : ClassInfo :=
  { classRecord s n with
    superclass := (properHeritage s n).1
    interfaces := (properHeritage s n).2
    methods := (methodNodes n).map (properMethodRecord s) }

/-- **What is recorded of a class without its comments.** -/
theorem classRecord_withoutComments (h : n.LooseComments) :
    classRecord s n.withoutComments = properClassRecord s n := by
  have hmethods : (methodNodes n.withoutComments).map (methodRecord s) =
      (methodNodes n).map (properMethodRecord s) := by
    rw [methodNodes_withoutComments h, List.map_map]
    exact List.map_congr_left fun m hm =>
      methodRecord_withoutComments (h.of_mem (methodNodes_subset hm))
  unfold properClassRecord classRecord
  rw [hmethods, lines_withoutComments, heritage_withoutComments h, properties_withoutComments h,
    h.child?_withoutComments, Source.textOf_withoutComments]

theorem properClassRecord_eq_iff :
    properClassRecord s n = classRecord s n ↔
      properHeritage s n = heritage s n ∧
        ∀ m ∈ methodNodes n, properParameterNames s m = parameterNames s m := by
  have hmethods : (methodNodes n).map (properMethodRecord s) =
      (methodNodes n).map (methodRecord s) ↔
        ∀ m ∈ methodNodes n, properParameterNames s m = parameterNames s m := by
    rw [List.map_inj_left]
    exact forall₂_congr fun m _ => properFunctionRecord_eq_iff
  rw [← hmethods, Prod.ext_iff]
  simp [properClassRecord, classRecord, and_assoc]

/-- Making the records of a class fails without comments exactly as it does with them. -/
theorem fault?_classInfo_withoutComments (h : n.LooseComments) :
    fault? (classInfo s n.withoutComments) = fault? (classInfo s n) := by
  rw [fault?_classInfo, fault?_classInfo, methodNodes_withoutComments h, List.findSome?_map,
    span_withoutComments]
  congr 2
  funext m
  rw [Function.comp_apply, span_withoutComments]

end Extract

end CodeSurvey
