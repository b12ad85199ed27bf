/-
  The structure of a tree as a tally over its places.

  * `Contribution`, `Extract.tally`: what one place gives, and the structure that the
    places of a tree give; `Extract.eq_tally_of_ok`: every structure is such;
  * `Extract.plain`, `Extract.past`: the places as they are read, and as they are read
    with comments passed over;
  * `Extract.tally_withoutComments`, `Extract.fault?_structureOf_withoutComments`: the
    structure without the comments, and why there is none.
-/
import CodeSurvey.Proofs.Comment.Statement
import CodeSurvey.Proofs.Extract.Inventory

namespace CodeSurvey.Extract

variable {s : Source} {root : Node} {p : Place} {ps : List Place} {c : CodeStructure}

/-! ## Contributions -/

/-- What one place gives to a structure. -/
structure Contribution where
  functions : List FunctionInfo := []
  classes : List ClassInfo := []
  imports : List ImportInfo := []
  exports : List ExportInfo := []
  vars : List VariableInfo := []
  constants : List ConstantInfo := []
  assigned : List Text := []

/-- A variable with whether its name is among those assigned to. -/
def mark (names : List Text) (v : VariableInfo) : VariableInfo :=
  { v with reassigned := v.name ∈ names }

/-- The structure that some places give. -/
def tally (r : Place → Contribution) (ps : List Place) : CodeStructure :=
  { functions := ps.flatMap fun p => (r p).functions
    classes := ps.flatMap fun p => (r p).classes
    imports := ps.flatMap fun p => (r p).imports
    exports := ps.flatMap fun p => (r p).exports
    vars := (ps.flatMap fun p => (r p).vars).map (mark (ps.flatMap fun p => (r p).assigned))
    constants := ps.flatMap fun p => (r p).constants }

/-- What a place gives as it stands. -/
def plain (s : Source) (p : Place) : Contribution where
  functions := if p.node.isFunction then [functionRecord s p.node (bindingName s p)] else []
  classes := if p.node.isClass then [classRecord s p.node] else []
  imports := importsAt s p
  exports := exportsAt s p
  vars := varsAt s p
  constants := constantsAt s p
  assigned := assignedAt s p

/-- What a place gives with comments passed over. -/
def past (s : Source) (p : Place) : Contribution where
  functions := if p.node.isFunction then [properFunctionRecord s p.node (bindingName s p)] else []
  classes := if p.node.isClass then [properClassRecord s p.node] else []
  imports := importsAt s p
  exports := properExportsAt s p
  vars := properVarsAt s p
  constants := properConstantsAt s p
  assigned := properAssignedAt s p

theorem plain_withoutComments (h : p.LooseComments) : plain s p.withoutComments = past s p := by
  unfold plain past
  rw [importsAt_withoutComments h, exportsAt_withoutComments h, varsAt_withoutComments h,
    constantsAt_withoutComments h, assignedAt_withoutComments h, bindingName_withoutComments h,
    Place.node_withoutComments, Node.isFunction_withoutComments, Node.isClass_withoutComments,
    classRecord_withoutComments h.node, functionRecord_withoutComments h.node]

theorem plain_comment (h : p.node.isComment = true) : plain s p = {} := by
  obtain ⟨hi, he, hv, hc, ha⟩ := comment_contributes_nothing (s := s) h
  simp [plain, hi, he, hv, hc, ha, Node.not_isFunction_of_isComment h,
    Node.not_isClass_of_isComment h]

/-- A tally over places of which some are left out and the others altered. -/
theorem tally_map_filter {keep : Place → Bool} {alter : Place → Place} {r r' : Place → Contribution}
    (hout : ∀ p ∈ ps, keep p = false → r' p = {}) (h : ∀ p ∈ ps, r (alter p) = r' p) :
    tally r ((ps.filter keep).map alter) = tally r' ps := by
  have field : ∀ {β : Type} (f : Contribution → List β), f {} = [] →
      ((ps.filter keep).map alter).flatMap (fun p => f (r p)) = ps.flatMap fun p => f (r' p) := by
    intro β f hf
    refine Node.flatMap_map_filter (fun p hp hk => ?_) fun p hp => congrArg f (h p hp)
    rw [hout p hp hk, hf]
  simp only [tally, field Contribution.functions rfl, field Contribution.classes rfl,
    field Contribution.imports rfl, field Contribution.exports rfl, field Contribution.vars rfl,
    field Contribution.constants rfl, field Contribution.assigned rfl]

/-- **A tree without its comments tallies as the tree does with comments passed over.** -/
theorem tally_withoutComments (h : root.LooseComments) :
    tally (plain s) root.withoutComments.namedPlaces = tally (past s) root.namedPlaces := by
  have hloose : ∀ p ∈ root.namedPlaces, p.LooseComments :=
    fun p hp => h.places p (List.mem_filter.1 hp).1
  rw [Node.namedPlaces_withoutComments h]
  refine tally_map_filter (fun p hp hk => ?_) fun p hp => plain_withoutComments (hloose p hp)
  -- past its comments a comment gives what it gives without them, and that is nothing
  rw [← plain_withoutComments (hloose p hp)]
  refine plain_comment ?_
  rw [Place.node_withoutComments, Node.isComment_withoutComments]
  simpa [Place.isComment] using hk

/-! ## The structure as a tally -/

theorem namedPlaces_eq (root : Node) : root.namedPlaces = root.namedSpots.map Spot.place :=
  filter_map_place root fun p => p.node.isNamed

/-- The records of one kind of named nodes, place by place. -/
theorem records_eq {β : Type} (q : Node → Bool) (record : Place → β) {r : List β}
    {R : Spot → β → Prop}
    (h : List.Forall₂ R (root.spots.filter fun sp => sp.place.node.isNamed && q sp.place.node) r)
    (hR : ∀ sp b, R sp b → b = record sp.place) :
    r = root.namedPlaces.flatMap fun p => if q p.node then [record p] else [] := by
  rw [eq_map_of_forall₂ h hR, flatMap_ite (fun p : Place => q p.node) fun p => [record p],
    namedPlaces_eq, List.filter_map, List.flatMap_map, Node.namedSpots, List.filter_filter,
    ← List.flatMap_pure_eq_map]
  simp only [Function.comp_def, Bool.and_comm]
  rfl

/-- **Every structure is the tally of its tree.** -/
theorem eq_tally_of_ok (h : structureOf s root = .ok c) : c = tally (plain s) root.namedPlaces := by
  have hi := inventory_of_ok h
  have hf := records_eq Node.isFunction (fun p => functionRecord s p.node (bindingName s p))
    hi.functions fun sp f hf => functionRecord_of_functionInfo hf
  have hk := records_eq Node.isClass (fun p => classRecord s p.node)
    hi.classes fun sp k hk => classRecord_of_classInfo hk.1
  have hat : ∀ {β : Type} (f : Place → List β),
      (root.namedSpots.flatMap fun sp => f sp.place) = root.namedPlaces.flatMap f := by
    intro β f
    rw [namedPlaces_eq, List.flatMap_map]
  cases c with
  | mk functions classes imports exports vars constants =>
    simp only [tally, plain, CodeStructure.mk.injEq]
    refine ⟨hf, hk, hi.imports.trans (hat _), hi.exports.trans (hat _), hi.vars.trans ?_,
      hi.constants.trans (hat _)⟩
    simp only [hat]
    rfl

/-- What goes wrong with one place. -/
theorem fault?_items (s : Source) (p : Place) :
    fault? (items s p) =
      if !p.node.isNamed then none
      else if p.node.isFunction then fault? (span s p.node)
      else if p.node.isClass then fault? (classInfo s p.node)
      else none := by
  cases hn : p.node.isNamed with
  | false => rw [items_token hn]; rfl
  | true =>
    cases hf : p.node.isFunction with
    | true => rw [items_function hn hf, fault?_map, fault?_functionInfo]; rfl
    | false =>
      cases hc : p.node.isClass with
      | true => rw [items_class hn hc, fault?_map]; rfl
      | false => rw [items_other hn hf hc]; rfl

theorem fault?_structureOf (s : Source) (root : Node) :
    fault? (structureOf s root) = root.places.findSome? fun p => fault? (items s p) := by
  rw [← fault?_mapM, Node.places, ← Place.walkBelow_eq]
  unfold structureOf
  cases (Place.walkBelow ⟨root, []⟩).mapM (items s) with
  | error e => rfl
  | ok found => rfl

theorem fault?_items_withoutComments (h : p.LooseComments) :
    fault? (items s p.withoutComments) = fault? (items s p) := by
  rw [fault?_items, fault?_items, Place.node_withoutComments,
    Node.isNamed_withoutComments, Node.isFunction_withoutComments, Node.isClass_withoutComments,
    span_withoutComments, fault?_classInfo_withoutComments h.node]

/-- **Making a structure fails without comments exactly as it does with them.** -/
theorem fault?_structureOf_withoutComments (h : root.LooseComments) :
    fault? (structureOf s root.withoutComments) = fault? (structureOf s root) := by
  rw [fault?_structureOf, fault?_structureOf, Node.places_withoutComments h,
    ← List.head?_filterMap, ← List.head?_filterMap, List.filterMap_eq_flatMap_toList,
    List.filterMap_eq_flatMap_toList]
  -- the first failure is the head of all failures, and no comment fails
  refine congrArg List.head? (Node.flatMap_map_filter (fun p hp hk => ?_) fun p hp => ?_)
  · have hcom : p.node.isComment = true := by simpa [Place.isComment] using hk
    rw [fault?_items, Node.not_isFunction_of_isComment hcom, Node.not_isClass_of_isComment hcom]
    simp
  · rw [fault?_items_withoutComments (h.places p hp)]

/-- **The structure of a tree without its comments.** -/
theorem structureOf_withoutComments (h : root.LooseComments) :
    structureOf s root.withoutComments =
      (structureOf s root).map fun _ => tally (past s) root.namedPlaces := by
  have hf := fault?_structureOf_withoutComments (s := s) h
  cases hw : structureOf s root.withoutComments with
  | error e =>
    cases hc : structureOf s root with
    | error e' =>
      rw [hw, hc] at hf
      exact congrArg Except.error (Option.some.inj hf)
    | ok c => rw [hw, hc] at hf; cases hf
  | ok c' =>
    cases hc : structureOf s root with
    | error e' => rw [hw, hc] at hf; cases hf
    | ok c => rw [eq_tally_of_ok hw, tally_withoutComments h]; rfl

end CodeSurvey.Extract
