/-
  Which comments influence a structure.

  * `Extract.Undisturbed`: no comment is read in the place of something else;
  * `Extract.tally_past_iff`: exactly then a tree tallies as it does with comments
    passed over;
  * `Extract.structureOf_withoutComments_iff`: exactly then the structure is the same
    without the comments;
  * `Extract.extends_comment`: a comment that is taken for a superclass.
-/
import CodeSurvey.Proofs.Comment.Tally

namespace CodeSurvey.Extract

variable {s : Source} {root n : Node} {p : Place} {ps : List Place}

/-! ## Concatenations of the same lists -/

section Concatenation

variable {α β : Type} {f g : α → List β} {l : List α}

theorem flatMap_inj_of_length (h : ∀ a ∈ l, (f a).length = (g a).length) :
    l.flatMap f = l.flatMap g ↔ ∀ a ∈ l, f a = g a := by
  refine ⟨fun heq => ?_, List.flatMap_congr⟩
  induction l with
  | nil => simp
  | cons a l ih =>
    rw [List.flatMap_cons, List.flatMap_cons] at heq
    obtain ⟨ha, hl⟩ := List.append_inj heq (h a (List.mem_cons_self ..))
    intro b hb
    rcases List.mem_cons.1 hb with rfl | hb
    · exact ha
    · exact ih (fun c hc => h c (List.mem_cons_of_mem _ hc)) hl b hb

theorem length_flatMap_le (h : ∀ a ∈ l, (g a).length ≤ (f a).length) :
    (l.flatMap g).length ≤ (l.flatMap f).length := by
  induction l with
  | nil => exact Nat.le_refl 0
  | cons a l ih =>
    rw [List.flatMap_cons, List.flatMap_cons, List.length_append, List.length_append]
    exact Nat.add_le_add (h a (List.mem_cons_self ..)) (ih fun b hb => h b (List.mem_cons_of_mem _ hb))

/-- Lists of which some are missing concatenate to a shorter list. -/
theorem eq_of_length_flatMap (h : ∀ a ∈ l, g a = f a ∨ g a = [])
    (hlen : (l.flatMap g).length = (l.flatMap f).length) : ∀ a ∈ l, g a = f a := by
  have hle : ∀ a ∈ l, (g a).length ≤ (f a).length := by
    intro a ha
    rcases h a ha with he | he
    · rw [he]
    · rw [he]
      exact Nat.zero_le _
  induction l with
  | nil => simp
  | cons a l ih =>
    have hrest := length_flatMap_le fun b hb => hle b (List.mem_cons_of_mem _ hb)
    have hfirst := hle a (List.mem_cons_self ..)
    rw [List.flatMap_cons, List.flatMap_cons, List.length_append, List.length_append] at hlen
    intro b hb
    rcases List.mem_cons.1 hb with rfl | hb
    · rcases h b (List.mem_cons_self ..) with he | he
      · exact he
      · have hzero : (f b).length = 0 := by
          rw [he] at hlen
          simp only [List.length_nil] at hlen
          omega
        rw [he, List.length_eq_zero_iff.1 hzero]
    · exact ih (fun c hc => h c (List.mem_cons_of_mem _ hc)) (by omega)
        (fun c hc => hle c (List.mem_cons_of_mem _ hc)) b hb

end Concatenation

/-! ## Places where a comment is in the way -/

/-- The name of each parameter is read past comments, or from one that says the same. -/
def ParametersClear (s : Source) (n : Node) : Prop :=
  ∀ c ∈ parameterNodes n, s.text (properPattern c) = s.text (parameterPattern c)

/-- No comment keeps a declaration from declaring something. -/
def DeclarationClear (s : Source) (p : Place) : Prop :=
  declarationKeyword p.node = "comment" → properVarsAt s p = [] ∧ properConstantsAt s p = []

/-- No comment hides that an exported declaration declares constants. -/
def ExportClear (s : Source) (n : Node) : Prop :=
  (n.children.any fun c => c.kind == "default") = false →
    ∀ d, n.child? "declaration" = some d → d.isDeclaration = true →
      declarationKeyword d = "comment" → properKeyword d = "const" → declarators s d = []

/-- No comment is read in the place of something else, or what it stands for is known anyway. -/
structure Undisturbed (s : Source) (root : Node) : Prop where
  functions : ∀ p ∈ root.namedPlaces, p.node.isFunction = true → ParametersClear s p.node
  methods : ∀ p ∈ root.namedPlaces, p.node.isClass = true →
    ∀ m ∈ methodNodes p.node, ParametersClear s m
  heritages : ∀ p ∈ root.namedPlaces, p.node.isClass = true →
    properHeritage s p.node = heritage s p.node
  exports : ∀ p ∈ root.namedPlaces, p.node.kind = "export_statement" → ExportClear s p.node
  declarations : ∀ p ∈ root.namedPlaces, p.node.isDeclaration = true → DeclarationClear s p
  /-- A variable that is assigned to behind a comment is also assigned to elsewhere. -/
  assignments : ∀ p ∈ root.namedPlaces, ∀ v ∈ varsAt s p, ∀ q ∈ root.namedPlaces,
    v.name ∈ properAssignedAt s q → ∃ q' ∈ root.namedPlaces, v.name ∈ assignedAt s q'

theorem functions_past_iff :
    (past s p).functions = (plain s p).functions ↔
      (p.node.isFunction = true → ParametersClear s p.node) := by
  unfold past plain ParametersClear
  cases p.node.isFunction with
  | false => simp
  | true => simp [properFunctionRecord_eq_iff, properParameterNames_eq_iff]

theorem classes_past_iff :
    (past s p).classes = (plain s p).classes ↔
      (p.node.isClass = true → properHeritage s p.node = heritage s p.node ∧
        ∀ m ∈ methodNodes p.node, ParametersClear s m) := by
  unfold past plain ParametersClear
  cases p.node.isClass with
  | false => simp
  | true => simp [properClassRecord_eq_iff, properParameterNames_eq_iff]

theorem variableKind?_comment : variableKind? "comment" = none := by decide

theorem varsAt_of_comment (h : declarationKeyword p.node = "comment") : varsAt s p = [] := by
  simp [varsAt, vars, h, variableKind?_comment]

theorem constantsAt_of_comment (h : declarationKeyword p.node = "comment") :
    constantsAt s p = [] := by
  simp [constantsAt, constants, h]

theorem varsAt_eq (s : Source) (p : Place) : varsAt s p = properVarsAt s p ∨ varsAt s p = [] := by
  rcases declarationKeyword_eq p.node with h | h
  · unfold varsAt properVarsAt
    rw [← h]
    exact Or.inl rfl
  · exact Or.inr (varsAt_of_comment h)

theorem constantsAt_eq (s : Source) (p : Place) :
    constantsAt s p = properConstantsAt s p ∨ constantsAt s p = [] := by
  rcases declarationKeyword_eq p.node with h | h
  · unfold constantsAt properConstantsAt
    rw [← h]
    exact Or.inl rfl
  · exact Or.inr (constantsAt_of_comment h)

theorem declarations_past_iff :
    (varsAt s p = properVarsAt s p ∧ constantsAt s p = properConstantsAt s p) ↔
      (p.node.isDeclaration = true → DeclarationClear s p) := by
  unfold DeclarationClear
  constructor
  · rintro ⟨hv, hc⟩ - h
    exact ⟨hv.symm.trans (varsAt_of_comment h), hc.symm.trans (constantsAt_of_comment h)⟩
  · intro h
    cases hd : p.node.isDeclaration with
    | false => simp [varsAt, properVarsAt, constantsAt, properConstantsAt, hd]
    | true =>
      rcases declarationKeyword_eq p.node with hk | hk
      · unfold varsAt properVarsAt constantsAt properConstantsAt
        rw [← hk]
        exact ⟨rfl, rfl⟩
      · obtain ⟨hv, hc⟩ := h hd hk
        rw [hv, hc]
        exact ⟨varsAt_of_comment hk, constantsAt_of_comment hk⟩

/-- A declaration exports its constants as such, unless a comment hides the keyword. -/
theorem declaredExportsUnder_eq_iff :
    declaredExportsUnder s (properKeyword n) n = declaredExportsUnder s (declarationKeyword n) n ↔
      (n.isDeclaration = true → declarationKeyword n = "comment" → properKeyword n = "const" →
        declarators s n = []) := by
  unfold declaredExportsUnder
  cases hd : n.isDeclaration with
  | false => simp
  | true =>
    rcases declarationKeyword_eq n with h | h
    · rw [h]
      simp only [if_true, true_iff]
      intro _ hcom hconst
      exact absurd (hcom.symm.trans hconst) (by decide)
    · cases hk : properKeyword n == "const" with
      | false => simp_all
      | true =>
        cases hds : declarators s n with
        | nil => simp
        | cons d ds => simp_all

theorem exports_past_iff :
    properExportsAt s p = exportsAt s p ↔
      (p.node.kind = "export_statement" → ExportClear s p.node) := by
  unfold properExportsAt exportsAt ExportClear
  by_cases hk : p.node.kind = "export_statement"
  · rw [if_pos hk, if_pos hk, exports_eq]
    unfold exportsUnder
    cases hdef : p.node.children.any fun c => c.kind == "default" with
    | true => simp
    | false =>
      cases hd : p.node.child? "declaration" with
      | none => simp
      | some d => simpa [hk] using declaredExportsUnder_eq_iff
  · simp [hk]

/-! ## The whole tally -/

theorem length_functions_past : (past s p).functions.length = (plain s p).functions.length := by
  unfold past plain
  cases p.node.isFunction with
  | false => rfl
  | true => rfl

theorem length_classes_past : (past s p).classes.length = (plain s p).classes.length := by
  unfold past plain
  cases p.node.isClass with
  | false => rfl
  | true => rfl

theorem length_declaredExportsUnder (s : Source) (keyword keyword' : String) (n : Node) :
    (declaredExportsUnder s keyword n).length = (declaredExportsUnder s keyword' n).length := by
  unfold declaredExportsUnder
  cases n.isDeclaration with
  | false => rfl
  | true => simp

theorem length_properExportsAt (s : Source) (p : Place) :
    (properExportsAt s p).length = (exportsAt s p).length := by
  unfold properExportsAt exportsAt
  rw [exports_eq]
  unfold exportsUnder
  cases p.node.child? "declaration" with
  | none => rfl
  | some d =>
    simp only [apply_ite List.length, length_declaredExportsUnder s (properKeyword d)
      (declarationKeyword d) d]

theorem assignedAt_subset {name : Text} (h : name ∈ assignedAt s p) :
    name ∈ properAssignedAt s p := by
  have step : ∀ target, name ∈ reassigned s target → name ∈ properReassigned s target := by
    intro target hm
    rcases reassigned_eq s target with he | he
    · rwa [← he]
    · rw [he] at hm
      cases hm
  unfold assignedAt at h
  unfold properAssignedAt
  split_ifs at h ⊢
  · exact step _ h
  · exact step _ h
  · exact h

theorem mark_eq_iff {names names' : List Text} {v : VariableInfo} :
    mark names v = mark names' v ↔ (v.name ∈ names ↔ v.name ∈ names') := by
  simp [mark]

/-- The marks of variables agree exactly if those assigned to behind a comment are also assigned
    to elsewhere. -/
theorem marks_past_iff :
    (ps.flatMap (varsAt s)).map (mark (ps.flatMap (properAssignedAt s))) =
      (ps.flatMap (varsAt s)).map (mark (ps.flatMap (assignedAt s))) ↔
    ∀ p ∈ ps, ∀ v ∈ varsAt s p, ∀ q ∈ ps, v.name ∈ properAssignedAt s q →
      ∃ q' ∈ ps, v.name ∈ assignedAt s q' := by
  rw [List.map_inj_left]
  simp only [mark_eq_iff, List.mem_flatMap]
  constructor
  · intro h p hp v hv q hq hm
    exact (h v ⟨p, hp, hv⟩).1 ⟨q, hq, hm⟩
  · rintro h v ⟨p, hp, hv⟩
    exact ⟨fun ⟨q, hq, hm⟩ => h p hp v hv q hq hm, fun ⟨q, hq, hm⟩ => ⟨q, hq, assignedAt_subset hm⟩⟩

theorem vars_past_iff (s : Source) (ps : List Place) :
    (ps.flatMap (properVarsAt s)).map (mark (ps.flatMap (properAssignedAt s))) =
      (ps.flatMap (varsAt s)).map (mark (ps.flatMap (assignedAt s))) ↔
    (∀ p ∈ ps, varsAt s p = properVarsAt s p) ∧
      ∀ p ∈ ps, ∀ v ∈ varsAt s p, ∀ q ∈ ps, v.name ∈ properAssignedAt s q →
        ∃ q' ∈ ps, v.name ∈ assignedAt s q' := by
  rw [← marks_past_iff]
  constructor
  · intro h
    -- comments only take declarations away, so that lists of one length agree place by place
    have hlen := congrArg List.length h
    rw [List.length_map, List.length_map] at hlen
    have hsame := eq_of_length_flatMap (fun p _ => varsAt_eq s p) hlen.symm
    refine ⟨hsame, ?_⟩
    rw [← h, List.flatMap_congr hsame]
  · rintro ⟨hsame, h⟩
    rw [← h, List.flatMap_congr hsame]

theorem constants_past_iff (s : Source) (ps : List Place) :
    ps.flatMap (properConstantsAt s) = ps.flatMap (constantsAt s) ↔
      ∀ p ∈ ps, constantsAt s p = properConstantsAt s p := by
  constructor
  · intro h
    exact eq_of_length_flatMap (fun p _ => constantsAt_eq s p) (congrArg List.length h).symm
  · intro h
    exact (List.flatMap_congr h).symm

/-- **A tree tallies as it does with comments passed over exactly if none is in the way.** -/
theorem tally_past_iff :
    tally (past s) root.namedPlaces = tally (plain s) root.namedPlaces ↔ Undisturbed s root := by
  have hfunctions := flatMap_inj_of_length (l := root.namedPlaces)
    (f := fun p => (past s p).functions) fun p _ => length_functions_past
  have hclasses := flatMap_inj_of_length (l := root.namedPlaces)
    (f := fun p => (past s p).classes) fun p _ => length_classes_past
  have hexports := flatMap_inj_of_length (l := root.namedPlaces)
    (f := properExportsAt s) fun p _ => length_properExportsAt s p
  have hvars := vars_past_iff s root.namedPlaces
  have hconstants := constants_past_iff s root.namedPlaces
  simp only [functions_past_iff, classes_past_iff, exports_past_iff] at hfunctions hclasses hexports
  simp only [tally, CodeStructure.mk.injEq, hfunctions, hclasses]
  constructor
  · rintro ⟨hf, hc, -, he, hv, hk⟩
    obtain ⟨hv, ha⟩ := hvars.1 hv
    exact {
      functions := hf
      methods := fun p hp h => (hc p hp h).2
      heritages := fun p hp h => (hc p hp h).1
      exports := hexports.1 he
      declarations := fun p hp => declarations_past_iff.1 ⟨hv p hp, hconstants.1 hk p hp⟩
      assignments := ha }
  · intro h
    have hd := fun p hp => declarations_past_iff.2 (h.declarations p hp)
    exact ⟨h.functions, fun p hp hc => ⟨h.heritages p hp hc, h.methods p hp hc⟩, rfl,
      hexports.2 h.exports, hvars.2 ⟨fun p hp => (hd p hp).1, h.assignments⟩,
      hconstants.2 fun p hp => (hd p hp).2⟩

/-! ## The structure -/

/-- **Comments leave a structure alone exactly if none is read in the place of something else.**
    There is a structure without the comments if there is one with them, and both are the same
    exactly if the tree is undisturbed.  A tree without structure has none, for the same reason,
    without its comments. -/
theorem structureOf_withoutComments_iff (h : root.LooseComments) :
    structureOf s root.withoutComments = structureOf s root ↔
      ∀ c, structureOf s root = .ok c → Undisturbed s root := by
  rw [structureOf_withoutComments h]
  cases hc : structureOf s root with
  | error e =>
    -- both fail alike, and there is nothing to disturb
    constructor
    · rintro - c ⟨⟩
    · intro _
      rfl
  | ok c =>
    rw [show (Except.ok c : Except Cause CodeStructure).map (fun _ => tally (past s) root.namedPlaces)
      = .ok (tally (past s) root.namedPlaces) from rfl, Except.ok.injEq, eq_tally_of_ok hc,
      tally_past_iff]
    exact ⟨fun hu _ _ => hu, fun hu => hu _ rfl⟩

/-- A class with a comment behind its name. -/
def asideSource : Source :=
  .ofText (Text.ofString "class A /* c */ {}")

/-- The tree of `class A /* c */ {}`. -/
def asideTree : Node :=
  .mk ⟨"program", 0, 18, true, false, none⟩
    [.mk ⟨"class_declaration", 0, 18, true, false, none⟩
      [.mk ⟨"class", 0, 5, false, false, none⟩ [],
        .mk ⟨"identifier", 6, 7, true, false, some "name"⟩ [],
        .mk ⟨"comment", 8, 15, true, false, none⟩ [],
        .mk ⟨"class_body", 16, 18, true, false, some "body"⟩ []]]

/-- A comment behind the name of a class disturbs nothing. -/
theorem structureOf_withoutComments_iff_class :
    asideTree.LooseComments ∧
    structureOf asideSource asideTree.withoutComments = structureOf asideSource asideTree ∧
    Undisturbed asideSource asideTree := by
  have hloose : asideTree.LooseComments := by decide +kernel
  have hsame : structureOf asideSource asideTree.withoutComments =
      structureOf asideSource asideTree := by decide +kernel
  obtain ⟨c, hc⟩ : ∃ c, structureOf asideSource asideTree = .ok c :=
    exists_structureOf (by decide +kernel)
  exact ⟨hloose, hsame, (structureOf_withoutComments_iff hloose).1 hsame c hc⟩

/-- A class with a comment before its superclass. -/
def extendsSource : Source :=
  .ofText (Text.ofString "class A extends /* c */ B {}")

/-- The tree of `class A extends /* c */ B {}`. -/
def extendsTree : Node :=
  .mk ⟨"program", 0, 28, true, false, none⟩
    [.mk ⟨"class_declaration", 0, 28, true, false, none⟩
      [.mk ⟨"class", 0, 5, false, false, none⟩ [],
        .mk ⟨"identifier", 6, 7, true, false, some "name"⟩ [],
        .mk ⟨"class_heritage", 8, 25, true, false, none⟩
          [.mk ⟨"extends", 8, 15, false, false, none⟩ [],
            .mk ⟨"comment", 16, 23, true, false, none⟩ [],
            .mk ⟨"identifier", 24, 25, true, false, none⟩ []],
        .mk ⟨"class_body", 26, 28, true, false, some "body"⟩ []]]

/-- A comment before the superclass is taken for the superclass. -/
theorem extends_comment :
    extendsTree.isComment = false ∧ extendsTree.LooseComments ∧
    (structureOf extendsSource extendsTree).map (fun c => c.classes.map ClassInfo.superclass) =
      .ok [some (Text.ofString "/* c */")] ∧
    (structureOf extendsSource extendsTree.withoutComments).map
        (fun c => c.classes.map ClassInfo.superclass) = .ok [some (Text.ofString "B")] ∧
    structureOf extendsSource extendsTree.withoutComments ≠
      structureOf extendsSource extendsTree := by
  decide +kernel

end CodeSurvey.Extract
