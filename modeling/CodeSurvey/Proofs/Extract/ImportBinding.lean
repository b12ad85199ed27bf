/-
  What an import binds, and what its record says of it.

  Bindings and flags of a record are kept apart while the parts of an import are gone
  through, so that they could part ways.

  * `Extract.binders`: the nodes of an import that bind names; `Extract.Binds`: the binding
    that such a node makes;
  * `Extract.BoundBy`: a record beside its binders, where the default flag stands for a
    default clause; `BoundBy.addImport`, `BoundBy.foldl`: kept by one more child of a
    statement, hence by all of them;
  * `Extract.boundBy_binders`: the records of a node are such;
  * `Extract.import_default_iff`: when the flag agrees with the bindings.
-/
import CodeSurvey.Proofs.Extract.Unit

namespace CodeSurvey

/-- The node binds the default export of a module by itself, without naming it. -/
def Node.IsDefaultClause (n : Node) : Prop :=
  n.kind = "identifier" ∨ n.kind = "import_require_clause"

instance (n : Node) : Decidable n.IsDefaultClause :=
  inferInstanceAs (Decidable (_ ∨ _))

namespace Extract

variable {s : Source} {root n : Node} {p : Place} {i : ImportInfo} {b : ImportBinding}

/-! ## The nodes that bind names -/

/-- The nodes that bind names in one part of an import clause. -/
def partBinders (part : Node) : List Node :=
  if part.kind = "identifier" ∨ part.kind = "namespace_import" then [part]
  else if part.kind = "named_imports" then
    part.namedChildren.filter fun c => c.kind == "import_specifier"
  else []

/-- The nodes that bind names in one child of an import statement. -/
def clauseBinders (child : Node) : List Node :=
  if child.kind = "import_clause" then child.namedChildren.flatMap partBinders
  else if child.kind = "import_require_clause" then [child]
  else []

/-- Whether a call loads a module by the function for it. -/
def callsRequire (s : Source) (call : Node) : Bool :=
  (call.child? "function").any fun callee =>
    callee.kind == "identifier" && s.text callee == requireName

/-- The plain name of the variable that a node initialises. -/
def initialisedNode? (p : Place) : Option Node :=
  ((p.parent?.filter fun n => n.kind == "variable_declarator").bind (·.child? "name")).filter
    fun name => name.kind == "identifier"

/-- The nodes that bind names where a node imports. -/
def binders (s : Source) (p : Place) : List Node :=
  if p.node.kind = "import_statement" then p.node.namedChildren.flatMap clauseBinders
  else if callsRequire s p.node then (initialisedNode? p).toList
  else []

/-- The binding that a node makes. -/
inductive Binds (s : Source) : Node → ImportBinding → Prop
  /-- `x` in `import x from`, or the variable that takes what a call loads -/
  | default {n : Node} (kind : n.kind = "identifier") : Binds s n ⟨defaultName, some (s.text n)⟩
  /-- `* as x` -/
  | namespace_ {n : Node} (kind : n.kind = "namespace_import") :
      Binds s n ⟨allNames, localName? s n⟩
  /-- `x` or `x as y` in braces -/
  | specifier {n : Node} (kind : n.kind = "import_specifier") : Binds s n (specifierBinding s n)
  /-- `x = require(…)` in an import statement -/
  | require {n : Node} (kind : n.kind = "import_require_clause") :
      Binds s n ⟨defaultName, localName? s n⟩

theorem initialisedName?_eq (s : Source) (p : Place) :
    initialisedName? s p = (initialisedNode? p).map s.text := by
  unfold initialisedName? initialisedNode?
  cases (p.parent?.filter fun n => n.kind == "variable_declarator").bind (·.child? "name") with
  | none => rfl
  | some name =>
    rw [Option.bind_some, Option.filter_some]
    split <;> rfl

theorem forall₂_partBinders (s : Source) (part : Node) :
    List.Forall₂ (Binds s) (partBinders part) (partBindings s part) := by
  unfold partBinders partBindings
  by_cases hi : part.kind = "identifier"
  · simpa [hi] using Binds.default hi
  by_cases hn : part.kind = "namespace_import"
  · simpa [hn] using Binds.namespace_ hn
  by_cases hs : part.kind = "named_imports"
  · rw [if_neg (by simp [hs]), if_pos hs, if_neg (by simp [hs]), if_neg (by simp [hs]),
      if_pos (beq_iff_eq.2 hs)]
    refine List.forall₂_map_right_iff.2 (List.forall₂_same.2 fun c hc => ?_)
    exact .specifier (beq_iff_eq.1 (List.mem_filter.1 hc).2)
  · simp [hi, hn, hs]

/-- Of the parts of a clause only a plain name is a default clause. -/
theorem exists_default_partBinders_iff (part : Node) :
    (∃ n ∈ partBinders part, n.IsDefaultClause) ↔ part.kind = "identifier" := by
  unfold partBinders
  constructor
  · rintro ⟨n, hn, hd⟩
    split_ifs at hn with h h'
    · obtain rfl := List.mem_singleton.1 hn
      refine hd.resolve_right fun hr => ?_
      simp [hr] at h
    · have hk := beq_iff_eq.1 (List.mem_filter.1 hn).2
      simp [Node.IsDefaultClause, hk] at hd
    · cases hn
  · intro h
    rw [if_pos (.inl h)]
    exact ⟨part, List.mem_singleton_self part, .inl h⟩

theorem exists_default_flatMap_iff (parts : List Node) :
    (∃ n ∈ parts.flatMap partBinders, n.IsDefaultClause) ↔
      (parts.any fun part => part.kind == "identifier") = true := by
  simp only [List.any_eq_true, beq_iff_eq, ← exists_default_partBinders_iff, List.mem_flatMap]
  constructor
  · rintro ⟨n, ⟨part, hpart, hn⟩, hd⟩
    exact ⟨part, hpart, n, hn, hd⟩
  · rintro ⟨part, hpart, n, hn, hd⟩
    exact ⟨n, ⟨part, hpart, hn⟩, hd⟩

/-! ## A record beside its binders -/

/-- The bindings of a record beside the nodes that make them.  The default flag stands exactly if
    one of these is a default clause. -/
structure BoundBy (s : Source) (binders : List Node) (i : ImportInfo) : Prop where
  bindings : List.Forall₂ (Binds s) binders i.bindings
  isDefault : i.isDefault = true ↔ ∃ n ∈ binders, n.IsDefaultClause

/-- **One more child of an import statement keeps bindings and flag in step.** -/
theorem BoundBy.addImport {nodes : List Node} (h : BoundBy s nodes i) (child : Node) :
    BoundBy s (nodes ++ clauseBinders child) (addImport s i child) := by
  unfold Extract.addImport clauseBinders
  by_cases hc : child.kind = "import_clause"
  · rw [if_pos hc, if_pos (beq_iff_eq.2 hc)]
    constructor
    · refine List.rel_append h.bindings ?_
      exact List.rel_flatMap (List.forall₂_same.2 fun part _ => rfl) fun part _ hpart =>
        hpart ▸ forall₂_partBinders s part
    · rw [Bool.or_eq_true, h.isDefault, ← exists_default_flatMap_iff]
      simp only [List.mem_append, or_and_right, exists_or]
  by_cases hr : child.kind = "import_require_clause"
  · rw [if_neg hc, if_pos hr, if_neg (by simpa using hc), if_pos (beq_iff_eq.2 hr)]
    exact ⟨List.rel_append h.bindings (.cons (.require hr) .nil),
      iff_of_true rfl ⟨child, by simp, .inr hr⟩⟩
  · rw [if_neg hc, if_neg hr, if_neg (by simpa using hc), if_neg (by simpa using hr),
      List.append_nil]
    exact h

/-- All children of an import statement keep them in step. -/
theorem BoundBy.foldl {nodes : List Node} (h : BoundBy s nodes i) (children : List Node) :
    BoundBy s (nodes ++ children.flatMap clauseBinders)
      (children.foldl (Extract.addImport s) i) := by
  induction children generalizing nodes i with
  | nil => simpa using h
  | cons child children ih =>
    rw [List.flatMap_cons, ← List.append_assoc]
    exact ih (h.addImport child)

/-! ## The records of a node -/

theorem isDynamic_foldl (children : List Node) (i : ImportInfo) :
    (children.foldl (addImport s) i).isDynamic = i.isDynamic := by
  induction children generalizing i with
  | nil => rfl
  | cons child children ih =>
    rw [List.foldl_cons, ih, addImport]
    split_ifs <;> rfl

theorem boundBy_of_mem_staticImports (h : i ∈ staticImports s n) :
    BoundBy s (n.namedChildren.flatMap clauseBinders) i ∧ i.isDynamic = false := by
  obtain ⟨rfl, -⟩ := mem_keepNamed_iff.1 h
  have hstart : BoundBy s []
      { source := stringValue s (n.child? "source"), line := s.firstLine n } := ⟨.nil, by simp⟩
  exact ⟨hstart.foldl n.namedChildren, isDynamic_foldl n.namedChildren _⟩

theorem boundBy_of_mem_callImports (h : i ∈ callImports s p) :
    BoundBy s (if callsRequire s p.node then (initialisedNode? p).toList else []) i ∧
      ¬ (i.isDynamic = true ∧ i.isRequire = true) := by
  obtain ⟨-, callee, hf, hdyn, hreq, hdef, hbindings⟩ := callImports_cases h
  have hcalls : callsRequire s p.node = i.isRequire := by
    rw [callsRequire, hf, Option.any_some, hreq]
  rw [hcalls]
  by_cases hr : i.isRequire = true
  · -- a callee is not a name and the keyword `import` at once
    have hname : callee.kind = "identifier" := by
      rw [hreq, Bool.and_eq_true, beq_iff_eq] at hr
      exact hr.1
    refine ⟨?_, fun hmodes => absurd hmodes.1 (by simp [hdyn, hname])⟩
    rw [if_pos hr, initialisedName?_eq] at hbindings
    rw [if_pos hr]
    cases hn : initialisedNode? p with
    | none =>
      rw [hn] at hbindings
      exact ⟨hbindings ▸ .nil, by simp [hdef, hbindings]⟩
    | some name =>
      rw [hn] at hbindings
      have hkind := beq_iff_eq.1 (Option.filter_eq_some_iff.1 hn).2
      exact ⟨hbindings ▸ .cons (.default hkind) .nil,
        by simp [hdef, hbindings, Node.IsDefaultClause, hkind]⟩
  · rw [if_neg hr] at hbindings ⊢
    exact ⟨⟨hbindings ▸ .nil, by simp [hdef, hbindings]⟩, fun hmodes => hr hmodes.2⟩

/-- **The records of a node keep bindings and flag in step.** -/
theorem boundBy_binders (h : i ∈ importsAt s p) :
    BoundBy s (binders s p) i ∧ ¬ (i.isDynamic = true ∧ i.isRequire = true) := by
  unfold importsAt at h
  split_ifs at h with hs hc
  · obtain ⟨hbound, hdyn⟩ := boundBy_of_mem_staticImports h
    rw [binders, if_pos hs]
    exact ⟨hbound, by simp [hdyn]⟩
  · rw [binders, if_neg hs]
    exact boundBy_of_mem_callImports h
  · cases h

/-! ## The default flag -/

/-- The node names the default export of a module in braces. -/
def NamesDefault (s : Source) (n : Node) : Prop :=
  n.kind = "import_specifier" ∧ stringValue s (n.child? "name") = defaultName

instance (s : Source) (n : Node) : Decidable (NamesDefault s n) :=
  inferInstanceAs (Decidable (_ ∧ _))

theorem allNames_ne_defaultName : allNames ≠ defaultName := by
  decide

/-- A node binds the default export by itself or by naming it in braces. -/
theorem Binds.name_eq_default_iff (h : Binds s n b) :
    b.name = defaultName ↔ n.IsDefaultClause ∨ NamesDefault s n := by
  cases h with
  | default kind => simp [Node.IsDefaultClause, kind]
  | namespace_ kind => simp [Node.IsDefaultClause, NamesDefault, kind, allNames_ne_defaultName]
  | specifier kind => simp [Node.IsDefaultClause, NamesDefault, kind, specifierBinding]
  | require kind => simp [Node.IsDefaultClause, kind]

/-- The alias of a name in braces is the one written, unless it equals the name. -/
theorem Binds.localName_eq_some_iff (h : Binds s n b) (kind : n.kind = "import_specifier")
    (a : Text) :
    b.localName = some a ↔ (n.child? "alias").map s.text = some a ∧ a ≠ b.name := by
  cases h with
  | specifier _ => simp [specifierBinding, Option.filter_eq_some_iff]
  | default kind' => simp [kind'] at kind
  | namespace_ kind' => simp [kind'] at kind
  | require kind' => simp [kind'] at kind

theorem exists_of_forall₂ {α β : Type} {R : α → β → Prop} {P : α → Prop} {Q : β → Prop}
    {l : List α} {r : List β} (h : List.Forall₂ R l r) (hPQ : ∀ a b, R a b → (Q b ↔ P a)) :
    (∃ b ∈ r, Q b) ↔ ∃ a ∈ l, P a := by
  induction h with
  | nil => simp
  | cons hab _ ih => simp [hPQ _ _ hab, ih]

theorem BoundBy.exists_default_iff {nodes : List Node} (h : BoundBy s nodes i) :
    (∃ b ∈ i.bindings, b.name = defaultName) ↔
      i.isDefault = true ∨ ∃ n ∈ nodes, NamesDefault s n := by
  rw [exists_of_forall₂ h.bindings fun n b hb => hb.name_eq_default_iff, h.isDefault]
  simp only [and_or_left, exists_or]

/-- **The default flag of an import agrees with its bindings, unless the default export is named in
    braces only.**  Every import of a structure stems from a node of the tree.  It names a module and
    is not both a call of `import` and one of `require`; its bindings are those of the binding nodes
    in order, and a name in braces has an alias exactly if one is written that differs from it.  The
    flag never stands without a binding of the default export.  That such a binding never stands
    without the flag holds exactly if no name in braces is `default`, or there is a default clause
    too. -/
theorem import_default_iff {c : CodeStructure} (h : structureOf s root = .ok c) :
    ∀ i ∈ c.imports, ∃ sp ∈ root.namedSpots, i ∈ importsAt s sp.place ∧
      i.source ≠ [] ∧ ¬ (i.isDynamic = true ∧ i.isRequire = true) ∧
      List.Forall₂
        (fun n b => Binds s n b ∧ (n.kind = "import_specifier" → ∀ a,
          b.localName = some a ↔ (n.child? "alias").map s.text = some a ∧ a ≠ b.name))
        (binders s sp.place) i.bindings ∧
      (i.isDefault = true → ∃ b ∈ i.bindings, b.name = defaultName) ∧
      ((i.isDefault = true ↔ ∃ b ∈ i.bindings, b.name = defaultName) ↔
        ((∃ n ∈ binders s sp.place, NamesDefault s n) →
          ∃ n ∈ binders s sp.place, n.IsDefaultClause)) := by
  intro i hi
  have hvalid := (valid_of_structureOf h).imports i hi
  rw [(inventory_of_ok h).imports] at hi
  obtain ⟨sp, hsp, hi⟩ := List.mem_flatMap.1 hi
  obtain ⟨hbound, hmodes⟩ := boundBy_binders hi
  refine ⟨sp, hsp, hi, hvalid, hmodes, ?_, ?_, ?_⟩
  · exact hbound.bindings.imp fun n b hb => ⟨hb, hb.localName_eq_some_iff⟩
  · exact fun hd => hbound.exists_default_iff.2 (.inl hd)
  · rw [hbound.exists_default_iff, ← hbound.isDefault]
    constructor
    · intro hiff hnamed
      exact hiff.2 (.inr hnamed)
    · intro himp
      exact ⟨.inl, fun hor => hor.elim id himp⟩

/-- A default clause before a name in braces. -/
def mixedImportSource : Source :=
  .ofText (Text.ofString "import d,\x7bdefault as x\x7dfrom'a'")

def mixedImportTree : Node :=
  .mk ⟨"program", 0, 30, true, false, none⟩
    [.mk ⟨"import_statement", 0, 30, true, false, none⟩
      [.mk ⟨"import_clause", 7, 23, true, false, none⟩
        [.mk ⟨"identifier", 7, 8, true, false, none⟩ [],
          .mk ⟨"named_imports", 9, 23, true, false, none⟩
            [.mk ⟨"import_specifier", 10, 22, true, false, none⟩
              [.mk ⟨"default", 10, 17, false, false, some "name"⟩ [],
                .mk ⟨"identifier", 21, 22, true, false, some "alias"⟩ []]]],
        .mk ⟨"string", 27, 30, true, false, some "source"⟩ []]]

def mixedImport : ImportInfo where
  source := Text.ofString "a"
  bindings := [⟨defaultName, some (Text.ofString "d")⟩, ⟨defaultName, some (Text.ofString "x")⟩]
  isDefault := true
  line := 1

/-- Beside a default clause `default` in braces keeps flag and bindings in agreement. -/
theorem import_default_iff_mixed :
    structureOf mixedImportSource mixedImportTree = .ok { imports := [mixedImport] } ∧
    (mixedImport.isDefault = true ↔ ∃ b ∈ mixedImport.bindings, b.name = defaultName) := by
  have h : structureOf mixedImportSource mixedImportTree = .ok { imports := [mixedImport] } := by
    decide +kernel
  have hclause : ∀ sp ∈ mixedImportTree.namedSpots,
      (∃ n ∈ binders mixedImportSource sp.place, NamesDefault mixedImportSource n) →
        ∃ n ∈ binders mixedImportSource sp.place, n.IsDefaultClause := by
    decide +kernel
  obtain ⟨sp, hsp, -, -, -, -, -, hiff⟩ :=
    import_default_iff h mixedImport (List.mem_singleton_self _)
  exact ⟨h, hiff.2 (hclause sp hsp)⟩

/-- The default export in braces, and nothing else. -/
def namedDefaultSource : Source :=
  .ofText (Text.ofString "import\x7bdefault as x\x7dfrom'a'")

def namedDefaultTree : Node :=
  .mk ⟨"program", 0, 27, true, false, none⟩
    [.mk ⟨"import_statement", 0, 27, true, false, none⟩
      [.mk ⟨"import_clause", 6, 20, true, false, none⟩
        [.mk ⟨"named_imports", 6, 20, true, false, none⟩
          [.mk ⟨"import_specifier", 7, 19, true, false, none⟩
            [.mk ⟨"default", 7, 14, false, false, some "name"⟩ [],
              .mk ⟨"identifier", 18, 19, true, false, some "alias"⟩ []]]],
        .mk ⟨"string", 24, 27, true, false, some "source"⟩ []]]

def namedDefaultImport : ImportInfo where
  source := Text.ofString "a"
  bindings := [⟨defaultName, some (Text.ofString "x")⟩]
  line := 1

/-- The default export of a module, named in braces, is bound without the flag. -/
theorem default_in_braces :
    ∃ c, structureOf namedDefaultSource namedDefaultTree = .ok c ∧
      ¬ ∀ i ∈ c.imports, i.isDefault = true ↔ ∃ b ∈ i.bindings, b.name = defaultName := by
  refine ⟨{ imports := [namedDefaultImport] }, by decide +kernel, ?_⟩
  intro hall
  have hflag := (hall namedDefaultImport (List.mem_singleton_self _)).2
    ⟨_, List.mem_singleton_self _, rfl⟩
  cases hflag

end Extract

end CodeSurvey
