/-
  The scopes of variables and the constants of the top level agree.

  * `Node.opensScope`: the nodes inside which nothing is global;
  * `Node.mem_descendants_of_mem_dropLast`: the ancestors of a node but the last, which is the
    root, lie below the root;
  * `Extract.scopeOpenedBy`, `Extract.scopeOf_append_cons`: the scope by the nearest ancestor that
    opens one; `Extract.scopeOf_eq_global_iff`, `Extract.scopeOf_eq_block_iff`;
  * `Extract.isTopLevel_iff`: what stands at the top level has the program as parent, an export
    aside; `Extract.scopeOf_of_isTopLevel`;
  * `Node.withKeyword`: a declaration with another keyword; `Extract.vars_withKeyword`: the
    variables that a constant declaration would declare with it;
  * `Extract.scopes_consistent`: all declarations of a tree.
-/
import CodeSurvey.Proofs.Extract.Inventory

namespace CodeSurvey

namespace Node

/-- Whether the node is one inside which nothing is global. -/
def opensScope (n : Node) : Bool :=
  n.isFunctionScope || n.kind ∈ scopedStatements || n.kind == "statement_block"

variable {root : Node} {sp : Spot}

/-! ## Ancestors -/

theorem ancestors_at? {p q : Place} {i : Nat} {address : List Nat}
    (h : p.at? (i :: address) = some q) :
    ∃ inner, q.ancestors = inner ++ p.node :: p.ancestors ∧
      ∀ a ∈ inner, a ∈ p.node.descendants := by
  induction address generalizing p i with
  | nil =>
    obtain ⟨c, hc, hq⟩ := Option.bind_eq_some_iff.1 h
    obtain ⟨m, -, rfl⟩ := List.mem_map.1 (List.mem_of_getElem? hc)
    cases hq
    exact ⟨[], rfl, nofun⟩
  | cons j address ih =>
    obtain ⟨c, hc, hq⟩ := Option.bind_eq_some_iff.1 h
    obtain ⟨m, hm, rfl⟩ := List.mem_map.1 (List.mem_of_getElem? hc)
    obtain ⟨inner, hinner, hbelow⟩ := ih hq
    refine ⟨inner ++ [m], ?_, fun a ha => ?_⟩
    · rw [hinner, List.append_assoc]
      rfl
    · rcases List.mem_append.1 ha with ha | ha
      · exact descendants_trans (mem_descendants_of_mem_children hm) (hbelow a ha)
      · rw [List.mem_singleton.1 ha]
        exact mem_descendants_of_mem_children hm

/-- The ancestors of a node but the last, which is the root, lie below the root. -/
theorem mem_descendants_of_mem_dropLast (h : sp ∈ root.spots) :
    ∀ a ∈ sp.place.ancestors.dropLast, a ∈ root.descendants := by
  obtain ⟨hne, hat⟩ := mem_spots_iff.1 h
  obtain ⟨i, address, ha⟩ := List.exists_cons_of_ne_nil hne
  rw [ha] at hat
  obtain ⟨inner, hinner, hbelow⟩ := ancestors_at? hat
  rw [hinner, List.dropLast_concat]
  exact hbelow

/-! ## Another keyword -/

/-- The declaration with another keyword. -/
def withKeyword (keyword : String) : Node → Node
  | mk info [] => mk info []
  | mk info (first :: rest) =>
    mk info (mk { first.info with kind := keyword } first.children :: rest)

end Node

namespace Extract

variable {s : Source} {root n a b : Node} {as as' inner outer : List Node} {p : Place}

/-! ## The scope below some ancestors -/

theorem opensScope_eq_false_iff :
    n.opensScope = false ↔ n.isFunctionScope = false ∧ n.kind ∉ Node.scopedStatements ∧
      n.kind ≠ "statement_block" := by
  simp [Node.opensScope, and_assoc]

theorem isFunctionScope_eq_of_kind (h : a.kind = b.kind) :
    a.isFunctionScope = b.isFunctionScope := by
  simp only [Node.isFunctionScope, Node.isFunction, h]

/-- What tells the scope knows one node from another by their kinds alone. -/
theorem scopeOf_congr (h : as'.map Node.kind = as.map Node.kind) : scopeOf as' = scopeOf as := by
  induction as generalizing as' with
  | nil =>
    rw [List.map_nil, List.map_eq_nil_iff] at h
    rw [h]
  | cons a as ih =>
    obtain ⟨b, bs, rfl, hb, hbs⟩ := List.map_eq_cons_iff.1 h
    have howner : bs.head?.any Node.isFunctionScope = as.head?.any Node.isFunctionScope := by
      cases as with
      | nil => rw [List.map_eq_nil_iff.1 hbs]
      | cons c cs =>
        obtain ⟨d, ds, rfl, hd, -⟩ := List.map_eq_cons_iff.1 hbs
        exact isFunctionScope_eq_of_kind hd
    rw [scopeOf, scopeOf, hb, isFunctionScope_eq_of_kind hb, howner, ih hbs]

theorem not_opensScope_of_program (h : n.kind = "program") : n.opensScope = false := by
  simp only [Node.opensScope, Node.isFunctionScope, Node.isFunction, h]
  decide

/-- A node that opens no scope passes the question on to its parent. -/
theorem scopeOf_cons_of_not_opensScope (ha : a.opensScope = false) (hp : a.kind ≠ "program") :
    scopeOf (a :: as) = scopeOf as := by
  obtain ⟨hf, hs, hb⟩ := opensScope_eq_false_iff.1 ha
  simp [scopeOf, hp, hf, hs, hb]

/-- The scope that a node opens below its ancestors.  A block that is not the body of a function
    makes its own; whatever else opens a scope makes that of a function. -/
def scopeOpenedBy (a : Node) (outer : List Node) : VariableScope :=
  if a.kind = "statement_block" ∧ ∀ owner ∈ outer.head?, owner.isFunctionScope = false then .block
  else .function

theorem scopeOpenedBy_ne_global : scopeOpenedBy a outer ≠ .global := by
  unfold scopeOpenedBy
  split
  · exact nofun
  · exact nofun

theorem scopeOpenedBy_eq_block_iff :
    scopeOpenedBy a outer = .block ↔
      a.kind = "statement_block" ∧ ∀ owner ∈ outer.head?, owner.isFunctionScope = false := by
  unfold scopeOpenedBy
  split
  · exact ⟨fun _ => ‹_›, fun _ => rfl⟩
  · exact ⟨nofun, fun h => absurd h ‹_›⟩

theorem scopeOf_cons_of_opensScope (ha : a.opensScope = true) :
    scopeOf (a :: as) = scopeOpenedBy a as := by
  have hp : a.kind ≠ "program" := fun h =>
    absurd ha (by rw [not_opensScope_of_program h]; exact Bool.false_ne_true)
  rw [scopeOf, if_neg (by simpa using hp), scopeOpenedBy]
  by_cases hb : a.kind = "statement_block"
  · have hf : (a.isFunctionScope || decide (a.kind ∈ Node.scopedStatements)) = false := by
      simp only [Node.isFunctionScope, Node.isFunction, hb]
      decide
    rw [if_neg (by rw [hf]; exact Bool.false_ne_true), if_pos (beq_iff_eq.2 hb)]
    cases howner : as.head?.any Node.isFunctionScope with
    | true =>
      rw [if_pos rfl, if_neg]
      intro hand
      cases howner.symm.trans ((Option.any_eq_false _ _).2 hand.2)
    | false =>
      rw [if_neg Bool.false_ne_true, if_pos ⟨hb, (Option.any_eq_false _ _).1 howner⟩]
  · have hf : (a.isFunctionScope || decide (a.kind ∈ Node.scopedStatements)) = true := by
      rw [Node.opensScope, beq_eq_false_iff_ne.2 hb, Bool.or_false] at ha
      exact ha
    rw [if_pos hf, if_neg fun hand => hb hand.1]

/-- Where nothing opens a scope, all is global. -/
theorem scopeOf_eq_of_not_opensScope (h : ∀ a ∈ as, a.opensScope = false) :
    scopeOf as = .global := by
  induction as with
  | nil => rfl
  | cons a as ih =>
    obtain ⟨ha, has⟩ := List.forall_mem_cons.1 h
    by_cases hp : a.kind = "program"
    · rw [scopeOf, if_pos (beq_iff_eq.2 hp)]
    · rw [scopeOf_cons_of_not_opensScope ha hp, ih has]

/-- **The nearest ancestor that opens a scope decides**, unless a program stands before it. -/
theorem scopeOf_append_cons (hinner : ∀ b ∈ inner, b.opensScope = false ∧ b.kind ≠ "program")
    (ha : a.opensScope = true) :
    scopeOf (inner ++ a :: outer) = scopeOpenedBy a outer := by
  induction inner with
  | nil => exact scopeOf_cons_of_opensScope ha
  | cons b inner ih =>
    obtain ⟨hb, hrest⟩ := List.forall_mem_cons.1 hinner
    rw [List.cons_append, scopeOf_cons_of_not_opensScope hb.1 hb.2, ih hrest]

/-- Either nothing opens a scope, or there is a nearest node that does. -/
theorem exists_nearest (as : List Node) :
    (∀ a ∈ as, a.opensScope = false) ∨ ∃ inner a outer, as = inner ++ a :: outer ∧
      (∀ b ∈ inner, b.opensScope = false) ∧ a.opensScope = true := by
  cases h : as.find? Node.opensScope with
  | none =>
    left
    simpa using h
  | some a =>
    obtain ⟨ha, inner, outer, has, hinner⟩ := List.find?_eq_some_iff_append.1 h
    exact .inr ⟨inner, a, outer, has, fun b hb => by simpa using hinner b hb, ha⟩

/-- The nearest one is nearer than the root, so no program stands before it. -/
theorem scopeOf_of_nearest (hroot : ∀ a ∈ as.dropLast, a.kind ≠ "program")
    (has : as = inner ++ a :: outer) (hinner : ∀ b ∈ inner, b.opensScope = false)
    (ha : a.opensScope = true) :
    scopeOf as = scopeOpenedBy a outer := by
  subst has
  refine scopeOf_append_cons (fun b hb => ⟨hinner b hb, hroot b ?_⟩) ha
  rw [List.dropLast_append_cons]
  exact List.mem_append_left _ hb

/-- **What nothing encloses that opens a scope is global, and nothing else is.** -/
theorem scopeOf_eq_global_iff (hroot : ∀ a ∈ as.dropLast, a.kind ≠ "program") :
    scopeOf as = .global ↔ ∀ a ∈ as, a.opensScope = false := by
  refine ⟨fun hglobal => ?_, scopeOf_eq_of_not_opensScope⟩
  rcases exists_nearest as with hnone | ⟨inner, a, outer, has, hinner, ha⟩
  · exact hnone
  · rw [scopeOf_of_nearest hroot has hinner ha] at hglobal
    exact absurd hglobal scopeOpenedBy_ne_global

/-- The nearest of these nodes that opens a scope is a block that is not the body of a function. -/
def NearestIsBlock (as : List Node) : Prop :=
  ∃ inner block outer, as = inner ++ block :: outer ∧ (∀ b ∈ inner, b.opensScope = false) ∧
    block.kind = "statement_block" ∧ ∀ owner ∈ outer.head?, owner.isFunctionScope = false

/-- **What is directly in a block of its own has the scope of that block, and nothing else has.** -/
theorem scopeOf_eq_block_iff (hroot : ∀ a ∈ as.dropLast, a.kind ≠ "program") :
    scopeOf as = .block ↔ NearestIsBlock as := by
  constructor
  · intro hblock
    rcases exists_nearest as with hnone | ⟨inner, a, outer, has, hinner, ha⟩
    · cases hblock.symm.trans (scopeOf_eq_of_not_opensScope hnone)
    · rw [scopeOf_of_nearest hroot has hinner ha, scopeOpenedBy_eq_block_iff] at hblock
      exact ⟨inner, a, outer, has, hinner, hblock⟩
  · rintro ⟨inner, block, outer, has, hinner, hkind, howner⟩
    have hopens : block.opensScope = true := by
      rw [Node.opensScope, beq_iff_eq.2 hkind, Bool.or_true]
    rw [scopeOf_of_nearest hroot has hinner hopens]
    exact scopeOpenedBy_eq_block_iff.2 ⟨hkind, howner⟩

/-! ## The top level -/

/-- A declaration at the top level has the program as its parent, an export aside. -/
theorem isTopLevel_iff :
    isTopLevel p = true ↔ ∃ root above, root.kind = "program" ∧ (p.ancestors = root :: above ∨
      ∃ statement, statement.kind = "export_statement" ∧
        p.ancestors = statement :: root :: above) := by
  obtain ⟨node, ancestors⟩ := p
  rcases ancestors with _ | ⟨parent, rest⟩
  · simp [isTopLevel]
  · by_cases he : parent.kind = "export_statement"
    · rcases rest with _ | ⟨root, above⟩
      · simp [isTopLevel, he]
      · simp only [isTopLevel, he, beq_self_eq_true, if_true, List.head?_cons, Option.any_some,
          beq_iff_eq]
        constructor
        · exact fun hroot => ⟨root, above, hroot, .inr ⟨parent, he, rfl⟩⟩
        · rintro ⟨root', above', hroot, h | ⟨statement, -, h⟩⟩
          · cases h
            exact absurd (he.symm.trans hroot) (by decide)
          · cases h
            exact hroot
    · simp [isTopLevel, he]

/-- What stands at the top level is global. -/
theorem scopeOf_of_isTopLevel (h : isTopLevel p = true) : scopeOf p.ancestors = .global := by
  have hprogram {root : Node} {above : List Node} (hroot : root.kind = "program") :
      scopeOf (root :: above) = .global := by
    rw [scopeOf, if_pos (beq_iff_eq.2 hroot)]
  obtain ⟨root, above, hroot, hp | ⟨statement, hexport, hp⟩⟩ := isTopLevel_iff.1 h
  · rw [hp, hprogram hroot]
  · have hnot : statement.opensScope = false := by
      simp only [Node.opensScope, Node.isFunctionScope, Node.isFunction, hexport]
      decide
    rw [hp, scopeOf_cons_of_not_opensScope hnot (by rw [hexport]; decide), hprogram hroot]

/-! ## Declarations with another keyword -/

theorem declarationKeyword_eq_const_iff :
    declarationKeyword n = "const" ↔ n.kind ≠ "variable_declaration" ∧
      ∃ first rest, n.children = first :: rest ∧ first.kind = "const" := by
  rw [declarationKeyword]
  by_cases hk : n.kind = "variable_declaration"
  · simp [hk]
  · cases hc : n.children with
    | nil => simp [hk]
    | cons first rest => simp [hk]

theorem declarationKeyword_withKeyword (keyword : String) (hk : n.kind ≠ "variable_declaration")
    (hc : n.children ≠ []) : declarationKeyword (n.withKeyword keyword) = keyword := by
  obtain ⟨info, children⟩ := n
  cases children with
  | nil => exact absurd rfl hc
  | cons first rest =>
    rw [declarationKeyword]
    exact if_neg fun h => hk (beq_iff_eq.1 h)

/-- A first child that is no declarator declares nothing. -/
theorem declarators_of_cons {first : Node} {rest : List Node} (hc : n.children = first :: rest)
    (hfirst : first.kind ≠ "variable_declarator") :
    declarators s n = declarators s (.mk n.info rest) := by
  rw [declarators, declarators, Node.namedChildren, Node.namedChildren, hc, List.filter_cons]
  split
  · rw [List.filterMap_cons, if_neg (by simpa using hfirst)]
    rfl
  · rfl

/-- The keyword is not what declares the names. -/
theorem declarators_withKeyword {keyword : String} {first : Node} {rest : List Node}
    (hc : n.children = first :: rest) (hfirst : first.kind ≠ "variable_declarator")
    (hkeyword : keyword ≠ "variable_declarator") :
    declarators s (n.withKeyword keyword) = declarators s n := by
  obtain ⟨info, children⟩ := n
  obtain rfl : children = first :: rest := hc
  have hbefore : declarators s (.mk info (first :: rest)) = declarators s (.mk info rest) :=
    declarators_of_cons rfl hfirst
  have hafter : declarators s (Node.withKeyword keyword (.mk info (first :: rest))) =
      declarators s (.mk info rest) :=
    declarators_of_cons rfl hkeyword
  rw [hafter, hbefore]

/-- A declaration of which constants are recorded is one at the top level. -/
theorem of_constants_ne_nil (h : constants s p ≠ []) :
    declarationKeyword p.node = "const" ∧ isTopLevel p = true := by
  by_contra hnot
  refine h (if_neg fun hand => hnot ?_)
  rw [Bool.and_eq_true, beq_iff_eq] at hand
  exact hand

/-- **The constants of a declaration would be global variables under the keyword of one.** -/
theorem vars_withKeyword (h : constants s p ≠ [])
    (has : as.map Node.kind = p.ancestors.map Node.kind) :
    vars s ⟨p.node.withKeyword "let", as⟩ =
      (constants s p).map fun c => { name := c.name, kind := .let_, scope := .global } := by
  obtain ⟨hconst, htop⟩ := of_constants_ne_nil h
  obtain ⟨hk, first, rest, hc, hfirst⟩ := declarationKeyword_eq_const_iff.1 hconst
  have hlet : declarationKeyword (p.node.withKeyword "let") = "let" :=
    declarationKeyword_withKeyword "let" hk (by rw [hc]; exact List.cons_ne_nil _ _)
  have hnames : declarators s (p.node.withKeyword "let") = declarators s p.node :=
    declarators_withKeyword hc (by rw [hfirst]; decide) (by decide)
  have hscope : scopeOf as = .global := (scopeOf_congr has).trans (scopeOf_of_isTopLevel htop)
  rw [constants, hconst, htop, if_pos (by decide), List.map_map, vars]
  simp only [hlet, variableKind?, hnames, hscope]
  rfl

/-! ## All declarations of a tree -/

/-- What the records of a declaration say of the nodes around it. -/
structure ScopesAgree (s : Source) (p : Place) : Prop where
  global : ∀ v ∈ vars s p, v.scope = .global ↔ ∀ a ∈ p.ancestors, a.opensScope = false
  block : ∀ v ∈ vars s p, v.scope = .block ↔ NearestIsBlock p.ancestors
  /-- Inside a function or method nothing is global, and no constant is recorded. -/
  function : ∀ f ∈ p.ancestors, f.isFunctionScope = true →
    (∀ v ∈ vars s p, v.scope ≠ .global) ∧ constants s p = []
  /-- With the keyword of a variable, wherever nodes of the same kinds are around it, a
      declaration of constants would make their names global. -/
  constant : constants s p ≠ [] → ∀ as : List Node, as.map Node.kind = p.ancestors.map Node.kind →
    vars s ⟨p.node.withKeyword "let", as⟩ =
      (constants s p).map fun c => { name := c.name, kind := .let_, scope := .global }

theorem mem_varsAt_iff {v : VariableInfo} :
    v ∈ varsAt s p ↔ p.node.isDeclaration = true ∧ v ∈ vars s p := by
  rw [varsAt]
  cases p.node.isDeclaration with
  | true => simp
  | false => simp

theorem mem_constantsAt_iff {k : ConstantInfo} :
    k ∈ constantsAt s p ↔ p.node.isDeclaration = true ∧ k ∈ constants s p := by
  rw [constantsAt]
  cases p.node.isDeclaration with
  | true => simp
  | false => simp

theorem scope_of_mem_vars {v : VariableInfo} (hv : v ∈ vars s p) :
    v.scope = scopeOf p.ancestors := by
  unfold vars at hv
  split at hv
  · obtain ⟨d, -, rfl⟩ := List.mem_map.1 hv
    rfl
  · cases hv

theorem scopesAgree (hroot : ∀ a ∈ p.ancestors.dropLast, a.kind ≠ "program") : ScopesAgree s p where
  global v hv := by
    rw [scope_of_mem_vars hv]
    exact scopeOf_eq_global_iff hroot
  block v hv := by
    rw [scope_of_mem_vars hv]
    exact scopeOf_eq_block_iff hroot
  function f hf hscope := by
    have hlocal : scopeOf p.ancestors ≠ .global := fun hglobal => by
      have hnot := (opensScope_eq_false_iff.1 ((scopeOf_eq_global_iff hroot).1 hglobal f hf)).1
      cases hscope.symm.trans hnot
    refine ⟨fun v hv => ?_, ?_⟩
    · rw [scope_of_mem_vars hv]
      exact hlocal
    · by_contra hne
      exact hlocal (scopeOf_of_isTopLevel (of_constants_ne_nil hne).2)
  constant h as has := vars_withKeyword h has

/-- **Scopes are consistent.**  In a tree with a program at its root alone, a variable is global
    exactly if no node above its declaration opens a scope, it is that of a block exactly if the
    nearest such node is a block that is not the body of a function, and constants are recorded
    where variables would be global.  The variables and constants of a structure are those of the
    declarations of the tree. -/
theorem scopes_consistent (h : ∀ n ∈ root.descendants, n.kind ≠ "program") (s : Source) :
    (∀ sp ∈ root.spots, ScopesAgree s sp.place) ∧
    ∀ c, structureOf s root = .ok c →
      (∀ v ∈ c.vars, ∃ sp ∈ root.spots, sp.place.node.isDeclaration = true ∧
        ∃ w ∈ vars s sp.place, v = { w with reassigned := v.reassigned }) ∧
      ∀ k ∈ c.constants, ∃ sp ∈ root.spots, sp.place.node.isDeclaration = true ∧
        k ∈ constants s sp.place := by
  refine ⟨fun sp hsp => scopesAgree fun a ha => ?_, fun c hc => ⟨fun v hv => ?_, fun k hk => ?_⟩⟩
  · exact h a (Node.mem_descendants_of_mem_dropLast hsp a ha)
  · rw [(inventory_of_ok hc).vars] at hv
    obtain ⟨w, hw, rfl⟩ := List.mem_map.1 hv
    obtain ⟨sp, hsp, hw⟩ := List.mem_flatMap.1 hw
    obtain ⟨hd, hw⟩ := mem_varsAt_iff.1 hw
    exact ⟨sp, (List.mem_filter.1 hsp).1, hd, w, hw, rfl⟩
  · rw [(inventory_of_ok hc).constants] at hk
    obtain ⟨sp, hsp, hk⟩ := List.mem_flatMap.1 hk
    exact ⟨sp, (List.mem_filter.1 hsp).1, mem_constantsAt_iff.1 hk⟩

/-- A variable in a block of a function, a constant in the function, and both at the top level. -/
def scopesText : Text :=
  Text.ofString "function f()\x7b\x7blet x\x7dconst k=1\x7dlet y;const c=2"

/-- The declaration of a name of one letter, with the given children for its value. -/
def letterDeclaration (keyword : String) (start length : Nat) (value : List Node) : Node :=
  let name := start + keyword.length + 1
  .mk ⟨"lexical_declaration", start, start + length, true, false, none⟩
    [.mk ⟨keyword, start, start + keyword.length, false, false, some "kind"⟩ [],
      .mk ⟨"variable_declarator", name, start + length, true, false, none⟩
        (.mk ⟨"identifier", name, name + 1, true, false, some "name"⟩ [] :: value)]

def scopesTree : Node :=
  .mk ⟨"program", 0, 45, true, false, none⟩
    [.mk ⟨"function_declaration", 0, 30, true, false, none⟩
      [.mk ⟨"identifier", 9, 10, true, false, some "name"⟩ [],
        .mk ⟨"formal_parameters", 10, 12, true, false, some "parameters"⟩ [],
        .mk ⟨"statement_block", 12, 30, true, false, some "body"⟩
          [.mk ⟨"statement_block", 13, 20, true, false, none⟩ [letterDeclaration "let" 14 5 []],
            letterDeclaration "const" 20 9 [.mk ⟨"number", 28, 29, true, false, some "value"⟩ []]]],
      letterDeclaration "let" 30 5 [],
      letterDeclaration "const" 36 9 [.mk ⟨"number", 44, 45, true, false, some "value"⟩ []]]

/-- Only what is outside the function is global or recorded as a constant. -/
theorem scopes_consistent_block :
    (∀ n ∈ scopesTree.descendants, n.kind ≠ "program") ∧
    (∀ sp ∈ scopesTree.spots, ScopesAgree (.ofText scopesText) sp.place) ∧
    ∃ c, structureOf (.ofText scopesText) scopesTree = .ok c ∧
      c.vars.map (fun v => (v.name, v.scope)) =
        [(Text.ofString "x", .block), (Text.ofString "y", .global)] ∧
      c.constants.map ConstantInfo.name = [Text.ofString "c"] ∧
      ∀ v ∈ c.vars, ∃ sp ∈ scopesTree.spots, sp.place.node.isDeclaration = true ∧
        ∃ w ∈ vars (.ofText scopesText) sp.place, v = { w with reassigned := v.reassigned } := by
  have hprogram : ∀ n ∈ scopesTree.descendants, n.kind ≠ "program" := by decide +kernel
  have hshown : (structureOf (.ofText scopesText) scopesTree).map (fun c =>
      (c.vars.map fun v => (v.name, v.scope), c.constants.map ConstantInfo.name)) =
        .ok ([(Text.ofString "x", .block), (Text.ofString "y", .global)], [Text.ofString "c"]) := by
    decide +kernel
  obtain ⟨hagree, hrecords⟩ := scopes_consistent hprogram (.ofText scopesText)
  cases hc : structureOf (.ofText scopesText) scopesTree with
  | error e =>
    rw [hc] at hshown
    cases hshown
  | ok c =>
    rw [hc] at hshown
    obtain ⟨hvars, hconstants⟩ := Prod.mk.inj (Except.ok.inj hshown)
    exact ⟨hprogram, hagree, c, rfl, hvars, hconstants, (hrecords c hc).1⟩

end Extract

end CodeSurvey
