/-
  A function branches and calls at least as much as the functions in it do.

  * `Extract.complexity_eq`, `Extract.calledNames_eq`: complexity and calls of a node, from
    the nodes below it;
  * `Extract.sum_complexity_le`: the branches of nodes apart from each other add up within a
    node above them;
  * `Extract.pairwise_calledNames`, `Extract.calledNames_subset`: calls in the order of the
    first call, and among the calls of every node above;
  * `Extract.enclosing_covers_nested`: the records of a structure.
-/
import CodeSurvey.Proofs.Distinct
import CodeSurvey.Proofs.Extract.Inventory
import CodeSurvey.Proofs.Tree.Segment

namespace CodeSurvey.Extract

variable {s : Source} {root n m : Node} {sp : Spot} {c : CodeStructure} {f : FunctionInfo}

/-! ## Branches -/

theorem complexity_eq (n : Node) : complexity n = n.descendants.countP Node.isBranch + 1 := by
  rw [complexity, Node.walkBelow_eq]

/-- **The branches of nodes apart from each other add up within a node above them.** -/
theorem sum_complexity_le (h : sp ∈ root.spots) {inner : List Spot}
    (hinner : ∀ g ∈ inner, g ∈ root.spots ∧ g.Within sp) (apart : inner.Pairwise Spot.Apart) :
    (inner.map fun g => complexity g.place.node - 1).sum + 1 ≤ complexity sp.place.node := by
  simp only [complexity_eq, Nat.add_sub_cancel]
  exact Nat.succ_le_succ (Node.sum_countP_descendants_le h hinner apart Node.isBranch)

/-! ## Calls -/

theorem calledNames_eq (s : Source) (n : Node) :
    calledNames s n = distinct (n.descendants.filterMap (calleeName? s)) := by
  rw [calledNames, Node.walkBelow_eq]

theorem mem_calledNames_iff {x : Text} :
    x ∈ calledNames s n ↔ ∃ call ∈ n.descendants, calleeName? s call = some x := by
  rw [calledNames_eq, mem_distinct, List.mem_filterMap]

/-- How many nodes below a node come before its first call of a name. -/
def firstCall (s : Source) (n : Node) (x : Text) : Nat :=
  n.descendants.findIdx fun call => calleeName? s call = some x

/-- **The names that a node calls stand in the order of their first calls.** -/
theorem pairwise_calledNames (s : Source) (n : Node) :
    (calledNames s n).Pairwise fun x y => firstCall s n x < firstCall s n y := by
  rw [calledNames_eq]
  exact pairwise_distinct_filterMap (calleeName? s) n.descendants

/-- What a node calls, every node above it calls. -/
theorem calledNames_subset (h : m ∈ n.descendants) :
    ∀ x ∈ calledNames s m, x ∈ calledNames s n := by
  intro x hx
  obtain ⟨call, hcall, hname⟩ := mem_calledNames_iff.1 hx
  exact mem_calledNames_iff.2 ⟨call, Node.descendants_trans h hcall, hname⟩

/-! ## The records of a structure -/

/-- What the record of a function says of the tree of the function: it branches at least as much
    as nodes in it do of which none is an ancestor of another, calls what every node in it calls,
    and names each call once, in the order of the first calls. -/
structure Covers (s : Source) (root : Node) (sp : Spot) (f : FunctionInfo) : Prop where
  complexity : ∀ inner : List Spot, inner.Nodup →
    (∀ g ∈ inner, g ∈ root.spots ∧ g.Within sp ∧ ∀ g' ∈ inner, ¬ g.Below g') →
    (inner.map fun g => complexity g.place.node - 1).sum + 1 ≤ f.complexity
  callsInside : ∀ g ∈ root.spots, g.Within sp → ∀ x ∈ calledNames s g.place.node, x ∈ f.calls
  calls : ∀ x, x ∈ f.calls ↔ ∃ call ∈ sp.place.node.descendants, calleeName? s call = some x
  nodup : f.calls.Nodup
  ordered : f.calls.Pairwise fun x y =>
    firstCall s sp.place.node x < firstCall s sp.place.node y

theorem covers_of_functionInfo (h : sp ∈ root.spots) {name : Text}
    (hf : functionInfo s sp.place.node name = .ok f) : Covers s root sp f := by
  obtain ⟨range, -, rfl⟩ := functionInfo_eq_ok_iff.1 hf
  constructor
  · intro inner hnodup hinner
    have apart : inner.Pairwise Spot.Apart := by
      refine hnodup.pairwise_of_forall_ne fun g hg g' hg' hne => ?_
      exact Node.apart_of_not_below (hinner g hg).1 (hinner g' hg').1 hne
        ((hinner g hg).2.2 g' hg') ((hinner g' hg').2.2 g hg)
    exact sum_complexity_le h (fun g hg => ⟨(hinner g hg).1, (hinner g hg).2.1⟩) apart
  · intro g hg hw
    rcases Node.eq_or_below_of_within h hg hw with rfl | hb
    · exact fun x hx => hx
    · exact calledNames_subset (Node.mem_descendants_of_below h hg hb)
  · exact fun x => mem_calledNames_iff
  · exact nodup_distinct _
  · exact pairwise_calledNames s sp.place.node

/-- The record of a function is not below that of a function in it. -/
theorem Covers.le {sp' : Spot} {f' : FunctionInfo} (h : Covers s root sp f)
    (h' : sp' ∈ root.spots) {name : Text} (hf : functionInfo s sp'.place.node name = .ok f')
    (hw : sp'.Within sp) : f'.complexity ≤ f.complexity ∧ ∀ x ∈ f'.calls, x ∈ f.calls := by
  obtain ⟨range, -, rfl⟩ := functionInfo_eq_ok_iff.1 hf
  refine ⟨?_, h.callsInside sp' h' hw⟩
  have hone := h.complexity [sp'] (List.nodup_singleton sp') (by simpa [Spot.Below] using ⟨h', hw⟩)
  simp only [List.map_cons, List.map_nil, List.sum_singleton] at hone
  show Extract.complexity sp'.place.node ≤ f.complexity
  omega

/-- **A function branches and calls at least as much as the functions in it.**  Each record of a
    function or method covers the tree of its node; and of two recorded functions, one inside the
    other, the outer one has no lower complexity and calls all that the inner one calls. -/
theorem enclosing_covers_nested (h : structureOf s root = .ok c) :
    List.Forall₂ (Covers s root) root.reported c.allFunctions ∧
      ∀ outer ∈ root.reported.zip c.allFunctions, ∀ inner ∈ root.reported.zip c.allFunctions,
        inner.1.Below outer.1 →
          inner.2.complexity ≤ outer.2.complexity ∧ ∀ x ∈ inner.2.calls, x ∈ outer.2.calls := by
  have hi := (inventory_of_ok h).forall₂_allFunctions
  have hinfo {sp : Spot} {f : FunctionInfo} (hmem : (sp, f) ∈ root.reported.zip c.allFunctions) :
      sp ∈ root.spots ∧ ∃ name, functionInfo s sp.place.node name = .ok f :=
    ⟨root.reported_subset sp (List.of_mem_zip hmem).1, (List.forall₂_iff_zip.1 hi).2 hmem⟩
  have hcovers {sp : Spot} {f : FunctionInfo}
      (hmem : (sp, f) ∈ root.reported.zip c.allFunctions) : Covers s root sp f :=
    covers_of_functionInfo (hinfo hmem).1 (hinfo hmem).2.choose_spec
  refine ⟨List.forall₂_iff_zip.2 ⟨hi.length_eq, hcovers⟩, ?_⟩
  intro outer houter inner hinner hbelow
  obtain ⟨hsp, name, hf⟩ := hinfo hinner
  exact (hcovers houter).le hsp hf hbelow.1

/-- Two arrow functions in a function, each with a branch and two calls. -/
def arrowsText : Text :=
  Text.ofString "function f()\x7b()=>x?a():b();()=>y?b():c()\x7d"

/-- The call of a name of one letter. -/
def letterCall (start : Nat) (field : String) : Node :=
  .mk ⟨"call_expression", start, start + 3, true, false, some field⟩
    [.mk ⟨"identifier", start, start + 1, true, false, some "function"⟩ [],
      .mk ⟨"arguments", start + 1, start + 3, true, false, some "arguments"⟩ []]

/-- An arrow function that chooses between two calls. -/
def choosingArrow (start : Nat) : Node :=
  .mk ⟨"expression_statement", start, start + 13, true, false, none⟩
    [.mk ⟨"arrow_function", start, start + 13, true, false, none⟩
      [.mk ⟨"formal_parameters", start, start + 2, true, false, some "parameters"⟩ [],
        .mk ⟨"ternary_expression", start + 4, start + 13, true, false, some "body"⟩
          [.mk ⟨"identifier", start + 4, start + 5, true, false, some "condition"⟩ [],
            letterCall (start + 6) "consequence", letterCall (start + 10) "alternative"]]]

def arrowsTree : Node :=
  .mk ⟨"program", 0, 41, true, false, none⟩
    [.mk ⟨"function_declaration", 0, 41, true, false, none⟩
      [.mk ⟨"identifier", 9, 10, true, false, some "name"⟩ [],
        .mk ⟨"formal_parameters", 10, 12, true, false, some "parameters"⟩ [],
        .mk ⟨"statement_block", 12, 41, true, false, some "body"⟩
          [choosingArrow 13, choosingArrow 27]]]

/-- The outer function has the branches of both arrow functions, and their three calls once. -/
theorem enclosing_covers_nested_arrows :
    ∃ c, structureOf (.ofText arrowsText) arrowsTree = .ok c ∧
      c.allFunctions.map (fun f => (f.complexity, f.calls)) =
        [(3, ["a", "b", "c"].map Text.ofString), (2, ["a", "b"].map Text.ofString),
          (2, ["b", "c"].map Text.ofString)] ∧
      List.Forall₂ (Covers (.ofText arrowsText) arrowsTree) arrowsTree.reported c.allFunctions ∧
      ∀ outer ∈ arrowsTree.reported.zip c.allFunctions,
        ∀ inner ∈ arrowsTree.reported.zip c.allFunctions, inner.1.Below outer.1 →
          inner.2.complexity ≤ outer.2.complexity ∧ ∀ x ∈ inner.2.calls, x ∈ outer.2.calls := by
  have hshown : (structureOf (.ofText arrowsText) arrowsTree).map
      (fun c => c.allFunctions.map fun f => (f.complexity, f.calls)) =
        .ok [(3, ["a", "b", "c"].map Text.ofString), (2, ["a", "b"].map Text.ofString),
          (2, ["b", "c"].map Text.ofString)] := by decide +kernel
  cases hc : structureOf (.ofText arrowsText) arrowsTree with
  | error e =>
    rw [hc] at hshown
    cases hshown
  | ok c =>
    rw [hc] at hshown
    obtain ⟨hcovers, hnested⟩ := enclosing_covers_nested hc
    exact ⟨c, rfl, Except.ok.inj hshown, hcovers, hnested⟩

end CodeSurvey.Extract
