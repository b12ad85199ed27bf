/-
  Spans nest as the nodes do.

  * `CodeStructure.spans`: the spans of all records; `Node.recordedSpots`: the nodes recorded,
    in the same order;
  * `Extract.Inventory.spans`: each span is that of its node;
  * `Extract.contains_of_descendant`: of two recorded nodes, one below the other, the spans
    nest;
  * `Extract.spans_nest`: the whole.
-/
import CodeSurvey.Proofs.Extract.Inventory
import CodeSurvey.Proofs.Tree.Range

namespace CodeSurvey

/-- The spans of all functions and methods, then those of the classes. -/
def CodeStructure.spans (c : CodeStructure) : List Span :=
  c.allFunctions.map FunctionInfo.span ++ c.classes.map ClassInfo.span

/-- The recorded nodes: functions, methods class by class, and classes. -/
def Node.recordedSpots (root : Node) : List Spot :=
  root.reported ++ root.classSpots

theorem Node.recordedSpots_subset {root : Node} {sp : Spot} (h : sp ∈ root.recordedSpots) :
    sp ∈ root.spots :=
  (List.mem_append.1 h).elim (root.reported_subset sp) fun h => (List.mem_filter.1 h).1

theorem Span.contains_iff {outer inner : Span} :
    outer.contains inner = true ↔ outer.first ≤ inner.first ∧ inner.last ≤ outer.last := by
  rw [contains, Bool.and_eq_true, decide_eq_true_eq, decide_eq_true_eq]

namespace Extract

variable {s : Source} {root n m : Node} {c : CodeStructure}

/-! ## Spans of nodes -/

theorem upright_of_framed (h : n.Framed) : Upright s n :=
  Nat.succ_le_succ (s.row_mono h.ordered)

/-- Of a tree with nested ranges all records can be made. -/
theorem recordable_of_nested (h : root.Nested) : ∀ n ∈ root.descendants, Recordable s n := by
  intro n hn _
  have hup : Upright s n := upright_of_framed (h.below n hn)
  refine ⟨fun _ => hup, fun _ => ⟨hup, fun m hm => ?_⟩⟩
  exact upright_of_framed (h.below m (Node.descendants_trans hn (methodNodes_subset hm)))

/-- **The span of a node contains that of every node below it.** -/
theorem contains_of_descendant {outer inner : Span} (h : n.Nested) (hm : m ∈ n.descendants)
    (hn : span s n = .ok outer) (hs : span s m = .ok inner) : outer.contains inner = true := by
  obtain ⟨hfirst, hlast⟩ := span_eq_ok_iff.1 hn
  obtain ⟨hfirst', hlast'⟩ := span_eq_ok_iff.1 hs
  rw [Span.contains_iff, hfirst, hlast, hfirst', hlast']
  exact h.lines_subset hm

/-- The lines of a span are lines of the text. -/
theorem lines_of_span_ofText {t : Text} {range : Span} (h : span (.ofText t) n = .ok range) :
    1 ≤ range.first ∧ range.first ≤ range.last ∧ range.last ≤ t.lines.length := by
  obtain ⟨hfirst, hlast⟩ := span_eq_ok_iff.1 h
  refine ⟨?_, range.ordered, ?_⟩
  · rw [hfirst]
    exact Nat.succ_pos _
  · rw [hlast]
    exact Source.lastLine_le_length_lines t n

/-! ## Spans of a structure -/

/-- The spans of a structure are those of the recorded nodes. -/
theorem Inventory.spans (h : Inventory s root c) :
    List.Forall₂ (fun sp range => span s sp.place.node = .ok range) root.recordedSpots c.spans := by
  refine List.rel_append ?_ ?_
  · refine List.forall₂_map_right_iff.2 (h.forall₂_allFunctions.imp ?_)
    rintro sp f ⟨name, hf⟩
    exact span_of_functionInfo hf
  · exact List.forall₂_map_right_iff.2 (h.classes.imp fun sp k hk => span_of_classInfo hk.1)

/-- The spans of the methods of a class lie in that of the class. -/
theorem methods_contained {k : ClassInfo} (h : n.Nested) (hk : classInfo s n = .ok k) :
    ∀ f ∈ k.methods, k.span.contains f.span = true := by
  intro f hf
  obtain ⟨methods, range, hms, hrange, rfl⟩ := classInfo_eq_ok_iff.1 hk
  obtain ⟨m, hm, hf⟩ := exists_left_of_forall₂ (mapM_eq_ok_iff.1 hms) hf
  exact contains_of_descendant h (methodNodes_subset hm) hrange (span_of_functionInfo hf)

/-- **Spans nest as the nodes do.**  A tree in which ranges are in order and contain those of the
    children has a structure.  Each of its spans is that of a recorded node, from one line of the
    text to a line not before it; the span of a class contains those of its methods; and if one
    recorded node lies below another, the span of the outer one contains that of the inner one.  The
    ranges may reach past the end of the text. -/
theorem spans_nest (t : Text) (h : root.Nested) :
    ∃ c, structureOf (.ofText t) root = .ok c ∧
      List.Forall₂ (fun sp range => span (.ofText t) sp.place.node = .ok range)
        root.recordedSpots c.spans ∧
      (∀ range ∈ c.spans,
        1 ≤ range.first ∧ range.first ≤ range.last ∧ range.last ≤ t.lines.length) ∧
      (∀ k ∈ c.classes, ∀ f ∈ k.methods, k.span.contains f.span = true) ∧
      ∀ outer ∈ root.recordedSpots.zip c.spans, ∀ inner ∈ root.recordedSpots.zip c.spans,
        inner.1.place.node ∈ outer.1.place.node.descendants →
          outer.2.contains inner.2 = true := by
  obtain ⟨c, hc⟩ := exists_structureOf (recordable_of_nested (s := .ofText t) h)
  have hi := inventory_of_ok hc
  have hspan {sp : Spot} {range : Span} (hmem : (sp, range) ∈ root.recordedSpots.zip c.spans) :
      span (.ofText t) sp.place.node = .ok range := (List.forall₂_iff_zip.1 hi.spans).2 hmem
  have hnested : ∀ sp ∈ root.recordedSpots, sp.place.node.Nested := fun sp hsp =>
    h.of_mem (Node.node_mem_descendants (Node.recordedSpots_subset hsp))
  refine ⟨c, hc, hi.spans, forall_of_forall₂ hi.spans fun _ _ => lines_of_span_ofText, ?_, ?_⟩
  · intro k hk
    obtain ⟨sp, hsp, hinfo, -⟩ := exists_left_of_forall₂ hi.classes hk
    exact methods_contained (hnested sp (List.mem_append_right _ hsp)) hinfo
  · intro outer houter inner hinner hbelow
    exact contains_of_descendant (hnested _ (List.of_mem_zip houter).1) hbelow (hspan houter)
      (hspan hinner)

/-- A class, its method and an arrow function in it, each on a line further down. -/
def layeredText : Text :=
  Text.ofString "class A\x7b\nm()\x7b\n()=>0\x7d\x7d"

def layeredTree : Node :=
  .mk ⟨"program", 0, 21, true, false, none⟩
    [.mk ⟨"class_declaration", 0, 21, true, false, none⟩
      [.mk ⟨"class_body", 7, 21, true, false, some "body"⟩
        [.mk ⟨"method_definition", 9, 20, true, false, none⟩
          [.mk ⟨"statement_block", 12, 20, true, false, some "body"⟩
            [.mk ⟨"arrow_function", 14, 19, true, false, none⟩ []]]]]]

/-- Three spans, of the arrow function, the method and the class, each in the next one. -/
theorem spans_nest_layered :
    layeredTree.Nested ∧ ∃ c, structureOf (.ofText layeredText) layeredTree = .ok c ∧
      c.spans.map (fun range => (range.first, range.last)) = [(3, 3), (2, 3), (1, 3)] ∧
      (∀ range ∈ c.spans, range.last ≤ layeredText.lines.length) ∧
      (∀ k ∈ c.classes, ∀ f ∈ k.methods, k.span.contains f.span = true) ∧
      ∀ outer ∈ layeredTree.recordedSpots.zip c.spans,
        ∀ inner ∈ layeredTree.recordedSpots.zip c.spans,
          inner.1.place.node ∈ outer.1.place.node.descendants →
            outer.2.contains inner.2 = true := by
  have hnested : layeredTree.Nested := by decide +kernel
  obtain ⟨c, hc, -, hlines, hmethods, hbelow⟩ := spans_nest layeredText hnested
  have hspans : (structureOf (.ofText layeredText) layeredTree).map
      (fun c => c.spans.map fun range => (range.first, range.last)) =
        .ok [(3, 3), (2, 3), (1, 3)] := by decide +kernel
  rw [hc] at hspans
  exact ⟨hnested, c, hc, Except.ok.inj hspans, fun range hrange => (hlines range hrange).2.2,
    hmethods, hbelow⟩

end Extract

end CodeSurvey
