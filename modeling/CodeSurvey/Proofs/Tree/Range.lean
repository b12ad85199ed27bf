/-
  Ranges of nodes, in bytes and in lines.

  * `Source.row_mono`, `Source.row_lt_length_lines`: later offsets lie on later lines, and
    none behind the last line of the text;
  * `Node.Framed`, `Node.Nested`: a node whose range is in order and contains those of its
    children, and a tree of such nodes;
  * `Node.Nested.range_subset`: a node's range contains those of all nodes below it;
  * `Node.Nested.lines_subset`: so do its lines.
-/
import CodeSurvey.Text.Line
import CodeSurvey.Tree.Source
import CodeSurvey.Proofs.Text.Utf8
import CodeSurvey.Proofs.Tree.Preorder

namespace CodeSurvey

/-! ## Lines of offsets -/

namespace Source

theorem row_mono (s : Source) {a b : Nat} (h : a ≤ b) : s.row a ≤ s.row b :=
  (List.take_prefix_take_left h).sublist.count_le newline

theorem row_le (s : Source) (offset : Nat) : s.row offset ≤ s.bytes.count newline :=
  (List.take_sublist offset s.bytes).count_le newline

/-- The bytes of a text end as many lines as its line feeds. -/
theorem count_newline_ofText (t : Text) : (ofText t).bytes.count newline = t.newlines :=
  Utf8.count_encode t (a := CodePoint.newline) (by decide)

theorem row_lt_length_lines (t : Text) (offset : Nat) : (ofText t).row offset < t.lines.length := by
  rw [Text.length_lines, ← count_newline_ofText]
  exact Nat.lt_succ_of_le (row_le _ offset)

theorem lastLine_le_length_lines (t : Text) (n : Node) :
    (ofText t).lastLine n ≤ t.lines.length :=
  row_lt_length_lines t n.info.stop

end Source

/-! ## Nested ranges -/

namespace Node

/-- The range of the node is in order and contains those of its children. -/
structure Framed (n : Node) : Prop where
  ordered : n.info.start ≤ n.info.stop
  children : ∀ c ∈ n.children, n.info.start ≤ c.info.start ∧ c.info.stop ≤ n.info.stop

/-- Every node of the tree is framed. -/
structure Nested (root : Node) : Prop where
  framed : root.Framed
  below : ∀ n ∈ root.descendants, n.Framed

instance (n : Node) : Decidable n.Framed :=
  decidable_of_iff (n.info.start ≤ n.info.stop ∧
      ∀ c ∈ n.children, n.info.start ≤ c.info.start ∧ c.info.stop ≤ n.info.stop)
    ⟨fun h => ⟨h.1, h.2⟩, fun h => ⟨h.1, h.2⟩⟩

instance (root : Node) : Decidable root.Nested :=
  decidable_of_iff (root.Framed ∧ ∀ n ∈ root.descendants, n.Framed)
    ⟨fun h => ⟨h.1, h.2⟩, fun h => ⟨h.1, h.2⟩⟩

variable {root n m : Node} {s : Source}

theorem Nested.of_mem (h : root.Nested) (hn : n ∈ root.descendants) : n.Nested :=
  ⟨h.below n hn, fun m hm => h.below m (descendants_trans hn hm)⟩

/-- **The range of a node contains that of every node below it.** -/
theorem Nested.range_subset (h : n.Nested) (hm : m ∈ n.descendants) :
    n.info.start ≤ m.info.start ∧ m.info.stop ≤ n.info.stop := by
  induction n using children_induction with
  | h n ih =>
    obtain ⟨c, hc, hmc⟩ := mem_descendants_iff.1 hm
    have hframe := h.framed.children c hc
    rcases hmc with rfl | hmc
    · exact hframe
    · have hrange := ih c hc (h.of_mem (mem_descendants_of_mem_children hc)) hmc
      exact ⟨Nat.le_trans hframe.1 hrange.1, Nat.le_trans hrange.2 hframe.2⟩

/-- The lines of a node contain those of every node below it. -/
theorem Nested.lines_subset (h : n.Nested) (hm : m ∈ n.descendants) :
    s.firstLine n ≤ s.firstLine m ∧ s.lastLine m ≤ s.lastLine n := by
  obtain ⟨hstart, hstop⟩ := h.range_subset hm
  exact ⟨Nat.succ_le_succ (s.row_mono hstart), Nat.succ_le_succ (s.row_mono hstop)⟩

end Node

end CodeSurvey
