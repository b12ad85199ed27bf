/-
  Cognitive complexity of texts in which the blocks stand one construct per line.

  * `Metrics.Controls`, `Metrics.Opens`: lines with a control keyword, and with a brace behind one;
  * `Metrics.Header`, `Metrics.Statement`, `Metrics.Closing`, `Metrics.Plain`: the kinds of line;
    `Metrics.Nesting.read_header` and its like: what each does to cost and level;
  * `Metrics.Layout`: the blocks of a text below a number of control blocks, with the lines that they
    consist of; `Metrics.Layout.depths`: how deep each control structure lies;
  * `Metrics.Layout.foldl_read_lines`: behind a layout the level is what it was before;
  * `Metrics.cognitive_layout`: the cost of a layout is the sum of one more than the depths;
    `Metrics.cognitive_layout_layered`: a layout with all kinds of line, and two blocks in each other
    and one after the other.
-/
import CodeSurvey.Metrics.Nesting
import CodeSurvey.Proofs.Text.Cut
import CodeSurvey.Proofs.Text.Line
import Mathlib.Tactic.MkIffOfInductiveProp
import Mathlib.Tactic.Ring

namespace CodeSurvey.Metrics

open Text (WordBefore)

variable {line rest : Text} {d : Nat}

/-! ## Lines -/

/-- A control keyword stands in the line. -/
def Controls (line : Text) : Prop :=
  ∃ after, WordBefore controlWords line after

/-- A brace opens behind a control keyword of the line. -/
def Opens (line : Text) : Prop :=
  ∃ after, WordBefore controlWords line after ∧ openBrace ∈ after

/-- The first line of a control block. -/
@[mk_iff]
structure Header (line : Text) : Prop where
  unbroken : CodePoint.newline ∉ line
  opens : Opens line
  not_closes : closeBrace ∉ line

/-- A control structure of one line: what it opens it closes, and nothing else. -/
@[mk_iff]
structure Statement (line : Text) : Prop where
  unbroken : CodePoint.newline ∉ line
  controls : Controls line
  opens_iff : Opens line ↔ closeBrace ∈ line

/-- The last line of a block. -/
@[mk_iff]
structure Closing (line : Text) : Prop where
  unbroken : CodePoint.newline ∉ line
  not_controls : ¬ Controls line
  closes : closeBrace ∈ line

/-- A line without control keyword that closes nothing. -/
@[mk_iff]
structure Plain (line : Text) : Prop where
  unbroken : CodePoint.newline ∉ line
  not_controls : ¬ Controls line
  not_closes : closeBrace ∉ line

theorem Opens.controls (h : Opens line) : Controls line :=
  h.imp fun _ => And.left

theorem controls_iff : Controls line ↔ (line.afterWord? controlWords).isSome = true := by
  rw [← Option.ne_none_iff_isSome, ne_eq, Text.afterWord?_eq_none_iff]
  simp [Controls]

/-- The brace behind some keyword of a line is behind the first one. -/
theorem opens_iff :
    Opens line ↔ ∃ rest ∈ line.afterWord? controlWords, openBrace ∈ rest := by
  have hwords : ∀ word ∈ controlWords, openBrace ∉ word := by decide
  constructor
  · intro h
    obtain ⟨rest, hrest⟩ := Option.isSome_iff_exists.1 (controls_iff.1 h.controls)
    exact ⟨rest, hrest, (Text.mem_of_afterWord?_iff hwords hrest).2 h⟩
  · rintro ⟨rest, hrest, hmem⟩
    exact (Text.mem_of_afterWord?_iff hwords hrest).1 hmem

instance : Decidable (Controls line) :=
  decidable_of_iff _ controls_iff.symm

instance : Decidable (Opens line) :=
  decidable_of_iff (((line.afterWord? controlWords).any fun rest => openBrace ∈ rest) = true) (by
    rw [opens_iff, Option.any_eq_true]
    simp)

instance : Decidable (Header line) :=
  decidable_of_iff _ (header_iff line).symm

instance : Decidable (Statement line) :=
  decidable_of_iff _ (statement_iff line).symm

instance : Decidable (Closing line) :=
  decidable_of_iff _ (closing_iff line).symm

instance : Decidable (Plain line) :=
  decidable_of_iff _ (plain_iff line).symm

/-! ## What a line does to the level -/

namespace Nesting

theorem enter_of_not_controls (h : ¬ Controls line) (n : Nesting) :
    n.enter (line.afterWord? controlWords) = n := by
  rw [controls_iff, Option.not_isSome_iff_eq_none] at h
  rw [h, enter]

theorem enter_of_controls (h : Controls line) (n : Nesting) :
    n.enter (line.afterWord? controlWords) =
      { cost := n.cost + 1 + n.level
        level := if Opens line then n.level + 1 else n.level } := by
  obtain ⟨rest, hrest⟩ := Option.isSome_iff_exists.1 (controls_iff.1 h)
  have hopens : Opens line ↔ openBrace ∈ rest := by simp [opens_iff, hrest]
  rw [hrest, enter]
  simp only [hopens]

theorem read_header (h : Header line) (n : Nesting) :
    n.read line = ⟨n.cost + 1 + n.level, n.level + 1⟩ := by
  simp [read, enter_of_controls h.opens.controls, h.opens, h.not_closes]

/-- A control structure of one line costs what a block does, and leaves the level. -/
theorem read_statement (h : Statement line) (n : Nesting) :
    n.read line = ⟨n.cost + 1 + n.level, n.level⟩ := by
  by_cases hopens : Opens line
  · simp [read, enter_of_controls h.controls, hopens, h.opens_iff.1 hopens]
  · have hcloses : closeBrace ∉ line := fun hmem => hopens (h.opens_iff.2 hmem)
    simp [read, enter_of_controls h.controls, hopens, hcloses]

/-- The last line of a block closes a level, if there is one. -/
theorem read_closing (h : Closing line) (n : Nesting) :
    n.read line = ⟨n.cost, n.level - 1⟩ := by
  simp [read, enter_of_not_controls h.not_controls, h.closes]

theorem read_plain (h : Plain line) (n : Nesting) : n.read line = n := by
  simp [read, enter_of_not_controls h.not_controls, h.not_closes]

end Nesting

/-! ## Layouts -/

/-- The first line of a block, of a given kind, and the last one. -/
structure Frame (First : Text → Prop) where
  first : Text
  last : Text
  spec : First first
  closing : Closing last

/-- What stands below `d` control blocks, one construct per line.  Blocks that are no control blocks
    stand outside all of these. -/
inductive Layout : Nat → Type
  | empty {d : Nat} : Layout d
  | plain {d : Nat} (line : Text) (h : Plain line) (rest : Layout d) : Layout d
  | statement {d : Nat} (line : Text) (h : Statement line) (rest : Layout d) : Layout d
  | control {d : Nat} (frame : Frame Header) (body : Layout (d + 1)) (rest : Layout d) : Layout d
  | block (frame : Frame Plain) (body : Layout 0) (rest : Layout 0) : Layout 0

namespace Layout

/-- The lines of a layout. -/
def lines {d : Nat} : Layout d → List Text
  | empty => []
  | plain line _ rest => line :: rest.lines
  | statement line _ rest => line :: rest.lines
  | control frame body rest => frame.first :: (body.lines ++ frame.last :: rest.lines)
  | block frame body rest => frame.first :: (body.lines ++ frame.last :: rest.lines)

/-- For each control block and each control structure of one line, the number of control blocks
    around it. -/
def depths {d : Nat} : Layout d → List Nat
  | empty => []
  | plain _ _ rest => rest.depths
  | statement _ _ rest => d :: rest.depths
  | control _ body rest => d :: (body.depths ++ rest.depths)
  | block _ body rest => body.depths ++ rest.depths

/-- The sum of one more than the depths. -/
def cost {d : Nat} (l : Layout d) : Nat :=
  (l.depths.map (1 + ·)).sum

theorem unbroken (l : Layout d) : ∀ line ∈ l.lines, CodePoint.newline ∉ line := by
  induction l with
  | empty => nofun
  | plain line h rest ih => exact List.forall_mem_cons.2 ⟨h.unbroken, ih⟩
  | statement line h rest ih => exact List.forall_mem_cons.2 ⟨h.unbroken, ih⟩
  | control frame body rest ihBody ihRest | block frame body rest ihBody ihRest =>
    refine List.forall_mem_cons.2 ⟨frame.spec.unbroken, List.forall_mem_append.2 ⟨ihBody, ?_⟩⟩
    exact List.forall_mem_cons.2 ⟨frame.closing.unbroken, ihRest⟩

/-- **Behind a layout the level is what it was before**: the number of control blocks around it.  The
    last lines of other blocks close nothing, because no level is open there. -/
theorem foldl_read_lines (l : Layout d) (c : Nat) :
    l.lines.foldl Nesting.read ⟨c, d⟩ = ⟨c + l.cost, d⟩ := by
  induction l generalizing c with
  | empty => rfl
  | plain line h rest ih =>
    rw [lines, List.foldl_cons, Nesting.read_plain h, ih]
    rfl
  | @statement d line h rest ih =>
    rw [lines, List.foldl_cons, Nesting.read_statement h, ih]
    simp [cost, depths]
    omega
  | @control d frame body rest ihBody ihRest =>
    rw [lines, List.foldl_cons, Nesting.read_header frame.spec, List.foldl_append, ihBody,
      List.foldl_cons, Nesting.read_closing frame.closing]
    simp [ihRest, cost, depths]
    omega
  | block frame body rest ihBody ihRest =>
    rw [lines, List.foldl_cons, Nesting.read_plain frame.spec, List.foldl_append, ihBody,
      List.foldl_cons, Nesting.read_closing frame.closing]
    simp [ihRest, cost, depths]
    omega

/-! ### Blocks in each other and one after the other -/

/-- Control blocks, each of which holds the next one. -/
def nested {d : Nat} : List (Frame Header) → Layout d
  | [] => empty
  | frame :: frames => control frame (nested frames) empty

/-- Control blocks, one after the other. -/
def sequence {d : Nat} : List (Frame Header) → Layout d
  | [] => empty
  | frame :: frames => control frame empty (sequence frames)

theorem depths_sequence (frames : List (Frame Header)) :
    (sequence frames : Layout d).depths = List.replicate frames.length d := by
  induction frames with
  | nil => rfl
  | cons frame frames ih => simp [sequence, depths, ih, List.replicate_succ]

/-- Twice the cost of blocks in each other, below `d` further ones. -/
theorem cost_nested_mul_two (frames : List (Frame Header)) :
    (nested frames : Layout d).cost * 2 = frames.length * (2 * d + frames.length + 1) := by
  induction frames generalizing d with
  | nil => simp [nested, cost, depths]
  | cons frame frames ih =>
    have hcost : (nested (frame :: frames) : Layout d).cost =
        1 + d + (nested frames : Layout (d + 1)).cost := by simp [nested, cost, depths]
    rw [hcost, Nat.add_mul, ih, List.length_cons]
    ring

theorem cost_nested (frames : List (Frame Header)) :
    (nested frames : Layout 0).cost = frames.length * (frames.length + 1) / 2 := by
  have htwice := cost_nested_mul_two (d := 0) frames
  rw [Nat.mul_zero, Nat.zero_add] at htwice
  rw [← htwice, Nat.mul_div_cancel _ Nat.two_pos]

theorem cost_sequence (frames : List (Frame Header)) :
    (sequence frames : Layout 0).cost = frames.length := by
  simp [cost, depths_sequence]

end Layout

/-! ## Cost -/

/-- The lines of a text without lines are one empty line, which costs nothing. -/
theorem cognitive_unlines {ls : List Text} (h : ∀ line ∈ ls, CodePoint.newline ∉ line) :
    cognitive (Text.unlines ls) = (ls.foldl Nesting.read {}).cost := by
  by_cases hls : ls = []
  · subst hls
    decide
  · rw [cognitive, Text.lines_unlines hls h]

/-- **The cost of a layout is the sum, over all control blocks and control structures of one line, of
    one more than the control blocks around them.**  So `n` blocks in each other cost
    `n * (n + 1) / 2`, and `n` blocks one after the other cost `n`. -/
theorem cognitive_layout (l : Layout 0) (frames : List (Frame Header)) :
    cognitive (Text.unlines l.lines) = (l.depths.map (1 + ·)).sum ∧
    cognitive (Text.unlines (Layout.nested frames : Layout 0).lines) =
      frames.length * (frames.length + 1) / 2 ∧
    cognitive (Text.unlines (Layout.sequence frames : Layout 0).lines) = frames.length := by
  have hcost : ∀ l : Layout 0, cognitive (Text.unlines l.lines) = l.cost := by
    intro l
    rw [cognitive_unlines l.unbroken, l.foldl_read_lines 0]
    exact Nat.zero_add _
  refine ⟨hcost l, ?_, ?_⟩
  · rw [hcost, Layout.cost_nested]
  · rw [hcost, Layout.cost_sequence]

/-- A function whose loop holds a condition, with a control structure of one line on either side. -/
def layeredLayout : Layout 0 :=
  .block ⟨.ofString "function f(a) \x7b", .ofString "\x7d", by decide, by decide⟩
    (.statement (.ofString "  if (!a) return") (by decide)
      (.control ⟨.ofString "  while (a) \x7b", .ofString "  \x7d", by decide, by decide⟩
        (.control ⟨.ofString "    if (a.b) \x7b", .ofString "    \x7d", by decide, by decide⟩
          (.plain (.ofString "      a.b = 0") (by decide) .empty)
          (.statement (.ofString "    for (;;) \x7b a = a.c \x7d") (by decide) .empty))
        .empty))
    .empty

/-- A loop and a condition, to stand in each other or one after the other. -/
def loopAndCondition : List (Frame Header) :=
  [⟨.ofString "for (;;) \x7b", .ofString "\x7d;", by decide, by decide⟩,
    ⟨.ofString "if (a) \x7b", .ofString "\x7d;", by decide, by decide⟩]

theorem cognitive_layout_layered :
    layeredLayout.depths = [0, 0, 1, 1] ∧
    cognitive (Text.unlines layeredLayout.lines) = 6 ∧
    cognitive (Text.unlines (Layout.nested loopAndCondition : Layout 0).lines) = 3 ∧
    cognitive (Text.unlines (Layout.sequence loopAndCondition : Layout 0).lines) = 2 := by
  have hdepths : layeredLayout.depths = [0, 0, 1, 1] := by decide
  obtain ⟨hlayered, hnested, hsequence⟩ := cognitive_layout layeredLayout loopAndCondition
  rw [hdepths] at hlayered
  exact ⟨hdepths, hlayered, hnested, hsequence⟩

end CodeSurvey.Metrics
