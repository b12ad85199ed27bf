/-
  The branches and loops of a text.

  * `Flow.BehindFirstWord`: the offset behind the first whole word of a spelling in a line;
  * `Flow.SwitchAt`: what an entry for a `switch` says about the window it counts in;
    `Flow.switchAt_of_switchNode?`: the switch of a line has it;
  * `Flow.mem_controlFlow_iff`: the entries of a text are those of its lines;
  * `Flow.Placed`, `Flow.controlFlow_placed`: every entry is valid and lies in the text, in line
    order, and a loop that keeps the offset of the lines lists the same.
-/
import CodeSurvey.Proofs.Flow.Block
import CodeSurvey.Proofs.Flow.Offset
import CodeSurvey.Proofs.Report.Written
import CodeSurvey.Proofs.Text.Cut

namespace CodeSurvey.Flow

open Text (FirstWord IsLine)

variable {t word head line ahead : Text} {number p i : Nat} {n : ControlFlowNode}
  {ls : List (Text × Text)}

/-- The offset just behind the first whole word of a spelling in the line of the given number. -/
def BehindFirstWord (word t : Text) (number p : Nat) : Prop :=
  ∃ head line ahead before after, IsLine t number head line ahead ∧
    FirstWord word line before after ∧ p = (head ++ before ++ word).length

/-- The entry counts the cases of the window behind the first `switch` of its line and ends where
    the window does. -/
structure SwitchAt (t : Text) (n : ControlFlowNode) (p stop : Nat) : Prop where
  behind : BehindFirstWord (.ofString "switch") t n.span.first p
  window : WindowEnd t p stop
  branches : n.branches = ((t.part p stop).wordPlaces (.ofString "case")).ncard
  last : n.span.last = t.lineAt stop

/-! ## The constructs of a line -/

theorem mem_lineNodes_iff :
    n ∈ lineNodes number line ahead ↔ ifNode? number line = some n ∨
      loopNode? number line = some n ∨ switchNode? number line ahead = some n := by
  rw [lineNodes, List.mem_append, List.mem_append, Option.mem_toList, Option.mem_toList,
    Option.mem_toList, or_assoc]

theorem of_ifNode? (h : ifNode? number line = some n) :
    n.kind = .if_ ∧ n.span = .single number := by
  obtain ⟨rest, -, rfl⟩ := Option.map_eq_some_iff.1 h
  exact ⟨rfl, rfl⟩

theorem of_loopNode? (h : loopNode? number line = some n) :
    n.kind = .loop ∧ n.span = .single number := by
  obtain ⟨rest, -, rfl⟩ := Option.map_eq_some_iff.1 h
  exact ⟨rfl, rfl⟩

theorem of_switchNode? (h : switchNode? number line ahead = some n) :
    n.kind = .switch ∧ n.span.first = number := by
  obtain ⟨rest, -, rfl⟩ := Option.map_eq_some_iff.1 h
  exact ⟨rfl, rfl⟩

theorem first_of_mem_lineNodes (h : n ∈ lineNodes number line ahead) : n.span.first = number := by
  rcases mem_lineNodes_iff.1 h with hif | hloop | hswitch
  · rw [(of_ifNode? hif).2, Span.single]
  · rw [(of_loopNode? hloop).2, Span.single]
  · exact (of_switchNode? hswitch).2

/-- The text up to the end of a word of a line ends on that line. -/
theorem number_eq_newlines {before after : Text} (hline : IsLine t number head line ahead)
    (hword : FirstWord word line before after) :
    number = Text.newlines (head ++ before ++ word) + 1 := by
  have hnone : Text.newlines (before ++ word) = 0 :=
    Text.newlines_eq_zero_iff.2 fun hmem => hline.unbroken
      (hword.eq ▸ List.mem_append_left after hmem)
  rw [List.append_assoc, Text.newlines_append, hnone, hline.count, Nat.add_zero]

/-- **The switch of a line counts in the window behind its keyword.** -/
theorem switchAt_of_switchNode? (hline : IsLine t number head line ahead)
    (h : switchNode? number line ahead = some n) : ∃ p, SwitchAt t n p (blockEnd t p) := by
  obtain ⟨after, hafter, rfl⟩ := Option.map_eq_some_iff.1 h
  obtain ⟨before, hword⟩ := Text.afterWord?_eq_some_iff.1 hafter
  have ht := eq_append_of_isWord hline hword.toIsWord
  -- the text up to the keyword, and the rest, in which the window is looked for
  have hnumber := number_eq_newlines hline hword
  have hbehind : BehindFirstWord (.ofString "switch") t number
      (head ++ before ++ .ofString "switch").length :=
    ⟨head, line, ahead, before, after, hline, hword, rfl⟩
  generalize head ++ before ++ .ofString "switch" = start at ht hnumber hbehind
  have hend : blockEnd t start.length = start.length + blockLength (after ++ ahead) := by
    rw [blockEnd, ht, List.drop_left]
  refine ⟨start.length, hbehind, ?_, ?_, ?_⟩
  · refine windowEnd_blockEnd ?_
    rw [ht, List.length_append]
    exact Nat.le_add_right _ _
  · rw [← Text.countWord_eq_ncard, ht, part_blockEnd]
    rfl
  · rw [Text.lineAt, hend, ht, List.take_length_add_append, Text.newlines_append,
      Nat.add_right_comm, ← hnumber]
    rfl

theorem exists_switchNode?_iff (hline : IsLine t number head line ahead) :
    (∃ n, switchNode? number line ahead = some n) ↔
      ∃ p, BehindFirstWord (.ofString "switch") t number p := by
  simp only [switchNode?, Option.map_eq_some_iff]
  constructor
  · rintro ⟨_, after, hafter, -⟩
    obtain ⟨before, hword⟩ := Text.afterWord?_eq_some_iff.1 hafter
    exact ⟨_, head, line, ahead, before, after, hline, hword, rfl⟩
  · rintro ⟨_, head', line', ahead', before, after, hline', hword, rfl⟩
    obtain ⟨rfl, rfl⟩ := hline.unique hline'
    exact ⟨_, after, Text.afterWord?_eq_some_iff.2 ⟨before, hword⟩, rfl⟩

/-! ## The constructs of all lines -/

theorem mem_nodesFrom_iff :
    n ∈ nodesFrom number ls ↔
      ∃ i line ahead, ls[i]? = some (line, ahead) ∧ n ∈ lineNodes (number + i) line ahead := by
  induction ls generalizing number with
  | nil => simp [nodesFrom]
  | cons first rest ih =>
    rw [nodesFrom, List.mem_append, ih]
    constructor
    · rintro (h | ⟨i, line, ahead, hi, h⟩)
      · exact ⟨0, first.1, first.2, rfl, h⟩
      · refine ⟨i + 1, line, ahead, hi, ?_⟩
        rw [Nat.add_right_comm] at h
        exact h
    · rintro ⟨i, line, ahead, hi, h⟩
      cases i with
      | zero =>
        cases hi
        exact .inl h
      | succ i =>
        rw [← Nat.add_assoc, Nat.add_right_comm] at h
        exact .inr ⟨i, line, ahead, hi, h⟩

/-- **The entries of a text are those of its lines.** -/
theorem mem_controlFlow_iff :
    n ∈ controlFlow t ↔ ∃ number head line ahead, IsLine t number head line ahead ∧
      n ∈ lineNodes number line ahead := by
  rw [controlFlow, mem_nodesFrom_iff]
  constructor
  · rintro ⟨i, line, ahead, hi, h⟩
    obtain ⟨head, hline⟩ := Text.getElem?_linesAhead_iff.1 hi
    rw [Nat.add_comm] at h
    exact ⟨i + 1, head, line, ahead, hline, h⟩
  · rintro ⟨number, head, line, ahead, hline, h⟩
    obtain ⟨i, rfl⟩ : ∃ i, number = i + 1 := ⟨_, hline.count⟩
    refine ⟨i, line, ahead, Text.getElem?_linesAhead_iff.2 ⟨head, hline⟩, ?_⟩
    rw [Nat.add_comm]
    exact h

theorem pairwise_nodesFrom (number : Nat) (ls : List (Text × Text)) :
    (nodesFrom number ls).Pairwise fun n m => n.span.first ≤ m.span.first := by
  induction ls generalizing number with
  | nil => exact .nil
  | cons first rest ih =>
    rw [nodesFrom, List.pairwise_append]
    refine ⟨?_, ih (number + 1), fun n hn m hm => ?_⟩
    · refine List.pairwise_of_forall_mem_list fun n hn m hm => ?_
      rw [first_of_mem_lineNodes hn, first_of_mem_lineNodes hm]
    · obtain ⟨i, line, ahead, -, hi⟩ := mem_nodesFrom_iff.1 hm
      rw [first_of_mem_lineNodes hn, first_of_mem_lineNodes hi]
      omega

/-! ## The listing -/

/-- An entry reads back, so it keeps all constraints on entries; it lies on lines of the text, on
    one of them unless it is a switch, and a switch lies on those of its window. -/
structure Placed (t : Text) (n : ControlFlowNode) : Prop where
  valid : ControlFlowNode.read n.toData = .good n
  first : 1 ≤ n.span.first
  ordered : n.span.first ≤ n.span.last
  last : n.span.last ≤ t.lines.length
  single : n.kind ≠ .switch → n.span.last = n.span.first
  window : n.kind = .switch → ∃ p stop, SwitchAt t n p stop

theorem lineAt_le (t : Text) (offset : Nat) : t.lineAt offset ≤ t.lines.length := by
  rw [Text.length_lines]
  exact Nat.succ_le_succ ((List.take_sublist offset t).count_le _)

theorem placed_of_single (hline : IsLine t number head line ahead) (hkind : n.kind ≠ .switch)
    (hspan : n.span = .single number) : Placed t n where
  valid := ControlFlowNode.read_toData n
  first := by
    rw [hspan]
    exact hline.le.1
  ordered := n.span.ordered
  last := by
    rw [hspan]
    exact hline.le.2
  single _ := by
    rw [hspan]
    rfl
  window h := absurd h hkind

theorem placed_of_mem_lineNodes (hline : IsLine t number head line ahead)
    (h : n ∈ lineNodes number line ahead) : Placed t n := by
  rcases mem_lineNodes_iff.1 h with hif | hloop | hswitch
  · obtain ⟨hkind, hspan⟩ := of_ifNode? hif
    exact placed_of_single hline (by rw [hkind]; decide) hspan
  · obtain ⟨hkind, hspan⟩ := of_loopNode? hloop
    exact placed_of_single hline (by rw [hkind]; decide) hspan
  · obtain ⟨hkind, hfirst⟩ := of_switchNode? hswitch
    obtain ⟨p, hat⟩ := switchAt_of_switchNode? hline hswitch
    exact {
      valid := ControlFlowNode.read_toData n
      first := by
        rw [hfirst]
        exact hline.le.1
      ordered := n.span.ordered
      last := by
        rw [hat.last]
        exact lineAt_le t _
      single := fun hne => absurd hkind hne
      window := fun _ => ⟨p, _, hat⟩ }

/-- A line has an entry for a switch exactly if it has the keyword as a whole word. -/
theorem exists_switch_iff :
    (∃ n ∈ controlFlow t, n.kind = .switch ∧ n.span.first = number) ↔
      ∃ p, BehindFirstWord (.ofString "switch") t number p := by
  constructor
  · rintro ⟨n, hn, hkind, rfl⟩
    obtain ⟨number, head, line, ahead, hline, hmem⟩ := mem_controlFlow_iff.1 hn
    obtain ⟨p, stop, hat⟩ := (placed_of_mem_lineNodes hline hmem).window hkind
    exact ⟨p, hat.behind⟩
  · rintro ⟨p, hbehind⟩
    obtain ⟨head, line, ahead, _, _, hline, -⟩ := id hbehind
    obtain ⟨n, hn⟩ := (exists_switchNode?_iff hline).2 ⟨p, hbehind⟩
    have hmem : n ∈ lineNodes number line ahead := mem_lineNodes_iff.2 (.inr (.inr hn))
    exact ⟨n, mem_controlFlow_iff.2 ⟨number, head, line, ahead, hline, hmem⟩, of_switchNode? hn⟩

/-- **The branches and loops of a text lie in it, in line order, and each switch with the cases of
    its block.**  They are what a loop over the lines lists that keeps the offset of the next line. -/
theorem controlFlow_placed (t : Text) :
    (∀ n ∈ controlFlow t, Placed t n) ∧
      (controlFlow t).Pairwise (fun n m => n.span.first ≤ m.span.first) ∧
      (∀ number, (∃ n ∈ controlFlow t, n.kind = .switch ∧ n.span.first = number) ↔
        ∃ p, BehindFirstWord (.ofString "switch") t number p) ∧
      Listing.ofLines t t.lines = ⟨t.lines.length + 1, t.length + 1, controlFlow t⟩ := by
  refine ⟨fun n hn => ?_, pairwise_nodesFrom 1 t.linesAhead, fun number => exists_switch_iff,
    Listing.ofLines_lines t⟩
  obtain ⟨number, head, line, ahead, hline, hmem⟩ := mem_controlFlow_iff.1 hn
  exact placed_of_mem_lineNodes hline hmem

end CodeSurvey.Flow
