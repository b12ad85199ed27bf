/-
  Where the block behind an offset ends.

  The scan for the end of a block keeps a depth.  Told without it, a block goes from its opening
  brace to the first place where as many braces have closed as have opened.

  * `Flow.Balanced`: as many braces close as open;
  * `Flow.Opens`, `Flow.Closes`: the first opening brace behind an offset, and the end of the block
    that opens with it; `Flow.WindowEnd`: how far a window with its first block reaches;
  * `Flow.count_closeLength`: what the depth of the scan says about the braces it has passed;
  * `Flow.windowEnd_blockEnd`: `blockEnd` is the end of the window.
-/
import CodeSurvey.Flow.Branch
import CodeSurvey.Proofs.Text.Line

namespace CodeSurvey.Flow

open Metrics Text

variable {t u head rest : Text} {start first stop depth i k : Nat}

/-- As many braces close as open. -/
def Balanced (t : Text) : Prop :=
  t.count openBrace = t.count closeBrace

/-- The first brace that opens a block at or behind an offset. -/
structure Opens (t : Text) (start first : Nat) : Prop where
  le : start ≤ first
  brace : t[first]? = some openBrace
  alone : openBrace ∉ t.part start first

instance Opens.instDecidable (t : Text) (start first : Nat) : Decidable (Opens t start first) :=
  decidable_of_iff
    (start ≤ first ∧ t[first]? = some openBrace ∧ openBrace ∉ t.part start first)
    ⟨fun h => ⟨h.1, h.2.1, h.2.2⟩, fun h => ⟨h.le, h.brace, h.alone⟩⟩

/-- The block from an opening brace up to the first place behind it where the braces balance. -/
structure Closes (t : Text) (first stop : Nat) : Prop where
  lt : first < stop
  le : stop ≤ t.length
  balanced : Balanced (t.part first stop)
  unbalanced : ∀ i, first < i → i < stop → ¬ Balanced (t.part first i)

/-- The end of the first block behind an offset, or of the text if there is no such block or it
    stays open. -/
inductive WindowEnd (t : Text) (start : Nat) : Nat → Prop
  | unopened : openBrace ∉ t.drop start → WindowEnd t start t.length
  | closed {first stop : Nat} : Opens t start first → Closes t first stop → WindowEnd t start stop
  | unclosed {first : Nat} :
    Opens t start first → (∀ stop, ¬ Closes t first stop) → WindowEnd t start t.length

/-! ## The depth of the scan -/

theorem closeLength_openBrace (depth : Nat) (u : Text) :
    closeLength depth (openBrace :: u) = closeLength (depth + 1) u + 1 := by
  rw [closeLength.eq_def]
  exact if_pos rfl

theorem closeLength_closeBrace_zero (u : Text) : closeLength 0 (closeBrace :: u) = 1 := by
  rw [closeLength, if_neg (by decide), if_pos rfl]

theorem closeLength_closeBrace_succ (depth : Nat) (u : Text) :
    closeLength (depth + 1) (closeBrace :: u) = closeLength depth u + 1 := by
  rw [closeLength, if_neg (by decide), if_pos rfl]

theorem closeLength_cons_of_ne {c : CodePoint} (hopen : c ≠ openBrace) (hclose : c ≠ closeBrace)
    (depth : Nat) (u : Text) : closeLength depth (c :: u) = closeLength depth u + 1 := by
  rw [closeLength.eq_def]
  exact (if_neg hopen).trans (if_neg hclose)

/-- The scan has not passed the end of the block while no more braces have closed than have
    opened, those of the start included. -/
theorem count_of_lt_closeLength (h : i < closeLength depth u) :
    (u.take i).count closeBrace ≤ (u.take i).count openBrace + depth := by
  induction u generalizing depth i with
  | nil => exact absurd h (Nat.not_lt_zero i)
  | cons c u ih =>
    cases i with
    | zero => exact Nat.zero_le _
    | succ i =>
      rw [List.take_succ_cons]
      by_cases hopen : c = openBrace
      · subst hopen
        rw [closeLength_openBrace] at h
        have hle := ih (Nat.lt_of_succ_lt_succ h)
        rw [List.count_cons_self, List.count_cons_of_ne (by decide)]
        omega
      · by_cases hclose : c = closeBrace
        · subst hclose
          cases depth with
          | zero =>
            rw [closeLength_closeBrace_zero] at h
            exact absurd (Nat.lt_of_succ_lt_succ h) (Nat.not_lt_zero i)
          | succ depth =>
            rw [closeLength_closeBrace_succ] at h
            have hle := ih (Nat.lt_of_succ_lt_succ h)
            rw [List.count_cons_self, List.count_cons_of_ne (by decide)]
            omega
        · rw [closeLength_cons_of_ne hopen hclose] at h
          rw [List.count_cons_of_ne hopen, List.count_cons_of_ne hclose]
          exact ih (Nat.lt_of_succ_lt_succ h)

/-- The scan stops where one brace more has closed, or at the end of the text. -/
theorem count_closeLength (depth : Nat) (u : Text) :
    (closeLength depth u ≤ u.length ∧ (u.take (closeLength depth u)).count closeBrace =
      (u.take (closeLength depth u)).count openBrace + depth + 1) ∨
    (closeLength depth u = u.length ∧ u.count closeBrace ≤ u.count openBrace + depth) := by
  induction u generalizing depth with
  | nil => exact .inr ⟨rfl, Nat.zero_le _⟩
  | cons c u ih =>
    by_cases hopen : c = openBrace
    · subst hopen
      rw [closeLength_openBrace, List.take_succ_cons, List.length_cons, List.count_cons_self,
        List.count_cons_self, List.count_cons_of_ne (by decide), List.count_cons_of_ne (by decide)]
      have := ih (depth + 1)
      omega
    · by_cases hclose : c = closeBrace
      · subst hclose
        cases depth with
        | zero =>
          left
          rw [closeLength_closeBrace_zero, List.length_cons, List.take_succ_cons, List.take_zero]
          exact ⟨Nat.le_add_left _ _, by decide⟩
        | succ depth =>
          rw [closeLength_closeBrace_succ, List.take_succ_cons, List.length_cons,
            List.count_cons_self, List.count_cons_self, List.count_cons_of_ne (by decide),
            List.count_cons_of_ne (by decide)]
          have := ih depth
          omega
      · rw [closeLength_cons_of_ne hopen hclose, List.take_succ_cons, List.length_cons,
          List.count_cons_of_ne hopen, List.count_cons_of_ne hclose, List.count_cons_of_ne hopen,
          List.count_cons_of_ne hclose]
        have := ih depth
        omega

/-! ## Blocks -/

/-- The text from an opening brace on. -/
theorem part_openBrace (head rest : Text) (k : Nat) :
    (head ++ openBrace :: rest).part head.length (head.length + (k + 1)) =
      openBrace :: rest.take k := by
  rw [part, List.take_length_add_append, List.drop_left, List.take_succ_cons]

theorem balanced_part_iff :
    Balanced ((head ++ openBrace :: rest).part head.length (head.length + (k + 1))) ↔
      (rest.take k).count closeBrace = (rest.take k).count openBrace + 1 := by
  rw [part_openBrace, Balanced, List.count_cons_self, List.count_cons_of_ne (by decide)]
  exact eq_comm

theorem not_balanced_of_lt_closeLength (h : k < closeLength 0 rest) :
    ¬ Balanced ((head ++ openBrace :: rest).part head.length (head.length + (k + 1))) := by
  rw [balanced_part_iff]
  have hle := count_of_lt_closeLength h
  omega

/-- The scan finds the end of the block, or the block stays open and the scan reads all. -/
theorem closes_closeLength (head rest : Text) :
    Closes (head ++ openBrace :: rest) head.length (head.length + (closeLength 0 rest + 1)) ∨
    (closeLength 0 rest = rest.length ∧
      ∀ stop, ¬ Closes (head ++ openBrace :: rest) head.length stop) := by
  rcases count_closeLength 0 rest with ⟨hle, hcount⟩ | ⟨hlength, hcount⟩
  · left
    refine ⟨by omega, ?_, balanced_part_iff.2 hcount, fun i hfirst hstop => ?_⟩
    · rw [List.length_append, List.length_cons]
      omega
    · obtain ⟨k, rfl⟩ : ∃ k, i = head.length + (k + 1) := ⟨i - head.length - 1, by omega⟩
      exact not_balanced_of_lt_closeLength (by omega)
  · right
    refine ⟨hlength, fun stop h => ?_⟩
    have hle := h.le
    rw [List.length_append, List.length_cons] at hle
    obtain ⟨k, rfl⟩ : ∃ k, stop = head.length + (k + 1) :=
      ⟨stop - head.length - 1, by have := h.lt; omega⟩
    rcases Nat.lt_or_ge k rest.length with hk | hk
    · exact not_balanced_of_lt_closeLength (hlength ▸ hk) h.balanced
    · have hbalanced := balanced_part_iff.1 h.balanced
      rw [List.take_of_length_le hk] at hbalanced
      omega

/-! ## The end of the window -/

theorem blockLength_of_notMem (h : openBrace ∉ u) : blockLength u = u.length := by
  induction u with
  | nil => rfl
  | cons c u ih =>
    rw [List.mem_cons, not_or] at h
    obtain ⟨hc, hu⟩ := h
    rw [blockLength, if_neg (Ne.symm hc), ih hu, List.length_cons]

theorem blockLength_append_openBrace (h : openBrace ∉ u) (rest : Text) :
    blockLength (u ++ openBrace :: rest) = u.length + (closeLength 0 rest + 1) := by
  induction u with
  | nil => rw [List.nil_append, blockLength, if_pos rfl, List.length_nil, Nat.zero_add]
  | cons c u ih =>
    rw [List.mem_cons, not_or] at h
    obtain ⟨hc, hu⟩ := h
    rw [List.cons_append, blockLength, if_neg (Ne.symm hc), ih hu, List.length_cons]
    omega

/-- **The end of the first block behind an offset.** -/
theorem windowEnd_blockEnd (h : start ≤ t.length) : WindowEnd t start (blockEnd t start) := by
  obtain ⟨before, behind, rfl, rfl⟩ : ∃ before behind : Text, t = before ++ behind ∧
      before.length = start :=
    ⟨t.take start, t.drop start, (List.take_append_drop start t).symm, List.length_take_of_le h⟩
  rw [blockEnd, List.drop_left]
  by_cases hbrace : openBrace ∈ behind
  · obtain ⟨ahead, rest, rfl, hahead⟩ := List.eq_append_cons_of_mem hbrace
    have hopens : Opens (before ++ (ahead ++ openBrace :: rest)) before.length
        (before ++ ahead).length := by
      rw [← List.append_assoc]
      refine ⟨?_, ?_, ?_⟩
      · rw [List.length_append]
        exact Nat.le_add_right _ _
      · rw [List.getElem?_append_right (Nat.le_refl _), Nat.sub_self]
        rfl
      · rw [part, List.take_left, List.drop_left]
        exact hahead
    rw [blockLength_append_openBrace hahead, ← Nat.add_assoc, ← List.length_append]
    rcases closes_closeLength (before ++ ahead) rest with hcloses | ⟨hlength, hopen⟩
    · rw [List.append_assoc] at hcloses
      exact .closed hopens hcloses
    · rw [List.append_assoc] at hopen
      have hall : (before ++ ahead).length + (closeLength 0 rest + 1) =
          (before ++ (ahead ++ openBrace :: rest)).length := by
        simp only [hlength, List.length_append, List.length_cons]
        omega
      rw [hall]
      exact .unclosed hopens hopen
  · have hall : before.length + blockLength behind = (before ++ behind).length := by
      rw [blockLength_of_notMem hbrace, List.length_append]
    rw [hall]
    refine .unopened ?_
    rw [List.drop_left]
    exact hbrace

end CodeSurvey.Flow
