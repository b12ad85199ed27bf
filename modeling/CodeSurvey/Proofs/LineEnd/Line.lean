/-
  The lines of padded texts.

  * `Text.Padded.linesAhead`: line by line, the lines of padded texts differ in carriage returns
    at their ends, and what follows them is padded; `Text.Padded.lines`: the lines alone;
  * `Text.Padded.strip_eq`: such lines are equal without the white space at their ends;
  * `Text.Padded.slice`: the same lines of both texts, as texts, are padded.
-/
import CodeSurvey.Proofs.LineEnd.Padded
import CodeSurvey.Proofs.Text.Line

namespace CodeSurvey.Text

variable {P : Text → Prop} {t u s : Text} {c : CodePoint} {ls ms : List Text}

/-! ## Lines -/

/-- A text that starts at a line end has an empty first line. -/
theorem linesAhead_of_atLineEnd (h : AtLineEnd t) :
    ∃ ls, linesAhead t = ([], t) :: ls := by
  cases t with
  | nil => exact ⟨[], rfl⟩
  | cons c t =>
    rw [atLineEnd_cons.1 h, linesAhead_newline]
    exact ⟨_, rfl⟩

/-- A line with what follows it, beside the same line with carriage returns put in. -/
structure LinePadded (x y : Text × Text) : Prop where
  line : Padded atStop x.1 y.1
  lineEnd : AtLineEnd x.2
  ahead : Padded everywhere x.2 y.2

/-- **Line by line, padded texts differ in carriage returns at the ends of lines.** -/
theorem Padded.linesAhead (h : Padded P t u) :
    List.Forall₂ LinePadded t.linesAhead u.linesAhead := by
  induction h with
  | nil => exact .cons ⟨.nil, atLineEnd_nil, .nil⟩ .nil
  | @cons c t u h ih =>
    by_cases hc : c = .newline
    · subst hc
      rw [linesAhead_newline, linesAhead_newline]
      exact .cons ⟨.nil, atLineEnd_cons.2 rfl, .cons _ h.loose⟩ ih
    · obtain ⟨l, ahead, ls, ht, hct⟩ := linesAhead_cons_of_ne hc t
      obtain ⟨m, ahead', ms, hu, hcu⟩ := linesAhead_cons_of_ne hc u
      rw [ht, hu] at ih
      obtain ⟨hfirst, hrest⟩ := List.forall₂_cons.1 ih
      rw [hct, hcu]
      exact .cons ⟨.cons c hfirst.line, hfirst.lineEnd, hfirst.ahead⟩ hrest
  | @pad t u lineEnd _ _ ih =>
    obtain ⟨ls, ht⟩ := linesAhead_of_atLineEnd lineEnd
    obtain ⟨m, ahead', ms, hu, hcu⟩ := linesAhead_cons_of_ne (c := .carriageReturn) (by decide) u
    rw [ht, hu] at ih
    obtain ⟨hfirst, hrest⟩ := List.forall₂_cons.1 ih
    rw [ht, hcu]
    exact .cons ⟨.pad atLineEnd_nil rfl hfirst.line, hfirst.lineEnd, hfirst.ahead⟩ hrest

theorem Padded.lines (h : Padded P t u) : List.Forall₂ (Padded atStop) t.lines u.lines := by
  rw [← map_fst_linesAhead, ← map_fst_linesAhead, List.forall₂_map_left_iff,
    List.forall₂_map_right_iff]
  exact h.linesAhead.imp fun _ _ hline => hline.line

/-! ## Stripped lines -/

/-- A line with carriage returns at its end. -/
theorem Padded.exists_append (h : Padded atStop t u) :
    ∃ s, u = t ++ s ∧ ∀ c ∈ s, c = .carriageReturn := by
  induction h with
  | nil => exact ⟨[], rfl, nofun⟩
  | cons c _ ih =>
    obtain ⟨s, rfl, hs⟩ := ih
    exact ⟨s, rfl, hs⟩
  | pad _ here _ ih =>
    obtain ⟨s, rfl, hs⟩ := ih
    obtain rfl : _ = [] := here
    exact ⟨.carriageReturn :: s, rfl, List.forall_mem_cons.2 ⟨rfl, hs⟩⟩

theorem strip_append_of_isBlank (t : Text) (hs : ∀ c ∈ s, isBlank c = true) :
    strip (t ++ s) = strip t := by
  have hblank : ∀ l : Text, (∀ c ∈ l, isBlank c = true) → l.dropWhile isBlank = [] :=
    fun l hl => List.dropWhile_eq_nil_iff.2 hl
  rw [strip, strip, trim, trim, List.dropWhile_append]
  by_cases ht : (t.dropWhile isBlank).isEmpty = true
  · rw [if_pos ht, hblank s hs, List.isEmpty_iff.1 ht]
  · rw [if_neg ht, List.reverse_append, List.dropWhile_append,
      hblank s.reverse fun c hc => hs c (List.mem_reverse.1 hc)]
    rfl

/-- Without the white space at their ends both lines are the same. -/
theorem Padded.strip_eq (h : Padded atStop t u) : t.strip = u.strip := by
  obtain ⟨s, rfl, hs⟩ := h.exists_append
  refine (strip_append_of_isBlank t fun c hc => ?_).symm
  rw [hs c hc]
  exact isBlank_carriageReturn

/-! ## Slices -/

theorem padded_unlines (h : List.Forall₂ (Padded atStop) ls ms) :
    Padded everywhere (unlines ls) (unlines ms) := by
  unfold unlines
  induction h with
  | nil => exact .nil
  | cons hline hrest ih =>
    cases hrest with
    | nil => exact hline.loose
    | cons hnext hrest =>
      rw [join, join, List.append_assoc, List.append_assoc]
      exact hline.append (atLineEnd_cons.2 rfl) (.cons _ ih)

/-- **The same lines of both texts, as texts, are padded.** -/
theorem Padded.slice (h : Padded P t u) (first last : Nat) :
    Padded everywhere (Text.slice t.lines first last) (Text.slice u.lines first last) :=
  padded_unlines (List.forall₂_drop _ (List.forall₂_take _ h.lines))

end CodeSurvey.Text
