/-
  How line counts add up.

  The kind of a line depends on the lines before it only through one bit, whether they leave a block
  comment open.

  * `Metrics.lineKind_of_blank`, `Metrics.lineKind_inside`, `Metrics.lineKind_of_lineStart`,
    `Metrics.lineKind_of_blockStart`, `Metrics.lineKind_of_source`: the kind of a line, by what comes
    first on it;
  * `Metrics.openBehind`, `Metrics.leavesOpen`: whether some lines, or a text, leave a block comment
    open; `Metrics.leavesOpen_of_no_blockStart`: not without the mark of one;
  * `Metrics.lineKinds_append`: the kinds of two groups of lines;
  * `LinesOfCode.counts_compose`: the counts of a text, and of two texts one after the other.
-/
import CodeSurvey.Metrics.LineCount
import CodeSurvey.Proofs.Text.Blank
import CodeSurvey.Proofs.Text.Cut
import CodeSurvey.Proofs.Text.Line

namespace CodeSurvey

namespace Metrics

open Text (Blank FollowedBy Unspaced)

variable {t line mark blanks rest : Text} {ls : List Text} {inBlock : Bool}

/-! ## The kind of a line -/

theorem unspaced_blockStart : Unspaced blockStart :=
  .of_any (by decide) (by decide)

theorem unspaced_blockEnd : Unspaced blockEnd :=
  .of_any (by decide) (by decide)

theorem unspaced_lineStart : Unspaced lineStart :=
  .of_any (by decide) (by decide)

theorem isEmpty_strip_iff : line.strip.isEmpty = true ↔ Blank line := by
  rw [List.isEmpty_iff, Text.strip_eq_nil_iff]

theorem occurs_strip (h : Unspaced mark) (line : Text) : mark.occurs line.strip = mark.occurs line := by
  rw [Bool.eq_iff_iff, Text.occurs_iff, Text.occurs_iff, h.infix_strip_iff]

/-- A mark comes first on a line exactly if it does so without the white space at the ends. -/
theorem isSome_after?_strip_iff (h : Unspaced mark) :
    (mark.after? line.strip).isSome = true ↔ FollowedBy mark line := by
  rw [Option.isSome_iff_exists]
  constructor
  · rintro ⟨rest, hrest⟩
    obtain ⟨ahead, behind, hahead, -, hline⟩ := Text.exists_strip line
    rw [Text.after?_eq_some_iff.1 hrest] at hline
    exact ⟨ahead, rest ++ behind, hahead, by rw [hline]; simp only [List.append_assoc]⟩
  · rintro ⟨blanks, rest, hblanks, hline⟩
    obtain ⟨rest', -, -, hstrip, -⟩ := h.exists_strip_eq hblanks hline
    exact ⟨rest', Text.after?_eq_some_iff.2 hstrip⟩

theorem not_blank_of_followedBy (h : Unspaced mark) (hline : FollowedBy mark line) : ¬ Blank line := by
  obtain ⟨blanks, rest, -, rfl⟩ := hline
  intro hblank
  obtain ⟨c, cs, rfl⟩ := List.exists_cons_of_ne_nil h.ne_nil
  have hunspaced := h.unspaced c List.mem_cons_self
  rw [hblank c (by simp)] at hunspaced
  cases hunspaced

theorem lineKind_of_blank (h : Blank line) (inBlock : Bool) :
    lineKind inBlock line = (.blank, inBlock) :=
  if_pos (isEmpty_strip_iff.2 h)

theorem lineKind_inside (h : ¬ Blank line) :
    lineKind true line = (.comment, !blockEnd.occurs line) := by
  rw [lineKind, if_neg (mt isEmpty_strip_iff.1 h), if_pos rfl, occurs_strip unspaced_blockEnd]

theorem lineKind_of_lineStart (h : FollowedBy lineStart line) :
    lineKind false line = (.comment, false) := by
  have hblank := not_blank_of_followedBy unspaced_lineStart h
  rw [lineKind, if_neg (mt isEmpty_strip_iff.1 hblank), if_neg Bool.false_ne_true,
    if_pos ((isSome_after?_strip_iff unspaced_lineStart).2 h)]

/-- No line starts with both marks. -/
theorem not_lineStart_of_blockStart (h : FollowedBy blockStart line) : ¬ FollowedBy lineStart line := by
  intro h'
  rw [unspaced_blockStart.followedBy_iff] at h
  rw [unspaced_lineStart.followedBy_iff] at h'
  have hsame := List.prefix_of_prefix_length_le h h' (by decide)
  exact absurd hsame (by decide)

theorem lineKind_of_blockStart (h : Blank blanks) :
    lineKind false (blanks ++ blockStart ++ rest) = (.comment, !blockEnd.occurs rest) := by
  have hfirst : FollowedBy blockStart (blanks ++ blockStart ++ rest) := ⟨blanks, rest, h, rfl⟩
  have hline : blanks ++ blockStart ++ rest = blanks ++ blockStart ++ rest := rfl
  obtain ⟨rest', behind, hbehind, hstrip, hrest⟩ := unspaced_blockStart.exists_strip_eq h hline
  have hsame : blockEnd.occurs rest' = blockEnd.occurs rest := by
    subst hrest
    rw [Bool.eq_iff_iff, Text.occurs_iff, Text.occurs_iff,
      unspaced_blockEnd.infix_append_blank_iff hbehind]
  rw [lineKind, if_neg (mt isEmpty_strip_iff.1 (not_blank_of_followedBy unspaced_blockStart hfirst)),
    if_neg Bool.false_ne_true, if_neg (mt (isSome_after?_strip_iff unspaced_lineStart).1
      (not_lineStart_of_blockStart hfirst)), Text.after?_eq_some_iff.2 hstrip, ← hsame]

theorem lineKind_of_source (hblank : ¬ Blank line) (hline : ¬ FollowedBy lineStart line)
    (hblock : ¬ FollowedBy blockStart line) : lineKind false line = (.source, false) := by
  have hnone : blockStart.after? line.strip = none :=
    Option.not_isSome_iff_eq_none.1 (mt (isSome_after?_strip_iff unspaced_blockStart).1 hblock)
  rw [lineKind, if_neg (mt isEmpty_strip_iff.1 hblank), if_neg Bool.false_ne_true,
    if_neg (mt (isSome_after?_strip_iff unspaced_lineStart).1 hline), hnone]

/-- A line is counted as a comment exactly if it starts inside one or begins with either mark. -/
theorem lineKind_eq_comment_iff (h : ¬ Blank line) :
    (lineKind inBlock line).1 = .comment ↔
      inBlock = true ∨ FollowedBy lineStart line ∨ FollowedBy blockStart line := by
  cases inBlock with
  | true => exact iff_of_true (by rw [lineKind_inside h]) (.inl rfl)
  | false =>
    by_cases hline : FollowedBy lineStart line
    · exact iff_of_true (by rw [lineKind_of_lineStart hline]) (.inr (.inl hline))
    · by_cases hblock : FollowedBy blockStart line
      · obtain ⟨blanks, rest, hblanks, rfl⟩ := id hblock
        exact iff_of_true (by rw [lineKind_of_blockStart hblanks]) (.inr (.inr hblock))
      · refine iff_of_false ?_ (not_or.2 ⟨Bool.false_ne_true, not_or.2 ⟨hline, hblock⟩⟩)
        rw [lineKind_of_source h hline hblock]
        decide

/-- A line is counted as blank exactly if it is, be it in a comment or not. -/
theorem lineKind_eq_blank_iff : (lineKind inBlock line).1 = .blank ↔ Blank line := by
  refine ⟨fun h => ?_, fun h => by rw [lineKind_of_blank h]⟩
  by_contra hblank
  have hnone : ¬ (inBlock = true ∨ FollowedBy lineStart line ∨ FollowedBy blockStart line) := by
    rw [← lineKind_eq_comment_iff hblank, h]
    decide
  rw [not_or, not_or, Bool.not_eq_true] at hnone
  obtain ⟨rfl, hline, hblock⟩ := hnone
  rw [lineKind_of_source hblank hline hblock] at h
  cases h

/-- A line that starts inside a comment leaves it open unless it holds the mark of its end. -/
theorem snd_lineKind_inside_iff : (lineKind true line).2 = true ↔ ¬ blockEnd <:+: line := by
  rw [← Text.not_occurs_iff]
  by_cases h : Blank line
  · have hnone : blockEnd.occurs line = false := by
      rw [← occurs_strip unspaced_blockEnd, Text.strip_eq_nil_iff.2 h]
      decide
    rw [lineKind_of_blank h, hnone]
    rfl
  · rw [lineKind_inside h]

/-- A line that does not starts a comment that it leaves open exactly if it begins with the mark of one
    and does not hold that of its end behind it. -/
theorem snd_lineKind_outside_iff :
    (lineKind false line).2 = true ↔
      ∃ blanks rest, line = blanks ++ blockStart ++ rest ∧ Blank blanks ∧ ¬ blockEnd <:+: rest := by
  constructor
  · intro h
    have hblock : FollowedBy blockStart line := by
      by_contra hblock
      by_cases hblank : Blank line
      · rw [lineKind_of_blank hblank] at h
        cases h
      · by_cases hline : FollowedBy lineStart line
        · rw [lineKind_of_lineStart hline] at h
          cases h
        · rw [lineKind_of_source hblank hline hblock] at h
          cases h
    obtain ⟨blanks, rest, hblanks, rfl⟩ := hblock
    rw [lineKind_of_blockStart hblanks, Text.not_occurs_iff] at h
    exact ⟨blanks, rest, rfl, hblanks, h⟩
  · rintro ⟨blanks, rest, rfl, hblanks, hrest⟩
    rw [lineKind_of_blockStart hblanks, Text.not_occurs_iff]
    exact hrest

/-! ## The kinds of some lines -/

/-- Whether some lines leave a block comment open. -/
def openBehind (inBlock : Bool) (ls : List Text) : Bool :=
  ls.foldl (fun inBlock line => (lineKind inBlock line).2) inBlock

/-- Whether the count of the lines of a text ends inside a block comment. -/
def leavesOpen (t : Text) : Bool :=
  openBehind false t.lines

theorem openBehind_cons (inBlock : Bool) (line : Text) (ls : List Text) :
    openBehind inBlock (line :: ls) = openBehind (lineKind inBlock line).2 ls :=
  rfl

theorem openBehind_concat (inBlock : Bool) (ls : List Text) (line : Text) :
    openBehind inBlock (ls ++ [line]) = (lineKind (openBehind inBlock ls) line).2 := by
  rw [openBehind, List.foldl_append]
  rfl

theorem lineKinds_append (inBlock : Bool) (ls ms : List Text) :
    lineKinds inBlock (ls ++ ms) = lineKinds inBlock ls ++ lineKinds (openBehind inBlock ls) ms := by
  induction ls generalizing inBlock with
  | nil => rfl
  | cons l ls ih => rw [List.cons_append, lineKinds, lineKinds, ih, List.cons_append, openBehind_cons]

theorem length_lineKinds (inBlock : Bool) (ls : List Text) :
    (lineKinds inBlock ls).length = ls.length := by
  induction ls generalizing inBlock with
  | nil => rfl
  | cons l ls ih => rw [lineKinds, List.length_cons, ih, List.length_cons]

/-- The number of blank lines does not depend on comments. -/
theorem count_blank_lineKinds (inBlock : Bool) (ls : List Text) :
    (lineKinds inBlock ls).count .blank = ls.countP fun line => line.strip.isEmpty := by
  induction ls generalizing inBlock with
  | nil => rfl
  | cons l ls ih =>
    have hl : ((lineKind inBlock l).1 == LineKind.blank) = l.strip.isEmpty := by
      rw [Bool.eq_iff_iff, beq_iff_eq, lineKind_eq_blank_iff, isEmpty_strip_iff]
    rw [lineKinds, List.count_cons, List.countP_cons, ih, hl]

/-- Every line is of one of three kinds. -/
theorem length_eq_counts (kinds : List LineKind) :
    kinds.length = kinds.count .source + kinds.count .comment + kinds.count .blank := by
  induction kinds with
  | nil => rfl
  | cons kind kinds ih =>
    cases kind <;> simp [ih] <;> omega

/-! ## Texts without block comments -/

/-- A line without the mark of a block comment opens none. -/
theorem lineKind_of_no_blockStart (h : ¬ blockStart <:+: line) : (lineKind false line).2 = false := by
  rw [← Bool.not_eq_true, snd_lineKind_outside_iff]
  rintro ⟨blanks, rest, rfl, -, -⟩
  exact h (List.infix_append blanks blockStart rest)

theorem openBehind_of_no_blockStart (h : ∀ line ∈ ls, ¬ blockStart <:+: line) :
    openBehind false ls = false := by
  induction ls with
  | nil => rfl
  | cons l ls ih =>
    obtain ⟨hl, hls⟩ := List.forall_mem_cons.1 h
    rw [openBehind_cons, lineKind_of_no_blockStart hl, ih hls]

/-- **A text without the mark of a block comment leaves none open.** -/
theorem leavesOpen_of_no_blockStart (h : ¬ blockStart <:+: t) : leavesOpen t = false := by
  refine openBehind_of_no_blockStart fun line hline hmark => h ?_
  obtain ⟨before, after, hlines⟩ := List.append_of_mem hline
  obtain ⟨ahead, hplace⟩ := Text.exists_isLine_of_lines hlines
  rw [hplace.eq]
  exact hmark.trans (List.infix_append _ line ahead)

end Metrics

namespace LinesOfCode

open Metrics

/-- **Line counts are conserved and compose.**  Every line of a text is counted once, as source, as a
    comment or as blank.  The counts of two texts with a line feed between them are the sums of
    theirs: in all and of blank lines always, of source and of comments if the first text leaves no
    block comment open, as it does not if it holds no mark of one. -/
theorem counts_compose :
    (∀ t, (ofText t).total = (ofText t).source + (ofText t).comments + (ofText t).blank ∧
      (ofText t).total = 1 + t.newlines) ∧
    (∀ a b, (ofText (a ++ .newline :: b)).total = (ofText a).total + (ofText b).total ∧
      (ofText (a ++ .newline :: b)).blank = (ofText a).blank + (ofText b).blank) ∧
    (∀ a b, leavesOpen a = false →
      (ofText (a ++ .newline :: b)).source = (ofText a).source + (ofText b).source ∧
      (ofText (a ++ .newline :: b)).comments = (ofText a).comments + (ofText b).comments) ∧
    ∀ a, ¬ blockStart <:+: a → leavesOpen a = false := by
  have hkinds : ∀ a b : Text, lineKinds false (Text.lines (a ++ .newline :: b)) =
      lineKinds false a.lines ++ lineKinds (leavesOpen a) b.lines := by
    intro a b
    rw [Text.lines_append_newline, lineKinds_append]
    rfl
  refine ⟨fun t => ⟨length_eq_counts _, ?_⟩, fun a b => ⟨?_, ?_⟩, fun a b hopen => ?_,
    fun a => leavesOpen_of_no_blockStart⟩
  · rw [ofText, ofKinds, length_lineKinds, Text.length_lines, Nat.add_comm]
  · simp only [ofText, ofKinds, hkinds, List.length_append, length_lineKinds]
  · simp only [ofText, ofKinds, hkinds, List.count_append, count_blank_lineKinds]
  · simp only [ofText, ofKinds, hkinds, hopen, List.count_append, and_self]

/-- A text that closes its comment, and one of a blank line and a line of code. -/
theorem counts_compose_closed :
    leavesOpen (Text.ofString "/* a\nb */") = false ∧
    (ofText (Text.ofString "/* a\nb */\n\nc")).comments = 2 + 0 ∧
    (ofText (Text.ofString "/* a\nb */\n\nc")).source = 0 + 1 := by
  have hclosed : leavesOpen (Text.ofString "/* a\nb */") = false := by decide
  have hsum := counts_compose.2.2.1 (Text.ofString "/* a\nb */") (Text.ofString "\nc") hclosed
  exact ⟨hclosed, hsum.2.trans (by decide), hsum.1.trans (by decide)⟩

end LinesOfCode

end CodeSurvey
