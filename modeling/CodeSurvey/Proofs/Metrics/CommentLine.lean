/-
  Which lines of comments are counted as such.

  The count takes a line for one of a comment if a mark comes first on it, or on a line before it and
  the comment goes on.  A comment that opens behind something else on its line is lost to it, until a
  line of the comment begins with a mark again.

  * `Metrics.lineKindAt`: what the line of a number is counted as;
  * `Metrics.CommentOnly`: a line whose code points all belong to block comments;
  * `Metrics.OpensFirst`, `Metrics.openBehind_eq`: texts in which no such comment is lost;
  * `Metrics.ClearStarts`, `Metrics.openBehind_iff_marked`: texts in which the mark of an end is not
    taken for that of a start, and what the count knows of an open comment there;
  * `Metrics.comment_lines_counted`: the lines that are counted as comments;
    `Metrics.comment_lines_counted_two`: a text of either sort with such lines;
    `Metrics.comment_behind_code`: one that is not counted.
-/
import CodeSurvey.Proofs.Metrics.BlockComment

namespace CodeSurvey.Metrics

open Text (Blank FollowedBy IsLine Unspaced ended)

variable {t u v line : Text} {ls before between after : List Text} {inBlock inside : Bool}
  {number start x : Nat}

/-- The mark of a comment that its end overlaps. -/
def overlap : Text := Text.ofString "/*/"

theorem overlap_eq : overlap = blockStart ++ [('/' : CodePoint)] := by
  decide

theorem unspaced_overlap : Unspaced overlap :=
  .of_any (by decide) (by decide)

/-! ## One line -/

theorem endsInside_of_blank (h : Blank u) (inside : Bool) : endsInside inside u = inside := by
  refine endsInside_of_no_mark fun hwithin => ?_
  have hmem : nextMark inside ⊆ u := hwithin.subset
  cases inside <;> exact absurd (h _ (hmem List.mem_cons_self)) (by decide)

/-- A line that begins with the mark of a comment holds that of an end only behind it, unless they
    overlap. -/
theorem no_blockEnd_of_begins {blanks rest : Text} (hblanks : Blank blanks)
    (hrest : ¬ blockEnd <:+: rest) (hclear : ¬ FollowedBy overlap (blanks ++ blockStart ++ rest)) :
    ¬ blockEnd <:+: blanks ++ blockStart ++ rest := by
  rw [List.append_assoc, unspaced_blockEnd.infix_blank_append_iff hblanks, blockStart_eq,
    List.cons_append, List.infix_cons_iff, List.cons_append, List.infix_cons_iff]
  rintro (⟨ahead, heq⟩ | ⟨ahead, heq⟩ | hwithin)
  · rw [blockEnd_eq] at heq
    exact absurd (List.cons.inj heq).1 (by decide)
  · rw [blockEnd_eq] at heq
    obtain rfl : _ = rest := (List.cons.inj heq).2
    exact hclear ⟨blanks, ahead, hblanks, by simp only [overlap_eq, List.append_assoc]; rfl⟩
  · exact hrest hwithin

/-- **A comment that the count takes for open behind a line is open there**, if that is so before it. -/
theorem endsInside_of_snd_lineKind (hopen : inBlock = true → inside = true)
    (hclear : inside = true → ¬ FollowedBy overlap line) (h : (lineKind inBlock line).2 = true) :
    endsInside inside line = true := by
  have hkept : inside = true → ¬ blockEnd <:+: line → endsInside inside line = true := by
    rintro rfl hnone
    exact endsInside_of_no_mark hnone
  cases inBlock with
  | true =>
    rw [snd_lineKind_inside_iff] at h
    exact hkept (hopen rfl) h
  | false =>
    obtain ⟨blanks, rest, rfl, hblanks, hrest⟩ := snd_lineKind_outside_iff.1 h
    cases inside with
    | true => exact hkept rfl (no_blockEnd_of_begins hblanks hrest (hclear rfl))
    | false =>
      exact endsInside_iff.2 (.inr ⟨blanks, rest, rfl, endsInside_of_blank hblanks false, hrest⟩)

/-- A mark behind another one starts behind its end. -/
theorem exists_of_begins {blanks rest : Text}
    (h : blanks ++ (blockStart ++ rest) = u ++ blockStart ++ v) (hlt : blanks.length < u.length) :
    ∃ between, u = blanks ++ blockStart ++ between ∧ rest = between ++ (blockStart ++ v) := by
  rw [List.append_assoc] at h
  rcases List.append_eq_append_iff.1 h with ⟨more, rfl, hmore⟩ | ⟨more, rfl, -⟩
  · simp only [blockStart_eq, List.cons_append, List.nil_append] at hmore ⊢
    cases more with
    | nil =>
      rw [List.append_nil] at hlt
      exact absurd hlt (Nat.lt_irrefl _)
    | cons c more =>
      obtain ⟨rfl, hbehind⟩ := List.cons.inj hmore
      cases more with
      | nil => exact absurd (List.cons.inj hbehind).1 (by decide)
      | cons d between =>
        obtain ⟨rfl, hrest⟩ := List.cons.inj hbehind
        exact ⟨between, by rw [List.append_assoc]; rfl, hrest⟩
  · rw [List.length_append] at hlt
    exact absurd hlt (by omega)

/-- **The count knows of a comment that a line opens and leaves open exactly if it opens first.** -/
theorem snd_lineKind_opens_iff (hopen : inBlock = true → inside = true)
    (hclear : inside = true → ¬ FollowedBy overlap (u ++ blockStart ++ v))
    (hu : endsInside inside u = false) (hv : ¬ blockEnd <:+: v) :
    (lineKind inBlock (u ++ blockStart ++ v)).2 = true ↔ Blank u := by
  constructor
  · intro h
    cases inBlock with
    | true =>
      obtain rfl := hopen rfl
      rw [snd_lineKind_inside_iff] at h
      -- the comment before would go on to the mark
      have hinside : endsInside true u = true := by
        refine endsInside_of_no_mark fun hwithin => h (hwithin.trans ?_)
        rw [List.append_assoc]
        exact (List.prefix_append u _).isInfix
      rw [hinside] at hu
      cases hu
    | false =>
      obtain ⟨blanks, rest, heq, hblanks, hrest⟩ := snd_lineKind_outside_iff.1 h
      rw [List.append_assoc blanks] at heq
      rcases Nat.lt_or_ge blanks.length u.length with hlt | hle
      · -- the comment that the count sees would go on to the mark
        obtain ⟨between, rfl, rfl⟩ := exists_of_begins heq.symm hlt
        have hcount : (lineKind false (blanks ++ blockStart ++ between)).2 = true :=
          snd_lineKind_outside_iff.2 ⟨blanks, between, rfl, hblanks,
            fun hwithin => hrest (hwithin.trans (List.prefix_append between _).isInfix)⟩
        have hinside : endsInside inside (blanks ++ blockStart ++ between) = true := by
          refine endsInside_of_snd_lineKind ?_ (fun hin hfirst => hclear hin ?_) hcount
          · exact nofun
          · rw [List.append_assoc (blanks ++ blockStart ++ between)]
            exact hfirst.append _
        rw [hinside] at hu
        cases hu
      · rw [eq_of_blank hblanks heq.symm hle]
        exact hblanks
  · intro hblank
    rw [endsInside_of_blank hblank] at hu
    have hcount : inBlock = false := Bool.eq_false_iff.2 fun h => by
      rw [hopen h] at hu
      cases hu
    rw [hcount, snd_lineKind_outside_iff]
    exact ⟨u, v, rfl, hblank, hv⟩

/-- Where no comment ends, the count knows of an open one exactly if it did before, or a mark comes
    first. -/
theorem snd_lineKind_of_no_blockEnd (h : ¬ blockEnd <:+: line) :
    (lineKind inBlock line).2 = true ↔ inBlock = true ∨ FollowedBy blockStart line := by
  cases inBlock with
  | true =>
    rw [snd_lineKind_inside_iff]
    exact iff_of_true h (.inl rfl)
  | false =>
    rw [snd_lineKind_outside_iff]
    constructor
    · rintro ⟨blanks, rest, rfl, hblanks, -⟩
      exact .inr ⟨blanks, rest, hblanks, rfl⟩
    · rintro (hfalse | ⟨blanks, rest, hblanks, rfl⟩)
      · cases hfalse
      · have hrest : ¬ blockEnd <:+: rest := fun hwithin =>
          h (hwithin.trans (List.suffix_append _ rest).isInfix)
        exact ⟨blanks, rest, rfl, hblanks, hrest⟩

/-- Where a comment that is left open comes first, the count is right. -/
theorem snd_lineKind_eq (h : ∀ u v, line = u ++ blockStart ++ v → endsInside inside u = false →
    ¬ blockEnd <:+: v → Blank u) : (lineKind inside line).2 = endsInside inside line := by
  rw [Bool.eq_iff_iff, endsInside_iff]
  cases inside with
  | true =>
    rw [snd_lineKind_inside_iff]
    constructor
    · exact fun hnone => .inl ⟨rfl, hnone⟩
    · rintro (⟨-, hnone⟩ | ⟨u, v, hline, hu, hv⟩)
      · exact hnone
      · rw [endsInside_of_blank (h u v hline hu hv)] at hu
        cases hu
  | false =>
    rw [snd_lineKind_outside_iff]
    constructor
    · rintro ⟨blanks, rest, hline, hblanks, hrest⟩
      exact .inr ⟨blanks, rest, hline, endsInside_of_blank hblanks false, hrest⟩
    · rintro (⟨hfalse, -⟩ | ⟨u, v, hline, hu, hv⟩)
      · cases hfalse
      · exact ⟨u, v, hline, h u v hline hu hv, hv⟩

/-! ## Lines one after the other -/

/-- A line among some lines and one more is among them or that one. -/
theorem concat_eq_iff {l : Text} :
    ls ++ [line] = before ++ l :: after ↔ (before = ls ∧ l = line ∧ after = []) ∨
      ∃ between, after = between ++ [line] ∧ ls = before ++ l :: between := by
  constructor
  · intro h
    rcases List.eq_nil_or_concat after with rfl | ⟨between, last, rfl⟩
    · obtain ⟨rfl, hline⟩ := List.append_inj' h rfl
      exact .inl ⟨rfl, (List.cons.inj hline).1.symm, rfl⟩
    · rw [List.concat_eq_append, ← List.cons_append, ← List.append_assoc] at h
      obtain ⟨rfl, hline⟩ := List.append_inj' h rfl
      exact .inr ⟨between, by rw [List.concat_eq_append, (List.cons.inj hline).1], rfl⟩
  · rintro (⟨rfl, rfl, rfl⟩ | ⟨between, rfl, rfl⟩)
    · rfl
    · rw [List.append_assoc, List.cons_append]

/-- A comment that one of the lines leaves open comes first on it, white space aside. -/
def OpensFirst (ls : List Text) : Prop :=
  ∀ before u v after, ls = before ++ (u ++ blockStart ++ v) :: after →
    endsInside false (ended before ++ u) = false → ¬ blockEnd <:+: v → Blank u

theorem OpensFirst.of_append (h : OpensFirst (before ++ after)) : OpensFirst before := by
  rintro ls u v between rfl hu hv
  exact h ls u v (between ++ after) (by rw [List.append_assoc, List.cons_append]) hu hv

/-- **Where comments come first on the lines that leave them open, the count knows when one is open.** -/
theorem openBehind_eq (h : OpensFirst ls) : openBehind false ls = endsInside false (ended ls) := by
  induction ls using List.reverseRecOn with
  | nil => rfl
  | append_singleton ls line ih =>
    rw [openBehind_concat, endsInside_ended_concat, ih h.of_append]
    refine snd_lineKind_eq fun u v hline hu hv => h ls u v [] (by rw [hline]) ?_ hv
    rw [endsInside_ended_append, hu]

/-- No line that starts inside a comment begins with the mark of one that its end overlaps. -/
def ClearStarts (ls : List Text) : Prop :=
  ∀ before line after, ls = before ++ line :: after → endsInside false (ended before) = true →
    ¬ FollowedBy overlap line

theorem ClearStarts.of_append (h : ClearStarts (before ++ after)) : ClearStarts before := by
  rintro ls line between rfl
  exact h ls line (between ++ after) (by rw [List.append_assoc, List.cons_append])

/-- Starts are clear, whatever they lie in, if no line begins with that mark. -/
theorem clearStarts_of_forall (h : ∀ line ∈ ls, ¬ overlap <+: line.skipBlank) : ClearStarts ls := by
  rintro before line after rfl - hfirst
  exact h line (by simp) (unspaced_overlap.followedBy_iff.1 hfirst)

/-- One of the lines begins, white space aside, with the mark of a block comment; it stands at the
    offset. -/
def MarkFirst (ls : List Text) (x : Nat) : Prop :=
  ∃ before blanks rest after, ls = before ++ (blanks ++ blockStart ++ rest) :: after ∧
    Blank blanks ∧ x = (ended before ++ blanks).length

theorem markFirst_concat_iff :
    MarkFirst (ls ++ [line]) x ↔ MarkFirst ls x ∨
      ∃ blanks rest, line = blanks ++ blockStart ++ rest ∧ Blank blanks ∧
        x = (ended ls ++ blanks).length := by
  constructor
  · rintro ⟨before, blanks, rest, after, heq, hblanks, hx⟩
    rcases concat_eq_iff.1 heq with ⟨rfl, rfl, -⟩ | ⟨between, -, rfl⟩
    · exact .inr ⟨blanks, rest, rfl, hblanks, hx⟩
    · exact .inl ⟨before, blanks, rest, between, rfl, hblanks, hx⟩
  · rintro (⟨before, blanks, rest, after, rfl, hblanks, hx⟩ | ⟨blanks, rest, rfl, hblanks, hx⟩)
    · refine ⟨before, blanks, rest, after ++ [line], ?_, hblanks, hx⟩
      rw [List.append_assoc, List.cons_append]
    · exact ⟨ls, blanks, rest, [], rfl, hblanks, hx⟩

theorem MarkFirst.lt (h : MarkFirst ls x) : x < (ended ls).length := by
  obtain ⟨before, blanks, rest, after, rfl, -, rfl⟩ := h
  rw [Text.ended_append, Text.ended_cons]
  simp only [List.length_append, List.length_cons]
  omega

theorem MarkFirst.exists_mem (h : MarkFirst ls x) : ∃ line ∈ ls, FollowedBy blockStart line := by
  obtain ⟨before, blanks, rest, after, rfl, hblanks, -⟩ := h
  exact ⟨_, by simp, blanks, rest, hblanks, rfl⟩

theorem OpenSince.le (h : OpenSince ls start) : start ≤ (ended ls).length := by
  obtain ⟨pre, rest, hls, rfl, -, -⟩ := h
  rw [hls, List.append_assoc, List.length_append]
  exact Nat.le_add_right _ _

/-- A mark that comes first on a line comes behind every comment that is open before it. -/
theorem exists_markFirst_concat_iff (h : OpenSince ls start) :
    (∃ x, start ≤ x ∧ MarkFirst (ls ++ [line]) x) ↔
      (∃ x, start ≤ x ∧ MarkFirst ls x) ∨ FollowedBy blockStart line := by
  simp only [markFirst_concat_iff, and_or_left, exists_or]
  refine or_congr_right ⟨?_, ?_⟩
  · rintro ⟨x, -, blanks, rest, rfl, hblanks, -⟩
    exact ⟨blanks, rest, hblanks, rfl⟩
  · rintro ⟨blanks, rest, hblanks, rfl⟩
    refine ⟨_, ?_, blanks, rest, rfl, hblanks, rfl⟩
    rw [List.length_append]
    exact h.le.trans (Nat.le_add_right _ _)

/-- **The count knows of an open comment exactly if, since it opened, a line has begun with a mark.**
    By induction on the lines; with it goes that what the count takes for open is open. -/
theorem openBehind_iff_marked (h : ClearStarts ls) :
    (openBehind false ls = true → endsInside false (ended ls) = true) ∧
    ∀ start, OpenSince ls start →
      (openBehind false ls = true ↔ ∃ x, start ≤ x ∧ MarkFirst ls x) := by
  induction ls using List.reverseRecOn with
  | nil =>
    refine ⟨id, ?_⟩
    rintro start ⟨pre, rest, hls, -⟩
    rw [List.append_assoc] at hls
    exact absurd (List.append_eq_nil_iff.1 (List.append_eq_nil_iff.1 hls.symm).2).1 (by decide)
  | append_singleton ls line ih =>
    have hline := h ls line [] rfl
    obtain ⟨hopen, hmarked⟩ := ih h.of_append
    rw [openBehind_concat, endsInside_ended_concat]
    refine ⟨endsInside_of_snd_lineKind hopen hline, fun start hsince => ?_⟩
    rcases hsince.of_concat with ⟨hbefore, hnone⟩ | ⟨u, v, rfl, hu, hv, rfl⟩
    · rw [snd_lineKind_of_no_blockEnd hnone, hmarked start hbefore, exists_markFirst_concat_iff hbefore]
    · rw [snd_lineKind_opens_iff hopen hline hu hv]
      constructor
      · exact fun hblank => ⟨_, Nat.le_refl _, markFirst_concat_iff.2 (.inr ⟨u, v, rfl, hblank, rfl⟩)⟩
      · rintro ⟨x, hle, hx⟩
        rcases markFirst_concat_iff.1 hx with hx | ⟨blanks, rest, heq, hblanks, rfl⟩
        · have hlt := hx.lt
          rw [List.length_append] at hle
          omega
        · rw [List.length_append, List.length_append] at hle
          rw [List.append_assoc blanks] at heq
          rw [eq_of_blank hblanks heq.symm (by omega)]
          exact hblanks

/-! ## Lines of comments -/

/-- What the line behind the given number of lines is counted as. -/
def lineKindAt (t : Text) (i : Nat) : Option LineKind :=
  (lineKinds false t.lines)[i]?

/-- There are as many lines of a kind as numbers of lines counted as such. -/
theorem count_lineKinds (t : Text) (kind : LineKind) :
    (lineKinds false t.lines).count kind =
      (List.range t.lines.length).countP fun i => lineKindAt t i == some kind := by
  have hmap : (lineKinds false t.lines).map some =
      (List.range t.lines.length).map fun i => lineKindAt t i := by
    refine List.ext_getElem ?_ fun i hkind _ => ?_
    · rw [List.length_map, List.length_map, List.length_range, length_lineKinds]
    · rw [List.length_map] at hkind
      rw [List.getElem_map, List.getElem_map, List.getElem_range, lineKindAt,
        List.getElem?_eq_getElem hkind]
  have hcount := congrArg (List.countP (· == some kind)) hmap
  rw [List.countP_map, List.countP_map] at hcount
  exact hcount

/-- The line behind the given ones holds something else than white space, and all that it holds else
    belongs to block comments of the text. -/
structure CommentOnly (t : Text) (before : List Text) (line : Text) : Prop where
  nonblank : ¬ Blank line
  inside : ∀ ahead c behind, line = ahead ++ c :: behind → isBlank c = false →
    ∃ start, InComment t start (ended before ++ ahead).length

/-- The first code point of the line, white space aside, belongs to the comment that opens at
    `start`. -/
def StartsIn (t : Text) (before : List Text) (line : Text) (start : Nat) : Prop :=
  ∃ blanks c behind, line = blanks ++ c :: behind ∧ Blank blanks ∧ isBlank c = false ∧
    InComment t start (ended before ++ blanks).length

/-- The line shows the count that it is one of a comment: from `start` up to the line itself some line
    begins with the mark of a block comment, or the line begins with that of a line comment. -/
def Shown (before : List Text) (line : Text) (start : Nat) : Prop :=
  FollowedBy lineStart line ∨ ∃ x, start ≤ x ∧ MarkFirst (before ++ [line]) x

/-- No mark at the start of any line shows the count a comment. -/
theorem not_shown_of_forall (hline : ¬ lineStart <+: line.skipBlank)
    (h : ∀ l ∈ before ++ [line], ¬ blockStart <+: l.skipBlank) : ¬ Shown before line start := by
  rintro (hfirst | ⟨x, -, hmark⟩)
  · exact hline (unspaced_lineStart.followedBy_iff.1 hfirst)
  · obtain ⟨l, hl, hfirst⟩ := hmark.exists_mem
    exact h l hl (unspaced_blockStart.followedBy_iff.1 hfirst)

theorem lineKindAt_of_lines (h : t.lines = before ++ line :: after) :
    lineKindAt t before.length = some (lineKind (openBehind false before) line).1 := by
  rw [lineKindAt, h, lineKinds_append, List.getElem?_append_right (length_lineKinds _ _).le,
    length_lineKinds, Nat.sub_self]
  rfl

theorem CommentOnly.exists_startsIn (h : CommentOnly t before line) :
    ∃ start, StartsIn t before line start := by
  obtain ⟨blanks, c, behind, hline, hblanks, hc⟩ := Text.exists_first_of_not_blank h.nonblank
  obtain ⟨start, hstart⟩ := h.inside blanks c behind hline hc
  exact ⟨start, blanks, c, behind, hline, hblanks, hc, hstart⟩

/-- A line that starts in a comment begins with its mark, or lies behind lines that leave it open. -/
theorem StartsIn.cases (h : StartsIn t before line start) (hlines : t.lines = before ++ line :: after) :
    (MarkFirst (before ++ [line]) start ∧ FollowedBy blockStart line) ∨ OpenSince before start := by
  obtain ⟨blanks, c, behind, rfl, hblanks, -, hstart⟩ := h
  obtain ⟨ahead, hline⟩ := Text.exists_isLine_of_lines hlines
  rcases cases_of_inComment hline hblanks hstart with ⟨rfl, rest, hrest⟩ | hsince
  · rw [← hrest, ← List.append_assoc]
    exact .inl ⟨markFirst_concat_iff.2 (.inr ⟨blanks, rest, rfl, hblanks, rfl⟩),
      blanks, rest, hblanks, rfl⟩
  · exact .inr hsince

theorem lineKind_eq_source_iff (h : ¬ Blank line) :
    (lineKind inBlock line).1 = .source ↔ ¬ (lineKind inBlock line).1 = .comment := by
  have hblank : (lineKind inBlock line).1 ≠ .blank := mt lineKind_eq_blank_iff.1 h
  cases hkind : (lineKind inBlock line).1 with
  | blank => exact absurd hkind hblank
  | comment => simp
  | source => simp

/-- Where comments come first on the lines that leave them open, every line of comments is counted as
    one. -/
theorem CommentOnly.lineKind_of_opensFirst (h : CommentOnly t before line)
    (hlines : t.lines = before ++ line :: after) (hbefore : OpensFirst before) :
    (lineKind (openBehind false before) line).1 = .comment := by
  obtain ⟨start, hstart⟩ := h.exists_startsIn
  rw [lineKind_eq_comment_iff h.nonblank]
  rcases hstart.cases hlines with ⟨-, hmark⟩ | hsince
  · exact .inr (.inr hmark)
  · rw [openBehind_eq hbefore]
    exact .inl (exists_openSince_iff.1 ⟨start, hsince⟩)

/-- Where the mark of an end is not taken for that of a start, a line that starts in a comment is
    counted as one exactly if it shows that it is. -/
theorem StartsIn.lineKind_eq_comment_iff (h : StartsIn t before line start)
    (hlines : t.lines = before ++ line :: after) (hline : ¬ Blank line)
    (hbefore : ClearStarts before) :
    (lineKind (openBehind false before) line).1 = .comment ↔ Shown before line start := by
  rw [Metrics.lineKind_eq_comment_iff hline, Shown]
  rcases h.cases hlines with ⟨hfirst, hmark⟩ | hsince
  · exact iff_of_true (.inr (.inr hmark)) (.inr ⟨start, Nat.le_refl _, hfirst⟩)
  · rw [(openBehind_iff_marked hbefore).2 start hsince, exists_markFirst_concat_iff hsince,
      or_left_comm]

/-- **Which lines of comments are counted as such.**  Comments and source are the numbers of lines
    counted as either.  If comments come first on the lines that leave them open, all lines of comments
    are counted as such.  In any text where no line that starts inside a comment begins with the mark
    that an end overlaps, a line of comments starts in one of them, and is counted as a comment
    exactly if it shows the count that it is, as source otherwise. -/
theorem comment_lines_counted (t : Text) :
    ((LinesOfCode.ofText t).comments =
        (List.range t.lines.length).countP (fun i => lineKindAt t i == some .comment) ∧
      (LinesOfCode.ofText t).source =
        (List.range t.lines.length).countP fun i => lineKindAt t i == some .source) ∧
    (OpensFirst t.lines.dropLast → ∀ before line after, t.lines = before ++ line :: after →
      CommentOnly t before line → lineKindAt t before.length = some .comment) ∧
    (ClearStarts t.lines → ∀ before line after, t.lines = before ++ line :: after →
      CommentOnly t before line → (∃ start, StartsIn t before line start) ∧
        ∀ start, StartsIn t before line start →
          (lineKindAt t before.length = some .comment ↔ Shown before line start) ∧
          (lineKindAt t before.length = some .source ↔ ¬ Shown before line start)) := by
  refine ⟨⟨count_lineKinds t .comment, count_lineKinds t .source⟩, ?_, ?_⟩
  · intro hfirst before line after hlines honly
    rw [hlines, List.dropLast_append_of_ne_nil (List.cons_ne_nil line after)] at hfirst
    rw [lineKindAt_of_lines hlines, honly.lineKind_of_opensFirst hlines hfirst.of_append]
  · intro hclear before line after hlines honly
    refine ⟨honly.exists_startsIn, fun start hstart => ?_⟩
    rw [hlines] at hclear
    have hcomment := hstart.lineKind_eq_comment_iff hlines honly.nonblank hclear.of_append
    rw [lineKindAt_of_lines hlines, Option.some.injEq, Option.some.injEq,
      lineKind_eq_source_iff honly.nonblank]
    exact ⟨hcomment, not_congr hcomment⟩

theorem BlockComment.inComment {pre inner post : Text} {i : Nat} (h : BlockComment t pre inner post)
    (hstart : pre.length ≤ i) (hstop : i < (pre ++ blockStart ++ inner).length) :
    InComment t pre.length i :=
  ⟨pre, inner, post, h, rfl, hstart, hstop⟩

/-- A line within a comment is of comments only. -/
theorem BlockComment.commentOnly {pre inner post : Text} (h : BlockComment t pre inner post)
    (hline : line.strip ≠ []) (hstart : pre.length ≤ (ended before).length)
    (hstop : (ended before ++ line).length ≤ (pre ++ blockStart ++ inner).length) :
    CommentOnly t before line := by
  refine ⟨mt Text.strip_eq_nil_iff.2 hline, fun ahead c behind heq _ => ?_⟩
  refine ⟨pre.length, h.inComment ?_ ?_⟩
  · rw [List.length_append]
    exact hstart.trans (Nat.le_add_right _ _)
  · refine Nat.lt_of_lt_of_le ?_ hstop
    rw [heq, List.length_append, List.length_append, List.length_append, List.length_cons]
    omega

/-- A comment up to the end of the text, of which that end is the first mark of one. -/
theorem blockComment_to_end {pre inner : Text} (ht : t = pre ++ blockStart ++ inner)
    (hpre : endsInside false pre = false)
    (hfirst : ∀ v ∈ inner.inits, blockEnd <:+: v → v = inner) : BlockComment t pre inner [] where
  eq := by rw [ht, List.append_nil]
  outside := hpre
  first v hv := hfirst v ((List.mem_inits v inner).2 hv)
  ends := .inr rfl

/-- A comment of two lines. -/
def twoLineComment : Text := Text.ofString "/*\nb */"

theorem lines_twoLineComment :
    twoLineComment.lines = [blockStart] ++ Text.ofString "b */" :: [] := by
  decide

theorem opensFirst_twoLineComment : OpensFirst twoLineComment.lines.dropLast := by
  intro before u v after heq _ _
  -- there is one line but the last, which is nothing but the mark
  have hmem : u ++ blockStart ++ v ∈ twoLineComment.lines.dropLast := by
    rw [heq]
    simp
  have hlast : twoLineComment.lines.dropLast = [blockStart] := by
    rw [lines_twoLineComment]
    rfl
  rw [hlast, List.mem_singleton] at hmem
  have hlength := congrArg List.length hmem
  simp only [List.length_append] at hlength
  rw [List.eq_nil_of_length_eq_zero (by omega : u.length = 0)]
  exact Text.blank_nil

/-- A comment that opens behind code, and the last of whose three lines begins with a mark again. -/
def reopenedComment : Text := Text.ofString "x /*\ny\n/* z */"

theorem blockComment_reopenedComment :
    BlockComment reopenedComment (Text.ofString "x ") (Text.ofString "\ny\n/* z */") [] :=
  blockComment_to_end (by decide) rfl (by decide)

theorem comment_lines_counted_two :
    (OpensFirst twoLineComment.lines.dropLast ∧ lineKindAt twoLineComment 1 = some .comment) ∧
    ClearStarts reopenedComment.lines ∧
    (StartsIn reopenedComment [Text.ofString "x /*"] (Text.ofString "y") 2 ∧
      ¬ Shown [Text.ofString "x /*"] (Text.ofString "y") 2 ∧
      lineKindAt reopenedComment 1 = some .source) ∧
    StartsIn reopenedComment [Text.ofString "x /*", Text.ofString "y"] (Text.ofString "/* z */") 2 ∧
      Shown [Text.ofString "x /*", Text.ofString "y"] (Text.ofString "/* z */") 2 ∧
      lineKindAt reopenedComment 2 = some .comment := by
  have hclear : ClearStarts reopenedComment.lines := clearStarts_of_forall (by decide)
  have hcomment := blockComment_reopenedComment
  have hcounted := (comment_lines_counted reopenedComment).2.2 hclear
  refine ⟨⟨opensFirst_twoLineComment, ?_⟩, hclear, ?_, ?_⟩
  · have hcomment : BlockComment twoLineComment [] (Text.ofString "\nb */") [] :=
      blockComment_to_end (by decide) rfl (by decide)
    have honly : CommentOnly twoLineComment [blockStart] (Text.ofString "b */") :=
      hcomment.commentOnly (by decide) (by decide) (by decide)
    exact (comment_lines_counted twoLineComment).2.1 opensFirst_twoLineComment _ _ []
      lines_twoLineComment honly
  · have hstart : StartsIn reopenedComment [Text.ofString "x /*"] (Text.ofString "y") 2 :=
      ⟨[], _, [], rfl, Text.blank_nil, by decide, hcomment.inComment (by decide) (by decide)⟩
    have hshown : ¬ Shown [Text.ofString "x /*"] (Text.ofString "y") 2 :=
      not_shown_of_forall (by decide) (by decide)
    have honly : CommentOnly reopenedComment [Text.ofString "x /*"] (Text.ofString "y") :=
      hcomment.commentOnly (by decide) (by decide) (by decide)
    obtain ⟨-, hkind⟩ := hcounted _ _ [Text.ofString "/* z */"] (by decide) honly
    exact ⟨hstart, hshown, (hkind 2 hstart).2.2 hshown⟩
  · have hstart : StartsIn reopenedComment [Text.ofString "x /*", Text.ofString "y"]
        (Text.ofString "/* z */") 2 :=
      ⟨[], _, _, rfl, Text.blank_nil, by decide, hcomment.inComment (by decide) (by decide)⟩
    have hshown : Shown [Text.ofString "x /*", Text.ofString "y"] (Text.ofString "/* z */") 2 :=
      .inr ⟨7, by decide, _, [], Text.ofString " z */", [], rfl, Text.blank_nil, by decide⟩
    have honly : CommentOnly reopenedComment [Text.ofString "x /*", Text.ofString "y"]
        (Text.ofString "/* z */") :=
      hcomment.commentOnly (by decide) (by decide) (by decide)
    obtain ⟨-, hkind⟩ := hcounted _ _ [] (by decide) honly
    exact ⟨hstart, hshown, (hkind 2 hstart).1.2 hshown⟩

/-- A comment that opens behind code and goes on over a line end. -/
def codeBeforeComment : Text := Text.ofString "x /*\ny */"

/-- **A comment that opens behind code is lost.**  The text holds no quotes and no mark of a line
    comment, and no slash outside of its block comment, to which all of the second line belongs; still
    that line is counted as source. -/
theorem comment_behind_code :
    (0x22 ∉ codeBeforeComment ∧ 0x27 ∉ codeBeforeComment ∧ 0x60 ∉ codeBeforeComment) ∧
    ¬ lineStart <:+: codeBeforeComment ∧
    (∀ i, codeBeforeComment[i]? = some (CodePoint.ofChar '/') →
      ∃ start, InComment codeBeforeComment start i) ∧
    codeBeforeComment.lines = [Text.ofString "x /*"] ++ Text.ofString "y */" :: [] ∧
    CommentOnly codeBeforeComment [Text.ofString "x /*"] (Text.ofString "y */") ∧
    lineKindAt codeBeforeComment 1 = some .source ∧
    LinesOfCode.ofText codeBeforeComment = ⟨2, 2, 0, 0⟩ := by
  have hcomment : BlockComment codeBeforeComment (Text.ofString "x ") (Text.ofString "\ny */") [] :=
    blockComment_to_end (by decide) rfl (by decide)
  refine ⟨by decide, by decide, fun i hi => ?_, by decide, ?_, by decide, by decide⟩
  · refine ⟨2, _, _, _, hcomment, rfl, ?_, (List.getElem?_eq_some_iff.1 hi).1⟩
    by_contra hle
    obtain rfl | rfl : i = 0 ∨ i = 1 := by omega
    · exact absurd hi (by decide)
    · exact absurd hi (by decide)
  · exact hcomment.commentOnly (by decide) (by decide) (by decide)

end CodeSurvey.Metrics
