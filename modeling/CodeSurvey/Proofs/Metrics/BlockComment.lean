/-
  The block comments of a text.

  A block comment opens at a mark outside of comments and goes up to the next mark that ends one, or
  to the end of the text.  No mark reaches over a line feed, so the lines can be read one by one.

  * `Metrics.endsInside`: whether a text ends inside a comment; `Metrics.endsInside_append`,
    `Metrics.endsInside_newline`: read piece by piece;
  * `Metrics.endsInside_iff`: it does exactly if a comment opens in it, or before it, and is not ended;
  * `Metrics.BlockComment`, `Metrics.InComment`: a comment in its place, and the code points that
    belong to it;
  * `Metrics.OpenSince`, `Metrics.open_of_inComment`: a comment that some lines leave open.
-/
import CodeSurvey.Proofs.Metrics.LineCount

namespace CodeSurvey.Metrics

open Text (Blank IsLine ended)

variable {t u v w line : Text} {ls : List Text} {inside : Bool} {c : CodePoint}

/-- The mark that the scan looks for: the end of a comment inside of one, else the start. -/
def nextMark (inside : Bool) : Text :=
  if inside then blockEnd else blockStart

/-- Whether a text ends inside a block comment, given whether it starts inside one. -/
def endsInside : Bool → Text → Bool
  | inside, [] => inside
  | inside, [_] => inside
  | inside, c :: d :: t =>
    if [c, d] = nextMark inside then endsInside (!inside) t else endsInside inside (d :: t)

theorem blockStart_eq : blockStart = [('/' : CodePoint), ('*' : CodePoint)] := by
  decide

theorem blockEnd_eq : blockEnd = [('*' : CodePoint), ('/' : CodePoint)] := by
  decide

/-! ## The scan piece by piece -/

theorem endsInside_mark (inside : Bool) (t : Text) :
    endsInside inside (nextMark inside ++ t) = endsInside (!inside) t := by
  cases inside <;> exact (endsInside.eq_3 _ _ _ _).trans (if_pos rfl)

/-- A code point that does not start the mark looked for is passed over. -/
theorem endsInside_cons (h : ¬ nextMark inside <+: c :: t) :
    endsInside inside (c :: t) = endsInside inside t := by
  cases t with
  | nil => rfl
  | cons d t =>
    have hne : [c, d] ≠ nextMark inside := fun heq => h ⟨t, by rw [← heq]; rfl⟩
    rw [endsInside, if_neg hne]

/-- **A text is read piece by piece**, if no mark reaches from the first piece into the second. -/
theorem endsInside_append (h : ∀ c ∈ v.head?, ∀ d, [d, c] ≠ nextMark (endsInside inside u)) :
    endsInside inside (u ++ v) = endsInside (endsInside inside u) v := by
  fun_induction endsInside inside u with
  | case1 inside => rfl
  | case2 inside c =>
    cases v with
    | nil => rfl
    | cons d v => rw [List.singleton_append, endsInside, if_neg (h d rfl c)]
  | case3 inside c d t hmark ih =>
    rw [List.cons_append, List.cons_append, endsInside, if_pos hmark, ih h]
  | case4 inside c d t hmark ih =>
    rw [List.cons_append, List.cons_append, endsInside, if_neg hmark, ← List.cons_append, ih h]

theorem endsInside_newline (inside : Bool) (u v : Text) :
    endsInside inside (u ++ .newline :: v) = endsInside (endsInside inside u) v := by
  have hmark : ∀ inside d, [d, CodePoint.newline] ≠ nextMark inside := by
    intro inside d heq
    cases inside <;> exact absurd (List.cons.inj (List.cons.inj heq).2).1 (by decide)
  have hfirst : ∀ inside, ¬ nextMark inside <+: CodePoint.newline :: v := by
    rintro inside ⟨rest, heq⟩
    cases inside <;> exact absurd (List.cons.inj heq).1 (by decide)
  rw [endsInside_append fun c hc d => ?_, endsInside_cons (hfirst _)]
  obtain rfl : CodePoint.newline = c := Option.some.inj hc
  exact hmark _ d

/-- A mark is looked for behind a text, so it does not reach into it. -/
theorem endsInside_append_mark {inside' : Bool} (h : endsInside inside u = inside') (v : Text) :
    endsInside inside (u ++ nextMark inside' ++ v) = endsInside (!inside') v := by
  rw [List.append_assoc, endsInside_append, h, endsInside_mark]
  intro c hc d heq
  rw [h] at heq
  cases inside' <;> obtain rfl := Option.some.inj hc <;>
    exact absurd (List.cons.inj (List.cons.inj heq).2).1 (by decide)

theorem endsInside_of_no_mark (h : ¬ nextMark inside <:+: t) : endsInside inside t = inside := by
  induction t with
  | nil => rfl
  | cons c t ih =>
    rw [List.infix_cons_iff, not_or] at h
    rw [endsInside_cons h.1, ih h.2]

/-- **A text ends inside a comment exactly if it starts inside one or opens one, and does not end it.** -/
theorem endsInside_iff :
    endsInside inside t = true ↔ (inside = true ∧ ¬ blockEnd <:+: t) ∨
      ∃ u v, t = u ++ blockStart ++ v ∧ endsInside inside u = false ∧ ¬ blockEnd <:+: v := by
  constructor
  · have hshort : ∀ t : Text, t.length ≤ 1 → ¬ blockEnd <:+: t := fun t ht h =>
      absurd (h.length_le.trans ht) (by decide)
    fun_induction endsInside inside t with
    | case1 inside => exact fun h => .inl ⟨h, hshort [] (Nat.zero_le 1)⟩
    | case2 inside c => exact fun h => .inl ⟨h, hshort [c] (Nat.le_refl 1)⟩
    | case3 inside c d t hmark ih =>
      intro h
      have hcons : c :: d :: t = nextMark inside ++ t := by
        rw [← hmark]
        rfl
      rw [hcons]
      rcases ih h with ⟨hinside, hnone⟩ | ⟨u, v, rfl, hu, hv⟩
      · -- the mark opens a comment, which goes on to the end
        rw [Bool.not_eq_true'] at hinside
        subst hinside
        exact .inr ⟨[], t, rfl, rfl, hnone⟩
      · refine .inr ⟨nextMark inside ++ u, v, by simp only [List.append_assoc], ?_, hv⟩
        rw [endsInside_mark, hu]
    | case4 inside c d t hmark ih =>
      intro h
      have hfirst : ∀ rest, ¬ nextMark inside ++ rest = c :: d :: t := by
        intro rest heq
        cases inside <;>
          exact hmark (by rw [← (List.cons.inj heq).1, ← (List.cons.inj (List.cons.inj heq).2).1]; rfl)
      rcases ih h with ⟨hinside, hnone⟩ | ⟨u, v, ht, hu, hv⟩
      · subst hinside
        refine .inl ⟨rfl, fun hwithin => ?_⟩
        rcases List.infix_cons_iff.1 hwithin with ⟨rest, heq⟩ | hwithin
        · exact hfirst rest heq
        · exact hnone hwithin
      · refine .inr ⟨c :: u, v, by rw [ht]; rfl, ?_, hv⟩
        rw [endsInside_cons, hu]
        rintro ⟨rest, heq⟩
        refine hfirst (rest ++ (blockStart ++ v)) ?_
        rw [ht, ← List.append_assoc, heq, List.append_assoc u]
        rfl
  · rintro (⟨rfl, hnone⟩ | ⟨u, v, rfl, hu, hv⟩)
    · exact endsInside_of_no_mark hnone
    · exact (endsInside_append_mark hu v).trans (endsInside_of_no_mark hv)

/-! ## Comments -/

/-- A block comment of the text: a mark outside of comments and what follows it, up to and with the
    next mark that ends it, or the end of the text. -/
structure BlockComment (t pre inner post : Text) : Prop where
  eq : t = pre ++ blockStart ++ (inner ++ post)
  outside : endsInside false pre = false
  first : ∀ v, v <+: inner → blockEnd <:+: v → v = inner
  ends : blockEnd <:+ inner ∨ post = []

/-- The code point at an offset belongs to the block comment that opens at `start`. -/
def InComment (t : Text) (start offset : Nat) : Prop :=
  ∃ pre inner post, BlockComment t pre inner post ∧ pre.length = start ∧ start ≤ offset ∧
    offset < (pre ++ blockStart ++ inner).length

/-! ## Whole lines -/

theorem endsInside_ended_append (inside : Bool) (ls : List Text) (u : Text) :
    endsInside inside (ended ls ++ u) = endsInside (endsInside inside (ended ls)) u := by
  induction ls generalizing inside with
  | nil => rfl
  | cons l ls ih =>
    rw [Text.ended_cons, List.append_assoc, List.cons_append, endsInside_newline, endsInside_newline,
      ih]

/-- What some lines leave open, one more line leaves open or not. -/
theorem endsInside_ended_concat (inside : Bool) (ls : List Text) (line : Text) :
    endsInside inside (ended (ls ++ [line])) =
      endsInside (endsInside inside (ended ls)) line := by
  rw [Text.ended_append, endsInside_ended_append, Text.ended_cons]
  exact endsInside_newline _ line []

theorem eq_newline_of_getLast?_ended (h : c ∈ (ended ls).getLast?) : c = .newline := by
  rcases List.eq_nil_or_concat ls with rfl | ⟨ls, l, rfl⟩
  · cases h
  · rw [List.concat_eq_append, Text.ended_append, Text.ended_cons, List.getLast?_append] at h
    simpa [Text.ended] using h.symm

/-- A mark lies within some lines or behind them, since it holds no line feed. -/
theorem mark_cases (h : ended ls ++ u = w ++ blockStart ++ v) :
    (∃ ahead, w = ended ls ++ ahead ∧ u = ahead ++ blockStart ++ v) ∨
      ∃ rest, ended ls = w ++ blockStart ++ rest ∧ v = rest ++ u := by
  rw [List.append_assoc] at h
  rcases List.append_eq_append_iff.1 h with ⟨ahead, hw, hu⟩ | ⟨own, hls, hmark⟩
  · exact .inl ⟨ahead, hw, by rw [hu, List.append_assoc]⟩
  · rcases List.append_eq_append_iff.1 hmark with ⟨rest, rfl, hv⟩ | ⟨cut, hcut, hu⟩
    · exact .inr ⟨rest, by rw [hls, List.append_assoc], hv⟩
    · -- the lines would end within the mark
      rcases List.eq_nil_or_concat own with rfl | ⟨own, c, rfl⟩
      · rw [List.append_nil] at hls
        exact .inl ⟨[], by rw [hls, List.append_nil], by rw [hu, hcut]; rfl⟩
      · have hlast : c ∈ (ended ls).getLast? := by
          rw [hls]
          simp
        obtain rfl := eq_newline_of_getLast?_ended hlast
        have hmem : CodePoint.newline ∈ blockStart := by
          rw [hcut]
          simp
        exact absurd hmem (by decide)

/-! ## Comments that lines leave open -/

/-- Some lines leave a comment open, the one that opens at `start`. -/
def OpenSince (ls : List Text) (start : Nat) : Prop :=
  ∃ pre rest, ended ls = pre ++ blockStart ++ rest ∧ pre.length = start ∧
    endsInside false pre = false ∧ ¬ blockEnd <:+: rest

theorem exists_openSince_iff :
    (∃ start, OpenSince ls start) ↔ endsInside false (ended ls) = true := by
  rw [endsInside_iff]
  constructor
  · rintro ⟨_, pre, rest, hls, -, hpre, hrest⟩
    exact .inr ⟨pre, rest, hls, hpre, hrest⟩
  · rintro (⟨h, -⟩ | ⟨pre, rest, hls, hpre, hrest⟩)
    · cases h
    · exact ⟨_, pre, rest, hls, rfl, hpre, hrest⟩

/-- A comment that is open behind one more line was open before it, or opens on it. -/
theorem OpenSince.of_concat {start : Nat} (h : OpenSince (ls ++ [line]) start) :
    (OpenSince ls start ∧ ¬ blockEnd <:+: line) ∨
      ∃ u v, line = u ++ blockStart ++ v ∧ endsInside (endsInside false (ended ls)) u = false ∧
        ¬ blockEnd <:+: v ∧ start = (ended ls ++ u).length := by
  obtain ⟨pre, rest, hls, rfl, hpre, hrest⟩ := h
  rw [Text.ended_append] at hls
  rcases mark_cases hls with ⟨u, rfl, hu⟩ | ⟨rest', hbefore, rfl⟩
  · right
    rw [endsInside_ended_append] at hpre
    rw [Text.ended_cons] at hu
    -- the line feed behind the line is not part of the mark
    obtain ⟨v, rfl, hv⟩ : ∃ v, rest = v ++ [.newline] ∧ line = u ++ blockStart ++ v := by
      rcases List.append_eq_append_iff.1 hu with ⟨more, hmark, hmore⟩ | ⟨v, hline, hrest⟩
      · cases more with
        | nil => exact ⟨[], hmore.symm, by rw [List.append_nil, hmark, List.append_nil]⟩
        | cons d ds =>
          obtain ⟨rfl, htail⟩ := List.cons.inj hmore
          obtain ⟨rfl, -⟩ := List.append_eq_nil_iff.1 htail.symm
          have hlast := congrArg List.getLast? hmark
          rw [List.getLast?_append_of_ne_nil _ (by decide), List.getLast?_concat] at hlast
          exact absurd hlast (by decide)
      · exact ⟨v, hrest, hline⟩
    exact ⟨u, v, hv, hpre, fun hwithin => hrest (hwithin.trans (List.prefix_append v _).isInfix), rfl⟩
  · left
    refine ⟨⟨pre, rest', hbefore, rfl, hpre, fun hwithin => hrest ?_⟩, fun hwithin => hrest ?_⟩
    · exact hwithin.trans (List.prefix_append _ _).isInfix
    · rw [Text.ended_cons, ← List.append_assoc]
      exact hwithin.trans (List.infix_append rest' line _)

/-- No mark starts in white space. -/
theorem eq_of_blank {x y : Text} (hw : Blank w) (h : w ++ x = u ++ blockStart ++ y)
    (hle : u.length ≤ w.length) : u = w := by
  rw [List.append_assoc] at h
  rcases List.append_eq_append_iff.1 h with ⟨more, rfl, -⟩ | ⟨more, rfl, hmore⟩
  · rw [List.length_append] at hle
    rw [List.eq_nil_of_length_eq_zero (by omega : more.length = 0), List.append_nil]
  · cases more with
    | nil => rw [List.append_nil]
    | cons d ds =>
      obtain ⟨rfl, -⟩ := List.cons.inj hmore
      exact absurd (hw _ (List.mem_append_right u List.mem_cons_self)) (by decide)

/-- **A line whose first code point belongs to a comment opens it, or the lines before leave it
    open.** -/
theorem cases_of_inComment {t after ahead : Text} {start : Nat}
    (hline : IsLine t (ls.length + 1) (ended ls) (w ++ c :: after) ahead) (hw : Blank w)
    (h : InComment t start (ended ls ++ w).length) :
    (start = (ended ls ++ w).length ∧ blockStart <+: c :: after) ∨ OpenSince ls start := by
  obtain ⟨pre, inner, post, hcomment, rfl, hle, hlt⟩ := h
  have heq := hline.eq.symm.trans hcomment.eq
  rw [List.append_assoc] at heq
  rcases mark_cases heq with ⟨u, rfl, hu⟩ | ⟨rest, hls, hinner⟩
  · left
    have hlength : u.length ≤ w.length := by
      rw [List.length_append, List.length_append] at hle
      omega
    rw [List.append_assoc] at hu
    obtain rfl := eq_of_blank hw hu hlength
    rw [List.append_assoc] at hu
    have hmark := List.append_cancel_left hu
    rw [blockStart_eq, List.cons_append, List.cons_append, List.cons_append] at hmark
    obtain ⟨hc, hrest⟩ := List.cons.inj hmark
    refine ⟨rfl, ?_⟩
    cases after with
    | nil =>
      -- the second half of the mark would be the line feed behind the line
      exact absurd (hline.ends '*' (by rw [← List.nil_append ahead, hrest]; rfl)) (by decide)
    | cons d after =>
      exact ⟨after, by rw [hc, (List.cons.inj hrest).1, blockStart_eq]; rfl⟩
  · right
    refine ⟨pre, rest, hls, rfl, hcomment.outside, fun hwithin => ?_⟩
    have hshort : rest.length < inner.length := by
      rw [hls] at hlt
      simp only [List.length_append] at hlt
      omega
    have hahead : rest <+: inner :=
      List.prefix_of_prefix_length_le ⟨_, hinner.symm⟩ (List.prefix_append inner post) hshort.le
    rw [hcomment.first rest hahead hwithin] at hshort
    exact Nat.lt_irrefl _ hshort

end CodeSurvey.Metrics
