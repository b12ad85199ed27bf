/-
  White space before and behind a piece of text.

  * `isWordPart_of_isBlank`: no white space is a part of a word;
  * `Text.Blank`, `Text.FollowedBy`, `Text.PrecededBy`: a piece that comes first, or last, some
    white space aside;
  * `Text.mem_afterBlanks_iff`, `Text.followedBy_iff`: what is left behind some of the white
    space, and behind all of it;
  * `Text.exists_strip`: a text and what is left without the white space at its ends; `Text.Unspaced`:
    the pieces that this does not touch.
-/
import CodeSurvey.Text.Blank
import CodeSurvey.Text.Word
import Mathlib.Data.List.Basic
import Mathlib.Data.List.TakeWhile

namespace CodeSurvey

/-! ## White space and words -/

/-- The white space beyond ASCII. -/
def blankRanges : List (Nat × Nat) :=
  [(0x85, 0x85), (0xA0, 0xA0), (0x1680, 0x1680), (0x2000, 0x200A), (0x2028, 0x2029),
    (0x202F, 0x202F), (0x205F, 0x205F), (0x3000, 0x3000)]

set_option maxRecDepth 4000 in
theorem wordRanges_apart :
    (wordRanges.all fun r => blankRanges.all fun b =>
      Nat.blt r.2 b.1 || Nat.blt b.2 r.1) = true := by
  decide +kernel

variable {c : CodePoint}

theorem mem_blankRange_of_isBlank (h : isBlank c = true) :
    c.val < 0x80 ∨ ∃ b ∈ blankRanges, b.1 ≤ c.val ∧ c.val ≤ b.2 := by
  simp only [isBlank, Bool.or_eq_true, Bool.and_eq_true, decide_eq_true_eq, beq_iff_eq] at h
  simp only [blankRanges, List.mem_cons, List.not_mem_nil, or_false, exists_eq_or_imp,
    exists_eq_left]
  omega

/-- **White space is no part of a word.** -/
theorem isWordPart_of_isBlank (h : isBlank c = true) : isWordPart c = false := by
  rw [isWordPart]
  by_cases hascii : c.val < 0x80
  · rw [if_pos hascii]
    simp only [isBlank, Bool.or_eq_true, Bool.and_eq_true, decide_eq_true_eq, beq_iff_eq] at h
    simp only [Bool.or_eq_false_iff, Bool.and_eq_false_iff, decide_eq_false_iff_not,
      beq_eq_false_iff_ne]
    omega
  · rw [if_neg hascii, inRanges, List.any_eq_false]
    obtain ⟨b, hb, hlow, hhigh⟩ := (mem_blankRange_of_isBlank h).resolve_left hascii
    intro r hr hin
    have hapart := List.all_eq_true.1 (List.all_eq_true.1 wordRanges_apart r hr) b hb
    simp only [Bool.or_eq_true, Nat.blt_eq] at hapart
    simp only [Bool.and_eq_true, decide_eq_true_eq] at hin
    omega

namespace Text

variable {t before after rest op piece blanks : Text}

/-! ## Pieces some white space aside -/

/-- The text is white space. -/
def Blank (t : Text) : Prop :=
  ∀ c ∈ t, isBlank c = true

/-- The piece comes first in the text, some white space aside. -/
def FollowedBy (op after : Text) : Prop :=
  ∃ blanks rest, Blank blanks ∧ after = blanks ++ op ++ rest

/-- The piece comes last in the text, some white space aside. -/
def PrecededBy (op before : Text) : Prop :=
  ∃ rest blanks, Blank blanks ∧ before = rest ++ op ++ blanks

theorem blank_nil : Blank [] :=
  nofun

theorem blank_cons : Blank (c :: t) ↔ isBlank c = true ∧ Blank t :=
  List.forall_mem_cons

theorem FollowedBy.append (h : FollowedBy op after) (t : Text) : FollowedBy op (after ++ t) := by
  obtain ⟨blanks, rest, hblanks, rfl⟩ := h
  exact ⟨blanks, rest ++ t, hblanks, List.append_assoc _ _ _⟩

/-- What is left behind some of the white space at the start of a text. -/
theorem mem_afterBlanks_iff :
    rest ∈ t.afterBlanks ↔ ∃ blanks, Blank blanks ∧ t = blanks ++ rest := by
  induction t with
  | nil =>
    rw [afterBlanks, List.mem_singleton]
    constructor
    · rintro rfl
      exact ⟨[], blank_nil, rfl⟩
    · rintro ⟨blanks, -, h⟩
      exact (List.nil_eq_append_iff.1 h).2
  | cons c cs ih =>
    rw [afterBlanks, List.mem_cons]
    constructor
    · rintro (rfl | h)
      · exact ⟨[], blank_nil, rfl⟩
      · split at h
        · rename_i hc
          obtain ⟨blanks, hblanks, rfl⟩ := ih.1 h
          exact ⟨c :: blanks, blank_cons.2 ⟨hc, hblanks⟩, rfl⟩
        · cases h
    · rintro ⟨blanks, hblanks, h⟩
      cases blanks with
      | nil => exact .inl h.symm
      | cons b bs =>
        obtain ⟨rfl, hcs⟩ := List.cons.inj h
        obtain ⟨hc, hbs⟩ := blank_cons.1 hblanks
        rw [if_pos hc]
        exact .inr (ih.2 ⟨bs, hbs, hcs⟩)

/-- A text is its white space and what is left behind it. -/
theorem exists_skipBlank (t : Text) : ∃ blanks, Blank blanks ∧ t = blanks ++ t.skipBlank :=
  ⟨t.takeWhile isBlank, fun _ hc => List.mem_takeWhile_imp hc, List.takeWhile_append_dropWhile.symm⟩

theorem skipBlank_append {blanks : Text} (h : Blank blanks) (t : Text) :
    skipBlank (blanks ++ t) = t.skipBlank :=
  List.dropWhile_append_of_pos h

theorem skipBlank_eq_self (h : ∀ c ∈ t.head?, isBlank c = false) : t.skipBlank = t := by
  cases t with
  | nil => rfl
  | cons c cs => exact List.dropWhile_cons_of_neg (ne_true_of_eq_false (h c rfl))

/-- A text that is not white space has a first code point that is none. -/
theorem exists_first_of_not_blank (h : ¬ Blank t) :
    ∃ blanks c rest, t = blanks ++ c :: rest ∧ Blank blanks ∧ isBlank c = false := by
  obtain ⟨blanks, hblanks, ht⟩ := exists_skipBlank t
  cases hskip : t.skipBlank with
  | nil =>
    rw [hskip, List.append_nil] at ht
    exact absurd (ht ▸ hblanks) h
  | cons c rest =>
    rw [hskip] at ht
    refine ⟨blanks, c, rest, ht, hblanks, ?_⟩
    have hhead := List.head?_dropWhile_not isBlank t
    rw [show t.dropWhile isBlank = c :: rest from hskip] at hhead
    simpa using hhead

/-- Behind the white space at its start, a text is what is left without that at its end too. -/
theorem exists_skipBlank_eq (t : Text) : ∃ behind, Blank behind ∧ t.skipBlank = t.strip ++ behind := by
  obtain ⟨last, hlast, hrest⟩ := exists_skipBlank (List.reverse t.skipBlank)
  have hstrip : skipBlank (List.reverse t.skipBlank) = List.reverse t.strip := by
    rw [strip, trim, List.reverse_reverse]
    rfl
  refine ⟨last.reverse, fun c hc => hlast c (List.mem_reverse.1 hc), ?_⟩
  rw [hstrip, ← List.reverse_inj, List.reverse_reverse, List.reverse_append,
    List.reverse_reverse] at hrest
  exact hrest

/-- A text is what is left of it without the white space at its ends, between that white space. -/
theorem exists_strip (t : Text) :
    ∃ ahead behind, Blank ahead ∧ Blank behind ∧ t = ahead ++ t.strip ++ behind := by
  obtain ⟨ahead, hahead, ht⟩ := exists_skipBlank t
  obtain ⟨behind, hbehind, hskip⟩ := exists_skipBlank_eq t
  exact ⟨ahead, behind, hahead, hbehind, by rw [List.append_assoc, ← hskip, ← ht]⟩

theorem strip_eq_nil_iff : t.strip = [] ↔ Blank t := by
  constructor
  · intro h
    obtain ⟨ahead, behind, hahead, hbehind, ht⟩ := exists_strip t
    rw [h, List.append_nil] at ht
    rw [ht]
    exact List.forall_mem_append.2 ⟨hahead, hbehind⟩
  · intro h
    have hskip : t.dropWhile isBlank = [] := List.dropWhile_eq_nil_iff.2 h
    rw [strip, trim, hskip]
    rfl

/-! ## Pieces without white space -/

/-- The text holds no white space, and something else. -/
structure Unspaced (t : Text) : Prop where
  ne_nil : t ≠ []
  unspaced : ∀ c ∈ t, isBlank c = false

theorem Unspaced.of_any (hne : t ≠ []) (h : t.any isBlank = false) : Unspaced t :=
  ⟨hne, fun c hc => eq_false_of_ne_true (List.any_eq_false.1 h c hc)⟩

/-- A piece without white space that comes before white space at the end comes before it as a
    whole. -/
theorem Unspaced.exists_of_append_eq (h : Unspaced piece) (hblanks : Blank blanks)
    (heq : piece ++ rest = t ++ blanks) : ∃ rest', t = piece ++ rest' ∧ rest = rest' ++ blanks := by
  rcases List.append_eq_append_iff.1 heq with ⟨rest', rfl, hrest⟩ | ⟨more, hpiece, rfl⟩
  · exact ⟨rest', rfl, hrest⟩
  · cases more with
    | nil => exact ⟨[], by rw [hpiece, List.append_nil, List.append_nil], rfl⟩
    | cons c more =>
      have hunspaced := h.unspaced c (by rw [hpiece]; simp)
      rw [hblanks c (by simp)] at hunspaced
      cases hunspaced

/-- White space behind a text holds no part of such a piece. -/
theorem Unspaced.infix_append_blank_iff (h : Unspaced piece) (hblanks : Blank blanks) :
    piece <:+: t ++ blanks ↔ piece <:+: t := by
  refine ⟨?_, fun hinfix => hinfix.trans (List.prefix_append t blanks).isInfix⟩
  rintro ⟨before, after, heq⟩
  rw [List.append_assoc] at heq
  rcases List.append_eq_append_iff.1 heq with ⟨rest, rfl, hrest⟩ | ⟨more, rfl, hrest⟩
  · obtain ⟨rest', rfl, -⟩ := h.exists_of_append_eq hblanks hrest
    exact ⟨before, rest', List.append_assoc _ _ _⟩
  · -- the piece would lie in the white space
    obtain ⟨c, cs, rfl⟩ := List.exists_cons_of_ne_nil h.ne_nil
    have hunspaced := h.unspaced c List.mem_cons_self
    rw [hblanks c (by rw [hrest]; simp)] at hunspaced
    cases hunspaced

theorem Unspaced.infix_blank_append_iff (h : Unspaced piece) (hblanks : Blank blanks) :
    piece <:+: blanks ++ t ↔ piece <:+: t := by
  have hreverse : Unspaced piece.reverse :=
    ⟨List.reverse_ne_nil_iff.2 h.ne_nil, fun c hc => h.unspaced c (List.mem_reverse.1 hc)⟩
  rw [← List.reverse_infix, List.reverse_append,
    hreverse.infix_append_blank_iff fun c hc => hblanks c (List.mem_reverse.1 hc),
    List.reverse_infix]

theorem Unspaced.infix_strip_iff (h : Unspaced piece) : piece <:+: t.strip ↔ piece <:+: t := by
  obtain ⟨ahead, behind, hahead, hbehind, ht⟩ := exists_strip t
  calc piece <:+: t.strip
    _ ↔ piece <:+: ahead ++ t.strip ++ behind := by
      rw [h.infix_append_blank_iff hbehind, h.infix_blank_append_iff hahead]
    _ ↔ piece <:+: t := by rw [← ht]

/-- A piece without white space that stands first in a text, white space aside, stands first in what is
    left without the white space at the ends. -/
theorem Unspaced.exists_strip_eq (h : Unspaced piece) (hblanks : Blank blanks)
    (ht : t = blanks ++ piece ++ rest) :
    ∃ rest' behind, Blank behind ∧ t.strip = piece ++ rest' ∧ rest = rest' ++ behind := by
  obtain ⟨behind, hbehind, hskip⟩ := exists_skipBlank_eq t
  have hstart : skipBlank (piece ++ rest) = piece ++ rest := by
    refine skipBlank_eq_self fun c hc => ?_
    rw [List.head?_append_of_ne_nil piece h.ne_nil] at hc
    exact h.unspaced c (List.mem_of_head? hc)
  have hall : t.skipBlank = piece ++ rest := by
    rw [ht, List.append_assoc, skipBlank_append hblanks, hstart]
  obtain ⟨rest', hstrip, hrest⟩ := h.exists_of_append_eq hbehind (hall.symm.trans hskip)
  exact ⟨rest', behind, hbehind, hstrip, hrest⟩

/-- **A piece that does not start with white space comes first behind all of it.** -/
theorem followedBy_iff (hne : op ≠ []) (hop : ∀ c ∈ op.head?, isBlank c = false) :
    FollowedBy op after ↔ op <+: after.skipBlank := by
  constructor
  · rintro ⟨blanks, rest, hblanks, rfl⟩
    have hhead : ∀ c ∈ (op ++ rest).head?, isBlank c = false := by
      cases op with
      | nil => exact absurd rfl hne
      | cons c cs => exact hop
    rw [List.append_assoc, skipBlank_append hblanks, skipBlank_eq_self hhead]
    exact List.prefix_append op rest
  · rintro ⟨rest, hrest⟩
    obtain ⟨blanks, hblanks, h⟩ := exists_skipBlank after
    exact ⟨blanks, rest, hblanks, by rw [List.append_assoc, hrest]; exact h⟩

theorem Unspaced.followedBy_iff (h : Unspaced piece) :
    FollowedBy piece after ↔ piece <+: after.skipBlank :=
  Text.followedBy_iff h.ne_nil fun c hc => h.unspaced c (List.mem_of_head? hc)

end Text

end CodeSurvey
