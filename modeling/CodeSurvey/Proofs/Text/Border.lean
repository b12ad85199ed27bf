/-
  Whole words on the two sides of a border.

  A word stands as a whole where no part of a word is beside it.  A text that is cut between two
  code points which are not both parts of words keeps its whole words, each on one side of the cut.

  * `Text.Border`: no word goes on from one text into the next;
  * `Text.Spelled`: a word made of parts of words;
  * `Text.isWord_append_iff`: the whole words of two texts with a border between them;
    `Text.countWord_append`: their number;
  * `Text.BorderAt`, `Text.countWord_part`, `Text.countWord_part_le`: the words of a part of a text
    that is cut in two, and of a part within another one.
-/
import CodeSurvey.Proofs.Text.Cut
import CodeSurvey.Proofs.Text.Line

namespace CodeSurvey.Text

variable {t u word before after : Text} {start stop first last : Nat}

/-- No word goes on from the first text into the second. -/
def Border (t u : Text) : Prop :=
  (∀ c ∈ t.getLast?, isWordPart c = false) ∨ ∀ c ∈ u.head?, isWordPart c = false

/-- A word made of parts of words, with at least one of them. -/
structure Spelled (word : Text) : Prop where
  ne_nil : word ≠ []
  parts : ∀ c ∈ word, isWordPart c = true

-- by the code points of the word; the quantifier on its own would be decided by all code points
instance Spelled.instDecidable (word : Text) : Decidable (Spelled word) :=
  decidable_of_iff (word ≠ [] ∧ word.all isWordPart = true)
    ⟨fun h => ⟨h.1, List.all_eq_true.1 h.2⟩, fun h => ⟨h.ne_nil, List.all_eq_true.2 h.parts⟩⟩

/-! ## Borders -/

/-- A border stays one where less of the texts is looked at. -/
theorem Border.mono {t' u' : Text} (h : Border t u) (ht : t' <:+ t) (hu : u' <+: u) :
    Border t' u' := by
  obtain ⟨more, rfl⟩ := ht
  obtain ⟨rest, rfl⟩ := hu
  refine h.imp (fun hlast c hc => hlast c ?_) fun hhead c hc => hhead c ?_
  · rw [List.getLast?_append, hc]
    rfl
  · rw [List.head?_append, hc]
    rfl

/-- A text that ends in a word ends in a part of one. -/
theorem Spelled.not_getLast? (hword : Spelled word) (before : Text) :
    ¬ ∀ c ∈ (before ++ word).getLast?, isWordPart c = false := by
  intro h
  obtain ⟨body, c, rfl⟩ := (List.eq_nil_or_concat word).resolve_left hword.ne_nil
  have hc := h c (by simp)
  rw [hword.parts c (by simp)] at hc
  cases hc

/-- A text that starts with a word starts with a part of one. -/
theorem Spelled.not_head? (hword : Spelled word) (after : Text) :
    ¬ ∀ c ∈ (word ++ after).head?, isWordPart c = false := by
  intro h
  obtain ⟨c, rest, rfl⟩ := List.exists_cons_of_ne_nil hword.ne_nil
  have hc := h c rfl
  rw [hword.parts c List.mem_cons_self] at hc
  cases hc

/-- A word does not reach across a border. -/
theorem Border.eq_nil_or {left right : Text} (h : Border (before ++ left) (right ++ after))
    (hword : Spelled (left ++ right)) : left = [] ∨ right = [] := by
  rw [Classical.or_iff_not_imp_left]
  intro hleft
  by_contra hright
  have hl : Spelled left := ⟨hleft, fun c hc => hword.parts c (List.mem_append_left right hc)⟩
  have hr : Spelled right := ⟨hright, fun c hc => hword.parts c (List.mem_append_right left hc)⟩
  exact h.elim (hl.not_getLast? before) (hr.not_head? after)

/-! ## Words on the two sides -/

theorem IsWord.append_right (h : IsWord word t before after) (hborder : Border t u)
    (hword : Spelled word) : IsWord word (t ++ u) before (after ++ u) where
  eq := by rw [h.eq, List.append_assoc]
  alone := {
    left := h.alone.left
    right := by
      cases after with
      | nil =>
        rw [h.eq, List.append_nil] at hborder
        exact hborder.resolve_left (hword.not_getLast? before)
      | cons d ds => exact h.alone.right }

theorem IsWord.append_left (h : IsWord word u before after) (hborder : Border t u)
    (hword : Spelled word) : IsWord word (t ++ u) (t ++ before) after where
  eq := by simp only [h.eq, List.append_assoc]
  alone := {
    left := by
      rcases List.eq_nil_or_concat before with rfl | ⟨body, d, rfl⟩
      · rw [h.eq, List.nil_append] at hborder
        rw [List.append_nil]
        exact hborder.resolve_right (hword.not_head? after)
      · have hleft := h.alone.left
        rw [List.concat_eq_append, List.getLast?_concat] at hleft
        rw [List.concat_eq_append, ← List.append_assoc, List.getLast?_concat]
        exact hleft
    right := h.alone.right }

/-- **A whole word stands on one side of a border.** -/
theorem isWord_append_iff (hborder : Border t u) (hword : Spelled word) :
    IsWord word (t ++ u) before after ↔
      (∃ after', after = after' ++ u ∧ IsWord word t before after') ∨
      ∃ before', before = t ++ before' ∧ IsWord word u before' after := by
  constructor
  · intro h
    have heq := h.eq
    rw [List.append_assoc] at heq
    rcases List.append_eq_append_iff.1 heq with ⟨mid, rfl, rfl⟩ | ⟨mid, rfl, hmid⟩
    · refine .inr ⟨mid, rfl, (List.append_assoc _ _ _).symm, fun c hc => ?_, h.alone.right⟩
      refine h.alone.left c ?_
      rw [List.getLast?_append, hc]
      rfl
    · rcases List.append_eq_append_iff.1 hmid with ⟨rest, rfl, rfl⟩ | ⟨rest, rfl, rfl⟩
      · refine .inl ⟨rest, rfl, (List.append_assoc _ _ _).symm, h.alone.left, fun c hc => ?_⟩
        refine h.alone.right c ?_
        rw [List.head?_append, hc]
        rfl
      · rcases hborder.eq_nil_or hword with rfl | rfl
        · exact .inr ⟨[], by simp, by simp, nofun, h.alone.right⟩
        · exact .inl ⟨[], rfl, by simp, h.alone.left, nofun⟩
  · rintro (⟨after', rfl, h⟩ | ⟨before', rfl, h⟩)
    · exact h.append_right hborder hword
    · exact h.append_left hborder hword

/-! ## Counting words -/

theorem wordPlaces_append (hborder : Border t u) (hword : Spelled word) :
    (t ++ u).wordPlaces word = t.wordPlaces word ∪ (t.length + ·) '' u.wordPlaces word := by
  ext i
  constructor
  · rintro ⟨before, after, hplace, rfl⟩
    rcases (isWord_append_iff hborder hword).1 hplace with ⟨after', -, h⟩ | ⟨before', rfl, h⟩
    · exact .inl ⟨before, after', h, rfl⟩
    · exact .inr ⟨before'.length, ⟨before', after, h, rfl⟩, List.length_append.symm⟩
  · rintro (⟨before, after, h, rfl⟩ | ⟨_, ⟨before, after, h, rfl⟩, rfl⟩)
    · exact ⟨before, after ++ u, h.append_right hborder hword, rfl⟩
    · exact ⟨t ++ before, after, h.append_left hborder hword, List.length_append⟩

theorem lt_length_of_mem_wordPlaces {i : Nat} (hword : Spelled word) (h : i ∈ t.wordPlaces word) :
    i < t.length := by
  obtain ⟨before, after, hplace, rfl⟩ := h
  have hpos := List.length_pos_of_ne_nil hword.ne_nil
  rw [hplace.eq, List.length_append, List.length_append]
  omega

theorem finite_wordPlaces (hword : Spelled word) (t : Text) : (t.wordPlaces word).Finite :=
  (Set.finite_lt_nat t.length).subset fun _ => lt_length_of_mem_wordPlaces hword

/-- **The whole words of two texts with a border between them add up.** -/
theorem countWord_append (hborder : Border t u) (hword : Spelled word) :
    (t ++ u).countWord word = t.countWord word + u.countWord word := by
  have hdisjoint : Disjoint (t.wordPlaces word) ((t.length + ·) '' u.wordPlaces word) := by
    refine Set.disjoint_left.2 ?_
    rintro _ hi ⟨j, -, rfl⟩
    have hlt := lt_length_of_mem_wordPlaces hword hi
    simp only at hlt
    omega
  rw [countWord_eq_ncard, countWord_eq_ncard, countWord_eq_ncard, wordPlaces_append hborder hword,
    Set.ncard_union_eq hdisjoint (finite_wordPlaces hword t) ((finite_wordPlaces hword u).image _),
    Set.ncard_image_of_injective _ (add_right_injective t.length)]

/-! ## Parts of a text -/

/-- No word goes on across the offset. -/
def BorderAt (t : Text) (i : Nat) : Prop :=
  Border (t.take i) (t.drop i)

/-- A border of a text is one of its parts on both sides. -/
theorem border_part {middle : Nat} (h : BorderAt t middle) (start stop : Nat) :
    Border (t.part start middle) (t.part middle stop) := by
  refine h.mono (List.drop_suffix start _) ?_
  rw [part, List.drop_take]
  exact List.take_prefix _ _

/-- The whole words of a part of a text add up where it is cut in two at a border. -/
theorem countWord_part (hword : Spelled word) {middle : Nat} (hstart : start ≤ middle)
    (hstop : middle ≤ stop) (h : BorderAt t middle) :
    (t.part start stop).countWord word =
      (t.part start middle).countWord word + (t.part middle stop).countWord word := by
  rw [← part_append_part hstart hstop, countWord_append (border_part h start stop) hword]

/-- A part within another one has no more whole words, if borders cut it off. -/
theorem countWord_part_le (hword : Spelled word) (hstart : start ≤ first) (hle : first ≤ last)
    (hstop : last ≤ stop) (hfirst : BorderAt t first) (hlast : BorderAt t last) :
    (t.part first last).countWord word ≤ (t.part start stop).countWord word := by
  rw [countWord_part hword hstart (hle.trans hstop) hfirst, countWord_part hword hle hstop hlast]
  omega

end CodeSurvey.Text
