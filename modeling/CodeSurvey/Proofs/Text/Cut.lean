/-
  Pieces of a text, told by what stands before and behind them.

  A search over the cuts of a text asks at each place for what precedes and what follows it.  Here
  the places are the ways to write the text as `before ++ rest`.

  * `Text.after?_eq_some_iff`, `Text.occurs_iff`: a piece at the start of a text, and anywhere in it;
  * `Text.mem_cuts_iff`, `Text.any_cuts_iff`: the places of a text, and a search for one of them;
  * `Text.findSome?_cuts_eq_some_iff`: the first place at which a search finds something;
  * `Text.Alone`: a piece that no code points of a sort go on with on either side;
  * `Text.IsWord`, `Text.FirstWord`, `Text.afterWord?_eq_some_iff`: a whole word, and the first one
    of a spelling;
  * `Text.WordBefore`, `Text.afterWord?_eq_none_iff`, `Text.mem_of_afterWord?_iff`: one of several
    words, a search for them that fails, and what comes behind the word that is found;
  * `Text.wordPlaces`, `Text.countWord_eq_ncard`: the places of a word, and their number.
-/
import CodeSurvey.Text.Word
import Mathlib.Data.List.Basic
import Mathlib.Data.Set.Card

namespace CodeSurvey.Text

variable {t piece word before after rest : Text} {b : Option CodePoint}

/-- What follows a piece at the start of a text is the rest of the text. -/
theorem after?_eq_some_iff : piece.after? t = some rest ↔ t = piece ++ rest := by
  induction piece generalizing t with
  | nil => rw [after?, Option.some.injEq, List.nil_append]
  | cons p ps ih =>
    cases t with
    | nil => simp [after?]
    | cons c cs =>
      rw [after?, List.cons_append, List.cons.injEq]
      by_cases hc : c = p
      · rw [if_pos hc, ih]
        exact ⟨fun h => ⟨hc, h⟩, fun h => h.2⟩
      · rw [if_neg hc]
        exact ⟨nofun, fun h => absurd h.1 hc⟩

theorem occurs_iff : piece.occurs t = true ↔ piece <:+: t := by
  induction t with
  | nil => rw [occurs, List.isEmpty_iff, List.infix_nil]
  | cons c t ih => rw [occurs, Bool.or_eq_true, ih, List.isPrefixOf_iff_prefix, List.infix_cons_iff]

theorem not_occurs_iff : (!piece.occurs t) = true ↔ ¬ piece <:+: t := by
  rw [Bool.not_eq_true', ← Bool.not_eq_true, occurs_iff]

/-! ## Cuts -/

theorem getLast?_cons_or (c : CodePoint) (before : Text) (b : Option CodePoint) :
    (c :: before).getLast?.or b = before.getLast?.or (some c) := by
  cases before with
  | nil => rfl
  | cons d ds =>
    rw [List.getLast?_cons_cons]
    simp [List.getLast?_cons]

theorem mem_cutsAfter_iff {cut : Cut} :
    cut ∈ cutsAfter b t ↔ ∃ before, t = before ++ cut.rest ∧ cut.before = before.getLast?.or b := by
  induction t generalizing b with
  | nil =>
    rw [cutsAfter, List.mem_singleton]
    constructor
    · rintro rfl
      exact ⟨[], rfl, rfl⟩
    · rintro ⟨before, ht, hb⟩
      obtain ⟨rfl, hrest⟩ := List.nil_eq_append_iff.1 ht
      obtain ⟨before, rest⟩ := cut
      obtain rfl : rest = [] := hrest
      obtain rfl : before = b := hb
      rfl
  | cons c cs ih =>
    rw [cutsAfter, List.mem_cons, ih]
    constructor
    · rintro (rfl | ⟨before, ht, hb⟩)
      · exact ⟨[], rfl, rfl⟩
      · refine ⟨c :: before, by rw [ht, List.cons_append], ?_⟩
        exact hb.trans (getLast?_cons_or c before b).symm
    · rintro ⟨before, ht, hb⟩
      cases before with
      | nil =>
        left
        obtain ⟨first, rest⟩ := cut
        obtain rfl : first = b := hb
        obtain rfl : c :: cs = rest := ht
        rfl
      | cons d ds =>
        obtain ⟨rfl, hcs⟩ := List.cons.inj ht
        exact .inr ⟨ds, hcs, hb.trans (getLast?_cons_or c ds b)⟩

/-- The places of a text are the ways to cut it in two. -/
theorem mem_cuts_iff {cut : Cut} :
    cut ∈ t.cuts ↔ ∃ before, t = before ++ cut.rest ∧ cut.before = before.getLast? := by
  rw [cuts, mem_cutsAfter_iff]
  simp only [Option.or_none]

theorem any_cuts_iff {p : Cut → Bool} :
    t.cuts.any p = true ↔ ∃ before rest, t = before ++ rest ∧ p ⟨before.getLast?, rest⟩ = true := by
  rw [List.any_eq_true]
  constructor
  · rintro ⟨cut, hcut, hp⟩
    obtain ⟨before, ht, hb⟩ := mem_cuts_iff.1 hcut
    refine ⟨before, cut.rest, ht, ?_⟩
    rw [← hb]
    exact hp
  · rintro ⟨before, rest, ht, hp⟩
    exact ⟨⟨before.getLast?, rest⟩, mem_cuts_iff.2 ⟨before, ht, rfl⟩, hp⟩

section First

variable {β : Type} {f : Cut → Option β} {r : β}

theorem findSome?_cutsAfter_eq_some_iff :
    (cutsAfter b t).findSome? f = some r ↔ ∃ before rest, t = before ++ rest ∧
      f ⟨before.getLast?.or b, rest⟩ = some r ∧
      ∀ before' rest', t = before' ++ rest' → before'.length < before.length →
        f ⟨before'.getLast?.or b, rest'⟩ = none := by
  induction t generalizing b with
  | nil =>
    rw [cutsAfter, List.findSome?_singleton]
    constructor
    · intro h
      exact ⟨[], [], rfl, h, fun before' rest' _ hlt => absurd hlt (Nat.not_lt_zero _)⟩
    · rintro ⟨before, rest, ht, hf, -⟩
      obtain ⟨rfl, rfl⟩ := List.nil_eq_append_iff.1 ht
      exact hf
  | cons c cs ih =>
    rw [cutsAfter, List.findSome?_cons]
    cases hhere : f ⟨b, c :: cs⟩ with
    | some r' =>
      constructor
      · intro h
        exact ⟨[], c :: cs, rfl, hhere.trans h, fun before' rest' _ hlt =>
          absurd hlt (Nat.not_lt_zero _)⟩
      · rintro ⟨before, rest, ht, hf, hfirst⟩
        cases before with
        | nil =>
          obtain rfl : c :: cs = rest := ht
          exact hhere.symm.trans hf
        | cons d ds => cases hhere.symm.trans (hfirst [] (c :: cs) rfl (Nat.succ_pos _))
    | none =>
      show (cutsAfter (some c) cs).findSome? f = some r ↔ _
      rw [ih]
      constructor
      · rintro ⟨before, rest, rfl, hf, hfirst⟩
        refine ⟨c :: before, rest, rfl, ?_, ?_⟩
        · rw [getLast?_cons_or]
          exact hf
        · intro before' rest' ht hlt
          cases before' with
          | nil =>
            obtain rfl : c :: (before ++ rest) = rest' := ht
            exact hhere
          | cons d ds =>
            obtain ⟨rfl, hcs⟩ := List.cons.inj ht
            rw [getLast?_cons_or]
            exact hfirst ds rest' hcs (Nat.lt_of_succ_lt_succ hlt)
      · rintro ⟨before, rest, ht, hf, hfirst⟩
        cases before with
        | nil =>
          obtain rfl : c :: cs = rest := ht
          cases hhere.symm.trans hf
        | cons d ds =>
          obtain ⟨rfl, hcs⟩ := List.cons.inj ht
          rw [getLast?_cons_or] at hf
          refine ⟨ds, rest, hcs, hf, fun before' rest' ht' hlt => ?_⟩
          rw [← getLast?_cons_or c before' b]
          exact hfirst (c :: before') rest' (by rw [ht', List.cons_append]) (Nat.succ_lt_succ hlt)

/-- **A search over the places of a text finds something at the first place that has it.** -/
theorem findSome?_cuts_eq_some_iff :
    t.cuts.findSome? f = some r ↔ ∃ before rest, t = before ++ rest ∧
      f ⟨before.getLast?, rest⟩ = some r ∧
      ∀ before' rest', t = before' ++ rest' → before'.length < before.length →
        f ⟨before'.getLast?, rest'⟩ = none := by
  rw [cuts, findSome?_cutsAfter_eq_some_iff]
  simp only [Option.or_none]

end First

/-! ## Words -/

/-- No code point of the sort stands directly before or behind what is between the two texts. -/
structure Alone (p : CodePoint → Bool) (before after : Text) : Prop where
  left : ∀ c ∈ before.getLast?, p c = false
  right : ∀ c ∈ after.head?, p c = false

/-- The word stands in the text as a whole, between the two pieces. -/
structure IsWord (word t before after : Text) : Prop where
  eq : t = before ++ word ++ after
  alone : Alone isWordPart before after

/-- Of the places at which the word stands in the text as a whole, the first one. -/
structure FirstWord (word t before after : Text) : Prop extends IsWord word t before after where
  first : ∀ before' after', IsWord word t before' after' → before.length ≤ before'.length

/-- The offsets at which the word stands in the text as a whole. -/
def wordPlaces (t word : Text) : Set Nat :=
  {i | ∃ before after, IsWord word t before after ∧ before.length = i}

/-- What is found only where no code point of a sort comes before. -/
theorem ite_any_eq_some_iff {β : Type} {o : Option CodePoint} {p : CodePoint → Bool}
    {found : Option β} {r : β} :
    (if o.any p then none else found) = some r ↔ (∀ c ∈ o, p c = false) ∧ found = some r := by
  have hfree : (∀ c ∈ o, p c = false) ↔ o.any p = false := (Option.any_eq_false _ _).symm
  rw [hfree]
  cases o.any p with
  | true => simp
  | false => simp

/-- A whole word stands at the start of the rest, with no part of a word beside it. -/
theorem Cut.afterWord?_eq_some_iff :
    Cut.afterWord? word ⟨before.getLast?, rest⟩ = some after ↔
      rest = word ++ after ∧ Alone isWordPart before after := by
  rw [Cut.afterWord?, ite_any_eq_some_iff, Option.filter_eq_some_iff, after?_eq_some_iff,
    Bool.not_eq_true', startsInWord, Option.any_eq_false]
  constructor
  · rintro ⟨left, hrest, right⟩
    exact ⟨hrest, left, right⟩
  · rintro ⟨hrest, left, right⟩
    exact ⟨left, hrest, right⟩

theorem Cut.afterWord?_eq_some_iff_isWord :
    Cut.afterWord? word ⟨before.getLast?, rest⟩ = some after ↔
      rest = word ++ after ∧ IsWord word (before ++ rest) before after := by
  rw [Cut.afterWord?_eq_some_iff]
  refine and_congr_right fun h => ⟨fun halone => ⟨?_, halone⟩, IsWord.alone⟩
  rw [h, List.append_assoc]

/-- **A search for a word finds its first place as a whole word.** -/
theorem afterWord?_eq_some_iff :
    t.afterWord? [word] = some after ↔ ∃ before, FirstWord word t before after := by
  have hone : ∀ cut : Cut, [word].findSome? (fun w => cut.afterWord? w) = cut.afterWord? word :=
    fun cut => List.findSome?_singleton
  simp only [afterWord?, hone]
  rw [findSome?_cuts_eq_some_iff]
  constructor
  · rintro ⟨before, rest, rfl, hw, hfirst⟩
    obtain ⟨-, hword⟩ := Cut.afterWord?_eq_some_iff_isWord.1 hw
    refine ⟨before, hword, fun before' after' hword' => ?_⟩
    by_contra hlt
    have ht := hword'.eq
    rw [List.append_assoc before'] at ht
    have hnone := hfirst before' (word ++ after') ht (Nat.lt_of_not_le hlt)
    cases hnone.symm.trans (Cut.afterWord?_eq_some_iff.2 ⟨rfl, hword'.alone⟩)
  · rintro ⟨before, hword, hfirst⟩
    refine ⟨before, word ++ after, by rw [hword.eq, List.append_assoc],
      Cut.afterWord?_eq_some_iff.2 ⟨rfl, hword.alone⟩, fun before' rest' ht hlt => ?_⟩
    by_contra hsome
    obtain ⟨after', hafter⟩ := Option.ne_none_iff_exists'.1 hsome
    obtain ⟨-, hword'⟩ := Cut.afterWord?_eq_some_iff_isWord.1 hafter
    exact absurd (hfirst before' after' (ht ▸ hword')) (Nat.not_le.2 hlt)

/-! ## One of several words -/

/-- One of the words stands in the text as a whole, with `after` behind it. -/
def WordBefore (words : List Text) (t after : Text) : Prop :=
  ∃ word ∈ words, ∃ before, IsWord word t before after

section Words

variable {words : List Text} {c : CodePoint}

/-- A search for several words finds one of them, and none of them stands before its place. -/
theorem exists_of_afterWord?_eq_some (h : t.afterWord? words = some rest) :
    ∃ word ∈ words, ∃ before, IsWord word t before rest ∧
      ∀ word' ∈ words, ∀ before' after', IsWord word' t before' after' →
        before.length ≤ before'.length := by
  rw [afterWord?, findSome?_cuts_eq_some_iff] at h
  obtain ⟨before, behind, rfl, hhere, hfirst⟩ := h
  obtain ⟨word, hword, hfound⟩ := List.exists_of_findSome?_eq_some hhere
  obtain ⟨-, hplace⟩ := Cut.afterWord?_eq_some_iff_isWord.1 hfound
  refine ⟨word, hword, before, hplace, ?_⟩
  intro word' hword' before' after' hplace'
  by_contra hlt
  have heq := hplace'.eq
  rw [List.append_assoc before'] at heq
  have hnone := List.findSome?_eq_none_iff.1
    (hfirst before' (word' ++ after') heq (Nat.lt_of_not_le hlt)) word' hword'
  cases hnone.symm.trans (Cut.afterWord?_eq_some_iff.2 ⟨rfl, hplace'.alone⟩)

/-- **A search for several words fails where none of them stands in the text as a whole.** -/
theorem afterWord?_eq_none_iff :
    t.afterWord? words = none ↔ ∀ after, ¬ WordBefore words t after := by
  constructor
  · rintro h after ⟨word, hword, before, hplace⟩
    have hcut : ⟨before.getLast?, word ++ after⟩ ∈ t.cuts :=
      mem_cuts_iff.2 ⟨before, by rw [hplace.eq, List.append_assoc], rfl⟩
    have hnone := List.findSome?_eq_none_iff.1 (List.findSome?_eq_none_iff.1 h _ hcut) word hword
    cases hnone.symm.trans (Cut.afterWord?_eq_some_iff.2 ⟨rfl, hplace.alone⟩)
  · intro h
    cases hafter : t.afterWord? words with
    | none => rfl
    | some rest =>
      obtain ⟨word, hword, before, hplace, -⟩ := exists_of_afterWord?_eq_some hafter
      exact absurd ⟨word, hword, before, hplace⟩ (h rest)

/-- What comes behind any of the words comes behind the one that is found, being no part of a
    word. -/
theorem mem_of_afterWord?_iff (hc : ∀ word ∈ words, c ∉ word)
    (h : t.afterWord? words = some rest) :
    c ∈ rest ↔ ∃ after, WordBefore words t after ∧ c ∈ after := by
  obtain ⟨word, hword, before, hplace, hfirst⟩ := exists_of_afterWord?_eq_some h
  constructor
  · intro hmem
    exact ⟨rest, ⟨word, hword, before, hplace⟩, hmem⟩
  · rintro ⟨after, ⟨word', hword', before', hplace'⟩, hmem⟩
    have hle := hfirst word' hword' before' after hplace'
    have heq := hplace.eq.symm.trans hplace'.eq
    rw [List.append_assoc, List.append_assoc] at heq
    obtain ⟨more, rfl⟩ : before <+: before' :=
      List.prefix_of_prefix_length_le (List.prefix_append before _)
        (heq ▸ List.prefix_append before' _) hle
    rw [List.append_assoc, List.append_cancel_left_eq] at heq
    have hall : c ∈ word ++ rest := by
      rw [heq]
      simp [hmem]
    exact (List.mem_append.1 hall).resolve_left (hc word hword)

end Words

/-! ## Counting words -/

theorem cutsAfter_eq_map (b : Option CodePoint) (t : Text) :
    cutsAfter b t =
      (List.range (t.length + 1)).map fun i => ⟨(t.take i).getLast?.or b, t.drop i⟩ := by
  induction t generalizing b with
  | nil => rfl
  | cons c cs ih =>
    rw [cutsAfter, ih, List.length_cons, List.range_succ_eq_map (n := cs.length + 1),
      List.map_cons, List.map_map]
    refine congrArg _ ?_
    refine List.map_congr_left fun i _ => ?_
    rw [Function.comp_apply, List.take_succ_cons, List.drop_succ_cons, getLast?_cons_or]

theorem mem_wordPlaces_iff {i : Nat} :
    i ∈ t.wordPlaces word ↔ i < t.length + 1 ∧
      (Cut.afterWord? word ⟨(t.take i).getLast?, t.drop i⟩).isSome = true := by
  rw [Option.isSome_iff_exists]
  constructor
  · rintro ⟨before, after, hword, rfl⟩
    refine ⟨?_, after, ?_⟩
    · rw [hword.eq, List.append_assoc, List.length_append]
      omega
    · rw [hword.eq, List.append_assoc, List.take_left, List.drop_left]
      exact Cut.afterWord?_eq_some_iff.2 ⟨rfl, hword.alone⟩
  · rintro ⟨hi, after, hafter⟩
    obtain ⟨-, hword⟩ := Cut.afterWord?_eq_some_iff_isWord.1 hafter
    rw [List.take_append_drop] at hword
    exact ⟨t.take i, after, hword, List.length_take_of_le (Nat.le_of_lt_succ hi)⟩

/-- **The count of a word is the number of places at which it stands as a whole.** -/
theorem countWord_eq_ncard (t word : Text) : t.countWord word = (t.wordPlaces word).ncard := by
  let found := (List.range (t.length + 1)).filter fun i =>
    (Cut.afterWord? word ⟨(t.take i).getLast?, t.drop i⟩).isSome
  have hplaces : t.wordPlaces word = found.toFinset := by
    ext i
    rw [Finset.mem_coe, List.mem_toFinset, List.mem_filter, List.mem_range, mem_wordPlaces_iff]
  have hnodup : found.Nodup := List.nodup_range.filter _
  rw [hplaces, Set.ncard_coe_finset, List.toFinset_card_of_nodup hnodup, countWord, cuts,
    cutsAfter_eq_map, List.countP_map, List.countP_eq_length_filter]
  simp only [Option.or_none]
  rfl

end CodeSurvey.Text
