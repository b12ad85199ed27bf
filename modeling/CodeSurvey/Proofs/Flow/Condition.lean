/-
  The condition behind a keyword.

  The scan for a condition keeps a depth.  Told without it, a condition is what stands between a
  parenthesis that comes first, white space aside, and the one that closes it.

  * `Flow.Parenthesised`: a text with balanced parentheses; `Flow.rise`: how many more it opens
    than it closes; `Flow.ClosesAll`: a text that also closes some which are open before it;
  * `Flow.inParentheses?_eq_some_iff`: what the scan finds at a depth;
  * `Flow.Bracketed`: a text taken apart at its first parentheses; `Flow.Bracketed.unique`: there is
    one way only;
  * `Flow.condition?_exact`: the texts that have a condition, and which one it is;
  * `Flow.condition_of_mem_controlFlow`: the condition of an entry for an `if`.
-/
import CodeSurvey.Proofs.Flow.Branch
import CodeSurvey.Proofs.Text.Blank

namespace CodeSurvey.Flow

open Text (Blank FirstWord IsLine)

variable {t b w r b' w' r' found : Text} {c : CodePoint} {depth : Int} {k : Nat}
  {n : ControlFlowNode}

/-- The parenthesis that opens. -/
def openParen : CodePoint := '('

/-- The parenthesis that closes. -/
def closeParen : CodePoint := ')'

/-- The text has balanced parentheses: none closes before it opens, and as many close as open. -/
structure Parenthesised (b : Text) : Prop where
  ordered : ∀ p, p <+: b → p.count closeParen ≤ p.count openParen
  total : b.count openParen = b.count closeParen

/-- The text is white space, a parenthesis, a text with balanced ones, the parenthesis that closes
    it, and a rest. -/
structure Bracketed (t w b r : Text) : Prop where
  eq : t = w ++ openParen :: (b ++ closeParen :: r)
  blank : Blank w
  balanced : Parenthesised b

/-! ## Texts that close parentheses -/

/-- How many more parentheses the text opens than it closes. -/
def rise (t : Text) : Int :=
  t.count openParen - t.count closeParen

/-- The text closes its own parentheses and `depth` more, and never any others. -/
structure ClosesAll (depth : Int) (b : Text) : Prop where
  ordered : ∀ p, p <+: b → 0 ≤ depth + rise p
  total : depth + rise b = 0

theorem rise_append (t u : Text) : rise (t ++ u) = rise t + rise u := by
  simp only [rise, List.count_append]
  omega

theorem rise_openParen : rise [openParen] = 1 := by
  decide

theorem rise_closeParen : rise [closeParen] = -1 := by
  decide

theorem rise_eq_zero (hopen : openParen ∉ t) (hclose : closeParen ∉ t) : rise t = 0 := by
  rw [rise, List.count_eq_zero.2 hopen, List.count_eq_zero.2 hclose]
  rfl

theorem closesAll_zero_iff : ClosesAll 0 b ↔ Parenthesised b := by
  have hrise : ∀ p, 0 ≤ 0 + rise p ↔ p.count closeParen ≤ p.count openParen := by
    intro p
    rw [rise]
    omega
  constructor
  · rintro ⟨hordered, htotal⟩
    refine ⟨fun p hp => (hrise p).1 (hordered p hp), ?_⟩
    rw [rise] at htotal
    omega
  · rintro ⟨hordered, htotal⟩
    refine ⟨fun p hp => (hrise p).2 (hordered p hp), ?_⟩
    rw [rise]
    omega

theorem closesAll_nil_iff : ClosesAll depth [] ↔ depth = 0 := by
  have hnil : depth + rise [] = depth := Int.add_zero depth
  constructor
  · intro h
    rw [← hnil, h.total]
  · rintro rfl
    exact ⟨fun p hp => by rw [List.prefix_nil.1 hp]; exact Int.le_refl 0, rfl⟩

/-- What a text closes, its first code point does or the rest, behind which the depth has changed. -/
theorem closesAll_cons_iff :
    ClosesAll depth (c :: b) ↔ 0 ≤ depth ∧ ClosesAll (depth + rise [c]) b := by
  have hnil : depth + rise [] = depth := Int.add_zero depth
  have hcons : ∀ p : Text, depth + rise (c :: p) = depth + rise [c] + rise p := by
    intro p
    rw [← List.singleton_append, rise_append, Int.add_assoc]
  constructor
  · rintro ⟨hordered, htotal⟩
    refine ⟨hnil ▸ hordered [] List.nil_prefix, fun p hp => ?_, ?_⟩
    · rw [← hcons]
      exact hordered _ (List.cons_prefix_cons.2 ⟨rfl, hp⟩)
    · rw [← hcons, htotal]
  · rintro ⟨hdepth, hordered, htotal⟩
    refine ⟨fun p hp => ?_, by rw [hcons, htotal]⟩
    rcases List.prefix_cons_iff.1 hp with rfl | ⟨q, rfl, hq⟩
    · rw [hnil]
      exact hdepth
    · rw [hcons]
      exact hordered q hq

/-! ## The depth of the scan -/

theorem inParentheses?_openParen (k : Nat) (t : Text) :
    inParentheses? k (openParen :: t) = (inParentheses? (k + 1) t).map (openParen :: ·) := by
  rw [inParentheses?.eq_def]
  exact if_pos rfl

theorem inParentheses?_closeParen_zero (t : Text) : inParentheses? 0 (closeParen :: t) = some [] := by
  rw [inParentheses?, if_neg (by decide)]
  exact if_pos rfl

theorem inParentheses?_closeParen_succ (k : Nat) (t : Text) :
    inParentheses? (k + 1) (closeParen :: t) = (inParentheses? k t).map (closeParen :: ·) := by
  rw [inParentheses?, if_neg (by decide)]
  exact if_pos rfl

theorem inParentheses?_cons_of_ne (hopen : c ≠ openParen) (hclose : c ≠ closeParen) (k : Nat)
    (t : Text) : inParentheses? k (c :: t) = (inParentheses? k t).map (c :: ·) := by
  rw [inParentheses?.eq_def]
  exact (if_neg hopen).trans (if_neg hclose)

/-- The scan takes a code point that is not the parenthesis it looks for, and goes on at the depth
    behind it. -/
theorem map_cons_eq_some_iff {k' : Nat} (hk : (k' : Int) = k + rise [c])
    (hc : c = closeParen → k ≠ 0)
    (ih : ∀ b, inParentheses? k' t = some b ↔ ∃ r, t = b ++ closeParen :: r ∧ ClosesAll k' b) :
    (inParentheses? k' t).map (c :: ·) = some b ↔
      ∃ r, c :: t = b ++ closeParen :: r ∧ ClosesAll k b := by
  rw [Option.map_eq_some_iff]
  constructor
  · rintro ⟨b, hb, rfl⟩
    obtain ⟨r, rfl, hcloses⟩ := (ih b).1 hb
    exact ⟨r, rfl, closesAll_cons_iff.2 ⟨Int.natCast_nonneg k, hk ▸ hcloses⟩⟩
  · rintro ⟨r, ht, hcloses⟩
    cases b with
    | nil => exact absurd (Int.natCast_eq_zero.1 (closesAll_nil_iff.1 hcloses)) (hc (List.cons.inj ht).1)
    | cons d b =>
      obtain ⟨rfl, rfl⟩ := List.cons.inj ht
      exact ⟨b, (ih b).2 ⟨r, rfl, hk ▸ (closesAll_cons_iff.1 hcloses).2⟩, rfl⟩

/-- **At a depth the scan finds the text that closes as many parentheses, up to the one that closes
    one more.** -/
theorem inParentheses?_eq_some_iff :
    inParentheses? k t = some b ↔ ∃ r, t = b ++ closeParen :: r ∧ ClosesAll k b := by
  induction t generalizing k b with
  | nil => simp [inParentheses?]
  | cons c t ih =>
    by_cases hopen : c = openParen
    · subst hopen
      rw [inParentheses?_openParen]
      refine map_cons_eq_some_iff ?_ (fun h => absurd h (by decide)) fun _ => ih
      rw [rise_openParen, Int.natCast_succ]
    · by_cases hclose : c = closeParen
      · subst hclose
        cases k with
        | zero =>
          rw [inParentheses?_closeParen_zero, Option.some.injEq]
          constructor
          · rintro rfl
            exact ⟨t, rfl, closesAll_nil_iff.2 rfl⟩
          · rintro ⟨r, ht, hcloses⟩
            cases b with
            | nil => rfl
            | cons d b =>
              -- a parenthesis that closes first would leave the depth below zero
              obtain ⟨rfl, -⟩ := List.cons.inj ht
              have hdepth := (closesAll_cons_iff.1 hcloses).2.ordered [] List.nil_prefix
              rw [rise_closeParen] at hdepth
              exact absurd hdepth (by decide)
        | succ k =>
          rw [inParentheses?_closeParen_succ]
          refine map_cons_eq_some_iff ?_ (fun _ => Nat.succ_ne_zero k) fun _ => ih
          rw [rise_closeParen, Int.natCast_succ]
          omega
      · rw [inParentheses?_cons_of_ne hopen hclose]
        refine map_cons_eq_some_iff ?_ (fun h => absurd h hclose) fun _ => ih
        rw [rise_eq_zero (by simpa using Ne.symm hopen) (by simpa using Ne.symm hclose),
          Int.add_zero]

/-! ## Conditions -/

theorem isBlank_openParen : isBlank openParen = false := by
  decide

theorem isBlank_closeParen : isBlank closeParen = false := by
  decide

theorem rise_of_blank (h : Blank w) : rise w = 0 :=
  rise_eq_zero (fun hmem => absurd (h _ hmem) (ne_true_of_eq_false isBlank_openParen))
    fun hmem => absurd (h _ hmem) (ne_true_of_eq_false isBlank_closeParen)

/-- What comes first behind white space is the parenthesis that opens the condition. -/
theorem Bracketed.skipBlank (h : Bracketed t w b r) :
    t.skipBlank = openParen :: (b ++ closeParen :: r) := by
  rw [h.eq, Text.skipBlank_append h.blank]
  refine Text.skipBlank_eq_self fun c hc => ?_
  obtain rfl : openParen = c := Option.some.inj hc
  exact isBlank_openParen

theorem Bracketed.inParentheses? (h : Bracketed t w b r) :
    Flow.inParentheses? 0 (b ++ closeParen :: r) = some b :=
  inParentheses?_eq_some_iff.2 ⟨r, rfl, closesAll_zero_iff.2 h.balanced⟩

/-- **A text is taken apart at its first parentheses in one way only.** -/
theorem Bracketed.unique (h : Bracketed t w b r) (h' : Bracketed t w' b' r') :
    w = w' ∧ b = b' ∧ r = r' := by
  have hrest : b ++ closeParen :: r = b' ++ closeParen :: r' :=
    (List.cons.inj (h.skipBlank.symm.trans h'.skipBlank)).2
  have hb : b = b' := by
    have hfound := h.inParentheses?
    rw [hrest, h'.inParentheses?] at hfound
    exact (Option.some.inj hfound).symm
  have heq := h.eq.symm.trans h'.eq
  rw [hrest] at heq
  refine ⟨List.append_cancel_right heq, hb, ?_⟩
  rw [hb] at hrest
  exact (List.cons.inj (List.append_cancel_left hrest)).2

/-- **A text has a condition exactly if it can be taken apart at its first parentheses.** -/
theorem condition?_eq_some_iff :
    condition? t = some found ↔ ∃ w b r, Bracketed t w b r ∧ found = b.strip := by
  obtain ⟨w, hw, ht⟩ := Text.exists_skipBlank t
  constructor
  · intro h
    rw [condition?] at h
    split at h
    · cases h
    · rename_i c cs hcs
      split at h
      · rename_i hopen
        obtain ⟨b, hb, rfl⟩ := Option.map_eq_some_iff.1 h
        obtain ⟨r, rfl, hcloses⟩ := inParentheses?_eq_some_iff.1 hb
        subst hopen
        rw [hcs] at ht
        exact ⟨w, b, r, ⟨ht, hw, closesAll_zero_iff.1 hcloses⟩, rfl⟩
      · cases h
  · rintro ⟨w, b, r, h, rfl⟩
    rw [condition?, h.skipBlank]
    refine (if_pos rfl).trans ?_
    rw [h.inParentheses?, Option.map_some]

/-- Without the white space at its ends a text has balanced parentheses as before. -/
theorem Parenthesised.strip (h : Parenthesised b) : Parenthesised b.strip := by
  rw [← closesAll_zero_iff] at h ⊢
  obtain ⟨ahead, behind, hahead, hbehind, hb⟩ := Text.exists_strip b
  refine ⟨fun p hp => ?_, ?_⟩
  · have hprefix : ahead ++ p <+: b := by
      rw [hb, List.append_assoc]
      exact (List.prefix_append_right_inj ahead).2 (hp.trans (List.prefix_append _ _))
    have hrise := h.ordered _ hprefix
    rw [rise_append, rise_of_blank hahead, Int.zero_add] at hrise
    exact hrise
  · have htotal := h.total
    rw [hb, rise_append, rise_append, rise_of_blank hahead, rise_of_blank hbehind, Int.zero_add,
      Int.add_zero] at htotal
    exact htotal

theorem parenthesised_of_condition? (h : condition? t = some found) : Parenthesised found := by
  obtain ⟨w, b, r, hbracketed, rfl⟩ := condition?_eq_some_iff.1 h
  exact hbracketed.balanced.strip

/-- An entry for an `if` has the condition behind the first `if` of its line. -/
theorem condition_of_mem_controlFlow (h : n ∈ controlFlow t) (hkind : n.kind = .if_) :
    ∃ head line ahead before after, IsLine t n.span.first head line ahead ∧
      FirstWord (.ofString "if") line before after ∧
      n.condition = condition? (line.drop (before ++ .ofString "if").length) := by
  obtain ⟨number, head, line, ahead, hline, hmem⟩ := mem_controlFlow_iff.1 h
  have hif : ifNode? number line = some n := by
    rcases mem_lineNodes_iff.1 hmem with hif | hloop | hswitch
    · exact hif
    · exact absurd ((of_loopNode? hloop).1.symm.trans hkind) (by decide)
    · exact absurd ((of_switchNode? hswitch).1.symm.trans hkind) (by decide)
  obtain ⟨after, hafter, rfl⟩ := Option.map_eq_some_iff.1 hif
  obtain ⟨before, hword⟩ := Text.afterWord?_eq_some_iff.1 hafter
  refine ⟨head, line, ahead, before, after, hline, hword, ?_⟩
  rw [hword.eq, List.drop_left]

/-- **The condition behind an offset of a line.**  There is one exactly if the rest of the line is
    white space, a parenthesis, a text with balanced parentheses, the closing one, and whatever
    follows; this way to take the rest apart is the only one, the condition is the text between, and
    its parentheses balance. -/
theorem condition?_exact (line : Text) (start : Nat) :
    (∀ found, condition? (line.drop start) = some found ↔
      ∃ w b r, Bracketed (line.drop start) w b r ∧ found = b.strip) ∧
    (∀ w b r w' b' r', Bracketed (line.drop start) w b r → Bracketed (line.drop start) w' b' r' →
      w = w' ∧ b = b' ∧ r = r') ∧
    (condition? (line.drop start) = none ↔ ¬ ∃ w b r, Bracketed (line.drop start) w b r) ∧
    ∀ found, condition? (line.drop start) = some found → Parenthesised found := by
  refine ⟨fun _ => condition?_eq_some_iff, fun _ _ _ _ _ _ h h' => h.unique h', ?_,
    fun _ => parenthesised_of_condition?⟩
  constructor
  · rintro hnone ⟨w, b, r, h⟩
    rw [condition?_eq_some_iff.2 ⟨w, b, r, h, rfl⟩] at hnone
    cases hnone
  · intro hsplit
    refine Option.eq_none_iff_forall_ne_some.2 fun found hfound => hsplit ?_
    obtain ⟨w, b, r, h, -⟩ := condition?_eq_some_iff.1 hfound
    exact ⟨w, b, r, h⟩

example : condition? (Text.ofString " ( f(a) ) g(b)") = some (Text.ofString "f(a)") := by decide

end CodeSurvey.Flow
