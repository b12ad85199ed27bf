/-
  The measures of padded texts.

  * `Metrics.cyclomatic_eq`: cyclomatic complexity, from the keywords (`Metrics.countAt_eq`), the
    conditional expressions (`Metrics.ternaries_eq`) and the connectives
    (`Metrics.connectives_eq`).  A keyword before white space needs that the text does not end
    with a carriage return of its own;
  * `Metrics.tokenCounts_eq`: operators and operands;
  * `Metrics.cognitive_eq`, `Metrics.linesOfCode_eq`: what is read off line by line;
  * `Metrics.complexity_eq`: all measures together.
-/
import CodeSurvey.Metrics.Complexity
import CodeSurvey.Proofs.LineEnd.Line

namespace CodeSurvey

open Text (AtBreak AtLineEnd Padded Solid Unbroken beforeFeeds everywhere isBreak)

namespace Metrics

variable {P : Text → Prop} {t u : Text} {c : CodePoint} {keyword : Text}

/-! ## Places of a text -/

theorem startsWith_of_atBreak (hc : isBreak c = false) (h : AtBreak t) :
    startsWith c t = false := by
  cases t with
  | nil => rfl
  | cons d t =>
    have hd : isBreak d = true := Text.atBreak_cons.1 h
    have hne : d ≠ c := by
      rintro rfl
      simp [hd] at hc
    simpa [startsWith] using hne

theorem startsWith_eq (h : Padded P t u) (hc : isBreak c = false) :
    startsWith c t = startsWith c u := by
  cases h with
  | nil => rfl
  | cons d _ => rfl
  | pad lineEnd _ _ =>
    rw [startsWith_of_atBreak hc lineEnd.atBreak,
      startsWith_of_atBreak hc (Text.atBreak_carriageReturn _)]

/-- A test that fails at line ends holds at equally many places of both texts. -/
theorem countAt_eq {test : Text → Bool} (h : Padded P t u)
    (hbreak : ∀ t, AtBreak t → test t = false)
    (htest : ∀ t u, Padded P t u → test t = test u) : countAt test t = countAt test u :=
  h.countP_cuts (fun _ => hbreak) fun _ => htest

theorem opensCondition_of_atBreak (hk : Solid keyword) (h : AtBreak t) :
    opensCondition keyword t = false := by
  simp [opensCondition, hk.after?_of_atBreak h]

theorem opensCondition_eq (h : Padded P t u) (hk : Unbroken keyword) :
    opensCondition keyword t = opensCondition keyword u :=
  any_eq_of_rel (h.after? hk) fun _ _ hrest => startsWith_eq hrest.skipBlank (by decide)

theorem conditions_eq (h : Padded P t u) : conditions t = conditions u := by
  have hkeywords : ∀ keyword ∈ conditionKeywords, Solid keyword := by decide
  refine List.foldr_ext _ _ _ fun keyword hmem n => ?_
  have hk := hkeywords keyword hmem
  rw [countAt_eq h (fun _ => opensCondition_of_atBreak hk)
    fun _ _ htu => opensCondition_eq htu hk.unbroken]

theorem solid_else : Solid (.ofString "else") := by
  decide

theorem solid_case : Solid (.ofString "case") := by
  decide

theorem opensElseIf_of_atBreak (h : AtBreak t) : opensElseIf t = false := by
  simp [opensElseIf, solid_else.after?_of_atBreak h]

theorem opensElseIf_eq (h : Padded beforeFeeds t u) : opensElseIf t = opensElseIf u := by
  refine any_eq_of_rel (h.after? solid_else.unbroken) fun _ _ hrest => ?_
  rw [hrest.any_isBlank_head?_eq, opensCondition_eq hrest.skipBlank (by decide)]

theorem opensCase_of_atBreak (h : AtBreak t) : opensCase t = false := by
  simp [opensCase, solid_case.after?_of_atBreak h]

theorem opensCase_eq (h : Padded beforeFeeds t u) : opensCase t = opensCase u :=
  any_eq_of_rel (h.after? solid_case.unbroken) fun _ _ hrest => hrest.any_isBlank_head?_eq

/-! ## Conditional expressions -/

theorem afterLast?_cons (c d : CodePoint) (t : Text) :
    afterLast? c (d :: t) = (afterLast? c t).or (if d = c then some t else none) := by
  unfold afterLast?
  by_cases ht : c ∈ t
  · have hlen : ¬ (t.reverse.takeWhile (· != c)).length = t.reverse.length := by
      intro hlen
      have hall := List.takeWhile_eq_self_iff.1
        ((List.takeWhile_prefix (· != c)).eq_of_length hlen)
      simpa using hall c (List.mem_reverse.2 ht)
    rw [if_pos ht, if_pos (List.mem_cons_of_mem d ht), List.reverse_cons, List.takeWhile_append,
      if_neg hlen, Option.some_or]
  · have hall : t.reverse.takeWhile (· != c) = t.reverse := by
      rw [List.takeWhile_eq_self_iff]
      intro x hx
      have hne : x ≠ c := fun heq => ht (heq ▸ List.mem_reverse.1 hx)
      simpa using hne
    rw [if_neg ht, Option.none_or]
    by_cases hd : d = c
    · have hmem : c ∈ d :: t := by simp [hd]
      have hlen : (t.reverse.takeWhile (· != c)).length = t.reverse.length := by rw [hall]
      rw [if_pos hmem, if_pos hd, List.reverse_cons, List.takeWhile_append, if_pos hlen]
      simp [hd]
    · rw [if_neg (by simp [ht, Ne.symm hd]), if_neg hd]

theorem afterLast?_rel (h : Padded P t u) (hc : isBreak c = false) :
    Option.Rel (Padded P) (afterLast? c t) (afterLast? c u) := by
  induction h with
  | nil => exact .none
  | @cons d t u h ih =>
    rw [afterLast?_cons, afterLast?_cons]
    generalize afterLast? c t = o at ih ⊢
    generalize afterLast? c u = o' at ih ⊢
    cases ih with
    | some hab => exact .some hab
    | none =>
      rw [Option.none_or, Option.none_or]
      split
      · exact .some h
      · exact .none
  | pad _ _ _ ih =>
    have hne : CodePoint.carriageReturn ≠ c := by
      rintro rfl
      simp [Text.isBreak_carriageReturn] at hc
    rw [afterLast?_cons, if_neg hne, Option.or_none]
    exact ih

/-- The first line and what follows it. -/
theorem span_newline (h : Padded P t u) :
    Padded everywhere (t.takeWhile (· != .newline)) (u.takeWhile (· != .newline)) ∧
      AtLineEnd (t.dropWhile (· != .newline)) ∧
      Padded P (t.dropWhile (· != .newline)) (u.dropWhile (· != .newline)) := by
  induction h with
  | nil => exact ⟨.nil, Text.atLineEnd_nil, .nil⟩
  | @cons c t u h ih =>
    by_cases hc : c = .newline
    · simp only [hc, List.takeWhile_cons, List.dropWhile_cons, bne_self_eq_false]
      exact ⟨.nil, Text.atLineEnd_cons.2 rfl, .cons _ h⟩
    · simp only [List.takeWhile_cons, List.dropWhile_cons, bne_iff_ne.2 hc, if_true]
      exact ⟨.cons c ih.1, ih.2⟩
  | @pad t u lineEnd _ _ ih =>
    have hline : t.takeWhile (· != .newline) = [] := by
      cases t with
      | nil => rfl
      | cons c t => simp [Text.atLineEnd_cons.1 lineEnd]
    have hcr : (CodePoint.carriageReturn != CodePoint.newline) = true := by decide
    rw [hline] at ih ⊢
    simp only [List.takeWhile_cons, List.dropWhile_cons, hcr, if_true]
    exact ⟨.pad Text.atLineEnd_nil trivial ih.1, ih.2⟩

/-- What is left behind a conditional expression is padded again. -/
theorem ternaryEnd?_rel (h : Padded P t u) :
    Option.Rel (Padded everywhere) (ternaryEnd? t) (ternaryEnd? u) := by
  obtain ⟨hline, hend, hahead⟩ := span_newline h.skipBlank
  have hcolon : isBreak (':' : CodePoint) = false := by decide
  have hstart := startsWith_eq hahead.skipBlank hcolon
  unfold ternaryEnd?
  simp only [hstart]
  split
  · rename_i htrue
    refine .some (hahead.skipBlank.tail fun hatEnd => ?_).loose
    rw [startsWith_of_atBreak hcolon hatEnd.atBreak] at hstart
    exact Bool.false_ne_true (hstart.trans htrue)
  · exact rel_map (afterLast?_rel hline hcolon) fun _ _ hlast => hlast.append hend hahead

theorem ternaries_cons (c : CodePoint) (t : Text) :
    ternaries (c :: t) =
      if c = '?' then (ternaryEnd? t).elim (ternaries t) fun rest => ternaries rest + 1
      else ternaries t := by
  rw [ternaries]
  split
  · split <;> simp [*]
  · rfl

/-- **Padded texts have equally many conditional expressions.** -/
theorem ternaries_eq (h : Padded P t u) : ternaries t = ternaries u := by
  induction hn : u.length using Nat.strong_induction_on generalizing P t u with
  | _ n ih =>
    subst hn
    cases h with
    | nil => rfl
    | @cons c t u h =>
      have hnext := ih u.length (by simp) h rfl
      rw [ternaries_cons, ternaries_cons, hnext]
      split
      · have hend := ternaryEnd?_rel h
        have hshorter : ∀ rest, ternaryEnd? u = some rest → rest.length < (c :: u).length :=
          fun rest hrest => Nat.lt_succ_of_le (length_ternaryEnd_le hrest)
        generalize ternaryEnd? t = o at hend ⊢
        generalize ternaryEnd? u = o' at hend hshorter ⊢
        cases hend with
        | none => rfl
        | @some rest rest' hrest =>
          have hsame := ih rest'.length (hshorter rest' rfl) hrest rfl
          simp [hsame]
      · rfl
    | @pad t u _ _ h =>
      rw [ternaries_cons, if_neg (by decide)]
      exact ih u.length (by simp) h rfl

/-! ## Connectives -/

theorem connectives_cons_of_ne (hand : c ≠ '&') (hor : c ≠ '|') (t : Text) :
    connectives (c :: t) = connectives t := by
  cases t with
  | nil => rfl
  | cons d t => simp [connectives, hand, hor]

/-- A line end goes with no mark before it. -/
theorem connectives_of_atBreak (h : AtBreak t) (c : CodePoint) :
    connectives (c :: t) = connectives t := by
  by_cases hc : c = '&' ∨ c = '|'
  · cases t with
    | nil => rfl
    | cons d t =>
      have hd : isBreak d = true := Text.atBreak_cons.1 h
      have hne : c ≠ d := by
        rintro rfl
        rcases hc with rfl | rfl <;> exact absurd hd (by decide)
      simp [connectives, hne]
  · obtain ⟨hand, hor⟩ := not_or.1 hc
    exact connectives_cons_of_ne hand hor t

/-- **Padded texts have equally many connectives.** -/
theorem connectives_eq {t u : Text} : Padded P t u → connectives t = connectives u
  | .nil => rfl
  | .pad _ _ h => by
    rw [connectives_cons_of_ne (by decide) (by decide)]
    exact connectives_eq h
  | .cons c .nil => rfl
  | .cons c (.pad lineEnd _ h) => by
    rw [connectives_of_atBreak lineEnd.atBreak,
      connectives_of_atBreak (Text.atBreak_carriageReturn _),
      connectives_cons_of_ne (by decide) (by decide)]
    exact connectives_eq h
  | .cons c (.cons d h) => by
    rw [connectives, connectives, connectives_eq h, connectives_eq (.cons d h)]

/-- **Cyclomatic complexity does not depend on carriage returns before line feeds.** -/
theorem cyclomatic_eq (h : Padded beforeFeeds t u) : cyclomatic t = cyclomatic u := by
  have hElseIf := countAt_eq h (fun _ => opensElseIf_of_atBreak) fun _ _ => opensElseIf_eq
  have hCase := countAt_eq h (fun _ => opensCase_of_atBreak) fun _ _ => opensCase_eq
  rw [cyclomatic, cyclomatic, conditions_eq h, hElseIf, hCase, ternaries_eq h, connectives_eq h]

/-! ## Tokens -/

theorem operators_eq (h : Padded P t u) : operators t = operators u :=
  h.filter_eq (by decide)

theorem continuesName_of_isBreak (c : CodePoint) (h : isBreak c = true) :
    continuesName c = false :=
  Text.eq_false_of_isBreak (by decide) (by decide) c h

theorem operands_eq (h : Padded P t u) : operands t = operands u := by
  induction hn : u.length using Nat.strong_induction_on generalizing t u with
  | _ n ih =>
    subst hn
    cases h with
    | nil => rfl
    | @cons c t u h =>
      have hspan := h.takeWhile_eq continuesName_of_isBreak
      have hrest := h.dropWhile continuesName_of_isBreak
      have hshorter : (u.dropWhile continuesName).length < (c :: u).length :=
        Nat.lt_succ_of_le (List.dropWhile_suffix continuesName).length_le
      rw [operands, operands, hspan, ih _ hshorter hrest rfl, ih u.length (by simp) h rfl]
    | @pad t u _ _ h =>
      rw [operands, if_neg (by decide)]
      exact ih u.length (by simp) h rfl

theorem tokenCounts_eq (h : Padded P t u) : TokenCounts.ofText t = TokenCounts.ofText u := by
  rw [TokenCounts.ofText, TokenCounts.ofText, operators_eq h, operands_eq h]

/-! ## Lines -/

theorem nesting_read_eq (h : Padded P t u) (n : Nesting) : n.read t = n.read u := by
  have hwords : ∀ word ∈ controlWords, Solid word := by decide
  have henter : n.enter (t.afterWord? controlWords) = n.enter (u.afterWord? controlWords) := by
    have hrest := h.afterWord? hwords
    generalize t.afterWord? controlWords = o at hrest ⊢
    generalize u.afterWord? controlWords = o' at hrest ⊢
    cases hrest with
    | none => rfl
    | some hrest => simp only [Nesting.enter, hrest.mem_iff (c := openBrace) (by decide)]
  simp only [Nesting.read, henter, h.mem_iff (c := closeBrace) (by decide)]

/-- **Cognitive complexity does not depend on carriage returns at line ends.** -/
theorem cognitive_eq (h : Padded P t u) : cognitive t = cognitive u := by
  have hfold : ∀ (ls ms : List Text), List.Forall₂ (Padded Text.atStop) ls ms →
      ∀ n : Nesting, ls.foldl Nesting.read n = ms.foldl Nesting.read n := by
    intro ls ms hlines
    induction hlines with
    | nil => exact fun _ => rfl
    | cons hline _ ih =>
      intro n
      rw [List.foldl_cons, List.foldl_cons, nesting_read_eq hline, ih]
  rw [cognitive, cognitive, hfold _ _ h.lines]

theorem lineKinds_eq {ls ms : List Text} (h : List.Forall₂ (Padded Text.atStop) ls ms)
    (inBlock : Bool) : lineKinds inBlock ls = lineKinds inBlock ms := by
  induction h generalizing inBlock with
  | nil => rfl
  | @cons l m _ _ hline _ ih =>
    have hkind : lineKind inBlock l = lineKind inBlock m := by
      rw [lineKind, lineKind, hline.strip_eq]
    rw [lineKinds, lineKinds, hkind, ih]

theorem linesOfCode_eq (h : Padded P t u) : LinesOfCode.ofText t = LinesOfCode.ofText u := by
  rw [LinesOfCode.ofText, LinesOfCode.ofText, lineKinds_eq h.lines]

/-- **All measures of a text are the same with carriage returns before line feeds.** -/
theorem complexity_eq (h : Padded beforeFeeds t u) :
    ComplexityMetrics.ofText t = ComplexityMetrics.ofText u := by
  simp only [ComplexityMetrics.ofText, HalsteadMetrics.ofText, cyclomatic_eq h, cognitive_eq h,
    tokenCounts_eq h, linesOfCode_eq h]

end Metrics

end CodeSurvey
