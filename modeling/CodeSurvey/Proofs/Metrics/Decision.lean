/-
  Cyclomatic complexity of a text that goes on with another decision.

  * `Metrics.semicolon`: what keeps apart a text and what is appended to it;
    `Metrics.countAt_append`, `Metrics.connectives_append`, `Metrics.branches_append`: keywords and
    connectives on either side of it are counted on their own;
  * `Metrics.afterLast?_eq_some_iff`, `Metrics.ternaryEnd?_append_of_mem`,
    `Metrics.ternaryEnd?_append_of_notMem`: where a conditional expression ends when its line goes
    on, and when it does not;
  * `Metrics.search_induction`, `Metrics.Found`: the steps of the search for conditional expressions,
    and what it finds; `Metrics.encard_found`: this is what is counted; `Metrics.GoesOn`: one of these
    has the last line for its line;
  * `Metrics.Conditional`: a text with one conditional expression on its only line;
    `Metrics.Conditional.ternaries_append_of_goesOn` and its like: an expression that goes on takes in
    such a text as a whole, and nothing else does;
  * `Metrics.cyclomatic_append_iff`: which decisions count; `Metrics.two_conditionals`: two conditional
    expressions on one line are one decision.
-/
import CodeSurvey.Proofs.LineEnd.Metrics
import CodeSurvey.Proofs.Text.Blank
import CodeSurvey.Proofs.Text.Line
import Mathlib.Data.Set.Card

namespace CodeSurvey.Metrics

variable {c : CodePoint} {s t u w rest body keyword : Text} {test : Text → Bool}

/-- The code point that keeps apart two statements. -/
def semicolon : CodePoint := ';'

/-! ## Behind a semicolon -/

theorem skipBlank_append_semicolon (t u : Text) :
    Text.skipBlank (t ++ semicolon :: u) = t.skipBlank ++ semicolon :: u := by
  have hsemicolon : isBlank semicolon = false := by decide
  rw [Text.skipBlank, List.dropWhile_append, List.dropWhile_cons_of_neg (by simp [hsemicolon])]
  split
  · rename_i hempty
    rw [Text.skipBlank, List.isEmpty_iff.1 hempty, List.nil_append]
  · rfl

theorem newline_notMem_skipBlank_append (h : CodePoint.newline ∉ t.skipBlank)
    (hu : CodePoint.newline ∉ u) :
    CodePoint.newline ∉ Text.skipBlank (t ++ semicolon :: u) := by
  have hsemicolon : CodePoint.newline ≠ semicolon := by decide
  rw [skipBlank_append_semicolon]
  simp [h, hsemicolon, hu]

theorem colon_notMem_cons (hu : (':' : CodePoint) ∉ u) : (':' : CodePoint) ∉ semicolon :: u := by
  have hsemicolon : (':' : CodePoint) ≠ semicolon := by decide
  simp [hsemicolon, hu]

theorem startsWith_append_semicolon (hc : c ≠ semicolon) (t u : Text) :
    startsWith c (t ++ semicolon :: u) = startsWith c t := by
  cases t with
  | nil => simpa [startsWith] using Ne.symm hc
  | cons d t => rfl

theorem any_isBlank_head?_append_semicolon (t u : Text) :
    (t ++ semicolon :: u).head?.any isBlank = t.head?.any isBlank := by
  cases t with
  | nil =>
    have hsemicolon : isBlank semicolon = false := by decide
    simp [hsemicolon]
  | cons d t => rfl

theorem after?_append_semicolon (hkeyword : semicolon ∉ keyword) (t u : Text) :
    keyword.after? (t ++ semicolon :: u) = (keyword.after? t).map (· ++ semicolon :: u) := by
  induction keyword generalizing t with
  | nil => rfl
  | cons k ks ih =>
    obtain ⟨hk, hks⟩ := not_or.1 (List.mem_cons.not.1 hkeyword)
    cases t with
    | nil => simp [Text.after?, hk]
    | cons d t =>
      rw [List.cons_append, Text.after?, Text.after?, ih hks]
      split <;> rfl

theorem opensCondition_append_semicolon (hkeyword : semicolon ∉ keyword) (t u : Text) :
    opensCondition keyword (t ++ semicolon :: u) = opensCondition keyword t := by
  have hparen : ('(' : CodePoint) ≠ semicolon := by decide
  rw [opensCondition, opensCondition, after?_append_semicolon hkeyword, Option.any_map]
  simp only [skipBlank_append_semicolon, startsWith_append_semicolon hparen]

theorem opensElseIf_append_semicolon (t u : Text) :
    opensElseIf (t ++ semicolon :: u) = opensElseIf t := by
  have helse : semicolon ∉ Text.ofString "else" := by decide
  have hif : semicolon ∉ Text.ofString "if" := by decide
  rw [opensElseIf, opensElseIf, after?_append_semicolon helse, Option.any_map]
  simp only [any_isBlank_head?_append_semicolon, skipBlank_append_semicolon,
    opensCondition_append_semicolon hif]

theorem opensCase_append_semicolon (t u : Text) :
    opensCase (t ++ semicolon :: u) = opensCase t := by
  have hcase : semicolon ∉ Text.ofString "case" := by decide
  rw [opensCase, opensCase, after?_append_semicolon hcase, Option.any_map]
  simp only [any_isBlank_head?_append_semicolon]

/-! ### Keywords and connectives -/

/-- What follows a place does not tell what comes just before it. -/
theorem countP_cutsAfter (b b' : Option CodePoint) (t : Text) :
    (Text.cutsAfter b t).countP (fun cut => test cut.rest) =
      (Text.cutsAfter b' t).countP fun cut => test cut.rest := by
  cases t with
  | nil => rfl
  | cons c t => simp [Text.cutsAfter, List.countP_cons]

theorem countAt_cons (test : Text → Bool) (c : CodePoint) (t : Text) :
    countAt test (c :: t) = countAt test t + if test (c :: t) then 1 else 0 := by
  rw [countAt, Text.cuts, Text.cutsAfter, List.countP_cons, countP_cutsAfter (some c) none]
  rfl

/-- A test that does not look beyond a semicolon holds at places on either side of it. -/
theorem countAt_append (htest : ∀ t, test (t ++ semicolon :: u) = test t) (hnil : test [] = false)
    (t : Text) :
    countAt test (t ++ semicolon :: u) = countAt test t + countAt test (semicolon :: u) := by
  induction t with
  | nil => simp [countAt, Text.cuts, Text.cutsAfter, hnil]
  | cons c t ih =>
    have hhere := htest (c :: t)
    rw [List.cons_append] at hhere ⊢
    rw [countAt_cons, countAt_cons, hhere, ih]
    omega

theorem conditions_append (t u : Text) :
    conditions (t ++ semicolon :: u) = conditions t + conditions (semicolon :: u) := by
  have hcount : ∀ keyword ∈ conditionKeywords,
      countAt (opensCondition keyword) (t ++ semicolon :: u) =
        countAt (opensCondition keyword) t + countAt (opensCondition keyword) (semicolon :: u) := by
    have hkeywords : ∀ keyword ∈ conditionKeywords,
        semicolon ∉ keyword ∧ opensCondition keyword [] = false := by decide
    intro keyword hmem
    obtain ⟨hkeyword, hnil⟩ := hkeywords keyword hmem
    exact countAt_append (fun t => opensCondition_append_semicolon hkeyword t u) hnil t
  unfold conditions
  generalize conditionKeywords = keywords at hcount
  induction keywords with
  | nil => rfl
  | cons keyword keywords ih =>
    obtain ⟨hkeyword, hkeywords⟩ := List.forall_mem_cons.1 hcount
    simp only [List.foldr_cons, hkeyword, ih hkeywords]
    omega

theorem connectives_append (t u : Text) :
    connectives (t ++ semicolon :: u) = connectives t + connectives (semicolon :: u) := by
  fun_induction connectives t with
  | case1 => exact (Nat.zero_add _).symm
  | case2 c =>
    have hsemicolon : semicolon ≠ '&' ∧ semicolon ≠ '|' := by decide
    have hpair : ¬ (c = semicolon ∧ (c = '&' ∨ c = '|')) := by
      rintro ⟨rfl, h⟩
      exact h.elim hsemicolon.1 hsemicolon.2
    simp [connectives, hpair]
  | case3 c d t hcd ih =>
    rw [List.cons_append, List.cons_append, connectives, if_pos hcd, ih]
    omega
  | case4 c d t hcd ih =>
    rw [List.cons_append, List.cons_append, connectives, if_neg hcd]
    exact ih

/-- The decisions that are no conditional expressions. -/
def branches (t : Text) : Nat :=
  conditions t + countAt opensElseIf t + countAt opensCase t + connectives t

theorem cyclomatic_eq_add (t : Text) : cyclomatic t = 1 + branches t + ternaries t := by
  rw [cyclomatic, branches]
  omega

theorem branches_append (t u : Text) :
    branches (t ++ semicolon :: u) = branches t + branches (semicolon :: u) := by
  have hElseIf := countAt_append (fun t => opensElseIf_append_semicolon t u) (by decide) t
  have hCase := countAt_append (fun t => opensCase_append_semicolon t u) (by decide) t
  simp only [branches, conditions_append, hElseIf, hCase, connectives_append]
  omega

/-! ## Where a conditional expression ends -/

theorem afterLast?_eq_none_iff : afterLast? c t = none ↔ c ∉ t := by
  rw [afterLast?]
  split <;> simp [*]

/-- Behind the last place of a code point there is no further one. -/
theorem afterLast?_eq_some_iff :
    afterLast? c t = some rest ↔ ∃ before, t = before ++ c :: rest ∧ c ∉ rest := by
  constructor
  · intro h
    induction t with
    | nil => cases h
    | cons d t ih =>
      rw [afterLast?_cons] at h
      cases ht : afterLast? c t with
      | some last =>
        rw [ht, Option.some_or] at h
        obtain ⟨before, rfl, hrest⟩ := ih (ht.trans h)
        exact ⟨d :: before, rfl, hrest⟩
      | none =>
        rw [ht, Option.none_or] at h
        split at h
        · rename_i hd
          obtain rfl := Option.some.inj h
          exact ⟨[], by rw [hd, List.nil_append], afterLast?_eq_none_iff.1 ht⟩
        · cases h
  · rintro ⟨before, rfl, hrest⟩
    induction before with
    | nil =>
      rw [List.nil_append, afterLast?_cons, afterLast?_eq_none_iff.2 hrest, if_pos rfl,
        Option.none_or]
    | cons d before ih => rw [List.cons_append, afterLast?_cons, ih, Option.some_or]

theorem afterLast?_append (c : CodePoint) (t u : Text) :
    afterLast? c (t ++ u) = (afterLast? c u).or ((afterLast? c t).map (· ++ u)) := by
  cases hu : afterLast? c u with
  | some rest =>
    obtain ⟨before, rfl, hrest⟩ := afterLast?_eq_some_iff.1 hu
    exact afterLast?_eq_some_iff.2 ⟨t ++ before, (List.append_assoc _ _ _).symm, hrest⟩
  | none =>
    rw [afterLast?_eq_none_iff] at hu
    rw [Option.none_or]
    cases ht : afterLast? c t with
    | some rest =>
      obtain ⟨before, rfl, hrest⟩ := afterLast?_eq_some_iff.1 ht
      exact afterLast?_eq_some_iff.2 ⟨before, by simp, by simp [hrest, hu]⟩
    | none =>
      rw [afterLast?_eq_none_iff] at ht
      exact afterLast?_eq_none_iff.2 (by simp [ht, hu])

/-- On the last line, an expression ends at the last colon. -/
theorem ternaryEnd?_of_notMem (h : CodePoint.newline ∉ t.skipBlank) :
    ternaryEnd? t = afterLast? ':' t.skipBlank := by
  have hall : ∀ c ∈ t.skipBlank, (c != CodePoint.newline) = true := by
    intro c hc
    exact bne_iff_ne.2 fun hnewline => h (hnewline ▸ hc)
  rw [ternaryEnd?, List.takeWhile_eq_self_iff.2 hall, List.dropWhile_eq_nil_iff.2 hall]
  simp [Text.skipBlank, startsWith]

/-- If the last line goes on, the expression ends at its new last colon. -/
theorem ternaryEnd?_append_of_notMem (h : CodePoint.newline ∉ t.skipBlank)
    (hu : CodePoint.newline ∉ u) :
    ternaryEnd? (t ++ semicolon :: u) =
      (afterLast? ':' (semicolon :: u)).or ((ternaryEnd? t).map (· ++ semicolon :: u)) := by
  rw [ternaryEnd?_of_notMem (newline_notMem_skipBlank_append h hu), ternaryEnd?_of_notMem h, skipBlank_append_semicolon,
    afterLast?_append]

/-- What is appended behind another line is no part of the expression. -/
theorem ternaryEnd?_append_of_mem (h : CodePoint.newline ∈ t.skipBlank) (u : Text) :
    ternaryEnd? (t ++ semicolon :: u) = (ternaryEnd? t).map (· ++ semicolon :: u) := by
  rw [ternaryEnd?, ternaryEnd?, skipBlank_append_semicolon]
  generalize t.skipBlank = b at h
  have hline : ¬ (b.takeWhile (· != CodePoint.newline)).length = b.length := by
    intro hlen
    have hall := List.takeWhile_eq_self_iff.1 ((List.takeWhile_prefix _).eq_of_length hlen)
    simpa using hall _ h
  have hahead : ¬ (b.dropWhile (· != CodePoint.newline)).isEmpty = true := by
    intro hempty
    have hall := List.dropWhile_eq_nil_iff.1 (List.isEmpty_iff.1 hempty)
    simpa using hall _ h
  have hcolon : (':' : CodePoint) ≠ semicolon := by decide
  simp only [List.takeWhile_append, if_neg hline, List.dropWhile_append, if_neg hahead,
    skipBlank_append_semicolon, startsWith_append_semicolon hcolon]
  split
  · rename_i hstart
    have hne : Text.skipBlank (b.dropWhile (· != CodePoint.newline)) ≠ [] := by
      intro hnil
      simp [hnil, startsWith] at hstart
    rw [List.tail_append_of_ne_nil hne, Option.map_some]
  · simp [Option.map_map, Function.comp_def]

/-- Text without a colon takes no part in where an expression ends. -/
theorem ternaryEnd?_append (hnewline : CodePoint.newline ∉ u)
    (hcolon : (':' : CodePoint) ∉ u) (t : Text) :
    ternaryEnd? (t ++ semicolon :: u) = (ternaryEnd? t).map (· ++ semicolon :: u) := by
  by_cases h : CodePoint.newline ∈ t.skipBlank
  · exact ternaryEnd?_append_of_mem h u
  · have hnone : afterLast? ':' (semicolon :: u) = none :=
      afterLast?_eq_none_iff.2 (colon_notMem_cons hcolon)
    rw [ternaryEnd?_append_of_notMem h hnewline, hnone, Option.none_or]

/-- An expression ends behind a colon of the text. -/
theorem exists_of_ternaryEnd?_eq_some (h : ternaryEnd? t = some rest) :
    ∃ before, t = before ++ (':' : CodePoint) :: rest := by
  suffices hbody : ∃ before, t.skipBlank = before ++ (':' : CodePoint) :: rest by
    obtain ⟨before, hbody⟩ := hbody
    obtain ⟨blanks, -, ht⟩ := Text.exists_skipBlank t
    exact ⟨blanks ++ before, by rw [List.append_assoc, ← hbody, ← ht]⟩
  rw [ternaryEnd?] at h
  generalize t.skipBlank = b at h ⊢
  have hb := List.takeWhile_append_dropWhile (p := (· != CodePoint.newline)) (l := b)
  generalize b.takeWhile (· != CodePoint.newline) = line at h hb
  generalize b.dropWhile (· != CodePoint.newline) = ahead at h hb
  subst hb
  split at h
  · rename_i hstart
    obtain rfl := Option.some.inj h
    obtain ⟨blanks, -, hahead⟩ := Text.exists_skipBlank ahead
    refine ⟨line ++ blanks, ?_⟩
    rw [startsWith, beq_iff_eq] at hstart
    rw [List.cons_head?_tail hstart, List.append_assoc, ← hahead]
  · obtain ⟨last, hlast, rfl⟩ := Option.map_eq_some_iff.1 h
    obtain ⟨before, rfl, -⟩ := afterLast?_eq_some_iff.1 hlast
    exact ⟨before, by simp⟩

theorem suffix_of_ternaryEnd?_eq_some (h : ternaryEnd? t = some rest) : rest <:+ t := by
  obtain ⟨before, rfl⟩ := exists_of_ternaryEnd?_eq_some h
  exact (List.suffix_cons _ rest).trans (List.suffix_append _ _)

theorem ternaryEnd?_eq_none (h : (':' : CodePoint) ∉ t) : ternaryEnd? t = none := by
  cases hend : ternaryEnd? t with
  | none => rfl
  | some rest =>
    obtain ⟨before, rfl⟩ := exists_of_ternaryEnd?_eq_some hend
    simp at h

/-- Where the search finds no end on the last line, there is no colon. -/
theorem notMem_of_ternaryEnd?_eq_none (hline : CodePoint.newline ∉ t.skipBlank)
    (h : ternaryEnd? t = none) : (':' : CodePoint) ∉ t := by
  rw [ternaryEnd?_of_notMem hline, afterLast?_eq_none_iff] at h
  obtain ⟨blanks, hblanks, ht⟩ := Text.exists_skipBlank t
  have hcolon : isBlank ':' = false := by decide
  rw [ht, List.mem_append, not_or]
  refine ⟨fun hmem => ?_, h⟩
  rw [hblanks _ hmem] at hcolon
  cases hcolon

/-! ## The search for conditional expressions -/

theorem ternaries_skip (h : c = '?' → ternaryEnd? t = none) :
    ternaries (c :: t) = ternaries t := by
  rw [ternaries_cons]
  split
  · rename_i hc
    rw [h hc, Option.elim_none]
  · rfl

theorem ternaries_behind (h : ternaryEnd? t = some rest) :
    ternaries (('?' : CodePoint) :: t) = ternaries rest + 1 := by
  rw [ternaries_cons, if_pos rfl, h, Option.elim_some]

/-- The steps of the search: over a code point that begins no conditional expression, and behind an
    expression. -/
@[elab_as_elim]
theorem search_induction {motive : Text → Prop} (nil : motive [])
    (skip : ∀ (c : CodePoint) (t : Text), (c = '?' → ternaryEnd? t = none) → motive t →
      motive (c :: t))
    (behind : ∀ t rest : Text, ternaryEnd? t = some rest → motive rest →
      motive (('?' : CodePoint) :: t)) (t : Text) : motive t := by
  fun_induction ternaries t with
  | case1 => exact nil
  | case2 t rest hend ih => exact behind t rest hend ih
  | case3 t hend ih => exact skip _ t (fun _ => hend) ih
  | case4 c t hc ih => exact skip c t (fun h => absurd h hc) ih

/-- The search finds a conditional expression whose question mark comes just before the second text. -/
inductive Found : Text → Text → Prop
  | here {t rest : Text} (h : ternaryEnd? t = some rest) : Found (('?' : CodePoint) :: t) t
  | behind {t rest body : Text} (h : ternaryEnd? t = some rest) (found : Found rest body) :
      Found (('?' : CodePoint) :: t) body
  | skip {c : CodePoint} {t body : Text} (h : c = '?' → ternaryEnd? t = none)
      (found : Found t body) : Found (c :: t) body

namespace Found

theorem append_left (h : Found u body) (ht : ('?' : CodePoint) ∉ t) : Found (t ++ u) body := by
  induction t with
  | nil => exact h
  | cons c t ih =>
    obtain ⟨hc, ht⟩ := not_or.1 (List.mem_cons.not.1 ht)
    exact .skip (fun heq => absurd heq.symm hc) (ih ht)

theorem suffix (h : Found t body) : body <:+ t := by
  induction h with
  | here h => exact List.suffix_cons _ _
  | behind h _ ih =>
    exact ih.trans ((suffix_of_ternaryEnd?_eq_some h).trans (List.suffix_cons _ _))
  | skip _ _ ih => exact ih.trans (List.suffix_cons _ _)

theorem ends (h : Found t body) : ∃ rest, ternaryEnd? body = some rest := by
  induction h with
  | here h => exact ⟨_, h⟩
  | behind _ _ ih | skip _ _ ih => exact ih

end Found

theorem found_skip_iff (h : c = '?' → ternaryEnd? t = none) :
    Found (c :: t) body ↔ Found t body := by
  constructor
  · intro hfound
    cases hfound with
    | here hend | behind hend => simp [h rfl] at hend
    | skip _ hfound => exact hfound
  · exact .skip h

theorem found_behind_iff (h : ternaryEnd? t = some rest) :
    Found (('?' : CodePoint) :: t) body ↔ body = t ∨ Found rest body := by
  constructor
  · intro hfound
    cases hfound with
    | here => exact .inl rfl
    | behind hend hfound =>
      obtain rfl := Option.some.inj (h.symm.trans hend)
      exact .inr hfound
    | skip hnone => simp [h] at hnone
  · rintro (rfl | hfound)
    · exact .here h
    · exact .behind h hfound

/-- **The number of conditional expressions is the number of those that the search finds.** -/
theorem encard_found (t : Text) : {body | Found t body}.encard = ternaries t := by
  induction t using search_induction with
  | nil =>
    have hnone : {body | Found [] body} = ∅ := Set.eq_empty_of_forall_notMem fun _ => nofun
    rw [hnone, Set.encard_empty, ternaries, Nat.cast_zero]
  | skip c t h ih => simp only [found_skip_iff h, ih, ternaries_skip h]
  | behind t rest h ih =>
    have hinsert : {body | Found (('?' : CodePoint) :: t) body} =
        insert t {body | Found rest body} := Set.ext fun body => found_behind_iff h
    -- what is found behind an expression is shorter than what follows its mark
    have hnot : t ∉ {body | Found rest body} := by
      intro hfound
      obtain ⟨before, heq⟩ := exists_of_ternaryEnd?_eq_some h
      have hlen := hfound.suffix.length_le
      rw [heq, List.length_append, List.length_cons] at hlen
      omega
    rw [hinsert, Set.encard_insert_of_notMem hnot, ih, ternaries_behind h, Nat.cast_succ]

/-! ### Expressions on the last line -/

/-- The search finds a conditional expression for which the last line of the text is its line. -/
def GoesOn (t : Text) : Prop :=
  ∃ body, Found t body ∧ CodePoint.newline ∉ body.skipBlank

theorem not_goesOn_nil : ¬ GoesOn [] := by
  rintro ⟨body, hfound, -⟩
  cases hfound

theorem goesOn_skip_iff (h : c = '?' → ternaryEnd? t = none) : GoesOn (c :: t) ↔ GoesOn t := by
  simp only [GoesOn, found_skip_iff h]

theorem goesOn_behind_iff (h : ternaryEnd? t = some rest) :
    GoesOn (('?' : CodePoint) :: t) ↔ CodePoint.newline ∉ t.skipBlank ∨ GoesOn rest := by
  simp only [GoesOn, found_behind_iff h, or_and_right, exists_or, exists_eq_left]

/-- An expression on the last line ends behind a colon there. -/
theorem GoesOn.exists_suffix (h : GoesOn t) :
    ∃ u, u <:+ t ∧ CodePoint.newline ∉ u ∧ (':' : CodePoint) ∈ u := by
  obtain ⟨body, hfound, hline⟩ := h
  obtain ⟨rest, hend⟩ := hfound.ends
  rw [ternaryEnd?_of_notMem hline] at hend
  obtain ⟨before, hbody, -⟩ := afterLast?_eq_some_iff.1 hend
  refine ⟨body.skipBlank, (List.dropWhile_suffix isBlank).trans hfound.suffix, hline, ?_⟩
  simp [hbody]

theorem GoesOn.mem (h : GoesOn t) : (':' : CodePoint) ∈ t := by
  obtain ⟨u, hsuffix, -, hmem⟩ := h.exists_suffix
  exact hsuffix.subset hmem

theorem GoesOn.mem_last (h : GoesOn t) {line : Text} (hline : line ∈ t.lines.getLast?) :
    (':' : CodePoint) ∈ line := by
  obtain ⟨u, hsuffix, hunbroken, hmem⟩ := h.exists_suffix
  exact (Text.suffix_last_line hsuffix hunbroken hline).subset hmem

theorem ternaries_eq_zero (h : (':' : CodePoint) ∉ t) : ternaries t = 0 := by
  induction t with
  | nil => rw [ternaries]
  | cons c t ih =>
    have ht : (':' : CodePoint) ∉ t := fun hmem => h (List.mem_cons_of_mem c hmem)
    rw [ternaries_skip fun _ => ternaryEnd?_eq_none ht, ih ht]

/-- A question mark and a colon behind it, both on the last line, are the only expression behind the
    mark. -/
theorem ternaries_last_line (hline : CodePoint.newline ∉ t.skipBlank)
    (hcolon : (':' : CodePoint) ∈ t) : ternaries (('?' : CodePoint) :: t) = 1 := by
  cases hend : ternaryEnd? t with
  | none => exact absurd hcolon (notMem_of_ternaryEnd?_eq_none hline hend)
  | some rest =>
    rw [ternaries_behind hend]
    rw [ternaryEnd?_of_notMem hline] at hend
    obtain ⟨-, -, hrest⟩ := afterLast?_eq_some_iff.1 hend
    rw [ternaries_eq_zero hrest]

theorem ternaries_append_left (h : ('?' : CodePoint) ∉ t) (u : Text) :
    ternaries (t ++ u) = ternaries u := by
  induction t with
  | nil => rfl
  | cons c t ih =>
    obtain ⟨hc, ht⟩ := not_or.1 (List.mem_cons.not.1 h)
    rw [List.cons_append, ternaries_skip fun heq => absurd heq.symm hc, ih ht]

/-- Text without a colon adds no conditional expression. -/
theorem ternaries_append (hnewline : CodePoint.newline ∉ u) (hcolon : (':' : CodePoint) ∉ u)
    (s : Text) : ternaries (s ++ semicolon :: u) = ternaries s := by
  induction s using search_induction with
  | nil =>
    rw [List.nil_append, ternaries_eq_zero (colon_notMem_cons hcolon), ternaries]
  | skip c t h ih =>
    rw [List.cons_append, ternaries_skip, ternaries_skip h, ih]
    intro hc
    rw [ternaryEnd?_append hnewline hcolon, h hc, Option.map_none]
  | behind t rest h ih =>
    have hend := ternaryEnd?_append hnewline hcolon t
    rw [h, Option.map_some] at hend
    rw [List.cons_append, ternaries_behind hend, ternaries_behind h, ih]

/-! ## A conditional expression more -/

/-- What is appended has a colon on its only line, and the search finds one conditional expression in
    it. -/
structure Conditional (u : Text) : Prop where
  unbroken : CodePoint.newline ∉ u
  colon : (':' : CodePoint) ∈ u
  once : ternaries (semicolon :: u) = 1

/-- A question mark that has the last line for its line takes in what is appended. -/
theorem Conditional.ternaries_pending (hu : Conditional u) (h : CodePoint.newline ∉ t.skipBlank) :
    ternaries (('?' : CodePoint) :: (t ++ semicolon :: u)) = 1 :=
  ternaries_last_line (newline_notMem_skipBlank_append h hu.unbroken) (by simp [hu.colon])

/-- **An expression that goes on to the end of the text takes in what is appended.** -/
theorem Conditional.ternaries_append_of_goesOn (hu : Conditional u) (hs : GoesOn s) :
    ternaries (s ++ semicolon :: u) = ternaries s := by
  induction s using search_induction with
  | nil => exact absurd hs not_goesOn_nil
  | skip c t h ih =>
    have ht := (goesOn_skip_iff h).1 hs
    -- a mark on the last line would end at the colon of the expression that goes on
    have hline : c = '?' → CodePoint.newline ∈ t.skipBlank := by
      intro hc
      by_contra hline
      exact notMem_of_ternaryEnd?_eq_none hline (h hc) ht.mem
    rw [List.cons_append, ternaries_skip, ternaries_skip h, ih ht]
    intro hc
    rw [ternaryEnd?_append_of_mem (hline hc), h hc, Option.map_none]
  | behind t rest h ih =>
    by_cases hline : CodePoint.newline ∈ t.skipBlank
    · have hrest := ((goesOn_behind_iff h).1 hs).resolve_left (not_not.2 hline)
      have hend := ternaryEnd?_append_of_mem hline u
      rw [h, Option.map_some] at hend
      rw [List.cons_append, ternaries_behind hend, ternaries_behind h, ih hrest]
    · -- the last expression of the text, which now ends at the new last colon
      obtain ⟨before, rfl⟩ := exists_of_ternaryEnd?_eq_some h
      rw [List.cons_append, hu.ternaries_pending hline, ternaries_last_line hline (by simp)]

theorem Conditional.ternaries_append_of_not_goesOn (hu : Conditional u) (hs : ¬ GoesOn s) :
    ternaries (s ++ semicolon :: u) = ternaries s + 1 := by
  induction s using search_induction with
  | nil =>
    rw [List.nil_append, hu.once, ternaries]
  | skip c t h ih =>
    have ht := (goesOn_skip_iff h).not.1 hs
    by_cases hpending : c = '?' ∧ CodePoint.newline ∉ t.skipBlank
    · -- the mark takes in the expression behind it, and is counted in its place
      obtain ⟨rfl, hline⟩ := hpending
      have hcolon := notMem_of_ternaryEnd?_eq_none hline (h rfl)
      rw [List.cons_append, hu.ternaries_pending hline, ternaries_skip h, ternaries_eq_zero hcolon]
    · rw [List.cons_append, ternaries_skip, ternaries_skip h, ih ht]
      intro hc
      have hline : CodePoint.newline ∈ t.skipBlank := not_not.1 fun hline => hpending ⟨hc, hline⟩
      rw [ternaryEnd?_append_of_mem hline, h hc, Option.map_none]
  | behind t rest h ih =>
    rw [goesOn_behind_iff h, not_or, not_not] at hs
    have hend := ternaryEnd?_append_of_mem hs.1 u
    rw [h, Option.map_some] at hend
    rw [List.cons_append, ternaries_behind hend, ternaries_behind h, ih hs.2]

/-! ## Decisions -/

/-- A conditional expression, in a statement of its own. -/
def conditionalText : Text :=
  .ofString "; x ? y : z"

/-- The other decisions, each in a statement of its own. -/
def branchTexts : List Text :=
  [.ofString "; if (x) y", .ofString "; for (;;) y", .ofString "; while (x) y",
    .ofString "; x && y", .ofString "; x || y"]

def decisionTexts : List Text :=
  conditionalText :: branchTexts

theorem conditionalText_eq_append : conditionalText =
    Text.ofString "; x " ++ ('?' : CodePoint) :: Text.ofString " y : z" := by
  decide

theorem ternaries_conditionalText : ternaries conditionalText = 1 := by
  rw [conditionalText_eq_append, ternaries_append_left (by decide), ternaries_last_line (by decide) (by decide)]

theorem conditional_conditionalText : Conditional conditionalText.tail where
  unbroken := by decide
  colon := by decide
  once := ternaries_conditionalText

theorem conditionalText_eq : conditionalText = semicolon :: conditionalText.tail := by
  decide

theorem cyclomatic_append_branch (hw : w ∈ branchTexts) (s : Text) :
    cyclomatic (s ++ w) = cyclomatic s + 1 := by
  have hall : ∀ w ∈ branchTexts, w = semicolon :: w.tail ∧ CodePoint.newline ∉ w.tail ∧
      (':' : CodePoint) ∉ w.tail ∧ branches w = 1 := by decide
  obtain ⟨heq, hnewline, hcolon, hbranches⟩ := hall w hw
  rw [heq] at hbranches ⊢
  rw [cyclomatic_eq_add, cyclomatic_eq_add, branches_append, hbranches,
    ternaries_append hnewline hcolon]
  omega

/-- What is appended counts only as a conditional expression. -/
theorem cyclomatic_append_conditional (s : Text) :
    cyclomatic (s ++ conditionalText) + ternaries s =
      cyclomatic s + ternaries (s ++ conditionalText) := by
  have hbranches : branches conditionalText = 0 := by decide
  rw [conditionalText_eq] at hbranches ⊢
  rw [cyclomatic_eq_add, cyclomatic_eq_add, branches_append, hbranches]
  omega

theorem cyclomatic_append_of_goesOn (h : GoesOn s) :
    cyclomatic (s ++ conditionalText) = cyclomatic s := by
  have hcount := cyclomatic_append_conditional s
  have hsame := conditional_conditionalText.ternaries_append_of_goesOn h
  rw [← conditionalText_eq] at hsame
  omega

theorem cyclomatic_append_of_not_goesOn (h : ¬ GoesOn s) :
    cyclomatic (s ++ conditionalText) = cyclomatic s + 1 := by
  have hcount := cyclomatic_append_conditional s
  have hmore := conditional_conditionalText.ternaries_append_of_not_goesOn h
  rw [← conditionalText_eq] at hmore
  omega

/-- **Every decision that is appended counts, exactly if no conditional expression goes on to the end
    of the text.**  Such an expression, which takes a colon on the last line, takes in the next
    one, and the two count as one decision; all other decisions count. -/
theorem cyclomatic_append_iff (s : Text) :
    ((∀ w ∈ decisionTexts, cyclomatic (s ++ w) = cyclomatic s + 1) ↔ ¬ GoesOn s) ∧
    (∀ w ∈ branchTexts, cyclomatic (s ++ w) = cyclomatic s + 1) ∧
    (GoesOn s → cyclomatic (s ++ conditionalText) = cyclomatic s) ∧
    (GoesOn s → ∀ line ∈ s.lines.getLast?, (':' : CodePoint) ∈ line) := by
  refine ⟨⟨?_, ?_⟩, fun w hw => cyclomatic_append_branch hw s, cyclomatic_append_of_goesOn,
    fun h line hline => h.mem_last hline⟩
  · intro hall hs
    have hmore := hall conditionalText List.mem_cons_self
    rw [cyclomatic_append_of_goesOn hs] at hmore
    omega
  · intro hs
    exact List.forall_mem_cons.2
      ⟨cyclomatic_append_of_not_goesOn hs, fun w hw => cyclomatic_append_branch hw s⟩

theorem goesOn_conditionalText : GoesOn conditionalText := by
  have hend : ternaryEnd? (Text.ofString " y : z") = some (Text.ofString " z") := by decide
  rw [conditionalText_eq_append]
  exact ⟨_, (Found.here hend).append_left (by decide), by decide⟩

/-- A conditional expression takes in the next one on its line, and none on the next line. -/
theorem cyclomatic_append_next_line :
    GoesOn conditionalText ∧
    (∀ line ∈ conditionalText.lines.getLast?, (':' : CodePoint) ∈ line) ∧
    (∀ w ∈ branchTexts, cyclomatic (conditionalText ++ w) = cyclomatic conditionalText + 1) ∧
    cyclomatic (conditionalText ++ conditionalText) = cyclomatic conditionalText ∧
    ∀ w ∈ decisionTexts, cyclomatic (conditionalText ++ .newline :: w) =
      cyclomatic (conditionalText ++ [.newline]) + 1 := by
  have hgoesOn : GoesOn conditionalText := goesOn_conditionalText
  obtain ⟨-, hbranches, hsame, hcolon⟩ := cyclomatic_append_iff conditionalText
  refine ⟨hgoesOn, hcolon hgoesOn, hbranches, hsame hgoesOn, ?_⟩
  obtain ⟨hiff, -, -, hcolon⟩ := cyclomatic_append_iff (conditionalText ++ [.newline])
  have hnot : ¬ GoesOn (conditionalText ++ [.newline]) := by
    intro hnext
    have hempty : [] ∈ (Text.lines (conditionalText ++ [.newline])).getLast? := by decide
    cases hcolon hnext [] hempty
  intro w hw
  have hmore := hiff.2 hnot w hw
  rwa [List.append_assoc, List.singleton_append] at hmore

/-- **Two conditional expressions on one line are one decision.** -/
theorem two_conditionals :
    cyclomatic conditionalText = 2 ∧ cyclomatic (conditionalText ++ conditionalText) = 2 ∧
    ¬ ∀ s, ∀ w ∈ decisionTexts, cyclomatic (s ++ w) = cyclomatic s + 1 := by
  have hone : cyclomatic conditionalText = 2 := by
    have hbranches : branches conditionalText = 0 := by decide
    rw [cyclomatic_eq_add, hbranches, ternaries_conditionalText]
  have htwo := (cyclomatic_append_of_goesOn goesOn_conditionalText).trans hone
  refine ⟨hone, htwo, ?_⟩
  intro hall
  have hmore := hall conditionalText conditionalText List.mem_cons_self
  omega

end CodeSurvey.Metrics
