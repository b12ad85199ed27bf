/-
  Cyclomatic complexity of a text.

  The text is searched for the spellings of decisions; strings and comments count
  as any other text.

  * `Metrics.opensCondition`, `Metrics.countAt`: a keyword before a parenthesis, and
    the number of places where a test holds;
  * `Metrics.ternaries`: conditional expressions.  One reaches from its question
    mark to the last colon of the line, or to a colon that begins the next text
    below, and the search goes on behind it;
  * `Metrics.connectives`: `&&` and `||`;
  * `Metrics.cyclomatic`: one more than all of these.
-/
import CodeSurvey.Text.Blank

namespace CodeSurvey.Metrics

/-- The number of places of a text at which a test of what follows holds. -/
def countAt (test : Text → Bool) (t : Text) : Nat :=
  t.cuts.countP fun cut => test cut.rest

/-- Whether the text starts with a code point. -/
def startsWith (c : CodePoint) (t : Text) : Bool :=
  t.head? == some c

/-- Whether a keyword and an opening parenthesis come first. -/
def opensCondition (keyword : Text) (t : Text) : Bool :=
  (keyword.after? t).any fun rest => startsWith '(' rest.skipBlank

/-- Whether an `else` and, after white space, an opening `if` come first. -/
def opensElseIf (t : Text) : Bool :=
  ((Text.ofString "else").after? t).any fun rest =>
    rest.head?.any isBlank && opensCondition (.ofString "if") rest.skipBlank

/-- Whether a `case` and white space come first. -/
def opensCase (t : Text) : Bool :=
  ((Text.ofString "case").after? t).any fun rest => rest.head?.any isBlank

/-! ## Conditional expressions -/

/-- The text behind the last occurrence of a code point. -/
def afterLast? (c : CodePoint) (t : Text) : Option Text :=
  if c ∈ t then some (t.reverse.takeWhile (· != c)).reverse else none

/-- The text behind a conditional expression whose question mark comes just before `t`. -/
def ternaryEnd? (t : Text) : Option Text :=
  let body : Text := t.skipBlank
  let line : Text := body.takeWhile (· != CodePoint.newline)
  let ahead : Text := body.dropWhile (· != CodePoint.newline)
  if startsWith ':' ahead.skipBlank then some ahead.skipBlank.tail
  else (afterLast? ':' line).map (· ++ ahead)

theorem length_dropWhile_le (p : CodePoint → Bool) (t : Text) :
    (t.dropWhile p).length ≤ t.length :=
  (List.dropWhile_suffix p).length_le

/-- What is left behind a conditional expression is no longer than what followed its mark. -/
theorem length_ternaryEnd_le {t rest : Text} (h : ternaryEnd? t = some rest) :
    rest.length ≤ t.length := by
  unfold ternaryEnd? at h
  simp only at h
  have body : t.skipBlank.length ≤ t.length := length_dropWhile_le isBlank t
  generalize t.skipBlank = b at h body
  have split : (b.takeWhile (· != CodePoint.newline)).length +
      (b.dropWhile (· != CodePoint.newline)).length = b.length := by
    rw [← List.length_append, List.takeWhile_append_dropWhile]
  split at h
  · cases h
    have := length_dropWhile_le isBlank (b.dropWhile (· != CodePoint.newline))
    simp only [Text.skipBlank, List.length_tail]
    omega
  · obtain ⟨last, hl, rfl⟩ := Option.map_eq_some_iff.1 h
    unfold afterLast? at hl
    split at hl
    · cases hl
      have := (List.takeWhile_prefix (· != (':' : CodePoint))
        (l := (b.takeWhile (· != CodePoint.newline)).reverse)).length_le
      simp only [List.length_append, List.length_reverse] at this ⊢
      omega
    · cases hl

/-- The number of conditional expressions. -/
def ternaries : Text → Nat
  | [] => 0
  | c :: cs =>
    if c = '?' then
      match _h : ternaryEnd? cs with
      | some rest => ternaries rest + 1
      | none => ternaries cs
    else ternaries cs
  termination_by t => t.length
  decreasing_by
    · have := length_ternaryEnd_le (by assumption)
      simp only [List.length_cons]
      omega
    · simp
    · simp

/-! ## All decisions -/

/-- The number of `&&` and `||`, none of which share a character. -/
def connectives : Text → Nat
  | [] => 0
  | [_] => 0
  | c :: d :: rest =>
    if c = d && (c = '&' || c = '|') then connectives rest + 1 else connectives (d :: rest)

/-- The keywords of which each opens a condition in parentheses. -/
def conditionKeywords : List Text :=
  [.ofString "if", .ofString "for", .ofString "while", .ofString "catch"]

/-- The number of keywords that open a condition. -/
def conditions (t : Text) : Nat :=
  conditionKeywords.foldr (fun keyword n => countAt (opensCondition keyword) t + n) 0

/-- One more than the decisions of a text. -/
def cyclomatic (t : Text) : Nat :=
  1 + conditions t + countAt opensElseIf t + countAt opensCase t + ternaries t + connectives t

end CodeSurvey.Metrics
