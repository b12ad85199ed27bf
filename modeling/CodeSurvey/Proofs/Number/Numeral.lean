/-
  Numerals that are all digits.

  * `isDigit_iff`: the digits of base thirty-six, which are the ASCII digits and letters;
    `body_of_digits`: around and among these there is neither white space nor a sign;
  * `ofDigits_concat`: one digit more;
  * `integer?_radix`: an integer after the letter of its base;
  * `integer?_digits`, `real?_digits`: decimal digits, read as an integer or as a fraction.
-/
import CodeSurvey.Number.Numeral
import Mathlib.Data.List.TakeWhile

namespace CodeSurvey.Numeral

variable {base : Nat} {c letter : CodePoint} {t digits : Text}

/-! ## Digits and letters -/

theorem isDigit_mono {least greatest : Nat} (hle : least ≤ greatest) (h : isDigit least c = true) :
    isDigit greatest c = true :=
  decide_eq_true (Nat.lt_of_lt_of_le (of_decide_eq_true h) hle)

theorem isDigit_iff :
    isDigit 36 c = true ↔
      0x30 ≤ c.val ∧ c.val ≤ 0x39 ∨ 0x41 ≤ c.val ∧ c.val ≤ 0x5A ∨ 0x61 ≤ c.val ∧ c.val ≤ 0x7A := by
  simp only [isDigit, digitValue, Bool.and_eq_true, decide_eq_true_eq]
  split
  · omega
  · split
    · omega
    · split <;> omega

theorem ne_of_isDigit {d : CodePoint} (h : isDigit base c = true) (hd : isDigit base d = false) :
    c ≠ d := by
  rintro rfl
  rw [h] at hd
  exact Bool.noConfusion hd

theorem toAscii_of_isDigit (h : isDigit 36 c = true) : toAscii c = c := by
  have hval := isDigit_iff.1 h
  rw [toAscii, if_pos (by omega)]

theorem isPadding_of_isDigit (h : isDigit 36 c = true) : isPadding c = false := by
  have hval := isDigit_iff.1 h
  simp only [isPadding, Bool.or_eq_false_iff, Bool.and_eq_false_iff, beq_eq_false_iff_ne,
    decide_eq_false_iff_not]
  omega

theorem trim_eq_self {drop : CodePoint → Bool} (h : ∀ c ∈ t, drop c = false) :
    Text.trim drop t = t := by
  have hleft : ∀ l : Text, (∀ c ∈ l, drop c = false) → l.dropWhile drop = l := by
    intro l hl
    cases l with
    | nil => rfl
    | cons c l => rw [List.dropWhile_cons, hl c List.mem_cons_self, if_neg Bool.false_ne_true]
  rw [Text.trim, hleft t h, hleft t.reverse fun c hc => h c (List.mem_reverse.1 hc),
    List.reverse_reverse]

theorem splitSign_of_digits (h : ∀ c ∈ t, isDigit 36 c = true) : splitSign t = (false, t) := by
  cases t with
  | nil => rfl
  | cons c t =>
    have hc := h c List.mem_cons_self
    rw [splitSign, if_neg (ne_of_isDigit hc (by decide)), if_neg (ne_of_isDigit hc (by decide))]

/-- A text of digits and letters is its own body. -/
theorem body_of_digits (h : ∀ c ∈ t, isDigit 36 c = true) : body t = (false, t) := by
  have hascii : t.map toAscii = t :=
    (List.map_congr_left fun c hc => toAscii_of_isDigit (h c hc)).trans (List.map_id t)
  rw [body, hascii, trim_eq_self fun c hc => isPadding_of_isDigit (h c hc), splitSign_of_digits h]

theorem integer?_of_digits (h : ∀ c ∈ t, isDigit 36 c = true) :
    integer? t = (unsigned? t).map fun n : Nat => (n : Int) := by
  rw [integer?, body_of_digits h]
  cases unsigned? t <;> rfl

/-! ## Natural numbers -/

theorem ofDigits_concat (base : Nat) (digits : Text) (c : CodePoint) :
    ofDigits base (digits ++ [c]) = ofDigits base digits * base + digitValue c := by
  rw [ofDigits, List.foldl_append]
  rfl

theorem natural?_of_digits (hne : digits ≠ []) (h : ∀ c ∈ digits, isDigit base c = true) :
    natural? base digits = some (ofDigits base digits) := by
  have hempty : digits.isEmpty = false := List.isEmpty_eq_false_iff.2 hne
  rw [natural?, hempty, List.all_eq_true.2 h]
  rfl

theorem isDigit_of_base? (h : base? letter = some base) : isDigit 36 letter = true := by
  simp only [base?, Bool.or_eq_true, decide_eq_true_eq] at h
  split at h
  · rename_i heq
    rcases heq with rfl | rfl <;> decide
  · split at h
    · rename_i heq
      rcases heq with rfl | rfl <;> decide
    · split at h
      · rename_i heq
        rcases heq with rfl | rfl <;> decide
      · cases h

/-- **An integer after the letter of its base** is what its digits write. -/
theorem integer?_radix (hletter : base? letter = some base) (hbase : base ≤ 36)
    (hne : digits ≠ []) (h : ∀ c ∈ digits, isDigit base c = true) :
    integer? ((('0' : Char) : CodePoint) :: letter :: digits) =
      some (ofDigits base digits : Int) := by
  have hall : ∀ c ∈ (('0' : Char) : CodePoint) :: letter :: digits, isDigit 36 c = true := by
    intro c hc
    rcases List.mem_cons.1 hc with rfl | hc
    · decide
    · rcases List.mem_cons.1 hc with rfl | hc
      · exact isDigit_of_base? hletter
      · exact isDigit_mono hbase (h c hc)
  rw [integer?_of_digits hall, unsigned?, if_pos rfl, hletter]
  dsimp only
  rw [natural?_of_digits hne h, Option.map_some]

/-! ## Decimal digits -/

theorem base?_of_isDigit (h : isDigit 10 c = true) : base? c = none := by
  have hne : ∀ d : CodePoint, isDigit 10 d = false → c ≠ d := fun d => ne_of_isDigit h
  simp only [base?, hne _ (show isDigit 10 (CodePoint.ofChar 'x') = false by decide),
    hne _ (show isDigit 10 (CodePoint.ofChar 'X') = false by decide),
    hne _ (show isDigit 10 (CodePoint.ofChar 'o') = false by decide),
    hne _ (show isDigit 10 (CodePoint.ofChar 'O') = false by decide),
    hne _ (show isDigit 10 (CodePoint.ofChar 'b') = false by decide),
    hne _ (show isDigit 10 (CodePoint.ofChar 'B') = false by decide),
    decide_false, Bool.or_self, Bool.false_eq_true, if_false]

theorem unsigned?_digits (h : ∀ c ∈ digits, isDigit 10 c = true) :
    unsigned? digits = decimal? digits := by
  match digits with
  | [] => rfl
  | [c] => rfl
  | first :: c :: digits =>
    have hc : base? c = none := base?_of_isDigit (h c (List.mem_cons_of_mem _ List.mem_cons_self))
    rw [unsigned?, hc, ite_self]

/-- **Decimal digits read as an integer**, if they are read at all, are what they write. -/
theorem integer?_digits (hne : digits ≠ []) (h : ∀ c ∈ digits, isDigit 10 c = true) :
    integer? digits = none ∨ integer? digits = some (ofDigits 10 digits : Int) := by
  rw [integer?_of_digits fun c hc => isDigit_mono (by decide) (h c hc), unsigned?_digits h,
    decimal?, natural?_of_digits hne h]
  split
  · exact Or.inl rfl
  · rw [Option.filter_some]
    split
    · exact Or.inr rfl
    · exact Or.inl rfl

theorem asciiLower_of_isDigit (h : isDigit 10 c = true) : asciiLower c = c := by
  have hlt := of_decide_eq_true h
  simp only [digitValue, Bool.and_eq_true, decide_eq_true_eq] at hlt
  have hcapital : ¬ (0x41 ≤ c.val ∧ c.val ≤ 0x5A) := by
    intro hcapital
    rw [if_neg (by omega), if_pos hcapital] at hlt
    omega
  rw [asciiLower, if_neg (by simpa using hcapital)]

/-- Words for what is no fraction start with a letter. -/
theorem map_asciiLower_ne {word : Text} (hne : digits ≠ [])
    (h : ∀ c ∈ digits, isDigit 10 c = true) (hword : word.head?.any (isDigit 10) = false) :
    digits.map asciiLower ≠ word := by
  rintro rfl
  obtain ⟨c, cs, rfl⟩ := List.exists_cons_of_ne_nil hne
  have hc := h c List.mem_cons_self
  rw [List.map_cons, asciiLower_of_isDigit hc, List.head?_cons, Option.any_some, hc] at hword
  exact Bool.noConfusion hword

/-- **Decimal digits read as a fraction** are rounded from what they write. -/
theorem real?_digits (hne : digits ≠ []) (h : ∀ c ∈ digits, isDigit 10 c = true) :
    real? digits = some (Binary64.ofDecimal false (ofDigits 10 digits) 0) := by
  have hbody := body_of_digits fun c hc => isDigit_mono (by decide) (h c hc)
  have hinfinity : digits.map asciiLower ∉ infinityWords := by
    simp only [infinityWords, List.mem_cons, List.not_mem_nil, or_false, not_or]
    exact ⟨map_asciiLower_ne hne h (by decide), map_asciiLower_ne hne h (by decide)⟩
  have hnan : digits.map asciiLower ≠ nanWord := map_asciiLower_ne hne h (by decide)
  have htake : digits.takeWhile (isDigit 10) = digits := List.takeWhile_eq_self_iff.2 h
  have hdrop : digits.dropWhile (isDigit 10) = [] := List.dropWhile_eq_nil_iff.2 h
  rw [real?, hbody]
  simp only [if_neg hinfinity, if_neg hnan, fraction?, htake, hdrop]
  -- there is no point and no exponent behind the digits
  change (if (digits ++ []).isEmpty = true then none
    else some (Binary64.ofDecimal false (ofDigits 10 (digits ++ [])) 0)) = _
  rw [List.append_nil, if_neg (by simpa using hne)]

end CodeSurvey.Numeral
