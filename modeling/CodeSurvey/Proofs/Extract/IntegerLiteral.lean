/-
  Constants that are bound to integer literals.

  * `IntegerLiteral.Digits`, `IntegerLiteral.Plain`, `IntegerLiteral.LegacyOctal`,
    `IntegerLiteral`: the integer literals of JavaScript, each with the integer it stands for;
  * `Literal.value?`: the number that a literal value is;
  * `numberValue_suffixed`, `numberValue_radix`, `numberValue_digits`: what a constant is bound to
    where the literal has a suffix, names its base, or is all decimal digits;
  * `ofDigits_ten_eq_eight_iff`: when octal digits write the same number in base ten;
  * `numberValue_sound_iff`: a constant is bound to the integer or to nothing known, but for legacy
    octal literals of eight or more; `numberValue_legacyOctal`: these are read in base ten.
-/
import CodeSurvey.Extract.Binding
import CodeSurvey.Proofs.Number.Binary64
import CodeSurvey.Proofs.Number.Numeral

namespace CodeSurvey

open Numeral

/-! ## Integer literals -/

namespace IntegerLiteral

/-- The digits up to fifteen, with small letters. -/
def smallDigits : Text :=
  Text.ofString "0123456789abcdef"

/-- The digits up to fifteen, with capital letters. -/
def capitalDigits : Text :=
  Text.ofString "0123456789ABCDEF"

/-- A digit stands for its place among the digits. -/
def StandsFor (c : CodePoint) (v : Nat) : Prop :=
  smallDigits[v]? = some c ∨ capitalDigits[v]? = some c

/-- The low line that may separate digits. -/
def separator : CodePoint :=
  CodePoint.ofChar '_'

/-- Digits of a base with the number that they write.  Where separators are allowed, single ones
    stand between digits. -/
inductive Digits (base : Nat) (separators : Bool) : Text → Nat → Prop
  | first {c : CodePoint} {v : Nat} (digit : StandsFor c v) (lt : v < base) :
      Digits base separators [c] v
  | next {t : Text} {n : Nat} {c : CodePoint} {v : Nat} (before : Digits base separators t n)
      (digit : StandsFor c v) (lt : v < base) : Digits base separators (t ++ [c]) (n * base + v)
  | separated {t : Text} {n : Nat} {c : CodePoint} {v : Nat} (allowed : separators = true)
      (before : Digits base separators t n) (digit : StandsFor c v) (lt : v < base) :
      Digits base separators (t ++ [separator, c]) (n * base + v)

/-- The letters that name a base after a leading zero. -/
def baseLetters : List (Char × Nat) :=
  [('x', 16), ('X', 16), ('o', 8), ('O', 8), ('b', 2), ('B', 2)]

/-- The leading zero of a literal. -/
def zeroDigit : CodePoint :=
  CodePoint.ofChar '0'

/-- The literals that may also carry a suffix: zero, decimal digits that start with another one,
    and digits of the base that a letter names. -/
inductive Plain : Text → Nat → Prop
  | zero : Plain [zeroDigit] 0
  | decimal {c : CodePoint} {t : Text} {n : Nat} (digits : Digits 10 true (c :: t) n)
      (first : c ≠ zeroDigit) : Plain (c :: t) n
  | radix {letter : Char} {base : Nat} {t : Text} {n : Nat} (named : (letter, base) ∈ baseLetters)
      (digits : Digits base true t n) : Plain (zeroDigit :: CodePoint.ofChar letter :: t) n

/-- Octal digits behind a zero, without separators. -/
inductive LegacyOctal : Text → Nat → Prop
  | mk {t : Text} {n : Nat} (digits : Digits 8 false t n) : LegacyOctal (zeroDigit :: t) n

/-- The suffix of literals without a bound on their size. -/
def suffix : CodePoint :=
  CodePoint.ofChar 'n'

end IntegerLiteral

open IntegerLiteral in
/-- The integer literals of JavaScript, with the integers that they stand for. -/
inductive IntegerLiteral : Text → Nat → Prop
  | plain {t : Text} {n : Nat} (literal : Plain t n) : IntegerLiteral t n
  | suffixed {t : Text} {n : Nat} (literal : Plain t n) : IntegerLiteral (t ++ [suffix]) n
  | legacyOctal {t : Text} {n : Nat} (literal : LegacyOctal t n) : IntegerLiteral t n
  /-- A zero before decimal digits that are not all octal. -/
  | leadingZero {t : Text} {n : Nat} (digits : Digits 10 false t n)
      (decimal : CodePoint.ofChar '8' ∈ t ∨ CodePoint.ofChar '9' ∈ t) :
      IntegerLiteral (zeroDigit :: t) n

/-- The number that a literal value is. -/
def Literal.value? : Literal → Option ℚ
  | .int n => some n
  | .float x => x.value?
  | .text _ => none
  | .bool _ => none

namespace Extract

open IntegerLiteral

variable {t : Text} {c : CodePoint} {base n v : Nat} {separators : Bool}

/-! ## Digits without their separators -/

/-- A text without its low lines. -/
def ungrouped (t : Text) : Text :=
  t.filter fun c : CodePoint => c != '_'

theorem ungrouped_append (t u : Text) : ungrouped (t ++ u) = ungrouped t ++ ungrouped u :=
  List.filter_append ..

theorem ungrouped_cons (h : c ≠ separator) (t : Text) : ungrouped (c :: t) = c :: ungrouped t :=
  List.filter_cons_of_pos (show (c != CodePoint.ofChar '_') = true from bne_iff_ne.2 h)

theorem digitValue_of_standsFor (h : StandsFor c v) : digitValue c = v := by
  have hsmall : ∀ v < 16, smallDigits[v]?.map digitValue = some v := by decide
  have hcapital : ∀ v < 16, capitalDigits[v]?.map digitValue = some v := by decide
  rcases h with h | h
  · have hv := hsmall v (List.getElem?_eq_some_iff.1 h).1
    rwa [h, Option.map_some, Option.some.injEq] at hv
  · have hv := hcapital v (List.getElem?_eq_some_iff.1 h).1
    rwa [h, Option.map_some, Option.some.injEq] at hv

theorem isDigit_of_standsFor (h : StandsFor c v) (hlt : v < base) : isDigit base c = true := by
  rw [isDigit, digitValue_of_standsFor h]
  exact decide_eq_true hlt

theorem ungrouped_of_isDigit (h : isDigit base c = true) (hbase : base ≤ 36) :
    ungrouped [c] = [c] :=
  ungrouped_cons (ne_of_isDigit (isDigit_mono hbase h) (by decide)) []

/-- Digits of a base without their separators, and the number they write. -/
structure Reads (base : Nat) (digits : Text) (n : Nat) : Prop where
  ne_nil : digits ≠ []
  isDigit : ∀ c ∈ digits, isDigit base c = true
  ofDigits : ofDigits base digits = n

theorem Reads.concat {digits : Text} (h : Reads base digits n) (digit : StandsFor c v)
    (lt : v < base) : Reads base (digits ++ [c]) (n * base + v) where
  ne_nil := List.append_ne_nil_of_right_ne_nil _ (List.cons_ne_nil c [])
  isDigit d hd := by
    rcases List.mem_append.1 hd with hd | hd
    · exact h.isDigit d hd
    · obtain rfl := List.mem_singleton.1 hd
      exact isDigit_of_standsFor digit lt
  ofDigits := by rw [ofDigits_concat, h.ofDigits, digitValue_of_standsFor digit]

theorem Reads.zero_cons {digits : Text} (h : Reads base digits n) (hbase : 0 < base) :
    Reads base (zeroDigit :: digits) n where
  ne_nil := List.cons_ne_nil _ _
  isDigit d hd := by
    rcases List.mem_cons.1 hd with rfl | hd
    · exact decide_eq_true hbase
    · exact h.isDigit d hd
  ofDigits := by
    rw [← h.ofDigits]
    have hzero : 0 * base + digitValue zeroDigit = 0 := Nat.zero_mul base
    rw [Numeral.ofDigits, List.foldl_cons, hzero, Numeral.ofDigits]

/-- **Without separators, digits are read as the number that they write.** -/
theorem reads_of_digits (hbase : base ≤ 16) (h : Digits base separators t n) :
    Reads base (ungrouped t) n := by
  have hkept : ∀ {c v}, StandsFor c v → v < base → ungrouped [c] = [c] := fun digit lt =>
    ungrouped_of_isDigit (isDigit_of_standsFor digit lt) (hbase.trans (by decide))
  induction h with
  | @first c v digit lt =>
    rw [hkept digit lt]
    refine ⟨List.cons_ne_nil c [], ?_, ?_⟩
    · intro d hd
      obtain rfl := List.mem_singleton.1 hd
      exact isDigit_of_standsFor digit lt
    · rw [← digitValue_of_standsFor digit]
      exact (congrArg (· + digitValue c) (Nat.zero_mul base)).trans (Nat.zero_add _)
  | next before digit lt ih =>
    rw [ungrouped_append, hkept digit lt]
    exact ih.concat digit lt
  | @separated t n c v allowed before digit lt ih =>
    have hsplit : ungrouped [separator, c] = ungrouped [c] := rfl
    rw [ungrouped_append, hsplit, hkept digit lt]
    exact ih.concat digit lt

/-! ## Values of constants -/

/-- A literal with a suffix is given up. -/
theorem numberValue_suffixed (t : Text) : numberValue (t ++ [suffix]) = .unknown := by
  have hsuffix : ungrouped [suffix] = [suffix] := rfl
  have hlast : ((ungrouped (t ++ [suffix])).getLast? == some (CodePoint.ofChar 'n')) = true := by
    rw [ungrouped_append, hsuffix, List.getLast?_concat]
    exact beq_self_eq_true _
  exact if_pos hlast

theorem numberValue_eq (h : (ungrouped t).getLast? ≠ some suffix) :
    numberValue t = match integer? (ungrouped t), real? (ungrouped t) with
      | some n, _ => .literal (.int n)
      | none, some x => .literal (.float x)
      | none, none => .unknown :=
  if_neg (beq_eq_false_iff_ne.2 h ▸ Bool.false_ne_true)

theorem Reads.getLast?_ne {digits : Text} (h : Reads base digits n) (hbase : base ≤ 16) :
    digits.getLast? ≠ some suffix := by
  intro hlast
  have hdigit := isDigit_mono hbase (h.isDigit suffix (List.mem_of_getLast? hlast))
  exact absurd hdigit (by decide)

/-- **A literal that names its base** is evaluated exactly. -/
theorem numberValue_radix {letter : Char} (named : (letter, base) ∈ baseLetters)
    (digits : Digits base true t n) :
    numberValue (zeroDigit :: CodePoint.ofChar letter :: t) = .literal (.int n) := by
  have hnamed : ∀ p ∈ baseLetters, base? (CodePoint.ofChar p.1) = some p.2 ∧ p.2 ≤ 16 ∧
      CodePoint.ofChar p.1 ≠ separator := by decide
  obtain ⟨hletter, hbase, hne⟩ : base? (CodePoint.ofChar letter) = some base ∧ base ≤ 16 ∧
    CodePoint.ofChar letter ≠ separator := hnamed _ named
  have hreads := reads_of_digits hbase digits
  have hinteger : integer? (zeroDigit :: CodePoint.ofChar letter :: ungrouped t) = some (n : Int) :=
    hreads.ofDigits ▸
      integer?_radix hletter (hbase.trans (by decide)) hreads.ne_nil hreads.isDigit
  have hungrouped : ungrouped (zeroDigit :: CodePoint.ofChar letter :: t) =
      zeroDigit :: CodePoint.ofChar letter :: ungrouped t := by
    rw [ungrouped_cons (by decide), ungrouped_cons hne]
  have hlast : (ungrouped (zeroDigit :: CodePoint.ofChar letter :: t)).getLast? ≠ some suffix := by
    rw [hungrouped, List.getLast?_cons_of_ne_nil (List.cons_ne_nil _ _),
      List.getLast?_cons_of_ne_nil hreads.ne_nil]
    exact hreads.getLast?_ne hbase
  rw [numberValue_eq hlast, hungrouped, hinteger]

/-- **Decimal digits** are evaluated to a literal value, which is exact as far as small integers can
    tell. -/
theorem numberValue_digits (h : Reads 10 (ungrouped t) n) :
    ∃ l, numberValue t = .literal l ∧
      ∀ k < Binary64.exactLimit, l.value? = some (k : ℚ) ↔ n = k := by
  have hreal := real?_digits h.ne_nil h.isDigit
  rw [numberValue_eq (h.getLast?_ne (by decide))]
  rcases integer?_digits h.ne_nil h.isDigit with hinteger | hinteger
  · rw [hinteger, hreal, h.ofDigits]
    exact ⟨_, rfl, fun k hk => Binary64.value?_ofDecimal_eq_some_iff hk⟩
  · rw [hinteger, h.ofDigits]
    refine ⟨_, rfl, fun k _ => ?_⟩
    rw [Literal.value?, Option.some.injEq, Int.cast_natCast, Nat.cast_inj]

/-! ## Octal digits in base ten -/

theorem ofDigits_eight_le_ten (digits : Text) : ofDigits 8 digits ≤ ofDigits 10 digits := by
  induction digits using List.reverseRecOn with
  | nil => exact le_rfl
  | append_singleton digits c ih =>
    rw [ofDigits_concat, ofDigits_concat]
    omega

theorem ofDigits_ten_eq_zero {digits : Text} (h : ofDigits 8 digits = 0) :
    ofDigits 10 digits = 0 := by
  induction digits using List.reverseRecOn with
  | nil => rfl
  | append_singleton digits c ih =>
    rw [ofDigits_concat] at h ⊢
    have hbefore := ih (by omega)
    omega

/-- **Octal digits write the same number in base ten only below eight**, where all digits but the
    last are zero. -/
theorem ofDigits_ten_eq_eight_iff {digits : Text} (h : ∀ c ∈ digits, isDigit 8 c = true) :
    ofDigits 10 digits = ofDigits 8 digits ↔ ofDigits 8 digits < 8 := by
  cases digits using List.reverseRecOn with
  | nil => exact iff_of_true rfl (by decide)
  | append_singleton digits c =>
    have hc : digitValue c < 8 := of_decide_eq_true (h c (by simp))
    have hle := ofDigits_eight_le_ten digits
    rw [ofDigits_concat, ofDigits_concat]
    constructor
    · intro heq
      omega
    · intro hlt
      rw [ofDigits_ten_eq_zero (by omega : ofDigits 8 digits = 0)]
      omega

/-- A legacy octal literal is read in base ten. -/
theorem reads_of_legacyOctal (h : LegacyOctal t n) :
    ∃ m, Reads 10 (ungrouped t) m ∧ (m = n ↔ n < 8) := by
  obtain ⟨digits⟩ := h
  rename_i t
  have hreads := reads_of_digits (by decide) digits
  refine ⟨ofDigits 10 (ungrouped t), ?_, ?_⟩
  · have hten : Reads 10 (ungrouped t) (ofDigits 10 (ungrouped t)) :=
      ⟨hreads.ne_nil, fun c hc => isDigit_mono (by decide) (hreads.isDigit c hc), rfl⟩
    exact hten.zero_cons (by decide)
  · have hiff := ofDigits_ten_eq_eight_iff hreads.isDigit
    rwa [hreads.ofDigits] at hiff

/-! ## Soundness -/

/-- **A constant that is bound to an integer literal is evaluated to the integer that the literal
    stands for, or not at all**, exactly if the literal is no legacy octal one of eight or more. -/
theorem numberValue_sound_iff (h : IntegerLiteral t n) (hn : n < 2 ^ 53) :
    (numberValue t = .unknown ∨
      ∃ l, numberValue t = .literal l ∧ l.value? = some (n : ℚ)) ↔
    ¬ (LegacyOctal t n ∧ 8 ≤ n) := by
  constructor
  · rintro hsound ⟨hlegacy, hge⟩
    obtain ⟨m, hreads, hiff⟩ := reads_of_legacyOctal hlegacy
    obtain ⟨l, hl, hvalue⟩ := numberValue_digits hreads
    rw [hl] at hsound
    rcases hsound with hunknown | ⟨l', hl', hvalue'⟩
    · cases hunknown
    · cases hl'
      exact absurd (hiff.1 ((hvalue n hn).1 hvalue')) hge.not_gt
  · intro hsmall
    have hexact : Reads 10 (ungrouped t) n → ∃ l, numberValue t = .literal l ∧
        l.value? = some (n : ℚ) := by
      intro hreads
      obtain ⟨l, hl, hvalue⟩ := numberValue_digits hreads
      exact ⟨l, hl, (hvalue n hn).2 rfl⟩
    cases h with
    | plain literal =>
      cases literal with
      | zero =>
        have digits : Digits 10 true [zeroDigit] 0 := .first (Or.inl rfl) (by decide)
        exact Or.inr (hexact (reads_of_digits (by decide) digits))
      | decimal digits first => exact Or.inr (hexact (reads_of_digits (by decide) digits))
      | radix named digits => exact Or.inr ⟨_, numberValue_radix named digits, rfl⟩
    | suffixed literal => exact Or.inl (numberValue_suffixed _)
    | legacyOctal literal =>
      obtain ⟨m, hreads, hiff⟩ := reads_of_legacyOctal literal
      have hlt : n < 8 := Nat.lt_of_not_ge fun hge => hsmall ⟨literal, hge⟩
      exact Or.inr (hexact (hiff.2 hlt ▸ hreads))
    | leadingZero digits decimal =>
      have hreads := reads_of_digits (by decide) digits
      exact Or.inr (hexact (hreads.zero_cons (by decide)))

theorem legacyOctal_pair {c d : CodePoint} {v w : Nat} (hc : smallDigits[v]? = some c)
    (hd : smallDigits[w]? = some d) (hv : v < 8) (hw : w < 8) :
    LegacyOctal [zeroDigit, c, d] (v * 8 + w) :=
  .mk (.next (.first (.inl hc) hv) (.inl hd) hw)

/-- Seven, written like an octal number. -/
theorem numberValue_sound_iff_seven :
    IntegerLiteral (Text.ofString "007") 7 ∧ 7 < 2 ^ 53 ∧
    (numberValue (Text.ofString "007") = .unknown ∨
      ∃ l, numberValue (Text.ofString "007") = .literal l ∧ l.value? = some ((7 : Nat) : ℚ)) := by
  have hlegacy : LegacyOctal (Text.ofString "007") (0 * 8 + 7) :=
    legacyOctal_pair (by decide) (by decide) (by decide) (by decide)
  have h : IntegerLiteral (Text.ofString "007") 7 := .legacyOctal hlegacy
  have hn : 7 < 2 ^ 53 := by decide
  exact ⟨h, hn, (numberValue_sound_iff h hn).2 fun hge => absurd hge.2 (by decide)⟩

/-- **A legacy octal literal is read in base ten**: this one stands for 15, and is evaluated to the
    number 17. -/
theorem numberValue_legacyOctal :
    IntegerLiteral (Text.ofString "017") 15 ∧
    numberValue (Text.ofString "017") = .literal (.float (Binary64.ofQuotient false 17 1)) ∧
    (Binary64.ofQuotient false 17 1).value? = some ((17 : Nat) : ℚ) ∧
    ¬ (numberValue (Text.ofString "017") = .unknown ∨
      ∃ l, numberValue (Text.ofString "017") = .literal l ∧ l.value? = some ((15 : Nat) : ℚ)) := by
  have hvalue : numberValue (Text.ofString "017") =
      .literal (.float (Binary64.ofQuotient false 17 1)) := by decide +kernel
  have hseventeen : (Binary64.ofQuotient false 17 1).value? = some ((17 : Nat) : ℚ) :=
    Binary64.value?_ofQuotient_of_lt (by decide) (by decide)
  have hlegacy : LegacyOctal (Text.ofString "017") (1 * 8 + 7) :=
    legacyOctal_pair (by decide) (by decide) (by decide) (by decide)
  refine ⟨.legacyOctal hlegacy, hvalue, hseventeen, ?_⟩
  rw [hvalue]
  rintro (hunknown | ⟨l, hl, hfifteen⟩)
  · cases hunknown
  · cases hl
    rw [Literal.value?, hseventeen, Option.some.injEq, Nat.cast_inj] at hfifteen
    exact absurd hfifteen (by decide)

end Extract

end CodeSurvey
