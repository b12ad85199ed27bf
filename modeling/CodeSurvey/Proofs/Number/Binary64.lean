/-
  Integers among the double-precision numbers.

  * `Binary64.value?`: the rational number that a finite number is;
  * `value?_ofMagnitude`: the value of a normal number from its exponent and its fraction;
  * `ofQuotient_one_eq`: what an integer is rounded to; `value?_ofQuotient_of_lt`: small integers
    are themselves; `le_of_value?_ofQuotient`: greater ones never become small;
  * `value?_ofDecimal_eq_some_iff`: a small integer is read from its own digits only.
-/
import CodeSurvey.Number.Binary64
import Mathlib.Algebra.Order.Field.Rat
import Mathlib.Data.Nat.Digits.Defs
import Mathlib.Data.Nat.Log
import Mathlib.Tactic.FieldSimp
import Mathlib.Tactic.Linarith
import Mathlib.Tactic.NormNum
import Mathlib.Tactic.Positivity
import Mathlib.Tactic.Ring

namespace CodeSurvey.Binary64

variable {k m n exponent fraction : Nat}

/-! ## Values -/

/-- The number of binary places behind the point that a number can have. -/
def places : Nat :=
  1074

/-- The rational number that a finite number is. -/
def value? (x : Binary64) : Option ℚ :=
  if x.isFinite then
    some ((if x.isNegative then -1 else 1) * (x.significand * 2 ^ x.scale / 2 ^ places))
  else none

/-- Integers below this one are not rounded. -/
def exactLimit : Nat :=
  2 ^ 53

theorem infinite_eq : infinite = 2047 * 2 ^ 52 :=
  rfl

theorem toNat_bits_ofMagnitude (h : m ≤ infinite) : (ofMagnitude false m).bits.toNat = m := by
  rw [infinite_eq] at h
  simp only [ofMagnitude, Bool.false_eq_true, if_false, Nat.add_zero, UInt64.toNat_ofNat']
  exact Nat.mod_eq_of_lt (by omega)

theorem isNegative_ofMagnitude (h : m ≤ infinite) : (ofMagnitude false m).isNegative = false := by
  rw [isNegative, toNat_bits_ofMagnitude h, Nat.pow_eq, decide_eq_false_iff_not]
  rw [infinite_eq] at h
  omega

theorem magnitude_ofMagnitude (h : m ≤ infinite) : (ofMagnitude false m).magnitude = m := by
  rw [magnitude, toNat_bits_ofMagnitude h, Nat.pow_eq]
  rw [infinite_eq] at h
  exact Nat.mod_eq_of_lt (by omega)

theorem value?_infinite : (ofMagnitude false infinite).value? = none := by
  have hfinite : (ofMagnitude false infinite).isFinite = false := by
    rw [isFinite, magnitude_ofMagnitude le_rfl, decide_eq_false_iff_not]
    exact Nat.lt_irrefl _
  rw [value?, hfinite]
  rfl

theorem value?_zero : (ofMagnitude false 0).value? = some 0 := by
  have hmagnitude : (ofMagnitude false 0).magnitude = 0 := magnitude_ofMagnitude (Nat.zero_le _)
  have hsignificand : (ofMagnitude false 0).significand = 0 := by
    rw [significand, hmagnitude, Nat.pow_eq, if_pos (by norm_num)]
  have hfinite : (ofMagnitude false 0).isFinite = true := by
    rw [isFinite, hmagnitude, infinite_eq]
    rfl
  rw [value?, hfinite, hsignificand, Nat.cast_zero, zero_mul, zero_div, mul_zero]
  rfl

/-- The value of a normal number. -/
theorem value?_ofMagnitude (hfraction : fraction < 2 ^ 52) (hpos : 0 < exponent)
    (hexponent : exponent < 2047) :
    (ofMagnitude false (exponent * 2 ^ 52 + fraction)).value? =
      some (((2 ^ 52 + fraction : Nat) : ℚ) * 2 ^ (exponent - 1) / 2 ^ places) := by
  have hlt : exponent * 2 ^ 52 + fraction < infinite := by
    rw [infinite_eq]
    omega
  have hmagnitude := magnitude_ofMagnitude hlt.le
  have hfinite : (ofMagnitude false (exponent * 2 ^ 52 + fraction)).isFinite = true := by
    rw [isFinite, hmagnitude]
    exact decide_eq_true hlt
  have hsignificand :
      (ofMagnitude false (exponent * 2 ^ 52 + fraction)).significand = 2 ^ 52 + fraction := by
    rw [significand, hmagnitude, Nat.pow_eq, if_neg (by omega)]
    omega
  have hscale : (ofMagnitude false (exponent * 2 ^ 52 + fraction)).scale = exponent - 1 := by
    rw [scale, hmagnitude, Nat.pow_eq]
    omega
  rw [value?, hfinite, isNegative_ofMagnitude hlt.le, hsignificand, hscale]
  simp only [if_true, Bool.false_eq_true, if_false, one_mul]

/-! ## Rounding an integer -/

theorem roundQuotient_mul_self (m : Nat) {d : Nat} (h : 0 < d) : roundQuotient (m * d) d = m := by
  simp only [roundQuotient, Nat.mul_div_cancel m h, Nat.mul_mod_left]
  rw [if_neg]
  simp only [Nat.mul_zero, Bool.or_eq_true, Bool.and_eq_true, beq_iff_eq, decide_eq_true_eq]
  omega

theorem div_le_roundQuotient (num den : Nat) : num / den ≤ roundQuotient num den := by
  rw [roundQuotient]
  split
  · exact Nat.le_succ _
  · exact le_rfl

/-- A positive integer is rounded at the place that its first binary digit decides. -/
theorem ofQuotient_one_eq (hn : 0 < n) :
    ofQuotient false n 1 =
      ofMagnitude false (min (roundQuotient (n * 2 ^ places) (2 ^ (n.log2 + 1022)) +
        (n.log2 + 1022) * 2 ^ 52) infinite) := by
  have hplaces : places = 1074 := rfl
  have hone : Nat.log2 1 = 0 := by decide
  have hleast : places + n.log2 - (Nat.log2 1 + 53) = n.log2 + 1021 := by omega
  have hge : ¬ n * 2 ^ places < 2 ^ (n.log2 + 1021 + 53) := by
    have hexponent : n.log2 + 1021 + 53 = n.log2 + places := by omega
    rw [hexponent, Nat.pow_add, Nat.not_lt]
    exact Nat.mul_le_mul_right _ (Nat.log2_self_le hn.ne')
  simp only [ofQuotient, ← hplaces, hn.ne', if_false, hleast, Nat.pow_eq, Nat.one_mul, hge]

/-- **Small integers are not rounded.** -/
theorem value?_ofQuotient_of_lt (hn : 0 < n) (h : n < exactLimit) :
    (ofQuotient false n 1).value? = some (n : ℚ) := by
  have hlog : n.log2 ≤ 52 := Nat.lt_succ_iff.1 ((Nat.log2_lt hn.ne').2 h)
  obtain ⟨r, hr⟩ := Nat.exists_eq_add_of_le hlog
  have hplaces : places = r + (n.log2 + 1022) := by
    rw [places]
    omega
  -- the first binary digit moves to its place, and nothing is left behind the last one
  have hround : roundQuotient (n * 2 ^ places) (2 ^ (n.log2 + 1022)) = n * 2 ^ r := by
    rw [hplaces, Nat.pow_add, ← Nat.mul_assoc]
    exact roundQuotient_mul_self _ (Nat.two_pow_pos _)
  have hlow : 2 ^ 52 ≤ n * 2 ^ r := by
    rw [hr, Nat.pow_add]
    exact Nat.mul_le_mul_right _ (Nat.log2_self_le hn.ne')
  have hhigh : n * 2 ^ r < 2 ^ 53 := by
    have hexponent : 53 = n.log2 + 1 + r := by omega
    rw [hexponent, Nat.pow_add]
    exact Nat.mul_lt_mul_of_pos_right Nat.lt_log2_self (Nat.two_pow_pos r)
  have hsum : min (n * 2 ^ r + (n.log2 + 1022) * 2 ^ 52) infinite =
      (n.log2 + 1023) * 2 ^ 52 + (n * 2 ^ r - 2 ^ 52) := by
    rw [infinite_eq]
    omega
  have hscale : n.log2 + 1023 - 1 = n.log2 + 1022 := by omega
  rw [ofQuotient_one_eq hn, hround, hsum, value?_ofMagnitude (by omega) (by omega) (by omega),
    Nat.add_sub_cancel' hlow, Option.some.injEq, hscale, hplaces, pow_add _ r, Nat.cast_mul,
    Nat.cast_pow, Nat.cast_ofNat, mul_assoc]
  exact mul_div_cancel_right₀ (n : ℚ) (by positivity)

/-- **Greater integers are not rounded to small ones.** -/
theorem le_of_value?_ofQuotient (h : exactLimit ≤ n) {q : ℚ}
    (hq : (ofQuotient false n 1).value? = some q) : (exactLimit : ℚ) ≤ q := by
  have hn : 0 < n := lt_of_lt_of_le (Nat.two_pow_pos 53) h
  have hlog : 53 ≤ n.log2 := (Nat.le_log2 hn.ne').2 h
  have hround : 2 ^ 52 ≤ roundQuotient (n * 2 ^ places) (2 ^ (n.log2 + 1022)) := by
    refine le_trans ?_ (div_le_roundQuotient _ _)
    rw [Nat.le_div_iff_mul_le (Nat.two_pow_pos _), ← Nat.pow_add]
    have hexponent : 52 + (n.log2 + 1022) = n.log2 + places := by
      rw [places]
      omega
    rw [hexponent, Nat.pow_add]
    exact Nat.mul_le_mul_right _ (Nat.log2_self_le hn.ne')
  rw [ofQuotient_one_eq hn] at hq
  generalize hm : min (roundQuotient (n * 2 ^ places) (2 ^ (n.log2 + 1022)) +
    (n.log2 + 1022) * 2 ^ 52) infinite = m at hq
  have hlow : 1076 * 2 ^ 52 ≤ m := by
    rw [← hm, infinite_eq]
    omega
  have hhigh : m ≤ infinite := by
    rw [← hm]
    exact Nat.min_le_right _ _
  rcases hhigh.lt_or_eq with hlt | rfl
  · rw [infinite_eq] at hlt
    rw [← Nat.div_add_mod' m (2 ^ 52), value?_ofMagnitude (Nat.mod_lt _ (Nat.two_pow_pos 52))
      (by omega) (by omega), Option.some.injEq] at hq
    -- the fraction only adds to the least number of its exponent, which is no small integer
    have hle : exactLimit * 2 ^ places ≤ (2 ^ 52 + m % 2 ^ 52) * 2 ^ (m / 2 ^ 52 - 1) := by
      have hexponent : places + 1 ≤ m / 2 ^ 52 - 1 := by
        rw [places]
        omega
      have hdouble : ∀ s, exactLimit * 2 ^ s = 2 ^ 52 * 2 ^ (s + 1) := by
        intro s
        rw [exactLimit, Nat.pow_succ 2 s]
        omega
      rw [hdouble]
      exact Nat.mul_le_mul (Nat.le_add_right _ _) (pow_le_pow_right₀ one_le_two hexponent)
    rw [← hq, le_div_iff₀ (by positivity)]
    exact_mod_cast hle
  · rw [value?_infinite] at hq
    cases hq

/-! ## Reading an integer -/

/-- **A small integer is read from its own digits**, and from those of no other natural number. -/
theorem value?_ofDecimal_eq_some_iff (hk : k < exactLimit) :
    (ofDecimal false n 0).value? = some (k : ℚ) ↔ n = k := by
  rw [ofDecimal]
  rcases Nat.eq_zero_or_pos n with rfl | hn
  · simp only [decide_true, Bool.true_or, if_true, value?_zero, Option.some.injEq]
    rw [eq_comm, Nat.cast_eq_zero, eq_comm]
  · have hlow : ¬ ((Nat.toDigits 10 n).length : Int) + 0 < -400 := by omega
    simp only [hn.ne', hlow, decide_false, Bool.or_self, Bool.false_eq_true, if_false, le_rfl,
      if_true, Int.toNat_zero, Nat.pow_eq, pow_zero, mul_one]
    split
    · -- so many digits write no small integer
      rename_i hlong
      rw [value?_infinite]
      refine iff_of_false (by simp) ?_
      rintro rfl
      have hdigits := Nat.toDigits_length 10 n 16 (by decide) (hk.trans (by decide))
      omega
    · rcases Nat.lt_or_ge n exactLimit with hlt | hge
      · rw [value?_ofQuotient_of_lt hn hlt, Option.some.injEq, Nat.cast_inj]
      · refine iff_of_false (fun hq => ?_) (fun heq => absurd hk (heq ▸ hge.not_gt))
        have hle : exactLimit ≤ k := by exact_mod_cast le_of_value?_ofQuotient hge hq
        exact absurd hk hle.not_gt

end CodeSurvey.Binary64
