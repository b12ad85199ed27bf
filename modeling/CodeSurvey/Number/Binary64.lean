/-
  Double-precision numbers, by their bits.

  A number is its sixty-four bits, so that equality, order and decimal text are
  decided exactly.  Logarithms and products are left to the machine (`toFloat`,
  `ofFloat`).

  * `Binary64.key`: the place of a number in the order of all numbers;
  * `Binary64.ofQuotient`: the number nearest to a quotient, a tie going to the
    even neighbour; `Binary64.ofDecimal`, `Binary64.ofInt` rest on it;
  * `Binary64.fixed`: the decimal text with a given number of places;
  * `Binary64.integer?`: the integer that a number is, if it is one.
-/

namespace CodeSurvey

/-- A double-precision number. -/
structure Binary64 where
  bits : UInt64
  deriving DecidableEq, Repr

namespace Binary64

/-! ## Parts -/

/-- Whether the sign bit is set. -/
def isNegative (x : Binary64) : Bool :=
  Nat.pow 2 63 ≤ x.bits.toNat

/-- The bits below the sign. -/
def magnitude (x : Binary64) : Nat :=
  x.bits.toNat % Nat.pow 2 63

/-- The magnitude of the infinities, above which there are only the NaNs. -/
def infinite : Nat :=
  0x7FF * Nat.pow 2 52

/-- Whether the bits stand for no number. -/
def isNaN (x : Binary64) : Bool :=
  infinite < x.magnitude

/-- Whether the number is neither infinite nor a NaN. -/
def isFinite (x : Binary64) : Bool :=
  x.magnitude < infinite

/-- The number with the given sign and magnitude. -/
def ofMagnitude (negative : Bool) (magnitude : Nat) : Binary64 :=
  ⟨UInt64.ofNat (magnitude + if negative then Nat.pow 2 63 else 0)⟩

/-- Zero. -/
def zero : Binary64 :=
  ofMagnitude false 0

/-- The significand of a finite number: its value is `significand * 2 ^ (scale - 1074)` up to sign. -/
def significand (x : Binary64) : Nat :=
  if x.magnitude < Nat.pow 2 52 then x.magnitude else x.magnitude % Nat.pow 2 52 + Nat.pow 2 52

/-- The exponent of a finite number, counted from that of the least positive one. -/
def scale (x : Binary64) : Nat :=
  x.magnitude / Nat.pow 2 52 - 1

/-- The integer that the number is; a number between two integers is none. -/
def integer? (x : Binary64) : Option Int :=
  let num := x.significand * Nat.pow 2 x.scale
  let whole : Int := (num / Nat.pow 2 1074 : Nat)
  if x.isFinite && num % Nat.pow 2 1074 == 0 then some (if x.isNegative then -whole else whole)
  else none

/-! ## Order -/

/-- The place of a number in the order; both zeros have the same. -/
def key (x : Binary64) : Int :=
  if x.isNegative then -(x.magnitude : Int) else x.magnitude

/-- At most, which no NaN is and nothing is to a NaN. -/
def le (x y : Binary64) : Bool :=
  !x.isNaN && !y.isNaN && x.key ≤ y.key

/-- Below, which no NaN is and nothing is to a NaN. -/
def lt (x y : Binary64) : Bool :=
  !x.isNaN && !y.isNaN && x.key < y.key

/-- Whether the number is one of the two zeros. -/
def isZero (x : Binary64) : Bool :=
  x.magnitude == 0

/-! ## Rounding -/

/-- The integer nearest to `num / den`, the even one of two. -/
def roundQuotient (num den : Nat) : Nat :=
  let quotient := num / den
  let twice := 2 * (num % den)
  if den < twice || (twice == den && quotient % 2 == 1) then quotient + 1 else quotient

/-- The number nearest to `num / den`, the even one of two, and infinity beyond the greatest. -/
def ofQuotient (negative : Bool) (num den : Nat) : Binary64 :=
  if num = 0 then ofMagnitude negative 0
  else
    let least := (1074 + num.log2) - (den.log2 + 53)
    let step := fun (scale : Nat) =>
      roundQuotient (num * Nat.pow 2 1074) (den * Nat.pow 2 scale) + scale * Nat.pow 2 52
    let scale :=
      if num * Nat.pow 2 1074 < den * Nat.pow 2 (least + 53) then least else least + 1
    ofMagnitude negative (min (step scale) infinite)

/-- The number nearest to an integer. -/
def ofInt (n : Int) : Binary64 :=
  ofQuotient (n < 0) n.natAbs 1

/-- The number nearest to `digits * 10 ^ exponent`. -/
def ofDecimal (negative : Bool) (digits : Nat) (exponent : Int) : Binary64 :=
  let places : Int := (Nat.toDigits 10 digits).length + exponent
  if digits = 0 || places < -400 then ofMagnitude negative 0
  else if 400 < places then ofMagnitude negative infinite
  else if 0 ≤ exponent then ofQuotient negative (digits * Nat.pow 10 exponent.toNat) 1
  else ofQuotient negative digits (Nat.pow 10 (-exponent).toNat)

/-! ## Decimal text -/

/-- The digits of `n` with a point before the last `places` of them. -/
def pointed (places n : Nat) : String :=
  let digits := Nat.toDigits 10 n
  let padded := List.replicate (places + 1 - digits.length) '0' ++ digits
  let whole := padded.take (padded.length - places)
  String.ofList (whole ++ if places = 0 then [] else '.' :: padded.drop (padded.length - places))

/-- The text of a number that has no digits. -/
def wordText (x : Binary64) : String :=
  if x.isNaN then "nan" else if x.isNegative then "-inf" else "inf"

/-- The decimal text with `places` digits after the point, a tie going to the even one. -/
def fixed (places : Nat) (x : Binary64) : String :=
  if x.isFinite then
    let num := x.significand * Nat.pow 2 x.scale * Nat.pow 10 places
    (if x.isNegative then "-" else "") ++ pointed places (roundQuotient num (Nat.pow 2 1074))
  else x.wordText

/-! ## Machine arithmetic -/

/-- The machine's form of the number. -/
def toFloat (x : Binary64) : Float :=
  Float.ofBits x.bits

/-- The bits of a machine number. -/
def ofFloat (x : Float) : Binary64 :=
  ⟨x.toBits⟩

end Binary64

end CodeSurvey
