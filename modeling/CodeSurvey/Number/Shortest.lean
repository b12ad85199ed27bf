/-
  The shortest decimal text of a number.

  * `Decimal`: digits at a power of ten, and `Decimal.text`, their text;
  * `Binary64.shortest`: the decimal with the fewest digits that reads back as a
    number; of two with as few digits it is the nearer one, and of two equally
    near ones the even one;
  * `DecimalStyle`, `Binary64.text`: the text of a number, and what decides where its
    point stands.
-/
import CodeSurvey.Number.Binary64

namespace CodeSurvey

/-- The number `digits * 10 ^ exponent`. -/
structure Decimal where
  digits : Nat
  exponent : Int
  deriving DecidableEq, Repr

/-! ## Digits -/

namespace Binary64

/-- The digits of a finite number at the last decimal place that any number has. -/
def exactDigits (x : Binary64) : Nat :=
  x.significand * Nat.pow 2 x.scale * Nat.pow 5 1074

/-- The decimal that is exactly a finite number, up to its sign. -/
def exact (x : Binary64) : Decimal :=
  ⟨x.exactDigits, -1074⟩

/-- Whether a decimal with the sign of the number reads back as the number. -/
def isReadFrom (x : Binary64) (d : Decimal) : Bool :=
  ofDecimal x.isNegative d.digits d.exponent == x

/-- The decimals just below and above a finite number whose last place is that of its digit
    number `count`: the nearer one first, the even one of two. -/
def neighbours (x : Binary64) (count : Nat) : List Decimal :=
  let dropped := (Nat.toDigits 10 x.exactDigits).length - count
  let unit := Nat.pow 10 dropped
  let exponent := (dropped : Int) - 1074
  let below : Decimal := ⟨x.exactDigits / unit, exponent⟩
  let above : Decimal := ⟨x.exactDigits / unit + 1, exponent⟩
  if roundQuotient x.exactDigits unit = below.digits then [below, above] else [above, below]

/-- The decimal with the fewest digits that reads back as a finite number; seventeen digits are
    always enough. -/
def shortest (x : Binary64) : Decimal :=
  if x.isZero then ⟨0, 0⟩
  else
    ((List.range 17).findSome? fun i => (x.neighbours (i + 1)).find? x.isReadFrom).getD x.exact

end Binary64

/-! ## Text -/

/-- Where the point of a decimal stands.  Its place is counted from the start of the digits;
    where it lies beyond the two bounds, an exponent is written. -/
structure DecimalStyle where
  /-- The least place of the point that needs no exponent. -/
  leastPlace : Int
  /-- The greatest place of the point that needs no exponent. -/
  greatestPlace : Int
  /-- The least number of digits of an exponent. -/
  exponentWidth : Nat
  deriving DecidableEq, Repr

namespace Decimal

/-- The digits of a decimal without the zeros that end them. -/
def shownDigits (d : Decimal) : List Char :=
  ((Nat.toDigits 10 d.digits).reverse.dropWhile (· == '0')).reverse

/-- The place of the point, counted from the start of the digits. -/
def place (d : Decimal) : Int :=
  (Nat.toDigits 10 d.digits).length + d.exponent

/-- The digits, or a zero where there are none. -/
def orZero (digits : List Char) : List Char :=
  if digits.isEmpty then ['0'] else digits

/-- The text without an exponent, with at least one digit on each side of the point. -/
def plain (d : Decimal) : List Char :=
  let before := d.place.toNat
  let digits := d.shownDigits
  let whole := digits.take before ++ List.replicate (before - digits.length) '0'
  let fraction := List.replicate (-d.place).toNat '0' ++ digits.drop before
  orZero whole ++ '.' :: orZero fraction

/-- The text with an exponent, which has a sign and at least `width` digits. -/
def scientific (width : Nat) (d : Decimal) : List Char :=
  let power := d.place - 1
  let digits := Nat.toDigits 10 power.natAbs
  let mantissa := match d.shownDigits with
    | first :: second :: rest => first :: '.' :: second :: rest
    | digits => orZero digits
  mantissa ++ 'e' :: (if power < 0 then '-' else '+') ::
    List.replicate (width - digits.length) '0' ++ digits

/-- The text of a decimal. -/
def text (style : DecimalStyle) (d : Decimal) : String :=
  String.ofList
    (if style.leastPlace ≤ d.place && d.place ≤ style.greatestPlace then d.plain
     else d.scientific style.exponentWidth)

end Decimal

/-- The shortest text of a number. -/
def Binary64.text (style : DecimalStyle) (x : Binary64) : String :=
  if x.isFinite then (if x.isNegative then "-" else "") ++ x.shortest.text style
  else x.wordText

end CodeSurvey
