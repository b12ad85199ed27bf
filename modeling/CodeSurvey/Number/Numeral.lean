/-
  Numerals.

  How the text of a number is read.  White space around a numeral is skipped, and
  the decimal digits of every script count as digits.

  * `Numeral.integer?`: an integer in base ten, or in base two, eight or sixteen
    after `0b`, `0o` or `0x`; a base-ten integer other than zero starts with no
    zero and has no more than `Numeral.digitLimit` digits;
  * `Numeral.real?`: a decimal fraction with an optional exponent, or one of the
    words for infinity and for what is not a number.
-/
import CodeSurvey.Text.Blank
import CodeSurvey.Number.Binary64

namespace CodeSurvey.Numeral

/-! ## Digits -/

/-- The digit zero of each script. -/
def scriptZeros : List Nat :=
  [0x30, 0x660, 0x6F0, 0x7C0, 0x966, 0x9E6, 0xA66, 0xAE6, 0xB66, 0xBE6, 0xC66, 0xCE6, 0xD66,
    0xDE6, 0xE50, 0xED0, 0xF20, 0x1040, 0x1090, 0x17E0, 0x1810, 0x1946, 0x19D0, 0x1A80, 0x1A90,
    0x1B50, 0x1BB0, 0x1C40, 0x1C50, 0xA620, 0xA8D0, 0xA900, 0xA9D0, 0xA9F0, 0xAA50, 0xABF0,
    0xFF10, 0x104A0, 0x10D30, 0x11066, 0x110F0, 0x11136, 0x111D0, 0x112F0, 0x11450, 0x114D0,
    0x11650, 0x116C0, 0x11730, 0x118E0, 0x11950, 0x11C50, 0x11D50, 0x11DA0, 0x16A60, 0x16AC0,
    0x16B50, 0x1D7CE, 0x1D7D8, 0x1D7E2, 0x1D7EC, 0x1D7F6, 0x1E140, 0x1E2F0, 0x1E950, 0x1FBF0]

/-- The code point with digits of any script and white space brought to ASCII. -/
def toAscii (c : CodePoint) : CodePoint :=
  if c.val < 0x80 then c
  else if isBlank c then 0x20
  else match scriptZeros.find? fun start => start ≤ c.val && c.val < start + 10 with
    | some start => Fin.ofNat _ (0x30 + (c.val - start))
    | none => c

/-- White space around a numeral, in ASCII. -/
def isPadding (c : CodePoint) : Bool :=
  c.val == 0x20 || (0x09 ≤ c.val && c.val ≤ 0x0D)

/-- The value of a digit; letters go on after the nine. -/
def digitValue (c : CodePoint) : Nat :=
  if 0x30 ≤ c.val && c.val ≤ 0x39 then c.val - 0x30
  else if 0x41 ≤ c.val && c.val ≤ 0x5A then c.val - 0x41 + 10
  else if 0x61 ≤ c.val && c.val ≤ 0x7A then c.val - 0x61 + 10
  else 36

/-- Whether the code point is a digit of the base. -/
def isDigit (base : Nat) (c : CodePoint) : Bool :=
  digitValue c < base

/-- The number that the digits write in the base. -/
def ofDigits (base : Nat) (digits : Text) : Nat :=
  digits.foldl (fun n c => n * base + digitValue c) 0

/-- The sign and the rest of a numeral. -/
def splitSign : Text → Bool × Text
  | [] => (false, [])
  | c :: cs =>
    if c = '-' then (true, cs) else if c = '+' then (false, cs) else (false, c :: cs)

/-- The numeral that a text holds, with its sign taken off. -/
def body (t : Text) : Bool × Text :=
  splitSign (Text.trim isPadding (t.map toAscii))

/-! ## Integers -/

/-- The greatest number of digits of a base-ten integer. -/
def digitLimit : Nat :=
  4300

/-- The number that a non-empty text of digits writes in the base. -/
def natural? (base : Nat) (digits : Text) : Option Nat :=
  if digits.isEmpty || !digits.all (isDigit base) then none else some (ofDigits base digits)

/-- A base-ten number without leading zeros and within the digit limit. -/
def decimal? (digits : Text) : Option Nat :=
  if digitLimit < digits.length then none
  else (natural? 10 digits).filter fun n => n = 0 || digits.head? != some '0'

/-- The base that a letter after a leading zero announces. -/
def base? (c : CodePoint) : Option Nat :=
  if c = 'x' || c = 'X' then some 16
  else if c = 'o' || c = 'O' then some 8
  else if c = 'b' || c = 'B' then some 2
  else none

/-- The natural number that a text without sign writes. -/
def unsigned? : Text → Option Nat
  | first :: c :: digits =>
    match if first = '0' then base? c else none with
    | some base => natural? base digits
    | none => decimal? (first :: c :: digits)
  | digits => decimal? digits

/-- The integer that a text writes. -/
def integer? (t : Text) : Option Int :=
  (unsigned? (body t).2).map fun n => if (body t).1 then -(n : Int) else n

/-! ## Fractions -/

/-- The words for infinity. -/
def infinityWords : List Text :=
  [Text.ofString "inf", Text.ofString "infinity"]

/-- The word for what is not a number. -/
def nanWord : Text :=
  Text.ofString "nan"

/-- The small form of an ASCII letter. -/
def asciiLower (c : CodePoint) : CodePoint :=
  if 0x41 ≤ c.val && c.val ≤ 0x5A then c + 0x20 else c

/-- The exponent that ends a numeral; none is zero. -/
def exponent? : Text → Option Int
  | [] => some 0
  | c :: cs =>
    if c = 'e' || c = 'E' then
      (natural? 10 (splitSign cs).2).map fun n => if (splitSign cs).1 then -(n : Int) else n
    else none

/-- The number that digits with an optional point and exponent write. -/
def fraction? (negative : Bool) (t : Text) : Option Binary64 :=
  let whole := t.takeWhile (isDigit 10)
  let rest := t.dropWhile (isDigit 10)
  let tail := match rest with
    | c :: cs => if c = '.' then cs else rest
    | [] => []
  let places := if rest.head? = some '.' then tail.takeWhile (isDigit 10) else []
  let digits := whole ++ places
  if digits.isEmpty then none
  else (exponent? (tail.drop places.length)).map fun e =>
    Binary64.ofDecimal negative (ofDigits 10 digits) (e - places.length)

/-- The number nearest to what a text writes. -/
def real? (t : Text) : Option Binary64 :=
  let negative := (body t).1
  let word := (body t).2.map asciiLower
  if word ∈ infinityWords then some (Binary64.ofMagnitude negative Binary64.infinite)
  else if word = nanWord then
    some (Binary64.ofMagnitude negative (Binary64.infinite + Nat.pow 2 51))
  else fraction? negative (body t).2

end CodeSurvey.Numeral
