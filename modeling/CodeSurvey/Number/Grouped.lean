/-
  Numerals with grouped digits.

  How a record reads a number that is given as a text.  Only ASCII digits count;
  low lines may separate groups of them (`1_000`).

  * `Grouped.integer`: an integer, of which white space, leading zeros, a plus sign and
    a fraction of zeros are dropped (`Grouped.cleaned?`); it has no more than
    `Numeral.digitLimit` digits;
  * `Grouped.real?`: a decimal fraction, which low lines may separate anywhere
    inside as long as no white space surrounds it.
-/
import CodeSurvey.Number.Numeral

namespace CodeSurvey.Grouped

/-! ## Groups -/

/-- White space around a numeral. -/
def isPadding (c : CodePoint) : Bool :=
  isBlank c && !(0x1C ≤ c.val && c.val ≤ 0x1F)

/-- Whether the low lines stand one by one, and neither first nor last. -/
def isSeparated (t : Text) : Bool :=
  t.cuts.all fun cut =>
    cut.rest.head? != some '_' ||
      (cut.before.isSome && cut.before != some '_' && !cut.rest.tail.isEmpty)

/-- The text without its low lines, if they separate groups. -/
def joined? (t : Text) : Option Text :=
  if isSeparated t then some (t.filter fun c => c != '_') else none

/-! ## Integers -/

/-- What keeps a text from being an integer. -/
inductive Misread where
  | malformed
  /-- There are more digits than `Numeral.digitLimit`. -/
  | tooLong
  deriving DecidableEq, Repr

/-- The text without a plus sign at its start, which no minus sign may follow. -/
def withoutPlus? : Text → Option Text
  | [] => some []
  | c :: cs =>
    if c = '+' then if cs.head? = some '-' then none else some cs
    else some (c :: cs)

/-- What follows `last` in a row of zeros and low lines: the numeral from its first other digit
    or its minus sign.  A point, and the end of the text, keep what stands before them. -/
def afterZeros? (last : CodePoint) : Text → Option Text
  | [] => some [last]
  | c :: cs =>
    if c = '0' || c = '_' then afterZeros? c cs
    else if c = '-' || Numeral.isDigit 10 c then some (c :: cs)
    else if c = '.' then some (last :: c :: cs)
    else none

/-- The numeral without its leading zeros, of which one is left if there is no other digit. -/
def withoutZeros? : Text → Option Text
  | [] => none
  | c :: cs =>
    if c = '0' then afterZeros? c cs
    else if c = '-' || Numeral.isDigit 10 c then some (c :: cs)
    else none

/-- The numeral without a fraction that is all zeros. -/
def withoutFraction (t : Text) : Text :=
  let isWhole := fun c : CodePoint => c != '.'
  let fraction := (t.dropWhile isWhole).drop 1
  if !fraction.isEmpty && fraction.all (fun c => c == '0') then t.takeWhile isWhole else t

/-- The minus sign at the start of a text, and the rest. -/
def splitMinus : Text → Text × Text
  | [] => ([], [])
  | c :: cs => if c = '-' then ([c], cs) else ([], c :: cs)

/-- The integer that digits write after an optional minus sign; only zero itself starts with a
    zero. -/
def bareInteger (t : Text) : Except Misread Int :=
  let (minus, digits) := splitMinus t
  if digits.head? = some '0' && 1 < digits.length then .error .malformed
  else if Numeral.digitLimit < (digits.takeWhile (Numeral.isDigit 10)).length then
    .error .tooLong
  else match Numeral.natural? 10 digits with
    | some n => .ok (if minus.isEmpty then n else -(n : Int))
    | none => .error .malformed

/-- The text of an integer with all dropped that may be dropped.  Zeros are dropped behind the
    sign; a minus sign may also stand behind them. -/
def cleaned? (t : Text) : Option Text :=
  (withoutPlus? (t.trim isPadding)).bind fun numeral =>
    let (minus, unsigned) := splitMinus numeral
    (withoutZeros? unsigned).map fun digits =>
      let whole := withoutFraction digits
      minus ++ (joined? whole).getD whole

/-- The integer that a text writes as it stands, or when it is cleaned.  Only a text that starts
    with too many digits as it stands counts as too long. -/
def integer (t : Text) : Except Misread Int :=
  match bareInteger t, (cleaned? t).map bareInteger with
  | .error .malformed, some (.ok n) => .ok n
  | .error .malformed, _ => .error .malformed
  | result, _ => result

/-! ## Fractions -/

/-- The number nearest to what a text writes. -/
def real? (t : Text) : Option Binary64 :=
  let numeral := t.trim isPadding
  let plain :=
    if numeral.all fun c => c != '_' then some numeral
    else if numeral = t then joined? t
    else none
  (plain.filter fun ascii => ascii.all fun c => c.val < 0x80).bind Numeral.real?

end CodeSurvey.Grouped
