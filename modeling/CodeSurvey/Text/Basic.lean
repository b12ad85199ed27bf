/-
  Text as a sequence of code points.

  Source text may hold surrogate code points that stand alone, which no
  `String` holds, so a text is a list of code points and its length counts them.

  * `CodePoint`, `Text`, and `Text.ofString` for the texts written in this library;
  * `Text.after?`, `Text.occurs`: a piece at the start of a text, or anywhere in it;
  * `Text.le`: the order of texts by their code points;
  * `Text.cuts`: the places between the code points of a text, each with what
    precedes and follows it; a search that looks behind or ahead is a search
    over the cuts;
  * `distinct`: the distinct members of a list in the order of first appearance.
-/

namespace CodeSurvey

/-- A code point, surrogates included. -/
abbrev CodePoint := Fin 0x110000

/-- A text: a list of code points. -/
abbrev Text := List CodePoint

/-- The code point of a character. -/
def CodePoint.ofChar (c : Char) : CodePoint :=
  ⟨c.toNat, by
    have h : c.toNat = c.val.toNat := rfl
    rw [h]
    rcases c.valid with h | ⟨_, h⟩ <;> omega⟩

instance : Coe Char CodePoint := ⟨CodePoint.ofChar⟩

/-- There are code points, so a numeral stands for one. -/
instance CodePoint.instNeZero : @NeZero Nat Zero.ofOfNat0 0x110000 :=
  ⟨Nat.succ_ne_zero 0x10FFFF⟩

/-- Two code points that compare equal are equal. -/
instance CodePoint.instLawfulBEq : LawfulBEq CodePoint := inferInstance

/-- Two texts that compare equal are equal. -/
instance Text.instLawfulBEq : LawfulBEq Text := inferInstance

/-- The line feed, which alone ends a line. -/
def CodePoint.newline : CodePoint := 10

namespace Text

/-- The code points of a string. -/
def ofString (s : String) : Text :=
  s.toList.map CodePoint.ofChar

/-- The decimal digits of a natural number. -/
def ofNat (n : Nat) : Text :=
  ofString (toString n)

/-- The decimal digits of an integer, after a minus sign if it is negative. -/
def ofInt (n : Int) : Text :=
  ofString (toString n)

/-! ## Pieces of text -/

/-- What follows `piece` in a text that starts with it. -/
def after? : Text → Text → Option Text
  | [], t => some t
  | _ :: _, [] => none
  | p :: ps, c :: cs => if c = p then after? ps cs else none

/-- Whether `piece` stands somewhere in the text. -/
def occurs (piece : Text) : Text → Bool
  | [] => piece.isEmpty
  | c :: cs => piece.isPrefixOf (c :: cs) || occurs piece cs

/-- The text without its leading and trailing code points in `drop`. -/
def trim (drop : CodePoint → Bool) (t : Text) : Text :=
  ((t.dropWhile drop).reverse.dropWhile drop).reverse

/-- The texts one after the other, with `sep` between neighbours. -/
def join (sep : Text) : List Text → Text
  | [] => []
  | [t] => t
  | t :: u :: rest => t ++ sep ++ join sep (u :: rest)

/-- Whether a text comes no later than another in the order of their code points. -/
def le : Text → Text → Bool
  | [], _ => true
  | _ :: _, [] => false
  | c :: cs, d :: ds => c.val < d.val || (c == d && le cs ds)

/-! ## Cuts -/

/-- A place in a text: the code point just before it, if any, and all that follows. -/
structure Cut where
  before : Option CodePoint
  rest : Text
  deriving DecidableEq, Repr

/-- The cuts of a text that stands after `before`. -/
def cutsAfter (before : Option CodePoint) : Text → List Cut
  | [] => [⟨before, []⟩]
  | c :: cs => ⟨before, c :: cs⟩ :: cutsAfter (some c) cs

/-- Every place in a text, from its start to its end. -/
def cuts (t : Text) : List Cut :=
  cutsAfter none t

end Text

/-- The distinct members of a list, in the order of first appearance. -/
def distinct {α : Type} [DecidableEq α] : List α → List α
  | [] => []
  | a :: as => a :: (distinct as).filter (· ≠ a)

end CodeSurvey
