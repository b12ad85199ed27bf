/-
  Quoted text.

  `Text.quoted` shows a text between quotes.  The quotes are single unless the
  text holds single quotes and no double ones; a backslash, the quote itself and
  code points that show nothing are escaped.
-/
import CodeSurvey.Text.Hidden

namespace CodeSurvey

namespace Text

/-- The number in base sixteen with at least `width` digits. -/
def hex (width n : Nat) : Text :=
  let digits := Nat.toDigits 16 n
  (List.replicate (width - digits.length) '0' ++ digits).map CodePoint.ofChar

/-- A code point as it stands between the given quotes. -/
def escaped (quote : CodePoint) (c : CodePoint) : Text :=
  if c = '\x5c' || c = quote then ['\x5c', c]
  else if c = '\t' then .ofString "\\t"
  else if c = '\n' then .ofString "\\n"
  else if c = '\r' then .ofString "\\r"
  else if c.val < 0x20 || c.val = 0x7F then .ofString "\\x" ++ hex 2 c.val
  else if isHidden c then
    if c.val < 0x100 then .ofString "\\x" ++ hex 2 c.val
    else if c.val < 0x10000 then .ofString "\\u" ++ hex 4 c.val
    else .ofString "\\U" ++ hex 8 c.val
  else [c]

/-- The text between quotes. -/
def quoted (t : Text) : Text :=
  let single : CodePoint := '\x27'
  let double : CodePoint := '\x22'
  let quote := if single ∈ t ∧ double ∉ t then double else single
  quote :: t.flatMap (escaped quote) ++ [quote]

end Text

end CodeSurvey
