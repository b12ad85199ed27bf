/-
  UTF-8.

  * `Utf8.encode`: the bytes of a text; a surrogate takes the three bytes of its
    bit pattern, so every text has bytes of its own;
  * `Utf8.isEncodable`: whether strict UTF-8 has a form for the text, which is so
    when it holds no surrogate;
  * `Utf8.decode`: the text of a byte sequence, with U+FFFD for each longest
    piece that begins a form and does not end it.
-/
import CodeSurvey.Text.Basic

namespace CodeSurvey.Utf8

/-- The surrogate code points, which stand for no character of their own. -/
def isSurrogate (c : CodePoint) : Bool :=
  0xD800 ≤ c.val && c.val ≤ 0xDFFF

/-- The bytes of one code point. -/
def encodePoint (c : CodePoint) : List UInt8 :=
  if c.val < 0x80 then [c.val.toUInt8]
  else if c.val < 0x800 then
    [(0xC0 + c.val / 0x40).toUInt8, (0x80 + c.val % 0x40).toUInt8]
  else if c.val < 0x10000 then
    [(0xE0 + c.val / 0x1000).toUInt8, (0x80 + c.val / 0x40 % 0x40).toUInt8,
      (0x80 + c.val % 0x40).toUInt8]
  else
    [(0xF0 + c.val / 0x40000).toUInt8, (0x80 + c.val / 0x1000 % 0x40).toUInt8,
      (0x80 + c.val / 0x40 % 0x40).toUInt8, (0x80 + c.val % 0x40).toUInt8]

/-- The bytes of a text. -/
def encode (t : Text) : List UInt8 :=
  t.flatMap encodePoint

/-- Whether the text holds no surrogate. -/
def isEncodable (t : Text) : Bool :=
  t.all fun c => !isSurrogate c

/-- The code point that stands for bytes without a meaning. -/
def replacement : CodePoint := 0xFFFD

/-- The least and greatest byte that may follow a leading byte of a longer form, and how many
    bytes follow in all. -/
def following? (lead : Nat) : Option (Nat × Nat × Nat) :=
  if 0xC2 ≤ lead && lead ≤ 0xDF then some (0x80, 0xBF, 1)
  else if lead = 0xE0 then some (0xA0, 0xBF, 2)
  else if lead = 0xED then some (0x80, 0x9F, 2)
  else if 0xE1 ≤ lead && lead ≤ 0xEF then some (0x80, 0xBF, 2)
  else if lead = 0xF0 then some (0x90, 0xBF, 3)
  else if 0xF1 ≤ lead && lead ≤ 0xF3 then some (0x80, 0xBF, 3)
  else if lead = 0xF4 then some (0x80, 0x8F, 3)
  else none

/-- What a decoder keeps between bytes: the bits read so far of an unfinished form, the bytes it
    lacks, and the bounds of the next one. -/
structure Partial where
  bits : Nat
  lacking : Nat
  least : Nat
  greatest : Nat
  deriving DecidableEq, Repr

/-- The text of the bytes that come after an unfinished form, if there is one. -/
def decodeFrom : Option Partial → List UInt8 → Text
  | none, [] => []
  | some _, [] => [replacement]
  | state, b :: bs =>
    let byte := b.toNat
    let fresh : Option Partial × Text :=
      if byte < 0x80 then (none, [Fin.ofNat _ byte])
      else match following? byte with
        | some (least, greatest, count) =>
          (some ⟨byte % Nat.pow 2 (6 - count), count, least, greatest⟩, [])
        | none => (none, [replacement])
    match state with
    | none => fresh.2 ++ decodeFrom fresh.1 bs
    | some p =>
      if p.least ≤ byte && byte ≤ p.greatest then
        let bits := p.bits * 0x40 + byte % 0x40
        if p.lacking ≤ 1 then Fin.ofNat _ bits :: decodeFrom none bs
        else decodeFrom (some ⟨bits, p.lacking - 1, 0x80, 0xBF⟩) bs
      else replacement :: (fresh.2 ++ decodeFrom fresh.1 bs)

/-- The text of a byte sequence. -/
def decode (bytes : List UInt8) : Text :=
  decodeFrom none bytes

end CodeSurvey.Utf8
