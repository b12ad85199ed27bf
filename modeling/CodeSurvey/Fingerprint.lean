/-
  Keys of analysis inputs.

  * `Fingerprint.bytes`: the bytes that stand for a language tag and a source;
  * `Fingerprint.key`: their digest, under which a report is stored.
-/
import CodeSurvey.Digest.Sha256
import CodeSurvey.Text.Utf8

namespace CodeSurvey.Fingerprint

/-- The bytes of a language tag and a source, with a zero byte between them. -/
def bytes (language source : Text) : List UInt8 :=
  Utf8.encode language ++ 0 :: Utf8.encode source

/-- The key of a language tag and a source. -/
def key (language source : Text) : Text :=
  Text.ofString (Sha256.hex (bytes language source))

end CodeSurvey.Fingerprint
