/-
  Languages.

  * `Grammar`: the grammars that trees can follow;
  * `Grammar.ofTag?`: the grammar that a language tag means, whatever the case of
    its letters and the white space around it.
-/
import CodeSurvey.Text.Case
import CodeSurvey.Text.Blank
import CodeSurvey.Data.Basic

namespace CodeSurvey

/-- The grammars of the language family. -/
inductive Grammar where
  | javascript
  | typescript
  | tsx
  deriving DecidableEq, Repr

instance : Labelled Grammar where
  all := [.javascript, .typescript, .tsx]
  label
    | .javascript => "javascript"
    | .typescript => "typescript"
    | .tsx => "tsx"

namespace Grammar

/-- Every grammar. -/
def all : List Grammar := Labelled.all

/-- The name of a grammar, which is also a tag for it. -/
def name (g : Grammar) : Text :=
  Text.ofString (Labelled.label g)

/-- The tags of each grammar. -/
def tags : List (String × Grammar) :=
  [("javascript", .javascript), ("js", .javascript), ("jsx", .javascript), ("mjs", .javascript),
    ("cjs", .javascript), ("node", .javascript), ("typescript", .typescript),
    ("ts", .typescript), ("mts", .typescript), ("cts", .typescript), ("tsx", .tsx),
    ("react", .tsx)]

/-- The grammar that a language tag means. -/
def ofTag? (tag : Text) : Option Grammar :=
  let plain := tag.strip.lower
  (tags.find? fun entry => Text.ofString entry.1 = plain).map Prod.snd

/-- The name of a grammar is a tag for it. -/
theorem ofTag?_name (g : Grammar) : ofTag? g.name = some g := by
  cases g <;> decide +kernel

end Grammar

end CodeSurvey
