/-
  The registry of extractors.

  Extractors are registered by name under a language, in lower case.

  * `Registry.initial`: the built-in extractor for every grammar;
  * `Registry.register`: a later entry takes the place of an earlier one;
  * `Registry.get`: the extractor of a language, or the error that there is none.
-/
import CodeSurvey.Language

namespace CodeSurvey

/-- The extractors by language, in the order in which the languages were first registered. -/
structure Registry where
  entries : List (Text × Text)
  deriving DecidableEq, Repr

namespace Registry

/-- The extractor that every grammar has from the start. -/
def builtIn : Text := Text.ofString "JavaScriptExtractor"

/-- The registry to begin with. -/
def initial : Registry :=
  ⟨Grammar.all.map fun g => (g.name, builtIn)⟩

/-- The languages, in the order in which they were first registered. -/
def languages (r : Registry) : List Text :=
  r.entries.map Prod.fst

/-- Register an extractor for a language. -/
def register (r : Registry) (language extractor : Text) : Registry :=
  let key := language.lower
  if key ∈ r.languages then
    ⟨r.entries.map fun entry => if entry.1 = key then (key, extractor) else entry⟩
  else ⟨r.entries ++ [(key, extractor)]⟩

/-- No extractor is registered for the language. -/
structure Missing where
  language : Text
  deriving DecidableEq, Repr

/-- The sentence for a missing extractor. -/
def Missing.message (e : Missing) : Text :=
  Text.ofString "No extractor registered for language: " ++ e.language

/-- The extractor of a language. -/
def get (r : Registry) (language : Text) : Except Missing Text :=
  match r.entries.lookup language.lower with
  | some extractor => .ok extractor
  | none => .error ⟨language.lower⟩

end Registry

end CodeSurvey
