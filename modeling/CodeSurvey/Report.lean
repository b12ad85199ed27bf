/-
  Reports.

  * `Report`: all that an analysis finds out about a source unit;
  * `Report.build`: the report of a text in the language of a tag, with the
    diagnostics; a language without grammar gets the lines counted only;
  * `Report.analyze?`: the same for plain data, which has to be texts.
-/
import CodeSurvey.Dependency.Graph
import CodeSurvey.Extract.Unit
import CodeSurvey.Metrics.Complexity
import CodeSurvey.Pattern
import CodeSurvey.Practice
import CodeSurvey.Summary

namespace CodeSurvey

/-- What an analysis finds out about a source unit. -/
structure Report where
  language : Text
  code : CodeStructure := {}
  dependencies : DependencyGraph := {}
  patterns : List CodePattern := []
  complexity : ComplexityMetrics := {}
  findings : List Finding := []
  semantics : SemanticAnalysis := {}
  deriving DecidableEq, Repr

namespace Report

/-- The graph of a unit that is analysed on its own. -/
def unitGraph (s : CodeStructure) : DependencyGraph :=
  Dependency.graph Dependency.platformModules s.imports Dependency.mainModule

/-- The report of a text with its structure. -/
def ofStructure (config : AnalysisConfig) (t tag : Text) (s : CodeStructure) : Report where
  language := tag
  code := s
  dependencies := unitGraph s
  patterns := Pattern.detect Pattern.builtIn t s
  complexity := .ofText t
  findings := Practice.check config t s
  semantics := .ofUnit t s

/-- The report of a text in a language without grammar. -/
def minimal (t tag : Text) : Report where
  language := tag
  dependencies := unitGraph .empty
  complexity := .ofLines t

/-- The report of a text in the language of a tag, with the diagnostics. -/
def build (parser : Parser) (config : AnalysisConfig) (t tag : Text) :
    Report × List Diagnostic :=
  if parser.supports tag then
    let found := Extract.unit parser t tag
    (ofStructure config t tag found.1, found.2)
  else (minimal t tag, [])

/-! ## Arguments -/

/-- An argument is not a text. -/
inductive InputError where
  | source (given : Data)
  | language (given : Data)

/-- The sentence for an argument that is not a text. -/
def InputError.message : InputError → Text
  | source given => .ofString ("source_code must be a string, got " ++ given.kindWord)
  | language given => .ofString ("language must be a string, got " ++ given.kindWord)

/-- The two arguments as texts; the source is looked at first. -/
def arguments? : Data → Data → Except InputError (Text × Text)
  | .text source, .text language => .ok (source, language)
  | .text _, language => .error (.language language)
  | source, _ => .error (.source source)

/-- The report of plain data, which has to be texts. -/
def analyze? (parser : Parser) (config : AnalysisConfig) (source language : Data) :
    Except InputError (Report × List Diagnostic) :=
  (arguments? source language).map fun texts => build parser config texts.1 texts.2

/-! ## Written form -/

/-- The written form under a naming of the references. -/
def toData (naming : EdgeNaming) (r : Report) : Data :=
  .object [
    ("language", .text r.language),
    ("structure", r.code.toData),
    ("dependencies", r.dependencies.toData naming),
    ("patterns", .list CodePattern.toData r.patterns),
    ("complexity", r.complexity.toData),
    ("best_practices", .list Finding.toData r.findings),
    ("semantic_analysis", r.semantics.toData)]

/-- Read the written form. -/
def read : Data → Checked Report :=
  Read.record "CodeUnderstanding" fun fields =>
    Report.mk <$> Read.required Read.text "language" fields
      <*> Read.default {} CodeStructure.read "structure" fields
      <*> Read.default {} DependencyGraph.read "dependencies" fields
      <*> Read.default [] (Read.list CodePattern.read) "patterns" fields
      <*> Read.default {} ComplexityMetrics.read "complexity" fields
      <*> Read.default [] (Read.list Finding.read) "best_practices" fields
      <*> Read.default {} SemanticAnalysis.read "semantic_analysis" fields

end Report

end CodeSurvey
