/-
  Best practices.

  Five rules look at the functions of a structure and at the lines of the source
  that they cover; each function that breaks a rule gives a finding.

  * `Severity`, `AnalysisConfig`: how serious a finding is, and the thresholds;
  * `Finding`: a broken rule;
  * `Practice.naming`, `Practice.length`, `Practice.parameters`,
    `Practice.errorHandling`, `Practice.comments`: the rules;
  * `Practice.check`: all findings, grouped by rule.
-/
import CodeSurvey.Structure.Written
import CodeSurvey.Text.Line
import CodeSurvey.Text.Word

namespace CodeSurvey

/-! ## Thresholds -/

/-- How serious a finding is. -/
inductive Severity where
  | info
  | warning
  | error
  deriving DecidableEq, Repr

instance : Labelled Severity where
  all := [.info, .warning, .error]
  label
    | .info => "info"
    | .warning => "warning"
    | .error => "error"

/-- The thresholds of the rules. -/
structure AnalysisConfig where
  /-- The least number of characters of a function name. -/
  minNameLength : Nat := 3
  /-- Names that may be shorter. -/
  shortNames : List Text := [.ofString "go", .ofString "run"]
  /-- The greatest length of a function's span. -/
  maxFunctionLines : Nat := 50
  maxParameters : Nat := 5
  /-- The least share of functions with a comment. -/
  minCommentRatio : Binary64 := .ofQuotient false 3 10
  /-- The share of comments matters where there are more functions than this. -/
  minFunctionsForComments : Nat := 5
  deriving DecidableEq, Repr

namespace AnalysisConfig

/-- The short names, each once, by their code points. -/
def sortedNames (c : AnalysisConfig) : List Text :=
  (distinct c.shortNames).mergeSort Text.le

/-- The written form. -/
def toData (c : AnalysisConfig) : Data :=
  .object [
    ("min_name_length", .nat c.minNameLength),
    ("short_name_allowlist", .list .text c.sortedNames),
    ("max_function_lines", .nat c.maxFunctionLines),
    ("max_parameters", .nat c.maxParameters),
    ("min_comment_ratio", .float c.minCommentRatio),
    ("min_functions_for_comment_check", .nat c.minFunctionsForComments)]

/-- Read the written form. -/
def read : Data → Checked AnalysisConfig :=
  Read.record "AnalysisConfig" fun fields =>
    AnalysisConfig.mk <$>
      Read.default 3 (Read.naturalWithin 1 20) "min_name_length" fields
      <*> Read.default [.ofString "go", .ofString "run"] (Read.members Read.text)
        "short_name_allowlist" fields
      <*> Read.default 50 (Read.naturalWithin 1 1000) "max_function_lines" fields
      <*> Read.default 5 (Read.naturalWithin 0 50) "max_parameters" fields
      <*> Read.default (.ofQuotient false 3 10) Read.share "min_comment_ratio" fields
      <*> Read.default 5 (Read.natural 0) "min_functions_for_comment_check" fields

end AnalysisConfig

/-! ## Findings -/

/-- A broken rule. -/
structure Finding where
  rule : Text
  passed : Bool := false
  message : Text
  severity : Severity
  /-- The line that the finding is about. -/
  line : Option Nat := none
  /-- What to do about it. -/
  suggestion : Option Text := none
  deriving DecidableEq, Repr

namespace Finding

/-- The written form. -/
def toData (f : Finding) : Data :=
  .object [
    ("rule", .text f.rule),
    ("passed", .bool f.passed),
    ("message", .text f.message),
    ("severity", Labelled.toData f.severity),
    ("line", .optional .nat f.line),
    ("suggestion", .optional .text f.suggestion)]

/-- Read the written form. -/
def read : Data → Checked Finding :=
  Read.record "BestPracticeCheck" fun fields =>
    Finding.mk <$> Read.required Read.text "rule" fields
      <*> Read.default false Read.boolean "passed" fields
      <*> Read.required Read.text "message" fields
      <*> Read.required Read.member "severity" fields
      <*> Read.default none (Read.optional (Read.natural 0)) "line" fields
      <*> Read.default none (Read.optional Read.text) "suggestion" fields

end Finding

namespace Practice

/-! ## Rules for a single function -/

/-- The finding about a function whose name is too short. -/
def namingFinding (f : FunctionInfo) : Finding where
  rule := .ofString "naming-convention"
  message := .ofString "Function name '" ++ f.name ++
    .ofString "' is too short; use a descriptive name"
  severity := .warning
  line := f.span.first
  suggestion := Text.ofString
    "Name the function after what it does, e.g. 'getUserData' instead of 'get'"

/-- The functions with names that are too short. -/
def naming (config : AnalysisConfig) (functions : List FunctionInfo) : List Finding :=
  (functions.filter fun f =>
    f.name.length < config.minNameLength && f.name ∉ config.shortNames).map namingFinding

/-- The finding about a function that is too long. -/
def lengthFinding (f : FunctionInfo) : Finding where
  rule := .ofString "function-length"
  message := .ofString "Function '" ++ f.name ++ .ofString "' is too long (" ++
    .ofNat f.span.length ++ .ofString " lines)"
  severity := .warning
  line := f.span.first
  suggestion := Text.ofString
    "Split the function into smaller functions that each do one thing"

/-- The functions that are too long. -/
def length (config : AnalysisConfig) (functions : List FunctionInfo) : List Finding :=
  (functions.filter fun f => config.maxFunctionLines < f.span.length).map lengthFinding

/-- The finding about a function with too many parameters. -/
def parametersFinding (f : FunctionInfo) : Finding where
  rule := .ofString "parameter-count"
  message := .ofString "Function '" ++ f.name ++ .ofString "' has too many parameters (" ++
    .ofNat f.params.length ++ .ofString ")"
  severity := .warning
  line := f.span.first
  suggestion := Text.ofString "Pass an options object or split the function"

/-- The functions with too many parameters. -/
def parameters (config : AnalysisConfig) (functions : List FunctionInfo) : List Finding :=
  (functions.filter fun f => config.maxParameters < f.params.length).map parametersFinding

/-! ## Rules that read the source -/

/-- The lines that a function covers, as one text. -/
def functionText (lines : List Text) (f : FunctionInfo) : Text :=
  Text.slice lines f.span.first f.span.last

/-- Whether a text catches errors anywhere. -/
def handlesErrors (t : Text) : Bool :=
  t.hasWord (.ofString "try") || t.hasWord (.ofString "catch")

/-- The finding about an async function that catches no errors. -/
def errorHandlingFinding (f : FunctionInfo) : Finding where
  rule := .ofString "error-handling"
  message := .ofString "Async function '" ++ f.name ++ .ofString "' has no error handling"
  severity := .error
  line := f.span.first
  suggestion := Text.ofString "Wrap awaited calls in a try/catch block"

/-- The async functions that catch no errors. -/
def errorHandling (lines : List Text) (functions : List FunctionInfo) : List Finding :=
  (functions.filter fun f => f.isAsync && !handlesErrors (functionText lines f)).map
    errorHandlingFinding

/-- Whether a text holds the start of a comment. -/
def hasComment (t : Text) : Bool :=
  (Text.ofString "//").occurs t || (Text.ofString "/*").occurs t

/-- Whether a line is a comment or the inside of one. -/
def isCommentLine (line : Text) : Bool :=
  ["//", "/*", "*"].any fun mark => (Text.ofString mark).isPrefixOf line.strip

/-- The line above a function. -/
def lineAbove? (lines : List Text) (f : FunctionInfo) : Option Text :=
  if 2 ≤ f.span.first then lines[f.span.first - 2]? else none

/-- Whether a comment stands inside a function or on the line above it. -/
def isCommented (lines : List Text) (f : FunctionInfo) : Bool :=
  hasComment (functionText lines f) || (lineAbove? lines f).any isCommentLine

/-- The finding about a unit of which too few functions have a comment. -/
def commentsFinding (commented all : Nat) : Finding where
  rule := .ofString "comment-coverage"
  message := .ofString "Low comment coverage: " ++ .ofNat commented ++ .ofString " of " ++
    .ofNat all ++ .ofString " functions are commented"
  severity := .info
  suggestion := Text.ofString "Document the key functions"

/-- The finding, if too few of the functions have a comment. -/
def comments (config : AnalysisConfig) (lines : List Text) (functions : List FunctionInfo) :
    List Finding :=
  let commented := functions.countP (isCommented lines)
  if functions.length ≤ config.minFunctionsForComments then []
  else if config.minCommentRatio.le (.ofQuotient false commented functions.length) then []
  else [commentsFinding commented functions.length]

/-! ## All rules -/

/-- The findings about the functions of a source. -/
def check (config : AnalysisConfig) (t : Text) (s : CodeStructure) : List Finding :=
  let functions := s.allFunctions
  naming config functions ++ length config functions ++ parameters config functions ++
    errorHandling t.lines functions ++ comments config t.lines functions

end Practice

end CodeSurvey
