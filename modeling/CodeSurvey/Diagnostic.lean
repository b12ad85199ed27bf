/-
  Diagnostics and failures.

  * `Failure`: what goes wrong in a part that is handed in from outside, by its
    kind and its message; signals that end the program are left out;
  * `ParseError`: why a source has no tree, with `ParseError.text`, the sentence
    and what is known of the place;
  * `Diagnostic`: what an analysis reports beside its result.
-/
import CodeSurvey.Text.Quoted

namespace CodeSurvey

/-! ## Failures from outside -/

/-- A failure of a part that is handed in from outside.  It is one that whoever uses the part
    handles, by a diagnostic or by passing it on.  A signal to exit, such as an interrupt from the
    keyboard, is no failure: nothing handles it, and it is left out. -/
structure Failure where
  kind : Text
  message : Text
  deriving DecidableEq, Repr

namespace Failure

/-- The kind of failure whose text is the missing key, quoted. -/
def missingKey : Text := Text.ofString "KeyError"

/-- The text of a failure. -/
def text (f : Failure) : Text :=
  if f.kind = missingKey then f.message.quoted else f.message

end Failure

/-! ## Parse errors -/

/-- Why a source has no tree. -/
inductive ParseCause where
  /-- No grammar has the tag. -/
  | unsupported
  /-- The source holds a surrogate. -/
  | invalidText
  /-- The grammar has no parser. -/
  | noParser
  /-- The parser gave no tree. -/
  | noTree
  /-- The tree has broken places. -/
  | broken
  /-- Another reason, in the words of the parser. -/
  | reported (message : Text)
  deriving DecidableEq, Repr

/-- The sentence for a cause. -/
def ParseCause.message : ParseCause → Text
  | unsupported => .ofString "Unsupported language"
  | invalidText => .ofString "Source is not valid Unicode text"
  | noParser => .ofString "No parser available"
  | noTree => .ofString "tree-sitter failed to parse source"
  | broken => .ofString "Syntax error"
  | reported message => message

/-- A cause with what is known of the place. -/
structure ParseError where
  cause : ParseCause
  language : Option Text := none
  line : Option Int := none
  column : Option Int := none
  deriving DecidableEq, Repr

namespace ParseError

/-- What is known of the place, one entry per known part; an empty language is not shown. -/
def details (e : ParseError) : List Text :=
  let language := (e.language.filter fun l => !l.isEmpty).map (Text.ofString "language=" ++ ·)
  let line := e.line.map fun n => Text.ofString "line=" ++ .ofInt n
  let column := e.column.map fun n => Text.ofString "column=" ++ .ofInt n
  [language, line, column].filterMap id

/-- The sentence, followed by the details in parentheses if there are any. -/
def text (e : ParseError) : Text :=
  if e.details.isEmpty then e.cause.message
  else
    e.cause.message ++ .ofString " (" ++ Text.join (.ofString ", ") e.details ++ .ofString ")"

end ParseError

/-! ## Diagnostics -/

/-- What is reported beside a result. -/
inductive Diagnostic where
  /-- The source has no tree. -/
  | parseFailed (language : Text) (message : Text) (line column : Option Int)
  /-- The tree has broken places and is used nevertheless. -/
  | treeHasErrors (language : Text) (count firstLine : Nat)
  /-- The structure of a tree could not be extracted. -/
  | extractionFailed (language : Text) (message : Text)
  /-- A report could not be computed. -/
  | computeFailed (message : Text)
  deriving DecidableEq, Repr

namespace Diagnostic

/-- The name under which a diagnostic is reported. -/
def event : Diagnostic → String
  | parseFailed .. => "parse_failed"
  | treeHasErrors .. => "parse_tree_has_errors"
  | extractionFailed .. => "structure_extraction_failed"
  | computeFailed _ => "cache_compute_failed"

/-- How serious a diagnostic is. -/
def level : Diagnostic → String
  | extractionFailed .. => "error"
  | _ => "warning"

end Diagnostic

end CodeSurvey
