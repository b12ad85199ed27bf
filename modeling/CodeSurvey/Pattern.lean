/-
  Design patterns and idioms.

  A pattern is recognised by pieces of text in the source, or by the names of
  functions.

  * `PatternDefinition`: what to look for; `Pattern.builtIn`: the usual ones;
  * `Pattern.match?`: where a definition is met;
  * `Pattern.detect`: the definitions that are met, as `CodePattern`s.
-/
import CodeSurvey.Structure.Written
import CodeSurvey.Text.Case
import CodeSurvey.Text.Line

namespace CodeSurvey

/-- The kinds of pattern. -/
inductive PatternCategory where
  | design
  | architecture
  | idiom
  deriving DecidableEq, Repr

instance : Labelled PatternCategory where
  all := [.design, .architecture, .idiom]
  label
    | .design => "design"
    | .architecture => "architecture"
    | .idiom => "idiom"

/-- What a pattern is recognised by. -/
structure PatternDefinition where
  id : Text
  name : Text
  category : PatternCategory
  description : Text := []
  confidence : Binary64
  /-- Pieces of text of which one has to be in the source. -/
  anyOf : List Text := []
  /-- Further pieces of which one has to be in the source. -/
  alsoAnyOf : List Text := []
  /-- Pieces of text that all have to be in the source. -/
  allOf : List Text := []
  /-- Pieces of function names, in lower case; if there are any, the source is not searched. -/
  nameKeywords : List Text := []
  deriving DecidableEq, Repr

/-- A pattern that was found. -/
structure CodePattern where
  name : Text
  description : Text := []
  category : PatternCategory
  confidence : Binary64
  span : Span := .unknown
  deriving DecidableEq, Repr

namespace Pattern

/-- The patterns to look for when none are given. -/
def builtIn : List PatternDefinition :=
  [{ id := .ofString "singleton"
     name := .ofString "Singleton"
     category := .design
     description := .ofString "Ensures a class has only one instance"
     confidence := .ofQuotient false 85 100
     anyOf := [.ofString "static instance", .ofString "getInstance"] },
   { id := .ofString "factory"
     name := .ofString "Factory"
     category := .design
     description := .ofString "Creates objects through a dedicated factory function"
     confidence := .ofQuotient false 80 100
     nameKeywords := [.ofString "create", .ofString "factory"] },
   { id := .ofString "observer"
     name := .ofString "Observer"
     category := .design
     description := .ofString "Registers listeners and notifies them of events"
     confidence := .ofQuotient false 75 100
     anyOf := [.ofString "subscribe", .ofString "addEventListener"]
     alsoAnyOf := [.ofString "notify", .ofString "emit"] },
   { id := .ofString "react_hooks"
     name := .ofString "React Hooks"
     category := .idiom
     description := .ofString "Manages state and side effects with React hooks"
     confidence := .ofQuotient false 95 100
     allOf := [.ofString "useState", .ofString "useEffect"] }]

/-! ## Recognising a pattern -/

/-- The pieces that are in the text; a group of pieces asks for one at least. -/
def found? (t : Text) (group : List Text) : Option (List Text) :=
  let found := group.filter fun piece => piece.occurs t
  if group.isEmpty || !found.isEmpty then some found else none

/-- The pieces that are in the text, if it meets all groups of the definition. -/
def markers? (d : PatternDefinition) (t : Text) : Option (List Text) := do
  let first ← found? t d.anyOf
  let second ← found? t d.alsoAnyOf
  if d.allOf.all fun piece => piece.occurs t then some (first ++ second ++ d.allOf) else none

/-- The number of the first line that holds one of the pieces, and 0 if none does. -/
def firstLine (t : Text) (pieces : List Text) : Nat :=
  match t.lines.findIdx? fun line => pieces.any fun piece => piece.occurs line with
  | some i => i + 1
  | none => 0

/-- The first function whose name, in lower case, holds one of the keywords. -/
def namedFunction? (keywords : List Text) (functions : List FunctionInfo) :
    Option FunctionInfo :=
  functions.find? fun f => keywords.any fun keyword => keyword.occurs f.name.lower

/-- Where a definition is met. -/
def match? (d : PatternDefinition) (t : Text) (s : CodeStructure) : Option Span :=
  if d.nameKeywords.isEmpty then
    ((markers? d t).filter fun pieces => !pieces.isEmpty).map fun pieces =>
      .single (firstLine t pieces)
  else (namedFunction? d.nameKeywords s.allFunctions).map FunctionInfo.span

/-- The given definitions, or the usual ones when none are given. -/
def definitionsOr (definitions : List PatternDefinition) : List PatternDefinition :=
  if definitions.isEmpty then builtIn else definitions

/-- The patterns that are found, in the order of the definitions. -/
def detect (definitions : List PatternDefinition) (t : Text) (s : CodeStructure) :
    List CodePattern :=
  definitions.filterMap fun d =>
    (match? d t s).map fun span =>
      { name := d.name
        description := d.description
        category := d.category
        confidence := d.confidence
        span }

end Pattern

/-! ## Written form -/

namespace PatternDefinition

/-- The written form. -/
def toData (d : PatternDefinition) : Data :=
  .object [
    ("id", .text d.id),
    ("name", .text d.name),
    ("category", Labelled.toData d.category),
    ("description", .text d.description),
    ("confidence", .float d.confidence),
    ("any_of", .list .text d.anyOf),
    ("also_any_of", .list .text d.alsoAnyOf),
    ("all_of", .list .text d.allOf),
    ("name_keywords", .list .text d.nameKeywords)]

/-- Read the written form. -/
def read : Data → Checked PatternDefinition :=
  Read.record "PatternDefinition" fun fields =>
    PatternDefinition.mk <$> Read.required Read.text "id" fields
      <*> Read.required Read.text "name" fields
      <*> Read.required Read.member "category" fields
      <*> Read.default [] Read.text "description" fields
      <*> Read.required Read.share "confidence" fields
      <*> Read.default [] (Read.list Read.text) "any_of" fields
      <*> Read.default [] (Read.list Read.text) "also_any_of" fields
      <*> Read.default [] (Read.list Read.text) "all_of" fields
      <*> Read.default [] (Read.list Read.text) "name_keywords" fields

end PatternDefinition

namespace CodePattern

/-- The written form. -/
def toData (p : CodePattern) : Data :=
  .object [
    ("name", .text p.name),
    ("description", .text p.description),
    ("category", Labelled.toData p.category),
    ("confidence", .float p.confidence),
    ("span", p.span.toData)]

/-- Read the written form. -/
def read : Data → Checked CodePattern :=
  Read.record "CodePattern" fun fields =>
    CodePattern.mk <$> Read.required Read.text "name" fields
      <*> Read.default [] Read.text "description" fields
      <*> Read.required Read.member "category" fields
      <*> Read.required Read.share "confidence" fields
      <*> Read.default .unknown Span.read "span" fields

end CodePattern

end CodeSurvey
