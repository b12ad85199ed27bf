/-
  The summary of a source unit.

  * `Summary.intent`, `Summary.domain`: what the unit is for, by pieces of its text
    and names of its functions;
  * `Summary.pieces`, `Summary.concepts`: the words in the names of functions and
    classes, which start at capitals;
  * `SemanticAnalysis`: these together with the accesses and branches of the unit.
-/
import CodeSurvey.Flow.Access
import CodeSurvey.Flow.Branch
import CodeSurvey.Text.Case

namespace CodeSurvey

namespace Summary

/-! ## Intent and domain -/

/-- The intent of a unit that shows none. -/
def generalIntent : Text := Text.ofString "general-purpose"

/-- The domain of a unit that shows none. -/
def generalDomain : Text := Text.ofString "general"

/-- The intents, each with the pieces of text that show it; the first one shown wins. -/
def intentFamilies : List (String × List String) :=
  [("data-fetching", ["fetch", "axios"]), ("ui-component", ["useState", "useEffect"]),
    ("api-server", ["express", "app.listen"])]

/-- The pieces of a function name that show a test. -/
def testMarkers : List String := ["test", "spec"]

/-- Whether one of the pieces is in the text. -/
def holdsAny (pieces : List String) (t : Text) : Bool :=
  pieces.any fun piece => (Text.ofString piece).occurs t

/-- What a unit is for. -/
def intent (t : Text) (s : CodeStructure) : Text :=
  match intentFamilies.find? fun family => holdsAny family.2 t with
  | some family => .ofString family.1
  | none =>
    if s.functions.any fun f => holdsAny testMarkers f.name then .ofString "testing"
    else generalIntent

/-- Whether a text shows the domain of learning machines. -/
def showsLearning (t : Text) : Bool :=
  t.hasWord (.ofString "ml") || holdsAny ["tensorflow"] t

/-- The domain that a unit belongs to. -/
def domain (t : Text) : Text :=
  if holdsAny ["React", "Component"] t then .ofString "frontend"
  else if holdsAny ["express", "koa"] t then .ofString "backend"
  else if holdsAny ["mongodb", "postgres"] t then .ofString "database"
  else if showsLearning t then .ofString "machine-learning"
  else generalDomain

/-! ## Concepts -/

/-- The capitals at which a new piece of a name starts. -/
def isCapital (c : CodePoint) : Bool :=
  0x41 ≤ c.val && c.val ≤ 0x5A

/-- The pieces of a name: it is cut before every capital. -/
def pieces : Text → List Text
  | [] => [[]]
  | c :: cs =>
    match pieces cs with
    | [] => [[c]]
    | p :: ps =>
      if p.head?.any isCapital then [c] :: p :: ps else (c :: p) :: ps

/-- The names that concepts are taken from. -/
def conceptNames (s : CodeStructure) : List Text :=
  (s.functions.map FunctionInfo.name).filter (· ≠ Text.ofString "anonymous") ++
    s.classes.map ClassInfo.name

/-- The words of a name: its pieces of more than two code points, in lower case. -/
def words (name : Text) : List Text :=
  ((pieces name).filter fun p => 2 < p.length).map Text.lower

/-- The distinct words of all names, in the order of first appearance. -/
def concepts (s : CodeStructure) : List Text :=
  distinct ((conceptNames s).flatMap words)

end Summary

/-- The summary of a source unit. -/
structure SemanticAnalysis where
  intent : Text := Summary.generalIntent
  domain : Text := Summary.generalDomain
  concepts : List Text := []
  dataFlow : List DataFlowNode := []
  controlFlow : List ControlFlowNode := []
  deriving DecidableEq, Repr

namespace SemanticAnalysis

/-- The summary of a text with its structure. -/
def ofUnit (t : Text) (s : CodeStructure) : SemanticAnalysis where
  intent := Summary.intent t s
  domain := Summary.domain t
  concepts := Summary.concepts s
  dataFlow := Flow.dataFlow t s
  controlFlow := Flow.controlFlow t

/-- The written form. -/
def toData (a : SemanticAnalysis) : Data :=
  .object [
    ("intent", .text a.intent),
    ("domain", .text a.domain),
    ("concepts", .list .text a.concepts),
    ("data_flow", .list DataFlowNode.toData a.dataFlow),
    ("control_flow", .list ControlFlowNode.toData a.controlFlow)]

/-- Read the written form. -/
def read : Data → Checked SemanticAnalysis :=
  Read.record "SemanticAnalysis" fun fields =>
    SemanticAnalysis.mk <$> Read.default Summary.generalIntent Read.text "intent" fields
      <*> Read.default Summary.generalDomain Read.text "domain" fields
      <*> Read.default [] (Read.list Read.text) "concepts" fields
      <*> Read.default [] (Read.list DataFlowNode.read) "data_flow" fields
      <*> Read.default [] (Read.list ControlFlowNode.read) "control_flow" fields

end SemanticAnalysis

end CodeSurvey
