/-
  Classes of a tree.

  * `Extract.heritage`: the superclass and the interfaces;
  * `Extract.methods`, `Extract.properties`: the members of the body;
  * `Extract.classInfo`: the record, unless the class or a method of it ends on a
    line before its start.
-/
import CodeSurvey.Extract.Function

namespace CodeSurvey.Extract

/-- The superclass and interfaces after one more child of the heritage.  A child that is no clause
    is the superclass itself, if none is known. -/
def addHeritage (s : Source) (known : Option Text × List Text) (child : Node) :
    Option Text × List Text :=
  if child.kind == "extends_clause" then
    let value := (child.child? "value").or child.namedChildren.head?
    (nonEmpty? (s.textOf value), known.2)
  else if child.kind == "implements_clause" then
    (known.1, known.2 ++ child.namedChildren.map s.text)
  else if known.1.isNone then (some (s.text child), known.2)
  else known

/-- The superclass and the interfaces of a class. -/
def heritage (s : Source) (n : Node) : Option Text × List Text :=
  match n.namedChildren.find? fun c => c.kind == "class_heritage" with
  | some clause => clause.namedChildren.foldl (addHeritage s) (none, [])
  | none => (none, [])

/-- The members of a class body. -/
def members (n : Node) : List Node :=
  match n.child? "body" with
  | some body => body.namedChildren
  | none => []

/-- The methods in a class body. -/
def methodNodes (n : Node) : List Node :=
  (members n).filter fun m => m.kind == "method_definition"

/-- The record of a method. -/
def methodInfo (s : Source) (m : Node) : Except Cause FunctionInfo :=
  functionInfo s m ((nonEmpty? (s.textOf (m.child? "name"))).getD anonymous)

/-- The name of a field in a class body. -/
def propertyName? (s : Source) (m : Node) : Option Text :=
  if m.kind ∈ Node.fieldKinds then
    ((m.child? "property").or (m.child? "name")).map s.text
  else none

/-- The record of a class. -/
def classInfo (s : Source) (n : Node) : Except Cause ClassInfo := do
  let methods ← (methodNodes n).mapM (methodInfo s)
  let range ← span s n
  return {
    name := (nonEmpty? (s.textOf (n.child? "name"))).getD anonymous
    superclass := (heritage s n).1
    interfaces := (heritage s n).2
    methods
    properties := (members n).filterMap (propertyName? s)
    span := range }

end CodeSurvey.Extract
