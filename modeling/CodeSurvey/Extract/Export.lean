/-
  Exports of a tree.

  * `Extract.exportKind?`: what kind of export a declaration makes;
  * `Extract.exports`: the names that an export statement publishes.
-/
import CodeSurvey.Extract.Binding

namespace CodeSurvey.Extract

/-- The kind of export that a declaration or expression makes. -/
def exportKind? (n : Node) : Option ExportKind :=
  if !n.isNamed then none
  else if n.isFunction then some .function
  else if n.isClass || n.kind == "class" then some .class_
  else if n.isDeclaration || n.kind == "identifier" then some .variable
  else none

/-- The default export of a statement. -/
def defaultExport (s : Source) (target : Node) : ExportInfo :=
  let name := if target.kind == "identifier" then some target else target.child? "name"
  { name := (nonEmpty? (s.textOf name)).getD defaultName
    isDefault := true
    kind := (exportKind? target).getD .variable }

/-- The exports of a declaration. -/
def declaredExports (s : Source) (declaration : Node) : List ExportInfo :=
  if declaration.isDeclaration then
    let kind := if declarationKeyword declaration == "const" then .const else .variable
    (declarators s declaration).map fun d => { name := d.1, kind }
  else match exportKind? declaration, declaration.child? "name" with
    | some kind, some name => [{ name := s.text name, kind }]
    | _, _ => []

/-- The export of a name in braces. -/
def specifierExport (s : Source) (specifier : Node) : ExportInfo :=
  let name := stringValue s ((specifier.child? "alias").or (specifier.child? "name"))
  { name, isDefault := name == defaultName, kind := .variable }

/-- The exports of the names in braces. -/
def listedExports (s : Source) (n : Node) : List ExportInfo :=
  let clauses := n.namedChildren.filter fun c => c.kind == "export_clause"
  clauses.flatMap fun clause =>
    (clause.namedChildren.filter fun c => c.kind == "export_specifier").map (specifierExport s)

/-- The names that an export statement publishes. -/
def exports (s : Source) (n : Node) : List ExportInfo :=
  let declaration := n.child? "declaration"
  if n.children.any fun c => c.kind == "default" then
    ((declaration.or (n.child? "value")).toList).map (defaultExport s)
  else match declaration with
    | some d => declaredExports s d
    | none => listedExports s n

end CodeSurvey.Extract
