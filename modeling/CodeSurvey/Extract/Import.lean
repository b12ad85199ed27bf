/-
  Imports of a tree.

  * `Extract.stringValue`: the text of a literal without its quotes;
  * `Extract.staticImports`: an import statement;
  * `Extract.callImports`: a call of `import` or `require` with a literal module.

  Each gives at most one record, and none when no module is named.
-/
import CodeSurvey.Extract.Function

namespace CodeSurvey.Extract

/-- The quotes of literals. -/
def isQuote (c : CodePoint) : Bool :=
  c == 0x27 || c == 0x22 || c == 0x60

/-- A text without the quotes around it, if it has the same one at both ends. -/
def unquoted (t : Text) : Text :=
  if 2 ≤ t.length && t.head? == t.getLast? && t.head?.any isQuote then t.tail.dropLast else t

/-- The text of a literal without its quotes. -/
def stringValue (s : Source) (n : Option Node) : Text :=
  unquoted (s.textOf n)

/-- The name of a module's default export, and the name that stands for all of its exports. -/
def defaultName : Text := Text.ofString "default"

/-- The name that stands for all exports of a module. -/
def allNames : Text := Text.ofString "*"

/-- The local name among the children of a clause. -/
def localName? (s : Source) (n : Node) : Option Text :=
  nonEmpty? (s.textOf (n.namedChildren.find? fun c => c.kind == "identifier"))

/-! ## Import statements -/

/-- A name in braces, with the local name where it differs. -/
def specifierBinding (s : Source) (n : Node) : ImportBinding :=
  let name := stringValue s (n.child? "name")
  { name, localName := ((n.child? "alias").map s.text).filter (· ≠ name) }

/-- The bindings of one part of an import clause. -/
def partBindings (s : Source) (part : Node) : List ImportBinding :=
  if part.kind == "identifier" then [⟨defaultName, some (s.text part)⟩]
  else if part.kind == "namespace_import" then [⟨allNames, localName? s part⟩]
  else if part.kind == "named_imports" then
    (part.namedChildren.filter fun c => c.kind == "import_specifier").map (specifierBinding s)
  else []

/-- The record after one more child of an import statement. -/
def addImport (s : Source) (known : ImportInfo) (child : Node) : ImportInfo :=
  if child.kind == "import_clause" then
    { known with
      bindings := known.bindings ++ child.namedChildren.flatMap (partBindings s)
      isDefault := known.isDefault || child.namedChildren.any fun p => p.kind == "identifier" }
  else if child.kind == "import_require_clause" then
    { known with
      source := stringValue s (child.child? "source")
      bindings := known.bindings ++ [⟨defaultName, localName? s child⟩]
      isDefault := true
      isRequire := true }
  else known

/-- The record, if it names a module. -/
def keepNamed (i : ImportInfo) : List ImportInfo :=
  if i.source.isEmpty then [] else [i]

/-- What an import statement imports. -/
def staticImports (s : Source) (n : Node) : List ImportInfo :=
  keepNamed (n.namedChildren.foldl (addImport s)
    { source := stringValue s (n.child? "source"), line := s.firstLine n })

/-! ## Calls that load a module -/

/-- The name of the function that loads a module. -/
def requireName : Text := Text.ofString "require"

/-- The first argument of a call, comments aside. -/
def firstArgument? (arguments : Node) : Option Node :=
  arguments.namedChildren.find? fun c => c.kind != "comment"

/-- The variable that a call initialises. -/
def initialisedName? (s : Source) (p : Place) : Option Text :=
  ((p.parent?.filter fun n => n.kind == "variable_declarator").bind (·.child? "name")).bind
    fun name => if name.kind == "identifier" then some (s.text name) else none

/-- What a call imports. -/
def callImports (s : Source) (p : Place) : List ImportInfo :=
  match p.node.child? "function", p.node.child? "arguments" with
  | some callee, some arguments =>
    let isDynamic := callee.kind == "import"
    let isRequire := callee.kind == "identifier" && s.text callee == requireName
    match firstArgument? arguments with
    | some first =>
      if (isDynamic || isRequire) && first.kind == "string" then
        let bindings := if isRequire then
            (initialisedName? s p).toList.map fun name => ⟨defaultName, some name⟩
          else []
        keepNamed
          { source := stringValue s first
            bindings
            isDefault := !bindings.isEmpty
            isDynamic
            isRequire
            line := s.firstLine p.node }
      else []
    | none => []
  | _, _ => []

end CodeSurvey.Extract
