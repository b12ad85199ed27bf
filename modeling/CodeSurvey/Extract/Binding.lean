/-
  Variables and constants of a tree.

  * `Extract.declarationKeyword`, `Extract.declarators`: what a declaration says;
  * `Extract.isTopLevel`, `Extract.scopeOf`: where it stands;
  * `Extract.literal`: the value that a constant is bound to, as far as the text of
    the initialiser tells;
  * `Extract.vars`, `Extract.constants`: the records of a declaration;
  * `Extract.reassigned`: the name that an assignment targets.
-/
import CodeSurvey.Number.Numeral
import CodeSurvey.Extract.Import

namespace CodeSurvey.Extract

/-! ## Declarations -/

/-- The keyword of a declaration. -/
def declarationKeyword (n : Node) : String :=
  if n.kind == "variable_declaration" then "var"
  else match n.children with
    | first :: _ => first.kind
    | [] => "let"

/-- The plain names that a declaration declares, with their initialisers. -/
def declarators (s : Source) (n : Node) : List (Text × Option Node) :=
  n.namedChildren.filterMap fun d =>
    if d.kind == "variable_declarator" then
      ((d.child? "name").filter fun name => name.kind == "identifier").map fun name =>
        (s.text name, d.child? "value")
    else none

/-- Whether a declaration stands directly in the program, possibly exported. -/
def isTopLevel (p : Place) : Bool :=
  let around := match p.ancestors with
    | parent :: rest => if parent.kind == "export_statement" then rest.head? else some parent
    | [] => none
  around.any fun n => n.kind == "program"

/-- The scope of what is declared below these ancestors, the nearest first. -/
def scopeOf : List Node → VariableScope
  | [] => .global
  | parent :: rest =>
    if parent.kind == "program" then .global
    else if parent.isFunctionScope || parent.kind ∈ Node.scopedStatements then .function
    else if parent.kind == "statement_block" then
      if rest.head?.any Node.isFunctionScope then .function else .block
    else scopeOf rest

/-! ## Values of constants -/

/-- The value that a number literal writes, without the low lines between its digits. -/
def numberValue (t : Text) : ConstantValue :=
  let digits := t.filter fun c : CodePoint => c != '_'
  if digits.getLast? == some (CodePoint.ofChar 'n') then .unknown
  else match Numeral.integer? digits, Numeral.real? digits with
    | some n, _ => .literal (.int n)
    | none, some x => .literal (.float x)
    | none, none => .unknown

/-- The value and type that an initialiser gives to a constant. -/
def literal (s : Source) : Option Node → ConstantValue × ConstantType
  | none => (.unknown, .unknown)
  | some n =>
    if n.kind == "string" then (.literal (.text (stringValue s n)), .string)
    else if n.kind == "template_string" then (.unknown, .string)
    else if n.kind == "number" then (numberValue (s.text n), .number)
    else if n.kind == "true" then (.literal (.bool true), .boolean)
    else if n.kind == "false" then (.literal (.bool false), .boolean)
    else if n.kind == "array" then (.unknown, .array)
    else if n.kind == "object" then (.unknown, .object)
    else if n.isFunction then (.unknown, .function)
    else (.unknown, .unknown)

/-! ## Records -/

/-- The keyword of a variable declaration; other keywords declare no variables. -/
def variableKind? (keyword : String) : Option VariableKind :=
  if keyword == "let" then some .let_ else if keyword == "var" then some .var else none

/-- The variables of a declaration. -/
def vars (s : Source) (p : Place) : List VariableInfo :=
  match variableKind? (declarationKeyword p.node) with
  | some kind =>
    (declarators s p.node).map fun d => { name := d.1, kind, scope := scopeOf p.ancestors }
  | none => []

/-- The constants of a declaration at the top level. -/
def constants (s : Source) (p : Place) : List ConstantInfo :=
  if declarationKeyword p.node == "const" && isTopLevel p then
    (declarators s p.node).map fun d =>
      { name := d.1, value := (literal s d.2).1, type := (literal s d.2).2 }
  else []

/-- The plain name that an assignment targets, one pair of parentheses aside. -/
def reassigned (s : Source) (target : Option Node) : List Text :=
  match target with
  | none => []
  | some n =>
    let inner := if n.kind == "parenthesized_expression" then n.namedChildren.head?.getD n else n
    if inner.kind == "identifier" then [s.text inner] else []

end CodeSurvey.Extract
