/-
  The structure of a source unit.

  What a unit declares, imports and exports, as one record per entity.

  * `FunctionInfo`, `ClassInfo`: functions, and classes with their methods;
  * `ImportInfo`, `ExportInfo`: the unit's boundary;
  * `VariableInfo`, `ConstantInfo`: bindings, with the literal that a constant is
    bound to (`Literal`, `ConstantValue`);
  * `CodeStructure`: all of them, and `CodeStructure.allFunctions`.
-/
import CodeSurvey.Span

namespace CodeSurvey

/-! ## Functions and classes -/

/-- A function, method, arrow function or function expression. -/
structure FunctionInfo where
  /-- The bound name, or `anonymous`. -/
  name : Text
  params : List Text := []
  returnType : Option Text := none
  isAsync : Bool := false
  isArrow : Bool := false
  span : Span := .unknown
  /-- One more than the branches of the function's subtree. -/
  complexity : Nat := 1
  /-- The distinct names called, in the order of the first call. -/
  calls : List Text := []
  deriving DecidableEq, Repr

/-- A class declaration. -/
structure ClassInfo where
  name : Text
  superclass : Option Text := none
  interfaces : List Text := []
  methods : List FunctionInfo := []
  properties : List Text := []
  span : Span := .unknown
  deriving DecidableEq, Repr

/-! ## Imports and exports -/

/-- A name bound by an import. -/
structure ImportBinding where
  /-- The name in the imported module; `default` and `*` for its default and for all of it. -/
  name : Text
  /-- The local name where it differs. -/
  localName : Option Text := none
  deriving DecidableEq, Repr

/-- An import statement or a call that loads a module. -/
structure ImportInfo where
  /-- The module as written. -/
  source : Text
  bindings : List ImportBinding := []
  isDefault : Bool := false
  isDynamic : Bool := false
  isRequire : Bool := false
  line : Nat := 0
  deriving DecidableEq, Repr

/-- What is exported. -/
inductive ExportKind where
  | function
  | class_
  | variable
  | const
  deriving DecidableEq, Repr

/-- An exported name. -/
structure ExportInfo where
  name : Text
  isDefault : Bool := false
  kind : ExportKind
  deriving DecidableEq, Repr

/-! ## Variables and constants -/

/-- Where a variable is declared. -/
inductive VariableScope where
  | global
  | function
  | block
  deriving DecidableEq, Repr

/-- The keyword of a variable declaration. -/
inductive VariableKind where
  | let_
  | var
  deriving DecidableEq, Repr

/-- A variable. -/
structure VariableInfo where
  name : Text
  kind : VariableKind
  scope : VariableScope
  /-- Whether something in the unit assigns to the name. -/
  reassigned : Bool := false
  deriving DecidableEq, Repr

/-- A literal value; the four kinds stay apart. -/
inductive Literal where
  | text (t : Text)
  | bool (b : Bool)
  | int (n : Int)
  | float (x : Binary64)
  deriving DecidableEq, Repr

/-- What a constant is bound to, as far as it is known. -/
inductive ConstantValue where
  | literal (value : Literal)
  | unknown
  deriving DecidableEq, Repr

/-- The type of a constant, as far as it is known. -/
inductive ConstantType where
  | string
  | number
  | boolean
  | array
  | object
  | function
  | unknown
  deriving DecidableEq, Repr

/-- A constant at the top level of the unit. -/
structure ConstantInfo where
  name : Text
  value : ConstantValue := .unknown
  type : ConstantType := .unknown
  deriving DecidableEq, Repr

/-! ## The whole unit -/

/-- All entities of a source unit, each kind in source order. -/
structure CodeStructure where
  functions : List FunctionInfo := []
  classes : List ClassInfo := []
  imports : List ImportInfo := []
  exports : List ExportInfo := []
  vars : List VariableInfo := []
  constants : List ConstantInfo := []
  deriving DecidableEq, Repr

namespace CodeStructure

/-- The structure of a unit in which nothing is found. -/
def empty : CodeStructure := {}

/-- The methods of all classes. -/
def methods (s : CodeStructure) : List FunctionInfo :=
  s.classes.flatMap ClassInfo.methods

/-- The functions outside classes, then the methods. -/
def allFunctions (s : CodeStructure) : List FunctionInfo :=
  s.functions ++ s.methods

end CodeStructure

end CodeSurvey
