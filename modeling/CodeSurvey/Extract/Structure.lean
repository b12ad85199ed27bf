/-
  The structure of a tree.

  One walk over the tree collects what each node contributes on its own; the
  items are then sorted into the lists of a structure, each in source order.

  * `Item`, `Extract.items`: the contributions of one node;
  * `Extract.structureOf`: the structure, or the fault of a recorded node that ends
    on a line before its start.
-/
import CodeSurvey.Extract.Class
import CodeSurvey.Extract.Export

namespace CodeSurvey.Extract

/-- What a node contributes to the structure. -/
inductive Item where
  | function (f : FunctionInfo)
  | class_ (c : ClassInfo)
  | import_ (i : ImportInfo)
  | export_ (e : ExportInfo)
  | variable_ (v : VariableInfo)
  | constant (c : ConstantInfo)
  /-- Something assigns to the name. -/
  | reassigned (name : Text)
  deriving DecidableEq, Repr

namespace Item

def asFunction? : Item → Option FunctionInfo
  | function f => some f
  | _ => none

def asClass? : Item → Option ClassInfo
  | class_ c => some c
  | _ => none

def asImport? : Item → Option ImportInfo
  | import_ i => some i
  | _ => none

def asExport? : Item → Option ExportInfo
  | export_ e => some e
  | _ => none

def asVariable? : Item → Option VariableInfo
  | variable_ v => some v
  | _ => none

def asConstant? : Item → Option ConstantInfo
  | constant c => some c
  | _ => none

def asReassigned? : Item → Option Text
  | reassigned name => some name
  | _ => none

end Item

/-- What a node contributes; tokens contribute nothing, even under the name of a node. -/
def items (s : Source) (p : Place) : Except Cause (List Item) :=
  let n := p.node
  if !n.isNamed then .ok []
  else if n.isFunction then
    (functionInfo s n (bindingName s p)).map fun f => [.function f]
  else if n.isClass then (classInfo s n).map fun c => [.class_ c]
  else if n.kind == "import_statement" then .ok ((staticImports s n).map .import_)
  else if n.kind == "call_expression" then .ok ((callImports s p).map .import_)
  else if n.kind == "export_statement" then .ok ((exports s n).map .export_)
  else if n.isDeclaration then
    .ok ((constants s p).map .constant ++ (vars s p).map .variable_)
  else if n.kind == "assignment_expression" || n.kind == "augmented_assignment_expression" then
    .ok ((reassigned s (n.child? "left")).map .reassigned)
  else if n.kind == "update_expression" then
    .ok ((reassigned s (n.child? "argument")).map .reassigned)
  else .ok []

/-- The items as a structure. -/
def assemble (all : List Item) : CodeStructure :=
  let targets := all.filterMap Item.asReassigned?
  { functions := all.filterMap Item.asFunction?
    classes := all.filterMap Item.asClass?
    imports := all.filterMap Item.asImport?
    exports := all.filterMap Item.asExport?
    vars := (all.filterMap Item.asVariable?).map fun v =>
      { v with reassigned := v.name ∈ targets }
    constants := all.filterMap Item.asConstant? }

/-- The structure of a tree. -/
def structureOf (s : Source) (root : Node) : Except Cause CodeStructure := do
  let found ← (Place.walkBelow ⟨root, []⟩).mapM (items s)
  return assemble found.flatten

end CodeSurvey.Extract
