/-
  The written form of a structure.

  Each record has a `toData` that writes all of its fields in order, and a `read`
  that takes them back, with the defaults of the record for fields that are left
  out.
-/
import CodeSurvey.Structure.Basic

namespace CodeSurvey

instance : Labelled ExportKind where
  all := [.function, .class_, .variable, .const]
  label
    | .function => "function"
    | .class_ => "class"
    | .variable => "variable"
    | .const => "const"

instance : Labelled VariableScope where
  all := [.global, .function, .block]
  label
    | .global => "global"
    | .function => "function"
    | .block => "block"

instance : Labelled VariableKind where
  all := [.let_, .var]
  label
    | .let_ => "let"
    | .var => "var"

instance : Labelled ConstantType where
  all := [.string, .number, .boolean, .array, .object, .function, .unknown]
  label
    | .string => "string"
    | .number => "number"
    | .boolean => "boolean"
    | .array => "array"
    | .object => "object"
    | .function => "function"
    | .unknown => "unknown"

namespace FunctionInfo

/-- The written form. -/
def toData (f : FunctionInfo) : Data :=
  .object [
    ("name", .text f.name),
    ("params", .list .text f.params),
    ("return_type", .optional .text f.returnType),
    ("is_async", .bool f.isAsync),
    ("is_arrow", .bool f.isArrow),
    ("span", f.span.toData),
    ("complexity", .nat f.complexity),
    ("calls", .list .text f.calls)]

/-- Read the written form. -/
def read : Data → Checked FunctionInfo :=
  Read.record "FunctionInfo" fun fields =>
    FunctionInfo.mk <$> Read.required Read.text "name" fields
      <*> Read.default [] (Read.list Read.text) "params" fields
      <*> Read.default none (Read.optional Read.text) "return_type" fields
      <*> Read.default false Read.boolean "is_async" fields
      <*> Read.default false Read.boolean "is_arrow" fields
      <*> Read.default .unknown Span.read "span" fields
      <*> Read.default 1 (Read.natural 1) "complexity" fields
      <*> Read.default [] (Read.list Read.text) "calls" fields

end FunctionInfo

namespace ClassInfo

/-- The written form. -/
def toData (c : ClassInfo) : Data :=
  .object [
    ("name", .text c.name),
    ("extends", .optional .text c.superclass),
    ("implements", .list .text c.interfaces),
    ("methods", .list FunctionInfo.toData c.methods),
    ("properties", .list .text c.properties),
    ("span", c.span.toData)]

/-- Read the written form. -/
def read : Data → Checked ClassInfo :=
  Read.record "ClassInfo" fun fields =>
    ClassInfo.mk <$> Read.required Read.text "name" fields
      <*> Read.default none (Read.optional Read.text) "extends" fields
      <*> Read.default [] (Read.list Read.text) "implements" fields
      <*> Read.default [] (Read.list FunctionInfo.read) "methods" fields
      <*> Read.default [] (Read.list Read.text) "properties" fields
      <*> Read.default .unknown Span.read "span" fields

end ClassInfo

namespace ImportBinding

/-- The written form. -/
def toData (b : ImportBinding) : Data :=
  .object [("name", .text b.name), ("alias", .optional .text b.localName)]

/-- Read the written form. -/
def read : Data → Checked ImportBinding :=
  Read.record "ImportBinding" fun fields =>
    ImportBinding.mk <$> Read.required Read.text "name" fields
      <*> Read.default none (Read.optional Read.text) "alias" fields

end ImportBinding

namespace ImportInfo

/-- The written form. -/
def toData (i : ImportInfo) : Data :=
  .object [
    ("source", .text i.source),
    ("bindings", .list ImportBinding.toData i.bindings),
    ("is_default", .bool i.isDefault),
    ("is_dynamic", .bool i.isDynamic),
    ("is_require", .bool i.isRequire),
    ("line", .nat i.line)]

/-- Read the written form; the source must not be empty. -/
def read : Data → Checked ImportInfo :=
  Read.record "ImportInfo" fun fields =>
    ImportInfo.mk <$> Read.required Read.nonEmptyText "source" fields
      <*> Read.default [] (Read.list ImportBinding.read) "bindings" fields
      <*> Read.default false Read.boolean "is_default" fields
      <*> Read.default false Read.boolean "is_dynamic" fields
      <*> Read.default false Read.boolean "is_require" fields
      <*> Read.default 0 (Read.natural 0) "line" fields

end ImportInfo

namespace ExportInfo

/-- The written form. -/
def toData (e : ExportInfo) : Data :=
  .object [
    ("name", .text e.name),
    ("is_default", .bool e.isDefault),
    ("kind", Labelled.toData e.kind)]

/-- Read the written form. -/
def read : Data → Checked ExportInfo :=
  Read.record "ExportInfo" fun fields =>
    ExportInfo.mk <$> Read.required Read.text "name" fields
      <*> Read.default false Read.boolean "is_default" fields
      <*> Read.required Read.member "kind" fields

end ExportInfo

namespace VariableInfo

/-- The written form. -/
def toData (v : VariableInfo) : Data :=
  .object [
    ("name", .text v.name),
    ("kind", Labelled.toData v.kind),
    ("scope", Labelled.toData v.scope),
    ("reassigned", .bool v.reassigned)]

/-- Read the written form. -/
def read : Data → Checked VariableInfo :=
  Read.record "VariableInfo" fun fields =>
    VariableInfo.mk <$> Read.required Read.text "name" fields
      <*> Read.required Read.word "kind" fields
      <*> Read.required Read.member "scope" fields
      <*> Read.default false Read.boolean "reassigned" fields

end VariableInfo

/-! ## Literals and constants -/

namespace Literal

/-- The written form: each kind as the data of its kind. -/
def toData : Literal → Data
  | text t => .text t
  | bool b => .bool b
  | int n => .int n
  | float x => .float x

/-- Read the written form; what is none of the four kinds has a fault for each of them. -/
def read : Data → Checked Literal
  | .text t => .good (.text t)
  | .bool b => .good (.bool b)
  | .int n => .good (.int n)
  | .float x => .good (.float x)
  | _ => .bad [
      ⟨[.key "str"], .notText⟩,
      ⟨[.key "bool"], .notBoolean⟩,
      ⟨[.key "int"], .notInteger⟩,
      ⟨[.key "float"], .notNumber⟩]

end Literal

namespace ConstantValue

/-- The tags of the two kinds of value. -/
def tags : List String := ["literal", "unknown"]

/-- The written form: a tag, and the value of a literal. -/
def toData : ConstantValue → Data
  | literal value => .object [("kind", .str "literal"), ("value", value.toData)]
  | unknown => .object [("kind", .str "unknown")]

/-- Read a tag that may be left out and is fixed where it is given. -/
def readTag (tag : String) (fields : Read.Fields) : Checked Unit :=
  Read.default () (fun d => if d.isStr tag then .good () else .fail (.notAllowed [tag]))
    "kind" fields

/-- Read the written form of a literal with its tag. -/
def readLiteral : Data → Checked Literal :=
  Read.record "LiteralValue" fun fields =>
    (fun _ value => value) <$> readTag "literal" fields <*>
      Read.required Literal.read "value" fields

/-- Read the written form of an unknown value. -/
def readUnknown : Data → Checked Unit :=
  Read.record "UnknownValue" (readTag "unknown")

/-- Read the written form: the tag decides how the rest is read. -/
def read : Data → Checked ConstantValue
  | .object fields =>
    match Data.get? fields "kind" with
    | none => .fail .noTag
    | some tag =>
      if tag.isStr "literal" then
        ((readLiteral (.object fields)).map literal).under (.key "literal")
      else if tag.isStr "unknown" then
        ((readUnknown (.object fields)).map fun _ => unknown).under (.key "unknown")
      else .fail (.unknownTag tag.shown tags)
  | _ => .fail .notTagged

end ConstantValue

namespace ConstantInfo

/-- The written form. -/
def toData (c : ConstantInfo) : Data :=
  .object [
    ("name", .text c.name),
    ("value", c.value.toData),
    ("type", Labelled.toData c.type)]

/-- Read the written form. -/
def read : Data → Checked ConstantInfo :=
  Read.record "ConstantInfo" fun fields =>
    ConstantInfo.mk <$> Read.required Read.text "name" fields
      <*> Read.default .unknown ConstantValue.read "value" fields
      <*> Read.default .unknown Read.word "type" fields

end ConstantInfo

namespace CodeStructure

/-- The written form. -/
def toData (s : CodeStructure) : Data :=
  .object [
    ("functions", .list FunctionInfo.toData s.functions),
    ("classes", .list ClassInfo.toData s.classes),
    ("imports", .list ImportInfo.toData s.imports),
    ("exports", .list ExportInfo.toData s.exports),
    ("variables", .list VariableInfo.toData s.vars),
    ("constants", .list ConstantInfo.toData s.constants)]

/-- Read the written form. -/
def read : Data → Checked CodeStructure :=
  Read.record "CodeStructure" fun fields =>
    CodeStructure.mk <$> Read.default [] (Read.list FunctionInfo.read) "functions" fields
      <*> Read.default [] (Read.list ClassInfo.read) "classes" fields
      <*> Read.default [] (Read.list ImportInfo.read) "imports" fields
      <*> Read.default [] (Read.list ExportInfo.read) "exports" fields
      <*> Read.default [] (Read.list VariableInfo.read) "variables" fields
      <*> Read.default [] (Read.list ConstantInfo.read) "constants" fields

end CodeStructure

end CodeSurvey
