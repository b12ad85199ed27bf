/-
  What is wrong with a value.

  A fault names its place by the path of field names and list positions that leads
  to it.

  * `Fault`, `Cause`: what is wrong and where, with `Cause.code` and
    `Cause.message` as they are reported;
  * `Checked`: a value or the faults that keep it from being read, combined field
    by field (`<*>` keeps the faults of both sides).
-/
import CodeSurvey.Text.Basic

namespace CodeSurvey

/-! ## Faults -/

/-- One step of the way to a value inside plain data. -/
inductive Step where
  | key (name : String)
  | index (i : Nat)
  deriving DecidableEq, Repr

/-- What can be wrong with a value. -/
inductive Cause where
  /-- A field without a default is absent. -/
  | missing
  | notText
  /-- A text that must not be empty is empty. -/
  | tooShort
  | notInteger
  /-- A text that writes no integer. -/
  | unreadableInteger
  /-- A number that is too large, or a text with too many digits, where an integer is due. -/
  | tooLarge
  /-- A number between two integers where an integer is due. -/
  | fractional
  /-- An infinity or a NaN where an integer is due. -/
  | notFinite
  | notNumber
  /-- A text that writes no number. -/
  | unreadableNumber
  | notBoolean
  /-- A text or number that stands for neither truth value. -/
  | unreadableBoolean
  | below (least : Int)
  | above (greatest : Int)
  | notList
  | notSet
  | notPair
  /-- A list longer than a pair. -/
  | beyondPair (length : Nat)
  /-- None of the words of an enumeration. -/
  | notMember (words : List String)
  /-- None of the words that a field allows. -/
  | notAllowed (words : List String)
  | notRecord (model : String)
  /-- A tagged value that is no object. -/
  | notTagged
  /-- A tagged value without its tag. -/
  | noTag
  /-- A tagged value with a tag that is none of the words. -/
  | unknownTag (tag : Text) (words : List String)
  /-- A span whose first line comes after its last. -/
  | reversedSpan (first last : Nat)
  deriving DecidableEq, Repr

namespace Cause

/-- The word between quotes. -/
def quoted (word : String) : String :=
  "'" ++ word ++ "'"

/-- The words as a choice: `'a', 'b' or 'c'`. -/
def choice (words : List String) : String :=
  match words.reverse with
  | [] => ""
  | [word] => quoted word
  | last :: others =>
    ", ".intercalate (others.reverse.map quoted) ++ " or " ++ quoted last

/-- The code under which a fault is reported. -/
def code : Cause → String
  | missing => "missing"
  | notText => "string_type"
  | tooShort => "string_too_short"
  | notInteger => "int_type"
  | unreadableInteger => "int_parsing"
  | tooLarge => "int_parsing_size"
  | fractional => "int_from_float"
  | notFinite => "finite_number"
  | notNumber => "float_type"
  | unreadableNumber => "float_parsing"
  | notBoolean => "bool_type"
  | unreadableBoolean => "bool_parsing"
  | below _ => "greater_than_equal"
  | above _ => "less_than_equal"
  | notList => "list_type"
  | notSet => "frozen_set_type"
  | notPair => "tuple_type"
  | beyondPair _ => "too_long"
  | notMember _ => "enum"
  | notAllowed _ => "literal_error"
  | notRecord _ => "model_type"
  | notTagged => "model_attributes_type"
  | noTag => "union_tag_not_found"
  | unknownTag .. => "union_tag_invalid"
  | reversedSpan .. => "value_error"

/-- The sentence under which a fault is reported. -/
def message : Cause → Text
  | missing => .ofString "Field required"
  | notText => .ofString "Input should be a valid string"
  | tooShort => .ofString "String should have at least 1 character"
  | notInteger => .ofString "Input should be a valid integer"
  | unreadableInteger =>
    .ofString "Input should be a valid integer, unable to parse string as an integer"
  | tooLarge =>
    .ofString "Unable to parse input string as an integer, exceeded maximum size"
  | fractional => .ofString "Input should be a valid integer, got a number with a fractional part"
  | notFinite => .ofString "Input should be a finite number"
  | notNumber => .ofString "Input should be a valid number"
  | unreadableNumber =>
    .ofString "Input should be a valid number, unable to parse string as a number"
  | notBoolean => .ofString "Input should be a valid boolean"
  | unreadableBoolean => .ofString "Input should be a valid boolean, unable to interpret input"
  | below least => .ofString "Input should be greater than or equal to " ++ .ofInt least
  | above greatest => .ofString "Input should be less than or equal to " ++ .ofInt greatest
  | notList => .ofString "Input should be a valid list"
  | notSet => .ofString "Input should be a valid frozenset"
  | notPair => .ofString "Input should be a valid tuple"
  | beyondPair length =>
    .ofString "Tuple should have at most 2 items after validation, not " ++ .ofNat length
  | notMember words | notAllowed words => .ofString ("Input should be " ++ choice words)
  | notRecord model =>
    .ofString ("Input should be a valid dictionary or instance of " ++ model)
  | notTagged =>
    .ofString "Input should be a valid dictionary or object to extract fields from"
  | noTag => .ofString "Unable to extract tag using discriminator 'kind'"
  | unknownTag tag words =>
    .ofString "Input tag '" ++ tag ++
      .ofString ("' found using 'kind' does not match any of the expected tags: " ++
        ", ".intercalate (words.map quoted))
  | reversedSpan first last =>
    .ofString "Value error, span start " ++ .ofNat first ++ .ofString " is after end " ++
      .ofNat last

end Cause

/-- A fault and the way to it. -/
structure Fault where
  path : List Step
  cause : Cause
  deriving DecidableEq, Repr

/-- The fault seen from one step further out. -/
def Fault.under (step : Step) (fault : Fault) : Fault :=
  ⟨step :: fault.path, fault.cause⟩

/-! ## Checked values -/

/-- A value, or every fault found while reading it. -/
inductive Checked (α : Type) where
  | good (a : α)
  | bad (faults : List Fault)
  deriving Repr

namespace Checked

/-- A single fault at the value itself. -/
def fail {α : Type} (cause : Cause) : Checked α :=
  .bad [⟨[], cause⟩]

/-- Apply a function to the value. -/
def map {α β : Type} (f : α → β) : Checked α → Checked β
  | .good a => .good (f a)
  | .bad faults => .bad faults

/-- Both values, or the faults of both. -/
def both {α β : Type} : Checked (α → β) → Checked α → Checked β
  | .good f, .good a => .good (f a)
  | .good _, .bad faults => .bad faults
  | .bad faults, .good _ => .bad faults
  | .bad faults, .bad more => .bad (faults ++ more)

instance : Applicative Checked where
  pure := .good
  map := map
  seq f a := both f (a ())

/-- Read on from the value. -/
def andThen {α β : Type} : Checked α → (α → Checked β) → Checked β
  | .good a, f => f a
  | .bad faults, _ => .bad faults

/-- The faults seen from one step further out. -/
def under {α : Type} (step : Step) : Checked α → Checked α
  | .good a => .good a
  | .bad faults => .bad (faults.map (Fault.under step))

end Checked

end CodeSurvey
