/-
  Plain data.

  `Data` is what records are written as and read from: the values of JSON, with
  integers and fractions kept apart and the fields of an object in order.

  * `Data.get?`: a field of an object;
  * `Data.kindWord`, `Data.shown`: the word that error messages use for a kind of
    value, and the value as they show it;
  * `Labelled`: the types whose values are written as one of a few fixed words.
-/
import CodeSurvey.Text.Quoted
import CodeSurvey.Number.Shortest

namespace CodeSurvey

/-- A value of plain data. -/
inductive Data where
  | null
  | bool (b : Bool)
  | int (n : Int)
  | float (x : Binary64)
  | text (t : Text)
  | array (items : List Data)
  | object (fields : List (String × Data))
  deriving Repr, Inhabited

namespace Data

/-- The text with the given characters. -/
def str (s : String) : Data :=
  .text (Text.ofString s)

/-- A natural number. -/
def nat (n : Nat) : Data :=
  .int n

/-- A value that may be absent. -/
def optional {α : Type} (write : α → Data) : Option α → Data
  | some a => write a
  | none => .null

/-- A list of values. -/
def list {α : Type} (write : α → Data) (as : List α) : Data :=
  .array (as.map write)

/-- The field of that name among the fields of an object. -/
def get? (fields : List (String × Data)) (name : String) : Option Data :=
  fields.lookup name

/-- The word that messages use for a value of this kind. -/
def kindWord : Data → String
  | .null => "NoneType"
  | .bool _ => "bool"
  | .int _ => "int"
  | .float _ => "float"
  | .text _ => "str"
  | .array _ => "list"
  | .object _ => "dict"

/-- Whether the value is the text with the given characters. -/
def isStr (s : String) : Data → Bool
  | .text t => t == Text.ofString s
  | _ => false

/-- A fraction is written without an exponent from three zeros behind its point to sixteen digits
    before it; an exponent has at least two digits. -/
def numberStyle : DecimalStyle :=
  ⟨-3, 16, 2⟩

mutual

/-- The value inside another one, as messages show it. -/
def shownInside : Data → Text
  | .null => .ofString "None"
  | .bool b => .ofString (if b then "True" else "False")
  | .int n => .ofInt n
  | .float x => .ofString (x.text numberStyle)
  | .text t => t.quoted
  | .array items => .ofString "[" ++ shownItems items ++ .ofString "]"
  | .object fields => .ofString "\x7b" ++ shownFields fields ++ .ofString "\x7d"

/-- The values of a list, as messages show them. -/
def shownItems : List Data → Text
  | [] => []
  | [d] => shownInside d
  | d :: e :: ds => shownInside d ++ .ofString ", " ++ shownItems (e :: ds)

/-- The fields of an object, as messages show them. -/
def shownFields : List (String × Data) → Text
  | [] => []
  | [(name, d)] => (Text.ofString name).quoted ++ .ofString ": " ++ shownInside d
  | (name, d) :: e :: ds =>
    (Text.ofString name).quoted ++ .ofString ": " ++ shownInside d ++ .ofString ", " ++
      shownFields (e :: ds)

end

/-- The value as messages show it: a text as it is, anything else as inside another value. -/
def shown : Data → Text
  | .text t => t
  | d => shownInside d

end Data

/-- A type of a few values, each written as a word of its own. -/
class Labelled (α : Type) where
  /-- Every value, in the order in which messages list them. -/
  all : List α
  /-- The word of a value. -/
  label : α → String

namespace Labelled

/-- The value with the given word. -/
def ofLabel? {α : Type} [Labelled α] (word : Text) : Option α :=
  (all : List α).find? fun a => Text.ofString (label a) = word

/-- A value, written as its word. -/
def toData {α : Type} [Labelled α] (a : α) : Data :=
  Data.str (label a)

end Labelled

end CodeSurvey
