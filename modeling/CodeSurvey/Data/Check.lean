/-
  Reading records from plain data.

  Reading a record either gives the record or every fault that was found, in the
  order of the record's fields.

  * `Read.text`, `Read.natural`, `Read.boolean`, `Read.number`, `Read.list`, …:
    the readers of single values, which accept the texts that write a value too;
  * `Read.record`, `Read.required`, `Read.default`: the readers of records.
-/
import CodeSurvey.Data.Basic
import CodeSurvey.Data.Fault
import CodeSurvey.Number.Grouped

namespace CodeSurvey

/-! ## Readers -/

namespace Read

/-- A text. -/
def text : Data → Checked Text
  | .text t => .good t
  | _ => .fail .notText

/-- A text that is not empty. -/
def nonEmptyText (d : Data) : Checked Text :=
  (text d).andThen fun t => if t.isEmpty then .fail .tooShort else .good t

/-- The first integer beyond the machine's words. -/
def wordLimit : Int :=
  Nat.pow 2 63

/-- An integer, or what writes one; a fraction has to be within the machine's words. -/
def integer : Data → Checked Int
  | .int n => .good n
  | .bool b => .good (if b then 1 else 0)
  | .float x =>
    if !x.isFinite then .fail .notFinite
    else match x.integer? with
      | some n => if -wordLimit < n && n < wordLimit then .good n else .fail .tooLarge
      | none => .fail .fractional
  | .text t => match Grouped.integer t with
    | .ok n => .good n
    | .error .tooLong => .fail .tooLarge
    | .error .malformed => .fail .unreadableInteger
  | _ => .fail .notInteger

/-- A natural number that is at least `least`. -/
def natural (least : Nat) (d : Data) : Checked Nat :=
  (integer d).andThen fun n => if n < least then .fail (.below least) else .good n.toNat

/-- A natural number from `least` to `greatest`. -/
def naturalWithin (least greatest : Nat) (d : Data) : Checked Nat :=
  (natural least d).andThen fun n => if greatest < n then .fail (.above greatest) else .good n

/-- The texts that stand for true and for false. -/
def truthWords : List String × List String :=
  (["1", "on", "t", "true", "y", "yes"], ["0", "off", "f", "false", "n", "no"])

/-- The truth value that zero or one stands for. -/
def truth (n : Int) : Checked Bool :=
  if n = 1 then .good true else if n = 0 then .good false else .fail .unreadableBoolean

/-- A truth value, or what stands for one; a number has to be an integer within the machine's
    words. -/
def boolean : Data → Checked Bool
  | .bool b => .good b
  | .text t =>
    let word := t.map Numeral.asciiLower
    if truthWords.1.any fun w => Text.ofString w = word then .good true
    else if truthWords.2.any fun w => Text.ofString w = word then .good false
    else .fail .unreadableBoolean
  | .int n => if -wordLimit ≤ n && n < wordLimit then truth n else .fail .notBoolean
  | .float x => match integer (.float x) with
    | .good n => truth n
    | .bad _ => .fail .notBoolean
  | _ => .fail .notBoolean

/-- A number, or what writes one. -/
def number : Data → Checked Binary64
  | .float x => .good x
  | .int n => if (Binary64.ofInt n).isFinite then .good (Binary64.ofInt n) else .fail .notNumber
  | .bool b => .good (Binary64.ofInt (if b then 1 else 0))
  | .text t => match Grouped.real? t with
    | some x => .good x
    | none => .fail .unreadableNumber
  | _ => .fail .notNumber

/-- A number that is not below zero; a NaN is none. -/
def amount (d : Data) : Checked Binary64 :=
  (number d).andThen fun x => if Binary64.zero.le x then .good x else .fail (.below 0)

/-- A number that is neither above one nor below zero; a NaN counts as above. -/
def share (d : Data) : Checked Binary64 :=
  (number d).andThen fun x =>
    if !x.le (.ofInt 1) then .fail (.above 1)
    else if Binary64.zero.le x then .good x
    else .fail (.below 0)

/-- A value that may be absent. -/
def optional {α : Type} (read : Data → Checked α) : Data → Checked (Option α)
  | .null => .good none
  | d => (read d).map some

/-- The values of a list, with the faults of each under its position. -/
def items {α : Type} (read : Data → Checked α) : Nat → List Data → Checked (List α)
  | _, [] => .good []
  | i, d :: ds => (List.cons <$> (read d).under (.index i)) <*> items read (i + 1) ds

/-- A list. -/
def list {α : Type} (read : Data → Checked α) : Data → Checked (List α)
  | .array ds => items read 0 ds
  | _ => .fail .notList

/-- The members of a set, given as a list. -/
def members {α : Type} (read : Data → Checked α) : Data → Checked (List α)
  | .array ds => items read 0 ds
  | _ => .fail .notSet

/-- Two values, given as a list. -/
def pair {α : Type} (read : Data → Checked α) : Data → Checked (α × α)
  | .array [a, b] =>
    (Prod.mk <$> (read a).under (.index 0)) <*> (read b).under (.index 1)
  | .array [a] =>
    (Prod.mk <$> (read a).under (.index 0)) <*> (Checked.fail .missing).under (.index 1)
  | .array [] =>
    (Prod.mk <$> (Checked.fail .missing).under (.index 0)) <*>
      (Checked.fail .missing).under (.index 1)
  | .array ds => .fail (.beyondPair ds.length)
  | _ => .fail .notPair

/-- The value of one of the given words, with `cause` for any other. -/
def labelled {α : Type} [Labelled α] (cause : List String → Cause) (d : Data) : Checked α :=
  let wrong := Checked.fail (cause ((Labelled.all : List α).map Labelled.label))
  match d with
  | .text t => match Labelled.ofLabel? t with
    | some a => .good a
    | none => wrong
  | _ => wrong

/-- The value of a word of an enumeration. -/
def member {α : Type} [Labelled α] (d : Data) : Checked α :=
  labelled .notMember d

/-- The value of one of the words that a field allows. -/
def word {α : Type} [Labelled α] (d : Data) : Checked α :=
  labelled .notAllowed d

/-! ## Records -/

/-- The fields of an object. -/
abbrev Fields := List (String × Data)

/-- A record of the given name, read from the fields of an object. -/
def record {α : Type} (model : String) (read : Fields → Checked α) : Data → Checked α
  | .object fields => read fields
  | _ => .fail (.notRecord model)

/-- A field that has to be there. -/
def required {α : Type} (read : Data → Checked α) (name : String) (fields : Fields) :
    Checked α :=
  (match Data.get? fields name with
   | some d => read d
   | none => .fail .missing).under (.key name)

/-- A field that may be left out. -/
def default {α : Type} (a : α) (read : Data → Checked α) (name : String) (fields : Fields) :
    Checked α :=
  match Data.get? fields name with
  | some d => (read d).under (.key name)
  | none => .good a

/-- A field that has to be there under one of two names, the first of which wins. -/
def either {α : Type} (read : Data → Checked α) (name other : String) (fields : Fields) :
    Checked α :=
  match Data.get? fields name, Data.get? fields other with
  | none, some d => (read d).under (.key other)
  | _, _ => required read name fields

end Read

end CodeSurvey
