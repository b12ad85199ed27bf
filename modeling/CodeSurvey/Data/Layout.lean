/-
  Plain data as JSON text.

  * `Layout`: whether the values of arrays and objects have lines of their own, and
    how far they are indented;
  * `Data.render`: the text of a value under a layout.
-/
import CodeSurvey.Data.Basic

namespace CodeSurvey

/-- How JSON text is laid out. -/
inductive Layout where
  /-- All on one line, without blanks. -/
  | compact
  /-- Every value on a line of its own, further in by `step` blanks on each level. -/
  | indented (step : Nat)
  deriving DecidableEq, Repr

namespace Layout

/-- What stands before a value at some depth. -/
def lineStart (layout : Layout) (depth : Nat) : Text :=
  match layout with
  | compact => []
  | indented step => CodePoint.newline :: List.replicate (step * depth) 0x20

/-- What stands between a name and its value. -/
def colon (layout : Layout) : Text :=
  match layout with
  | compact => .ofString ":"
  | indented _ => .ofString ": "

end Layout

namespace Data

/-- A code point as it stands in a JSON string. -/
def escapedPoint (c : CodePoint) : Text :=
  if c = 0x22 || c = 0x5C then [0x5C, c]
  else if c = 0x08 then .ofString "\\b"
  else if c = 0x0C then .ofString "\\f"
  else if c = 0x0A then .ofString "\\n"
  else if c = 0x0D then .ofString "\\r"
  else if c = 0x09 then .ofString "\\t"
  else if c.val < 0x20 then .ofString "\\u" ++ Text.hex 4 c.val
  else [c]

/-- A JSON string. -/
def renderText (t : Text) : Text :=
  0x22 :: t.flatMap escapedPoint ++ [0x22]

mutual

/-- The JSON text of a value at some depth. -/
def renderAt (layout : Layout) (depth : Nat) : Data → Text
  | .null => .ofString "null"
  | .bool b => .ofString (if b then "true" else "false")
  | .int n => .ofInt n
  | .float x => .ofString (x.text numberStyle)
  | .text t => renderText t
  | .array [] => .ofString "[]"
  | .array (d :: ds) =>
    .ofString "[" ++ renderItems layout (depth + 1) (d :: ds) ++ layout.lineStart depth ++
      .ofString "]"
  | .object [] => .ofString "\x7b\x7d"
  | .object (f :: fs) =>
    .ofString "\x7b" ++ renderFields layout (depth + 1) (f :: fs) ++ layout.lineStart depth ++
      .ofString "\x7d"

/-- The values of an array. -/
def renderItems (layout : Layout) (depth : Nat) : List Data → Text
  | [] => []
  | [d] => layout.lineStart depth ++ renderAt layout depth d
  | d :: e :: ds =>
    layout.lineStart depth ++ renderAt layout depth d ++ .ofString "," ++
      renderItems layout depth (e :: ds)

/-- The fields of an object. -/
def renderFields (layout : Layout) (depth : Nat) : List (String × Data) → Text
  | [] => []
  | [(name, d)] =>
    layout.lineStart depth ++ renderText (.ofString name) ++ layout.colon ++
      renderAt layout depth d
  | (name, d) :: e :: fs =>
    layout.lineStart depth ++ renderText (.ofString name) ++ layout.colon ++
      renderAt layout depth d ++ .ofString "," ++ renderFields layout depth (e :: fs)

end

/-- The JSON text of a value. -/
def render (layout : Layout) (d : Data) : Text :=
  renderAt layout 0 d

end Data

end CodeSurvey
