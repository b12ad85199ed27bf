/-
  The set-up of the log.

  * `Logging.Meaning`, `Logging.meanings`: what a name stands for; some names of the
    log stand for formats and not for levels;
  * `Logging.LevelError`: what is wrong with the name of a format given as a level;
  * `Logging.configure`: the level and the renderer of a log.
-/
import CodeSurvey.Settings

namespace CodeSurvey.Logging

/-- How log lines are written. -/
inductive Renderer where
  | json
  | console
  deriving DecidableEq, Repr

instance : Labelled Renderer where
  all := [.json, .console]
  label
    | .json => "JSONRenderer"
    | .console => "ConsoleRenderer"

/-! ## Levels -/

/-- What a name of the log stands for. -/
inductive Meaning where
  | level (number : Nat)
  /-- A format of lines. -/
  | format (format : String)
  /-- The formats of lines for each way to mark a field. -/
  | formats (shown : String)
  deriving DecidableEq, Repr

/-- The names of the log. -/
def meanings : List (String × Meaning) :=
  [("NOTSET", .level 0), ("DEBUG", .level 10), ("INFO", .level 20), ("WARN", .level 30),
    ("WARNING", .level 30), ("ERROR", .level 40), ("CRITICAL", .level 50), ("FATAL", .level 50),
    ("BASIC_FORMAT", .format "%(levelname)s:%(name)s:%(message)s"),
    ("_STYLES", .formats
      ("\x7b'%': (<class 'logging.PercentStyle'>, '%(levelname)s:%(name)s:%(message)s'), " ++
        "'\x7b': (<class 'logging.StrFormatStyle'>, " ++
        "'\x7blevelname\x7d:\x7bname\x7d:\x7bmessage\x7d'), " ++
        "'$': (<class 'logging.StringTemplateStyle'>, " ++
        "'$\x7blevelname\x7d:$\x7bname\x7d:$\x7bmessage\x7d')\x7d"))]

/-- The level of a name that is none of these. -/
def defaultLevel : Nat := 20

/-- A name that was given as a level stands for something else. -/
inductive LevelError where
  /-- It stands for one format, whose text is no level's name. -/
  | unknown (format : String)
  /-- It stands for several formats. -/
  | notLevel (shown : String)
  deriving DecidableEq, Repr

/-- The sentence for a name that stands for no level. -/
def LevelError.message : LevelError → Text
  | unknown format => .ofString "Unknown level: " ++ (Text.ofString format).quoted
  | notLevel shown => .ofString ("Level not an integer or a valid string: " ++ shown)

/-- The capitals of a code point as far as they are ASCII; beyond ASCII there are some letters
    and joined letters whose capitals are. -/
def capitals (c : CodePoint) : Text :=
  if 0x61 ≤ c.val && c.val ≤ 0x7A then [c - 0x20]
  else match [(0x131, "I"), (0x17F, "S"), (0xDF, "SS"), (0xFB00, "FF"), (0xFB01, "FI"),
      (0xFB02, "FL"), (0xFB03, "FFI"), (0xFB04, "FFL"), (0xFB05, "ST"),
      (0xFB06, "ST")].lookup c.val with
    | some letters => .ofString letters
    | none => [c]

/-- The number of a level. -/
def levelNumber (name : Text) : Except LevelError Nat :=
  let upper := name.flatMap capitals
  match (meanings.find? fun entry => Text.ofString entry.1 = upper).map Prod.snd with
  | some (.level number) => .ok number
  | some (.format format) => .error (.unknown format)
  | some (.formats shown) => .error (.notLevel shown)
  | none => .ok defaultLevel

/-! ## Set-up -/

/-- A log. -/
structure Setup where
  level : Nat
  renderer : Renderer
  deriving DecidableEq, Repr

/-- The log for a level and a format, which come from the settings where they are not given; an
    empty level is not given. -/
def configure (settings : Settings) (level : Option Text) (json : Option Bool) :
    Except LevelError Setup :=
  (levelNumber ((level.filter fun t => !t.isEmpty).getD settings.logLevel)).map fun number =>
    { level := number
      renderer := if json.getD settings.logJson then .json else .console }

end CodeSurvey.Logging
