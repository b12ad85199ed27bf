/-
  Settings.

  * `Settings`: how the program is set up;
  * `Settings.load`: the settings of an environment and of values that are given
    directly, which win over the environment;
  * `Settings.cacheCapacity`: the cache that an engine gets from them.
-/
import CodeSurvey.Data.Check
import CodeSurvey.Text.Case

namespace CodeSurvey

/-- How the program is set up. -/
structure Settings where
  appName : Text
  appVersion : Text
  logLevel : Text
  /-- Whether log lines are written as JSON. -/
  logJson : Bool
  /-- Whether a tree with broken places is refused. -/
  strictSyntax : Bool
  cacheEnabled : Bool
  cacheMaxEntries : Nat
  deriving DecidableEq, Repr

namespace Settings

/-- What the name of a setting's environment variable starts with, in lower case. -/
def environmentMark : String := "codesight_"

/-- The value of a variable, whose name may have letters of either case; the last one wins. -/
def fromEnvironment? (environment : List (Text × Text)) (name : String) : Option Text :=
  let key := Text.ofString (environmentMark ++ name)
  (environment.reverse.find? fun entry => entry.1.lower = key).map Prod.snd

/-- The names of the settings. -/
def names : List String :=
  ["app_name", "app_version", "log_level", "log_json", "strict_syntax", "cache_enabled",
    "cache_max_entries"]

/-- The fields to read settings from: a given value comes before a variable. -/
def fields (values : Read.Fields) (environment : List (Text × Text)) : Read.Fields :=
  names.filterMap fun name =>
    match Data.get? values name, fromEnvironment? environment name with
    | some d, _ => some (name, d)
    | none, some t => some (name, .text t)
    | none, none => none

/-- Read settings from fields. -/
def readFields (fields : Read.Fields) : Checked Settings :=
  Settings.mk <$> Read.default (.ofString "codesight") Read.text "app_name" fields
    <*> Read.default (.ofString "0.1.0") Read.text "app_version" fields
    <*> Read.default (.ofString "INFO") Read.text "log_level" fields
    <*> Read.default false Read.boolean "log_json" fields
    <*> Read.default true Read.boolean "strict_syntax" fields
    <*> Read.default false Read.boolean "cache_enabled" fields
    <*> Read.default 256 (Read.naturalWithin 1 100000) "cache_max_entries" fields

/-- The settings of given values and an environment. -/
def load (values : Read.Fields) (environment : List (Text × Text)) : Checked Settings :=
  readFields (fields values environment)

/-- The capacity of an engine's cache, if it has one. -/
def cacheCapacity (s : Settings) : Option Nat :=
  if s.cacheEnabled then some s.cacheMaxEntries else none

/-- The written form. -/
def toData (s : Settings) : Data :=
  .object [
    ("app_name", .text s.appName),
    ("app_version", .text s.appVersion),
    ("log_level", .text s.logLevel),
    ("log_json", .bool s.logJson),
    ("strict_syntax", .bool s.strictSyntax),
    ("cache_enabled", .bool s.cacheEnabled),
    ("cache_max_entries", .nat s.cacheMaxEntries)]

end Settings

end CodeSurvey
