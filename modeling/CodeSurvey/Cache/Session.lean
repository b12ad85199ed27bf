/-
  Sessions with a report cache.

  A session drives a cache step by step.  Callers have names, and the computation
  of a caller ends when the session says so: the session holds a gate for every
  caller, which is settled once.

  * `Session`: the cache with the names of the callers and the settled gates;
  * `Session.Command`: the steps; `Session.perform`: the session after a step, with
    the answer and the diagnostics of the step.
-/
import CodeSurvey.Cache.Flight
import CodeSurvey.Diagnostic
import CodeSurvey.Fingerprint

namespace CodeSurvey

/-- A cache of reports that are told apart by their labels. -/
abbrev LabelCache := Flights Text Text Failure

/-- A cache with named callers. -/
structure Session where
  cache : LabelCache
  /-- The names of the callers, by their numbers. -/
  names : List Text := []
  /-- The callers whose gates are settled. -/
  settled : List Text := []
  /-- The callers that have started to compute. -/
  computing : List Text := []

namespace Session

/-- The steps of a session. -/
inductive Command where
  | put (key label : Text)
  | get (key : Text)
  | contains (key : Text)
  | clear
  /-- A caller looks up the report of a source. -/
  | start (name language source : Text)
  /-- The gate of a caller opens with a report. -/
  | resolve (name label : Text)
  /-- The gate of a caller opens with a failure. -/
  | fail (name : Text) (failure : Failure)
  | cancel (name : Text)

/-- What a step answers. -/
inductive Answer where
  | nothing
  | label (label : Text)
  | truth (b : Bool)
  deriving DecidableEq, Repr

/-- The number of the last caller of a name. -/
def number? (s : Session) (name : Text) : Option Nat :=
  (s.names.reverse.findIdx? fun n => n = name).map fun i => s.names.length - 1 - i

/-- The state of the last caller of a name. -/
def state? (s : Session) (name : Text) : Option (CallState Text Failure) :=
  (s.number? name).bind s.cache.stateOf?

/-- Whether a caller of that name computes. -/
def isComputing (s : Session) (name : Text) : Bool :=
  s.state? name == some .computing

/-- A caller starts with a gate of its own. -/
def start (s : Session) (name language source : Text) : Session :=
  let cache := s.cache.lookup (Fingerprint.key language source)
  let computes := cache.stateOf? s.cache.calls.length == some .computing
  { cache
    names := s.names ++ [name]
    settled := s.settled.filter (· ≠ name)
    computing := if computes then s.computing ++ [name] else s.computing }

/-- The gate of a caller opens with an outcome, unless it is settled already.  Only a caller that
    computes takes notice. -/
def settle (s : Session) (name : Text) (outcome : Outcome Text Failure) : Session × Answer :=
  match s.number? name with
  | some n =>
    if name ∈ s.settled then (s, .truth false)
    else
      ({ s with cache := s.cache.finish n outcome, settled := name :: s.settled }, .truth true)
  | none => (s, .truth false)

/-- A caller is cancelled, unless it is done already; one that computes takes its gate with it. -/
def cancel (s : Session) (name : Text) : Session × Answer :=
  match s.number? name, s.state? name with
  | some n, some .computing =>
    ({ s with cache := s.cache.cancel n, settled := name :: s.settled }, .truth true)
  | some n, some (.waiting _) => ({ s with cache := s.cache.cancel n }, .truth true)
  | _, _ => (s, .truth false)

/-- The session after a step, and what the step answers. -/
def perform (s : Session) : Command → Session × Answer × List Diagnostic
  | .put key label => ({ s with cache := s.cache.put key label }, .nothing, [])
  | .get key =>
    ({ s with cache := s.cache.get key },
      (match s.cache.store.find? key with
       | some label => .label label
       | none => .nothing), [])
  | .contains key => (s, .truth (s.cache.store.find? key).isSome, [])
  | .clear => ({ s with cache := s.cache.clear }, .nothing, [])
  | .start name language source => (s.start name language source, .nothing, [])
  | .resolve name label =>
    let result := s.settle name (.report label)
    (result.1, result.2, [])
  | .fail name failure =>
    let result := s.settle name (.failure failure)
    let noticed := s.isComputing name && result.2 == .truth true
    (result.1, result.2, if noticed then [.computeFailed failure.text] else [])
  | .cancel name =>
    let result := s.cancel name
    (result.1, result.2, [])

/-- The names of the callers, each once, with their states. -/
def tasks (s : Session) : List (Text × CallState Text Failure) :=
  (distinct s.names).filterMap fun name => (s.state? name).map fun state => (name, state)

end Session

end CodeSurvey
