/-
  The engine: reports on request, with or without a cache.

  * `Engine`: the cache, if there is one, and the number of reports built;
  * `Engine.batch`: some requests that run at the same time.  All of them look
    their reports up before the first one is built, in the order of the requests.
-/
import CodeSurvey.Cache.Flight
import CodeSurvey.Fingerprint
import CodeSurvey.Report

namespace CodeSurvey

/-- A cache of reports; building a report does not fail. -/
abbrev ReportCache := Flights Text Report Empty

/-- An engine with what it has done so far. -/
structure Engine where
  parser : Parser
  config : AnalysisConfig := {}
  cache : Option ReportCache := none
  /-- How many reports were built. -/
  builds : Nat := 0

namespace Engine

/-- A request: a source and a language, which ought to be texts. -/
structure Request where
  source : Data
  language : Data

/-- What a request ends with. -/
abbrev Response := Except Report.InputError Report

/-- The report of a text. -/
def report (e : Engine) (source language : Text) : Report :=
  (Report.build e.parser e.config source language).1

/-- A request that is on its way. -/
inductive Started where
  | refused (error : Report.InputError)
  /-- The report is built for this request alone. -/
  | alone (source language : Text)
  /-- The request is the caller with this number. -/
  | called (number : Nat) (source language : Text)

/-- Start a request. -/
def start (e : Engine) (r : Request) : Engine × Started :=
  match Report.arguments? r.source r.language with
  | .error error => (e, .refused error)
  | .ok (source, language) =>
    match e.cache with
    | none => (e, .alone source language)
    | some cache =>
      ({ e with cache := some (cache.lookup (Fingerprint.key language source)) },
        .called cache.calls.length source language)

/-- Start some requests, one after the other. -/
def startAll (e : Engine) : List Request → Engine × List Started
  | [] => (e, [])
  | r :: rs =>
    let started := e.start r
    let others := started.1.startAll rs
    (others.1, started.2 :: others.2)

/-- Build the report that a request has to build. -/
def complete (e : Engine) : Started → Engine
  | .refused _ => e
  | .alone .. => { e with builds := e.builds + 1 }
  | .called number source language =>
    match e.cache with
    | none => e
    | some cache =>
      match cache.stateOf? number with
      | some .computing =>
        { e with
          cache := some (cache.finish number (.report (e.report source language)))
          builds := e.builds + 1 }
      | _ => e

/-- What a request ends with, after all reports are built. -/
def response (e : Engine) : Started → Response
  | .refused error => .error error
  | .alone source language => .ok (e.report source language)
  | .called number source language =>
    match e.cache.bind fun cache => cache.stateOf? number with
    | some (.done (.report r)) => .ok r
    | _ => .ok (e.report source language)

/-- Some requests that run at the same time, with what each of them ends with. -/
def batch (e : Engine) (requests : List Request) : Engine × List Response :=
  let started := e.startAll requests
  let done := started.2.foldl complete started.1
  (done, started.2.map done.response)

end Engine

end CodeSurvey
