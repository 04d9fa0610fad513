import StyleUsage.Document
import StyleUsage.Options
import StyleUsage.Session.Run

/-! # Streams of stylesheets

Stylesheets pass through a stream one after the other, as long as they declare no unused class.
The first one that does ends the stream, with an error or quietly. -/

namespace StyleUsage.Stream

open Session

/-- Why a stream ends before its documents do. -/
inductive Failure where
  /-- The collection has failed, or there is no room for reading a stylesheet. -/
  | session (failure : Session.Failure)
  | notParsed (path : String) (error : Stylesheet.ParseError)
  | unusedClasses (path : String) (names : List String)
  | streamed (path : String)
  deriving Repr, DecidableEq

def Failure.message : Failure → String
  | session failure => failure.message
  | notParsed _ error => error.message
  | unusedClasses _ names => "Unused CSS Classes: " ++ " ".intercalate names
  | streamed _ => "Streaming not supported"

/-- The setup of a session with the given options, loader and listeners. -/
def setupOf (options : Options) (load : Load) (listener : Nat → Event → Option Session.Failure) :
    Setup where
  patterns := options.patterns
  directives := options.directives
  exemptions := options.exemptions
  load := load
  listener := listener

/-- How a stream has ended: the documents that passed, the failure if there was one, how many
documents were taken from the input, and the session. -/
structure Run where
  passed : List Document
  failure : Option Failure
  taken : Nat
  session : State

/-- A document passes after others have been dealt with as `rest` says. -/
def Run.pass (d : Document) (rest : Run) : Run :=
  { rest with passed := d :: rest.passed, taken := rest.taken + 1 }

/-- The stream ends with one document taken from the input. -/
def endWith (failure : Option Failure) (s : State) : Run :=
  ⟨[], failure, 1, s⟩

/-- Submits a stylesheet and waits for its verdict. -/
def check (setup : Setup) (s : State) (path css : String) :
    State × Except Session.Failure Verdict :=
  let asked := s.request setup (.submit path css)
  match asked.answer? with
  | some (.ok (some id)) =>
      let done := asked.runWorker setup
      match done.outcome? id with
      | some outcome => (done, outcome)
      | none => (done, .error .misused)
  | some (.error e) => (asked, .error e)
  | _ => (asked, .error .misused)

/-- The notice about a document with unused classes. -/
def unusedNotice (path : String) (names : List String) : String :=
  "Unused CSS classes " ++ path ++ " " ++ " ".intercalate names

/-- The documents of a stream one after the other. -/
def checkAll (setup : Setup) (softStop : Bool) : List Document → State → Run
  | [], s => ⟨[], none, 0, s⟩
  | d :: rest, s =>
      if d.isNull then .pass d (checkAll setup softStop rest s)
      else if d.isStream then endWith (some (.streamed d.path)) s
      else
        match check setup s d.path d.text with
        | (s, .error e) => endWith (some (.session e)) s
        | (s, .ok v) =>
            match v.outcome with
            | .error e =>
                if softStop then .pass d (checkAll setup softStop rest s)
                else endWith (some (.notParsed d.path e)) s
            | .ok report =>
                if report.isClean then .pass d (checkAll setup softStop rest s)
                else
                  let s := s.note .warning (unusedNotice d.path report.unused)
                  if softStop then endWith none s
                  else endWith (some (.unusedClasses d.path report.unused)) s

/-- Runs a stream to its end. The session is started before the first document is taken, and the
worker is waited for at the end. -/
def run (setup : Setup) (softStop : Bool) (documents : List Document) : Run :=
  let started := (State.initial setup).request setup .start
  match started.answer? with
  | some (.error e) => ⟨[], some (.session e), 0, started⟩
  | _ =>
      let ended := checkAll setup softStop documents started
      { ended with session := ended.session.runWorker setup }

end StyleUsage.Stream
