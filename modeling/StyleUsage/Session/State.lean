import StyleUsage.Event
import StyleUsage.Exemption
import StyleUsage.Session.Ticket

/-! # The state of a session

A session collects the used classes once, on a worker, while its clients may already submit
stylesheets. A stylesheet that comes too early waits in a queue; the worker analyses the queue
when the collection is complete, and stylesheets that come after that are analysed by the client
that submits them. -/

namespace StyleUsage

/-- A markup file and its text. -/
structure MarkupSource where
  path : String
  text : String
  deriving Repr, DecidableEq

namespace Session

/-- What a loader does: it gives notice of something, yields sources one after the other, and then
fails or ends. -/
structure Load where
  notices : List String
  sources : List MarkupSource
  failure : Option Failure

/-- What a session is given at its start. -/
structure Setup where
  patterns : List Value
  directives : Bool
  exemptions : List Exemption
  load : Load
  /-- What the listeners raise at an event that follows a number of others. -/
  listener : Nat → Event → Option Failure

/-- Listeners that raise nothing. -/
def quiet : Nat → Event → Option Failure :=
  fun _ _ => none

inductive Level where
  | info
  | warning
  | error
  deriving Repr, DecidableEq

/-- An entry of a session's record. -/
inductive Entry where
  | event (e : Event)
  | notice (level : Level) (message : String)

inductive Phase where
  | collecting
  | ready
  | failed
  deriving Repr, DecidableEq

/-- The next step of an analysis. -/
inductive Analysis where
  | begin
  | announce
  | judge
  | settle (outcome : Except Failure Verdict)

/-- What the worker does next. -/
inductive Worker where
  /-- It has no task yet. -/
  | absent
  | opening
  | taking (rest : List MarkupSource) (count : Nat)
  | parsed (path : String) (added : Nat) (rest : List MarkupSource) (count : Nat)
  | publishing (used : List String) (count : Nat)
  | handing (used : List String) (count : Nat)
  | announcing (used : List String) (count : Nat)
  | draining (used : List String)
  | analysing (used : List String) (id : Nat) (step : Analysis)
  | failing (failure : Failure)
  | rejecting (failure : Failure) (swept : List Nat)
  | reporting (failure : Failure) (swept : List Nat)
  | sweeping (failure : Failure) (swept : List Nat)
  | ended
  | died (failure : Failure)

/-- What a client may ask for. -/
inductive Request where
  | start
  | submit (path css : String)
  | waitReady
  deriving Repr, DecidableEq

/-- What a client does next. Every request starts the session first. -/
inductive Client where
  | idle
  | starting (request : Request)
  | launching (request : Request)
  | spawning (request : Request)
  | enqueueing (path css : String)
  | queued (id : Nat)
  | refused (id : Nat)
  | admitted (id : Nat)
  | analysing (id : Nat) (used : List String) (step : Analysis)
  | waiting
  /-- The request has ended, with the ticket of a stylesheet if one was submitted. -/
  | returned (outcome : Except Failure (Option Nat))

/-- The state of a session. Tickets are numbered in the order in which they are written. -/
structure State where
  phase : Phase
  draining : Bool
  queue : List Nat
  started : Bool
  worker : Worker
  collected : Option (Except Failure (List String))
  accumulator : Usage.Accumulator
  tickets : List Ticket
  /-- The tickets that clients hold. -/
  issued : List Nat
  clients : Nat → Client
  log : List Entry

/-- The events of a record, in order. -/
def eventsOf (log : List Entry) : List Event :=
  log.filterMap fun
    | .event e => some e
    | .notice .. => none

namespace State

def initial (setup : Setup) : State where
  phase := .collecting
  draining := false
  queue := []
  started := false
  worker := .absent
  collected := none
  accumulator := .start (Usage.collectors setup.directives)
  tickets := []
  issued := []
  clients := fun _ => .idle
  log := []

def note (s : State) (level : Level) (message : String) : State :=
  { s with log := s.log ++ [.notice level message] }

/-- An event is recorded before any listener can raise something. -/
def emit (s : State) (setup : Setup) (e : Event) : State × Option Failure :=
  ({ s with log := s.log ++ [.event e] }, setup.listener (eventsOf s.log).length e)

def setWorker (s : State) (w : Worker) : State :=
  { s with worker := w }

def setClient (s : State) (c : Nat) (stage : Client) : State :=
  { s with clients := fun d => if d = c then stage else s.clients d }

def setTicket (s : State) (id : Nat) (state : TicketState) : State :=
  { s with tickets := s.tickets.modify id ({ · with state }) }

/-- The used set or the failure of the collection is set once. -/
def collect (s : State) (outcome : Except Failure (List String)) : Except Failure State :=
  match s.collected with
  | none => .ok { s with collected := some outcome }
  | some _ => .error .misused

end State

end Session

end StyleUsage
