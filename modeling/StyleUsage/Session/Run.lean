import StyleUsage.Session.Step

/-! # Runs of a session

A session with one client, in which either the worker or the client moves until it stops. -/

namespace StyleUsage.Session

/-- The number of steps that an analysis still takes at most. -/
def Analysis.work : Analysis → Nat
  | begin => 4
  | announce => 3
  | judge => 2
  | settle _ => 1

/-- A bound on the steps that the worker still takes while no client moves. -/
def State.work (s : State) (setup : Setup) : Nat :=
  match s.worker with
  | .absent | .ended | .died _ => 0
  | .opening => 2 * setup.load.sources.length + 6 * s.queue.length + 6
  | .taking rest _ => 2 * rest.length + 6 * s.queue.length + 5
  | .parsed _ _ rest _ => 2 * rest.length + 6 * s.queue.length + 6
  | .publishing .. => 6 * s.queue.length + 4
  | .handing .. => 6 * s.queue.length + 3
  | .announcing .. => 6 * s.queue.length + 2
  | .draining _ => 6 * s.queue.length + 1
  | .analysing _ _ step => 6 * s.queue.length + 1 + step.work
  | .failing _ => 6 * s.queue.length + 4
  | .rejecting _ swept => swept.length + 3
  | .reporting _ swept => swept.length + 2
  | .sweeping _ swept => swept.length + 1

namespace State

/-- The worker moves at most the given number of times. -/
def workFor (setup : Setup) : Nat → State → State
  | 0, s => s
  | n + 1, s =>
      match s.workerStep? setup with
      | some t => workFor setup n t
      | none => s

/-- The worker moves until it stops. -/
def runWorker (s : State) (setup : Setup) : State :=
  workFor setup (s.work setup) s

/-- A client moves at most the given number of times. -/
def moveFor (setup : Setup) (c : Nat) : Nat → State → State
  | 0, s => s
  | n + 1, s =>
      match s.clientStep? setup c with
      | some t => moveFor setup c n t
      | none => s

/-- No request takes more steps than these. -/
def requestSteps : Nat := 12

/-- The only client of a session. -/
def soleClient : Nat := 0

/-- The client makes a request and moves until it has an answer or has to wait. -/
def request (s : State) (setup : Setup) (r : Request) : State :=
  match s.call? soleClient r with
  | some t => moveFor setup soleClient requestSteps t
  | none => s

/-- The answer to the client's last request, if there is one. -/
def answer? (s : State) : Option (Except Failure (Option Nat)) :=
  match s.clients soleClient with
  | .returned outcome => some outcome
  | _ => none

/-- The outcome that a ticket has got, if there is one. -/
def outcome? (s : State) (id : Nat) : Option (Except Failure Verdict) :=
  match s.tickets[id]?.map Ticket.state with
  | some (.finished outcome) => some outcome
  | _ => none

end State

end StyleUsage.Session
