import StyleUsage.Report
import StyleUsage.Session.Failure
import StyleUsage.Stylesheet.Parse

/-! # Tickets

Whoever submits a stylesheet gets a ticket, on which the verdict appears once there is one. Until
its analysis begins, a ticket can be cancelled. -/

namespace StyleUsage.Session

/-- The verdict on a stylesheet: a report, or the reason why it is none. -/
structure Verdict where
  path : String
  outcome : Except Stylesheet.ParseError Report

namespace Verdict

def report? (v : Verdict) : Option Report :=
  v.outcome.toOption

def isClean (v : Verdict) : Bool :=
  v.report?.any Report.isClean

def unused (v : Verdict) : List String :=
  (v.report?.map Report.unused).getD []

end Verdict

inductive TicketState where
  | pending
  | running
  | cancelled
  /-- Cancelled, and left out by whoever came to analyse the stylesheet. -/
  | dropped
  | finished (outcome : Except Failure Verdict)

namespace TicketState

def isDone : TicketState → Bool
  | finished _ | cancelled | dropped => true
  | pending | running => false

/-- Cancels a ticket unless its analysis has begun; tells whether it is cancelled then. -/
def cancel : TicketState → TicketState × Bool
  | pending => (cancelled, true)
  | cancelled => (cancelled, true)
  | dropped => (dropped, true)
  | running => (running, false)
  | finished outcome => (finished outcome, false)

/-- Begins an analysis; tells whether there is one to be made. No analysis begins twice. -/
def begin : TicketState → Except Failure (TicketState × Bool)
  | pending => .ok (running, true)
  | cancelled => .ok (dropped, false)
  | running | dropped | finished _ => .error .misused

/-- Gives a ticket its outcome, which it gets at most once and not after being cancelled. -/
def finish (outcome : Except Failure Verdict) : TicketState → Except Failure TicketState
  | pending | running => .ok (finished outcome)
  | cancelled | dropped | finished _ => .error .misused

end TicketState

/-- A submitted stylesheet. -/
structure Ticket where
  path : String
  css : String
  state : TicketState

end StyleUsage.Session
