import StyleUsage.Session.State

/-! # The steps of a session

A session moves by small steps, each of which is either a section that excludes all others, or
the announcement of one event. The worker and the clients take turns in any order. -/

namespace StyleUsage.Session

/-- The verdict on a stylesheet, given the used classes. -/
def verdict (setup : Setup) (used : List String) (path css : String) : Verdict where
  path := path
  outcome := (Stylesheet.parse css).map fun sheet =>
    Report.of sheet used.contains (isExempt setup.exemptions)

/-- What the analysis of a stylesheet finds: the verdict, if there is room for reading it. -/
def finding (setup : Setup) (used : List String) (path css : String) : Except Failure Verdict :=
  if Stylesheet.isTooDeep css then .error .tooDeep else .ok (verdict setup used path css)

/-- The event that announces a verdict. -/
def Verdict.event (v : Verdict) : Event :=
  match v.outcome with
  | .ok report => .documentResolved v.path report.unused
  | .error e => .documentFailed v.path e.message

/-- How an analysis goes on after one step. -/
inductive Advance where
  | next (step : Analysis)
  | done
  | broken (failure : Failure)

namespace State

/-- A stylesheet that is none is put on record before the event that announces it. -/
def noteVerdict (s : State) (v : Verdict) : State :=
  match v.outcome with
  | .ok _ => s
  | .error e => s.note .info ("Cannot parse " ++ v.path ++ ": " ++ e.message)

/-- One step of the analysis of a stylesheet. What a listener raises at the verdict becomes the
outcome of the ticket, and so does the want of room for a verdict, of which no event tells. What a
listener raises before that breaks the analysis off. -/
def analyse (s : State) (setup : Setup) (id : Nat) (used : List String) (step : Analysis) :
    State × Advance :=
  match s.tickets[id]? with
  | none => (s, .broken .misused)
  | some ticket =>
      match step with
      | .begin =>
          match ticket.state.begin with
          | .error e => (s, .broken e)
          | .ok (state, true) => (s.setTicket id state, .next .announce)
          | .ok (state, false) => (s.setTicket id state, .done)
      | .announce =>
          match s.emit setup (.documentAnalyzing ticket.path) with
          | (s, some e) => (s, .broken e)
          | (s, none) => (s, .next .judge)
      | .judge =>
          match finding setup used ticket.path ticket.css with
          | .error e => (s, .next (.settle (.error e)))
          | .ok v =>
              match (s.noteVerdict v).emit setup v.event with
              | (s, some e) => (s, .next (.settle (.error e)))
              | (s, none) => (s, .next (.settle (.ok v)))
      | .settle outcome =>
          match ticket.state.finish outcome with
          | .error e => (s, .broken e)
          | .ok state => (s.setTicket id state, .done)

/-- A ticket gets the failure of the collection, unless it is cancelled. -/
def reject (s : State) (id : Nat) (failure : Failure) : Except Failure State :=
  match s.tickets[id]? with
  | none => .error .misused
  | some ticket => do
      match ← ticket.state.begin with
      | (state, true) => return s.setTicket id (← state.finish (.error failure))
      | (state, false) => return s.setTicket id state

/-- The collection is over, and `outcome` is its result; the worker goes on with `next`. -/
def conclude (s : State) (outcome : Except Failure (List String)) (next : Worker) : State :=
  match s.collect outcome with
  | .ok s => s.setWorker next
  | .error e => s.setWorker (.died e)

/-- One step of the worker, if there is one. -/
def workerStep? (s : State) (setup : Setup) : Option State :=
  match s.worker with
  | .absent | .ended | .died _ => none
  | .opening =>
      some ((setup.load.notices.foldl (·.note .warning) s).setWorker
        (.taking setup.load.sources 0))
  | .taking [] count =>
      match setup.load.failure with
      | some e => some (s.setWorker (.failing e))
      | none =>
          let accumulator := s.accumulator.freeze
          some (({ s with accumulator }.note .info
            ("Collected " ++ toString accumulator.size ++ " used classes from " ++
              toString count ++ " markup sources")).setWorker
            (.publishing accumulator.used count))
  | .taking (source :: rest) count =>
      match s.accumulator.feed source.text with
      | .error e => some (s.setWorker (.failing (.refused e)))
      | .ok accumulator =>
          some ({ s with accumulator }.setWorker
            (.parsed source.path (accumulator.size - s.accumulator.size) rest (count + 1)))
  | .parsed path added rest count =>
      match s.emit setup (.sourceParsed path added) with
      | (s, some e) => some (s.setWorker (.failing e))
      | (s, none) => some (s.setWorker (.taking rest count))
  | .publishing used count =>
      some ({ s with phase := .ready, draining := true }.setWorker (.handing used count))
  | .handing used count => some (s.conclude (.ok used) (.announcing used count))
  | .announcing used count =>
      match s.emit setup (.collectionCompleted count used.length) with
      | (s, some e) => some (s.setWorker (.died e))
      | (s, none) => some (s.setWorker (.draining used))
  | .draining used =>
      match s.queue with
      | [] => some ({ s with draining := false }.setWorker .ended)
      | id :: queue => some ({ s with queue }.setWorker (.analysing used id .begin))
  | .analysing used id step =>
      match s.analyse setup id used step with
      | (s, .next step) => some (s.setWorker (.analysing used id step))
      | (s, .done) => some (s.setWorker (.draining used))
      | (s, .broken e) => some (s.setWorker (.died e))
  | .failing e =>
      some ({ s.note .error ("Markup collection failed: " ++ e.message) with
        phase := .failed, queue := [] }.setWorker (.rejecting e s.queue))
  | .rejecting e swept => some (s.conclude (.error e) (.reporting e swept))
  | .reporting e swept =>
      match s.emit setup (.collectionFailed e.message) with
      | (s, some e) => some (s.setWorker (.died e))
      | (s, none) => some (s.setWorker (.sweeping e swept))
  | .sweeping _ [] => some (s.setWorker .ended)
  | .sweeping e (id :: swept) =>
      match s.reject id e with
      | .ok s => some (s.setWorker (.sweeping e swept))
      | .error e => some (s.setWorker (.died e))

/-- The request of a client ends. -/
def giveBack (s : State) (c : Nat) (outcome : Except Failure (Option Nat)) : State :=
  match outcome with
  | .ok (some id) => { s with issued := id :: s.issued }.setClient c (.returned outcome)
  | _ => s.setClient c (.returned outcome)

/-- The session is started as far as a client is concerned. -/
def proceed (s : State) (c : Nat) (request : Request) : State :=
  match request with
  | .start => s.giveBack c (.ok none)
  | .submit path css => s.setClient c (.enqueueing path css)
  | .waitReady => s.setClient c .waiting

/-- A new ticket is written, and the stylesheet takes the way that the state asks for. -/
def enqueue (s : State) (c : Nat) (path css : String) : State :=
  let id := s.tickets.length
  let ticket : Ticket := ⟨path, css, .pending⟩
  let t := { s with tickets := s.tickets ++ [ticket] }
  if s.phase = .collecting ∨ s.draining then
    { t with queue := s.queue ++ [id] }.setClient c (.queued id)
  else if s.phase = .failed then t.setClient c (.refused id)
  else t.setClient c (.admitted id)

/-- One step of a client, if there is one. -/
def clientStep? (s : State) (setup : Setup) (c : Nat) : Option State :=
  match s.clients c with
  | .idle | .returned _ => none
  | .starting request =>
      if s.started then some (s.proceed c request)
      else some ({ s with started := true }.setClient c (.launching request))
  | .launching request =>
      match s.emit setup (.collectionStarted setup.patterns) with
      | (s, some e) => some (s.giveBack c (.error e))
      | (s, none) => some (s.setClient c (.spawning request))
  | .spawning request => some ((s.setWorker .opening).proceed c request)
  | .enqueueing path css => some (s.enqueue c path css)
  | .queued id =>
      match s.tickets[id]? with
      | none => none
      | some ticket =>
          match s.emit setup (.documentQueued ticket.path) with
          | (s, some e) => some (s.giveBack c (.error e))
          | (s, none) => some (s.giveBack c (.ok (some id)))
  | .refused id =>
      match s.collected with
      | some (.error e) =>
          match s.reject id e with
          | .ok s => some (s.giveBack c (.ok (some id)))
          | .error e => some (s.giveBack c (.error e))
      | _ => none
  | .admitted id =>
      match s.collected with
      | some (.ok used) => some (s.setClient c (.analysing id used .begin))
      | some (.error e) => some (s.giveBack c (.error e))
      | none => none
  | .analysing id used step =>
      match s.analyse setup id used step with
      | (s, .next step) => some (s.setClient c (.analysing id used step))
      | (s, .done) => some (s.giveBack c (.ok (some id)))
      | (s, .broken e) => some (s.giveBack c (.error e))
  | .waiting =>
      match s.collected with
      | some (.ok _) => some (s.giveBack c (.ok none))
      | some (.error e) => some (s.giveBack c (.error e))
      | none => none

/-- A client that has no request under way makes one. -/
def call? (s : State) (c : Nat) (request : Request) : Option State :=
  match s.clients c with
  | .idle | .returned _ => some (s.setClient c (.starting request))
  | _ => none

/-- Whoever holds a ticket cancels it, which has no effect once its analysis has begun. -/
def cancel? (s : State) (id : Nat) : Option (State × Bool) :=
  match s.tickets[id]? with
  | some ticket =>
      if id ∈ s.issued then
        let (state, isCancelled) := ticket.state.cancel
        some (s.setTicket id state, isCancelled)
      else none
  | none => none

end State

/-- Who takes a step. -/
inductive Move where
  | worker
  | client (c : Nat)
  | call (c : Nat) (request : Request)
  | cancel (id : Nat)

/-- The state after one step, if it is possible. -/
def State.step? (s : State) (setup : Setup) : Move → Option State
  | .worker => s.workerStep? setup
  | .client c => s.clientStep? setup c
  | .call c request => s.call? c request
  | .cancel id => (s.cancel? id).map Prod.fst

/-- The states that a session can come to. -/
inductive Reachable (setup : Setup) : State → Prop where
  | initial : Reachable setup (.initial setup)
  | step {s t : State} (m : Move) (h : Reachable setup s) (hm : s.step? setup m = some t) :
      Reachable setup t

end StyleUsage.Session
