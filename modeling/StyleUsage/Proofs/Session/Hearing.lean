import StyleUsage.Proofs.Session.Custody

/-!
# What comes of verdicts

What a listener raises at the verdict on a stylesheet becomes the outcome of its ticket. The steps
of a session do not look at outcomes: whatever has come of the verdicts before, a session whose
listeners raise something at verdicts takes the same steps as one whose listeners raise nothing.
-/

namespace StyleUsage.Session

/-- The events that announce a verdict. -/
def IsOfVerdict (e : Event) : Prop :=
  e.kind = .documentResolved ∨ e.kind = .documentFailed

theorem isOfVerdict_event (v : Verdict) : IsOfVerdict v.event := by
  unfold Verdict.event
  split
  · exact .inl rfl
  · exact .inr rfl

/-- Listeners that raise something at verdicts at most. -/
def Setup.RaisesAtVerdicts (setup : Setup) : Prop :=
  ∀ n e, ¬ IsOfVerdict e → setup.listener n e = none

/-- The same session with listeners that raise nothing. -/
def Setup.quieted (setup : Setup) : Setup :=
  { setup with listener := quiet }

/-- The outcome that comes of a verdict when its event follows `n` others. -/
def Setup.heard (setup : Setup) (n : Nat) (v : Verdict) : Except Failure Verdict :=
  match setup.listener n v.event with
  | some failure => .error failure
  | none => .ok v

/-! ## What comes of verdicts -/

/-- The outcome that comes of a verdict, for each ticket. -/
abbrev Hearing := Nat → Verdict → Except Failure Verdict

def TicketState.hear (f : Verdict → Except Failure Verdict) : TicketState → TicketState
  | finished outcome => finished (outcome.bind f)
  | state => state

def Analysis.hear (f : Verdict → Except Failure Verdict) : Analysis → Analysis
  | settle outcome => settle (outcome.bind f)
  | step => step

def Advance.hear (f : Verdict → Except Failure Verdict) : Advance → Advance
  | next step => next (step.hear f)
  | advance => advance

def Worker.hear (f : Hearing) : Worker → Worker
  | analysing used id step => analysing used id (step.hear (f id))
  | worker => worker

def Client.hear (f : Hearing) : Client → Client
  | analysing id used step => analysing id used (step.hear (f id))
  | stage => stage

def Ticket.hear (f : Verdict → Except Failure Verdict) (ticket : Ticket) : Ticket :=
  { ticket with state := ticket.state.hear f }

namespace State

/-- Other outcomes come of the verdicts; all else is the same. -/
def hear (s : State) (f : Hearing) : State :=
  { s with
    tickets := s.tickets.mapIdx fun id ticket => ticket.hear (f id)
    worker := s.worker.hear f
    clients := fun c => (s.clients c).hear f }

/-- There is room for reading the stylesheet of a ticket. -/
def hasRoom (s : State) (id : Nat) : Bool :=
  s.tickets[id]?.any fun ticket => !Stylesheet.isTooDeep ticket.css

/-- The ticket whose verdict is announced by a move. -/
def judges? (s : State) : Move → Option Nat
  | .worker =>
      match s.worker with
      | .analysing _ id .judge => if s.hasRoom id then some id else none
      | _ => none
  | .client c =>
      match s.clients c with
      | .analysing id _ .judge => if s.hasRoom id then some id else none
      | _ => none
  | _ => none

end State

section
variable {setup : Setup} {s : State} {m : Move} {f : Hearing}

/-! ## Steps -/

@[simp] theorem phase_hear : (s.hear f).phase = s.phase := rfl

@[simp] theorem draining_hear : (s.hear f).draining = s.draining := rfl

@[simp] theorem queue_hear : (s.hear f).queue = s.queue := rfl

@[simp] theorem started_hear : (s.hear f).started = s.started := rfl

@[simp] theorem collected_hear : (s.hear f).collected = s.collected := rfl

@[simp] theorem accumulator_hear : (s.hear f).accumulator = s.accumulator := rfl

@[simp] theorem issued_hear : (s.hear f).issued = s.issued := rfl

@[simp] theorem log_hear : (s.hear f).log = s.log := rfl

@[simp] theorem worker_hear : (s.hear f).worker = s.worker.hear f := rfl

@[simp] theorem clients_hear (c : Nat) : (s.hear f).clients c = (s.clients c).hear f := rfl

@[simp] theorem getElem?_hear (id : Nat) :
    (s.hear f).tickets[id]? = s.tickets[id]?.map (Ticket.hear (f id)) := by
  simp [State.hear]

@[simp] theorem length_hear : (s.hear f).tickets.length = s.tickets.length := by
  simp [State.hear]

theorem hear_setClient (c : Nat) (stage : Client) :
    (s.setClient c stage).hear f = (s.hear f).setClient c (stage.hear f) := by
  simp only [State.hear, State.setClient, State.mk.injEq, true_and, and_true]
  funext d
  split <;> rfl

theorem hear_giveBack (c : Nat) (outcome : Except Failure (Option Nat)) :
    (s.giveBack c outcome).hear f = (s.hear f).giveBack c outcome := by
  rw [giveBack_eq, giveBack_eq, hear_setClient]
  rfl

theorem hear_proceed (c : Nat) (request : Request) :
    (s.proceed c request).hear f = (s.hear f).proceed c request := by
  rw [proceed_eq, proceed_eq, hear_setClient]
  cases request <;> rfl

theorem hear_setTicket (id : Nat) (state : TicketState) :
    (s.setTicket id state).hear f = (s.hear f).setTicket id (state.hear (f id)) := by
  have htickets : (s.setTicket id state).hear f = { (s.hear f) with
      tickets := ((s.setTicket id state).hear f).tickets } := rfl
  have hsame : ((s.setTicket id state).hear f).tickets =
      ((s.hear f).setTicket id (state.hear (f id))).tickets := by
    apply List.ext_getElem?
    intro i
    rw [getElem?_hear, getElem?_setTicket, getElem?_setTicket, getElem?_hear]
    by_cases hi : id = i
    · subst hi
      simp only [if_true, Option.map_map]
      rfl
    · simp only [if_neg hi]
  rw [htickets, hsame]
  rfl

theorem hear_begin (f : Verdict → Except Failure Verdict) (state : TicketState) :
    (state.hear f).begin = state.begin.map fun (new, isBegun) => (new.hear f, isBegun) := by
  cases state <;> rfl

theorem hear_finish (f : Verdict → Except Failure Verdict) (outcome : Except Failure Verdict)
    (state : TicketState) :
    (state.hear f).finish (outcome.bind f) = (state.finish outcome).map (TicketState.hear f) := by
  cases state <;> rfl

theorem hear_cancel (f : Verdict → Except Failure Verdict) (state : TicketState) :
    (state.hear f).cancel = (state.cancel.1.hear f, state.cancel.2) := by
  cases state <;> rfl

theorem emit_quieted (e : Event) : s.emit setup.quieted e = (s.record e, none) := rfl

theorem emit_hear (hraises : setup.RaisesAtVerdicts) {e : Event} (he : ¬ IsOfVerdict e) :
    (s.hear f).emit setup e = ((s.record e).hear f, none) := by
  simp only [State.emit, hraises _ e he]
  rfl

theorem hear_reject (id : Nat) (failure : Failure) :
    (s.hear f).reject id failure = (s.reject id failure).map (·.hear f) := by
  unfold State.reject
  rw [getElem?_hear]
  cases s.tickets[id]? with
  | none => rfl
  | some ticket =>
      simp only [Option.map_some, Ticket.hear, hear_begin]
      cases ticket.state <;>
        simp [TicketState.begin, TicketState.finish, TicketState.hear, hear_setTicket, bind,
          Except.bind, Except.map, pure, Except.pure]

theorem eventsOf_noteVerdict (s : State) (v : Verdict) :
    eventsOf (s.noteVerdict v).log = eventsOf s.log := by
  unfold State.noteVerdict
  split <;> simp [State.note]

theorem hear_noteVerdict (v : Verdict) : (s.noteVerdict v).hear f = (s.hear f).noteVerdict v := by
  unfold State.noteVerdict
  split <;> rfl

/-- An analysis goes the same way, whatever comes of the verdict. -/
theorem analyse_hear (hraises : setup.RaisesAtVerdicts) (id : Nat) (used : List String)
    (step : Analysis)
    (hf : step = .judge → s.hasRoom id = true → f id = setup.heard (eventsOf s.log).length) :
    (s.hear f).analyse setup id used (step.hear (f id)) =
      ((s.analyse setup.quieted id used step).1.hear f,
        (s.analyse setup.quieted id used step).2.hear (f id)) := by
  unfold State.analyse
  rw [getElem?_hear]
  cases ht : s.tickets[id]? with
  | none => rfl
  | some ticket =>
      cases step with
      | begin =>
          simp only [Option.map_some, Ticket.hear, Analysis.hear, hear_begin]
          cases ticket.state <;>
            simp [TicketState.begin, TicketState.hear, Except.map, hear_setTicket, Advance.hear,
              Analysis.hear]
      | announce =>
          have he : ¬ IsOfVerdict (.documentAnalyzing ticket.path) := by
            simp [IsOfVerdict, Event.kind]
          simp only [Option.map_some, Ticket.hear, Analysis.hear, emit_hear hraises he,
            emit_quieted]
          rfl
      | judge =>
          have hfinding : finding setup.quieted used ticket.path ticket.css =
              finding setup used ticket.path ticket.css := rfl
          simp only [Option.map_some, Ticket.hear, Analysis.hear, hfinding]
          cases hdeep : Stylesheet.isTooDeep ticket.css with
          | true =>
              simp only [finding, hdeep, if_true]
              rfl
          | false =>
              have hheard := hf rfl (by simp [State.hasRoom, ht, hdeep])
              have hlength := eventsOf_noteVerdict s (verdict setup used ticket.path ticket.css)
              simp only [finding, hdeep, Bool.false_eq_true, if_false, ← hear_noteVerdict,
                emit_quieted, Advance.hear, Analysis.hear]
              generalize s.noteVerdict (verdict setup used ticket.path ticket.css) = noted
                at hlength ⊢
              simp only [State.emit, log_hear, hlength, Except.bind, hheard, Setup.heard]
              cases setup.listener (eventsOf s.log).length
                (verdict setup used ticket.path ticket.css).event <;> rfl
      | settle outcome =>
          simp only [Option.map_some, Ticket.hear, Analysis.hear, hear_finish]
          cases ticket.state <;>
            simp [TicketState.finish, Except.map, hear_setTicket, Advance.hear, TicketState.hear]

theorem hear_conclude (outcome : Except Failure (List String)) (next : Worker) :
    (s.conclude outcome next).hear f =
      (s.hear f).conclude outcome (next.hear f) := by
  unfold State.conclude State.collect
  cases hc : s.collected <;> simp only [collected_hear, hc] <;> rfl

theorem hear_write (path css : String) :
    (s.write ⟨path, css, .pending⟩).hear f = (s.hear f).write ⟨path, css, .pending⟩ := by
  simp only [State.hear, State.write, List.mapIdx_append, List.mapIdx_singleton]
  rfl

theorem hear_enqueue (c : Nat) (path css : String) :
    (s.enqueue c path css).hear f = (s.hear f).enqueue c path css := by
  have hjoining : (s.hear f).joining = s.joining := by simp [State.joining]
  have hentrance : (s.hear f).entrance = s.entrance.hear f := by
    simp only [State.entrance, phase_hear, draining_hear, length_hear]
    split
    · rfl
    · split <;> rfl
  rw [enqueue_eq, enqueue_eq, hear_setClient, hjoining, hentrance, ← hear_write]
  rfl

theorem workerStep?_hear (hraises : setup.RaisesAtVerdicts)
    (hf : ∀ id, s.judges? .worker = some id → f id = setup.heard (eventsOf s.log).length) :
    (s.hear f).workerStep? setup = (s.workerStep? setup.quieted).map (·.hear f) := by
  unfold State.workerStep?
  rw [worker_hear]
  cases hw : s.worker with
  | absent | ended | died => rfl
  | opening =>
      simp only [Worker.hear, notes_eq]
      rfl
  | taking rest count =>
      cases rest with
      | nil =>
          simp only [Worker.hear]
          cases hl : setup.load.failure <;> simp only [Setup.quieted, hl] <;> rfl
      | cons source rest =>
          simp only [Worker.hear, accumulator_hear]
          cases s.accumulator.feed source.text <;> rfl
  | parsed path added rest count =>
      have he : ¬ IsOfVerdict (.sourceParsed path added) := by simp [IsOfVerdict, Event.kind]
      simp only [Worker.hear, emit_hear hraises he, emit_quieted]
      rfl
  | publishing used count => rfl
  | handing used count => simp only [Worker.hear, Option.map_some, hear_conclude]
  | announcing used count =>
      have he : ¬ IsOfVerdict (.collectionCompleted count used.length) := by
        simp [IsOfVerdict, Event.kind]
      simp only [Worker.hear, emit_hear hraises he, emit_quieted]
      rfl
  | draining used =>
      simp only [Worker.hear, queue_hear]
      cases s.queue <;> rfl
  | analysing used id step =>
      have hjudge : step = .judge → s.hasRoom id = true →
          f id = setup.heard (eventsOf s.log).length := by
        rintro rfl hroom
        exact hf id (by simp [State.judges?, hw, hroom])
      simp only [Worker.hear, analyse_hear hraises id used step hjudge]
      cases s.analyse setup.quieted id used step with
      | mk t advance => cases advance <;> rfl
  | failing e => rfl
  | rejecting e swept => simp only [Worker.hear, Option.map_some, hear_conclude]
  | reporting e swept =>
      have he : ¬ IsOfVerdict (.collectionFailed e.message) := by simp [IsOfVerdict, Event.kind]
      simp only [Worker.hear, emit_hear hraises he, emit_quieted]
      rfl
  | sweeping e swept =>
      cases swept with
      | nil => rfl
      | cons id swept =>
          simp only [Worker.hear, hear_reject]
          cases s.reject id e <;> rfl

theorem clientStep?_hear (hraises : setup.RaisesAtVerdicts) (c : Nat)
    (hf : ∀ id, s.judges? (.client c) = some id → f id = setup.heard (eventsOf s.log).length) :
    (s.hear f).clientStep? setup c = (s.clientStep? setup.quieted c).map (·.hear f) := by
  unfold State.clientStep?
  rw [clients_hear]
  cases hc : s.clients c with
  | idle | returned => rfl
  | starting request =>
      cases hs : s.started with
      | true => simp [Client.hear, hs, hear_proceed]
      | false =>
          simp only [Client.hear, started_hear, hs, Bool.false_eq_true, if_false]
          exact congrArg some
            (hear_setClient (s := { s with started := true }) c (.launching request)).symm
  | launching request =>
      have he : ¬ IsOfVerdict (.collectionStarted setup.patterns) := by
        simp [IsOfVerdict, Event.kind]
      simp only [Client.hear, emit_hear hraises he, emit_quieted, Option.map_some, hear_setClient]
      rfl
  | spawning request =>
      simp only [Client.hear, Option.map_some, hear_proceed]
      rfl
  | enqueueing path css => exact congrArg some (hear_enqueue c path css).symm
  | queued id =>
      simp only [Client.hear, getElem?_hear]
      cases s.tickets[id]? with
      | none => rfl
      | some ticket =>
          have he : ¬ IsOfVerdict (.documentQueued ticket.path) := by
            simp [IsOfVerdict, Event.kind]
          simp only [Option.map_some, Ticket.hear, emit_hear hraises he, emit_quieted,
            hear_giveBack]
  | refused id =>
      simp only [Client.hear, collected_hear, hear_reject]
      rcases s.collected with _ | failure | used
      · rfl
      · simp only
        cases s.reject id failure <;> simp [Except.map, hear_giveBack]
      · rfl
  | admitted id =>
      simp only [Client.hear, collected_hear]
      rcases s.collected with _ | failure | used
      · rfl
      · simp [hear_giveBack]
      · simp [hear_setClient]; rfl
  | analysing id used step =>
      have hjudge : step = .judge → s.hasRoom id = true →
          f id = setup.heard (eventsOf s.log).length := by
        rintro rfl hroom
        exact hf id (by simp [State.judges?, hc, hroom])
      simp only [Client.hear, analyse_hear hraises id used step hjudge]
      cases s.analyse setup.quieted id used step with
      | mk t advance => cases advance <;> simp [Advance.hear, hear_setClient, hear_giveBack]; rfl
  | waiting =>
      simp only [Client.hear, collected_hear]
      rcases s.collected with _ | failure | used <;> simp [hear_giveBack]

/-- Whatever has come of the verdicts before, a move does the same to a session whose listeners
raise nothing and to one whose listeners raise something at verdicts, if they raise it at the one
that the move announces. -/
theorem step?_hear (hraises : setup.RaisesAtVerdicts)
    (hf : ∀ id, s.judges? m = some id → f id = setup.heard (eventsOf s.log).length) :
    (s.hear f).step? setup m = (s.step? setup.quieted m).map (·.hear f) := by
  cases m with
  | worker => exact workerStep?_hear hraises hf
  | client c => exact clientStep?_hear hraises c hf
  | call c request =>
      simp only [State.step?, State.call?, clients_hear]
      cases s.clients c <;> simp [Client.hear, hear_setClient]
  | cancel id =>
      simp only [State.step?, State.cancel?, getElem?_hear, issued_hear]
      cases s.tickets[id]? with
      | none => rfl
      | some ticket =>
          simp only [Option.map_some, Ticket.hear, hear_cancel]
          split <;> simp [hear_setTicket]

end

end StyleUsage.Session
