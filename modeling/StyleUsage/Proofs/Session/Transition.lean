import StyleUsage.Session.Step

/-!
# Transitions of a session

Each way in which the worker or a client can take a step, as one constructor: what enables it, and
the state after it. Proofs about sessions take steps apart by these relations and leave the step
functions closed. Of the record, the events and the warnings are followed.
-/

namespace StyleUsage.Session

/-! ## Events and warnings of a record -/

@[simp] theorem eventsOf_append (log more : List Entry) :
    eventsOf (log ++ more) = eventsOf log ++ eventsOf more := by
  simp [eventsOf, List.filterMap_append]

@[simp] theorem eventsOf_event (e : Event) : eventsOf [.event e] = [e] := rfl

@[simp] theorem eventsOf_notice (level : Level) (message : String) :
    eventsOf [.notice level message] = [] := rfl

/-- The warnings of a record, in order. -/
def warningsOf (log : List Entry) : List String :=
  log.filterMap fun
    | .notice .warning message => some message
    | _ => none

@[simp] theorem warningsOf_append (log more : List Entry) :
    warningsOf (log ++ more) = warningsOf log ++ warningsOf more := by
  simp [warningsOf, List.filterMap_append]

@[simp] theorem warningsOf_event (e : Event) : warningsOf [.event e] = [] := rfl

@[simp] theorem warningsOf_info (message : String) : warningsOf [.notice .info message] = [] := rfl

@[simp] theorem warningsOf_warning (message : String) :
    warningsOf [.notice .warning message] = [message] := rfl

@[simp] theorem warningsOf_error (message : String) :
    warningsOf [.notice .error message] = [] := rfl

/-- Warnings change nothing but the record. -/
theorem notes_eq (notices : List String) (s : State) : notices.foldl (·.note .warning) s =
    { s with log := s.log ++ notices.map (.notice .warning) } := by
  induction notices generalizing s with
  | nil => simp
  | cons message rest ih =>
      rw [List.foldl_cons, ih]
      simp [State.note]

/-- Warnings are no events. -/
theorem exists_log_of_notices (notices : List String) (s : State) :
    ∃ log, notices.foldl (·.note .warning) s = { s with log } ∧
      eventsOf log = eventsOf s.log ∧ warningsOf log = warningsOf s.log ++ notices := by
  refine ⟨_, notes_eq notices s, ?_, ?_⟩
  · rw [eventsOf_append]
    simp [eventsOf, List.filterMap_map]
  · rw [warningsOf_append]
    exact congrArg _ (List.filterMap_map.trans List.filterMap_some)

/-- The state after an event is recorded. -/
def State.record (s : State) (e : Event) : State :=
  { s with log := s.log ++ [.event e] }

/-- The state after a ticket is written. -/
def State.write (s : State) (ticket : Ticket) : State :=
  { s with tickets := s.tickets ++ [ticket] }

/-- The event that announces a verdict is of one of two kinds. -/
theorem kind_verdict (v : Verdict) {kind : EventKind} (hresolved : kind ≠ .documentResolved)
    (hfailed : kind ≠ .documentFailed) : v.event.kind ≠ kind := by
  unfold Verdict.event
  split
  · exact Ne.symm hresolved
  · exact Ne.symm hfailed

/-! ## Analyses -/

theorem finding_eq_ok_iff {setup : Setup} {used : List String} {path css : String} {v : Verdict} :
    finding setup used path css = .ok v ↔
      Stylesheet.isTooDeep css = false ∧ v = verdict setup used path css := by
  cases hdeep : Stylesheet.isTooDeep css <;> simp [finding, hdeep, eq_comm]

theorem finding_eq_error_iff {setup : Setup} {used : List String} {path css : String}
    {failure : Failure} : finding setup used path css = .error failure ↔
      Stylesheet.isTooDeep css = true ∧ failure = .tooDeep := by
  cases hdeep : Stylesheet.isTooDeep css <;> simp [finding, hdeep, eq_comm]

/-- The states of a ticket in which a step of its analysis can do its work. -/
def Analysis.Fits : Analysis → TicketState → Prop
  | .begin, state => state = .pending ∨ state = .cancelled
  | .settle _, state => state = .pending ∨ state = .running
  | _, _ => True

/-- One step of the analysis of a ticket, the state after it, and how the analysis goes on. -/
inductive AnalysisStep (setup : Setup) (s : State) (id : Nat) (used : List String) :
    Analysis → State → Advance → Prop where
  | begun {ticket : Ticket} (ht : s.tickets[id]? = some ticket) (hs : ticket.state = .pending) :
      AnalysisStep setup s id used .begin (s.setTicket id .running) (.next .announce)
  | dropped {ticket : Ticket} (ht : s.tickets[id]? = some ticket)
      (hs : ticket.state = .cancelled) :
      AnalysisStep setup s id used .begin (s.setTicket id .dropped) .done
  | announced {ticket : Ticket} (ht : s.tickets[id]? = some ticket) :
      AnalysisStep setup s id used .announce
        (s.record (.documentAnalyzing ticket.path)) (.next .judge)
  | judged {ticket : Ticket} {log : List Entry} (ht : s.tickets[id]? = some ticket)
      (hlog : eventsOf log =
        eventsOf s.log ++ [(verdict setup used ticket.path ticket.css).event])
      (hwarnings : warningsOf log = warningsOf s.log)
      (hroom : Stylesheet.isTooDeep ticket.css = false) :
      AnalysisStep setup s id used .judge { s with log }
        (.next (.settle (.ok (verdict setup used ticket.path ticket.css))))
  /-- A listener raises something at the verdict, which becomes the outcome. -/
  | overruled {ticket : Ticket} {log : List Entry} {n : Nat} {e : Event} {failure : Failure}
      (ht : s.tickets[id]? = some ticket)
      (hlog : eventsOf log =
        eventsOf s.log ++ [(verdict setup used ticket.path ticket.css).event])
      (hl : setup.listener n e = some failure) (hwarnings : warningsOf log = warningsOf s.log)
      (he : e.kind ≠ .sourceParsed) (hroom : Stylesheet.isTooDeep ticket.css = false) :
      AnalysisStep setup s id used .judge { s with log } (.next (.settle (.error failure)))
  /-- There is no room for reading the stylesheet. -/
  | foundered {ticket : Ticket} (ht : s.tickets[id]? = some ticket)
      (hdeep : Stylesheet.isTooDeep ticket.css = true) :
      AnalysisStep setup s id used .judge s (.next (.settle (.error .tooDeep)))
  | settled {ticket : Ticket} {outcome : Except Failure Verdict}
      (ht : s.tickets[id]? = some ticket) (hs : ticket.state = .pending ∨ ticket.state = .running) :
      AnalysisStep setup s id used (.settle outcome) (s.setTicket id (.finished outcome)) .done
  | raised {ticket : Ticket} {n : Nat} {e : Event} {failure : Failure}
      (ht : s.tickets[id]? = some ticket) (hl : setup.listener n e = some failure)
      (he : e.kind ≠ .sourceParsed) :
      AnalysisStep setup s id used .announce
        (s.record (.documentAnalyzing ticket.path)) (.broken failure)
  /-- The ticket is in no state for the step. -/
  | amiss {step : Analysis}
      (hs : ∀ ticket, s.tickets[id]? = some ticket → ¬ step.Fits ticket.state) :
      AnalysisStep setup s id used step s (.broken .misused)

theorem analysisStep_of_analyse {setup : Setup} {s t : State} {id : Nat} {used : List String}
    {step : Analysis} {advance : Advance} (h : s.analyse setup id used step = (t, advance)) :
    AnalysisStep setup s id used step t advance := by
  unfold State.analyse at h
  cases ht : s.tickets[id]? with
  | none =>
      simp only [ht, Prod.mk.injEq] at h
      obtain ⟨rfl, rfl⟩ := h
      exact .amiss (by simp [ht])
  | some ticket =>
      simp only [ht] at h
      cases step with
      | begin =>
          cases hs : ticket.state <;> simp only [hs, TicketState.begin, Prod.mk.injEq] at h <;>
            obtain ⟨rfl, rfl⟩ := h
          case pending => exact .begun ht hs
          case cancelled => exact .dropped ht hs
          all_goals exact .amiss (by simp [ht, hs, Analysis.Fits])
      | announce =>
          cases hl : setup.listener (eventsOf s.log).length (.documentAnalyzing ticket.path) <;>
            simp only [State.emit, hl, Prod.mk.injEq] at h <;> obtain ⟨rfl, rfl⟩ := h
          case none => exact .announced ht
          case some failure => exact .raised ht hl (by simp [Event.kind])
      | judge =>
          have hlog : eventsOf (s.noteVerdict (verdict setup used ticket.path ticket.css)).log =
              eventsOf s.log := by
            unfold State.noteVerdict
            split <;> simp [State.note]
          have hwarnings : warningsOf (s.noteVerdict
              (verdict setup used ticket.path ticket.css)).log = warningsOf s.log := by
            unfold State.noteVerdict
            split <;> simp [State.note]
          have hrec (log : List Entry) :
              { s.noteVerdict (verdict setup used ticket.path ticket.css) with log } =
                { s with log } := by
            unfold State.noteVerdict
            split <;> rfl
          cases hdeep : Stylesheet.isTooDeep ticket.css with
          | true =>
              simp only [finding, hdeep, if_true, Prod.mk.injEq] at h
              obtain ⟨rfl, rfl⟩ := h
              exact .foundered ht hdeep
          | false =>
              simp only [finding, hdeep, Bool.false_eq_true, if_false] at h
              cases hl : setup.listener (eventsOf s.log).length
                  (verdict setup used ticket.path ticket.css).event <;>
                simp only [State.emit, hlog, hrec, hl, Prod.mk.injEq] at h <;>
                obtain ⟨rfl, rfl⟩ := h
              case none => exact .judged ht (by simp [hlog]) (by simp [hwarnings]) hdeep
              case some failure =>
                have hkind : (verdict setup used ticket.path ticket.css).event.kind ≠
                    .sourceParsed := kind_verdict _ (by decide) (by decide)
                exact .overruled ht (by simp [hlog]) hl (by simp [hwarnings]) hkind hdeep
      | settle outcome =>
          cases hs : ticket.state <;> simp only [hs, TicketState.finish, Prod.mk.injEq] at h <;>
            obtain ⟨rfl, rfl⟩ := h
          case pending => exact .settled ht (.inl hs)
          case running => exact .settled ht (.inr hs)
          all_goals exact .amiss (by simp [ht, hs, Analysis.Fits])

/-- A ticket that gets the failure of the collection has waited until then, or is cancelled. -/
theorem reject_eq_ok {s t : State} {id : Nat} {failure : Failure}
    (h : s.reject id failure = .ok t) :
    ∃ ticket, s.tickets[id]? = some ticket ∧
      (ticket.state = .pending ∧ t = s.setTicket id (.finished (.error failure)) ∨
        ticket.state = .cancelled ∧ t = s.setTicket id .dropped) := by
  unfold State.reject at h
  cases ht : s.tickets[id]? with
  | none => simp [ht] at h
  | some ticket =>
      refine ⟨ticket, rfl, ?_⟩
      cases hs : ticket.state <;>
        simp [ht, hs, TicketState.begin, TicketState.finish, bind, Except.bind, pure,
          Except.pure] at h
      case pending => exact .inl ⟨rfl, h.symm⟩
      case cancelled => exact .inr ⟨rfl, h.symm⟩

theorem reject_eq_error {s : State} {id : Nat} {failure e : Failure}
    (h : s.reject id failure = .error e) (ticket : Ticket) (ht : s.tickets[id]? = some ticket) :
    ¬ Analysis.begin.Fits ticket.state := by
  unfold State.reject at h
  cases hs : ticket.state <;>
    simp [ht, hs, TicketState.begin, TicketState.finish, bind, Except.bind, pure,
      Except.pure] at h
  all_goals simp [Analysis.Fits]

/-- An analysis touches the tickets and the record alone. -/
theorem AnalysisStep.frame {setup : Setup} {s t : State} {id : Nat} {used : List String}
    {step : Analysis} {advance : Advance} (h : AnalysisStep setup s id used step t advance) :
    ∃ tickets log, t = { s with tickets, log } := by
  cases h <;> exact ⟨_, _, rfl⟩

/-- A rejection touches the tickets alone. -/
theorem frame_of_reject {s t : State} {id : Nat} {failure : Failure}
    (h : s.reject id failure = .ok t) : ∃ tickets, t = { s with tickets } := by
  obtain ⟨ticket, -, ⟨-, rfl⟩ | ⟨-, rfl⟩⟩ := reject_eq_ok h <;> exact ⟨_, rfl⟩

/-! ## The worker -/

/-- One step of the worker. -/
inductive WorkerStep (setup : Setup) (s : State) : State → Prop where
  | opened {log : List Entry} (hw : s.worker = .opening) (hlog : eventsOf log = eventsOf s.log)
      (hwarnings : warningsOf log = warningsOf s.log ++ setup.load.notices) :
      WorkerStep setup s { s with log, worker := .taking setup.load.sources 0 }
  | ranOut {count : Nat} {failure : Failure} (hw : s.worker = .taking [] count)
      (hf : setup.load.failure = some failure) :
      WorkerStep setup s { s with worker := .failing failure }
  | froze {count : Nat} {log : List Entry} (hw : s.worker = .taking [] count)
      (hf : setup.load.failure = none) (hlog : eventsOf log = eventsOf s.log)
      (hwarnings : warningsOf log = warningsOf s.log) :
      WorkerStep setup s { s with
        accumulator := s.accumulator.freeze
        log
        worker := .publishing s.accumulator.used count }
  | refused {source : MarkupSource} {rest : List MarkupSource} {count : Nat}
      {refusal : Usage.Refusal} (hw : s.worker = .taking (source :: rest) count)
      (hf : s.accumulator.feed source.text = .error refusal) :
      WorkerStep setup s { s with worker := .failing (.refused refusal) }
  | fed {source : MarkupSource} {rest : List MarkupSource} {count added : Nat}
      {accumulator : Usage.Accumulator} (hw : s.worker = .taking (source :: rest) count)
      (hf : s.accumulator.feed source.text = .ok accumulator)
      (hadded : added = accumulator.size - s.accumulator.size) :
      WorkerStep setup s
        { s with accumulator, worker := .parsed source.path added rest (count + 1) }
  | told {path : String} {added count : Nat} {rest : List MarkupSource}
      (hw : s.worker = .parsed path added rest count) :
      WorkerStep setup s
        { s.record (.sourceParsed path added) with worker := .taking rest count }
  | toldInVain {path : String} {added count n : Nat} {rest : List MarkupSource}
      {failure : Failure} (hw : s.worker = .parsed path added rest count)
      (hl : setup.listener n (.sourceParsed path added) = some failure) :
      WorkerStep setup s
        { s.record (.sourceParsed path added) with worker := .failing failure }
  | published {used : List String} {count : Nat} (hw : s.worker = .publishing used count) :
      WorkerStep setup s
        { s with phase := .ready, draining := true, worker := .handing used count }
  | handed {used : List String} {count : Nat} (hw : s.worker = .handing used count)
      (hc : s.collected = none) :
      WorkerStep setup s
        { s with collected := some (.ok used), worker := .announcing used count }
  | completed {used : List String} {count : Nat} (hw : s.worker = .announcing used count) :
      WorkerStep setup s
        { s.record (.collectionCompleted count used.length) with worker := .draining used }
  | drained {used : List String} (hw : s.worker = .draining used) (hq : s.queue = []) :
      WorkerStep setup s { s with draining := false, queue := [], worker := .ended }
  | popped {used : List String} {id : Nat} {queue : List Nat} (hw : s.worker = .draining used)
      (hq : s.queue = id :: queue) :
      WorkerStep setup s { s with queue, worker := .analysing used id .begin }
  | analysed {used : List String} {id : Nat} {step next : Analysis} {t : State}
      (hw : s.worker = .analysing used id step)
      (ha : AnalysisStep setup s id used step t (.next next)) :
      WorkerStep setup s (t.setWorker (.analysing used id next))
  | finished {used : List String} {id : Nat} {step : Analysis} {t : State}
      (hw : s.worker = .analysing used id step) (ha : AnalysisStep setup s id used step t .done) :
      WorkerStep setup s (t.setWorker (.draining used))
  | broke {used : List String} {id : Nat} {step : Analysis} {t : State} {failure : Failure}
      (hw : s.worker = .analysing used id step)
      (ha : AnalysisStep setup s id used step t (.broken failure)) :
      WorkerStep setup s (t.setWorker (.died failure))
  | failed {failure : Failure} {log : List Entry} (hw : s.worker = .failing failure)
      (hlog : eventsOf log = eventsOf s.log) (hwarnings : warningsOf log = warningsOf s.log) :
      WorkerStep setup s
        { s with log, phase := .failed, queue := [], worker := .rejecting failure s.queue }
  | rejected {failure : Failure} {swept : List Nat} (hw : s.worker = .rejecting failure swept)
      (hc : s.collected = none) :
      WorkerStep setup s
        { s with collected := some (.error failure), worker := .reporting failure swept }
  | reported {failure : Failure} {swept : List Nat} (hw : s.worker = .reporting failure swept) :
      WorkerStep setup s
        { s.record (.collectionFailed failure.message) with worker := .sweeping failure swept }
  | sweptAll {failure : Failure} (hw : s.worker = .sweeping failure []) :
      WorkerStep setup s { s with worker := .ended }
  | swept {failure : Failure} {id : Nat} {swept : List Nat} {t : State}
      (hw : s.worker = .sweeping failure (id :: swept)) (hr : s.reject id failure = .ok t) :
      WorkerStep setup s (t.setWorker (.sweeping failure swept))
  | sweptAmiss {failure e : Failure} {id : Nat} {swept : List Nat}
      (hw : s.worker = .sweeping failure (id :: swept)) (hr : s.reject id failure = .error e) :
      WorkerStep setup s { s with worker := .died e }
  | completedInVain {used : List String} {count n : Nat} {e : Event} {failure : Failure}
      (hw : s.worker = .announcing used count) (hl : setup.listener n e = some failure)
      (he : e.kind ≠ .sourceParsed) :
      WorkerStep setup s
        { s.record (.collectionCompleted count used.length) with worker := .died failure }
  | reportedInVain {e : Failure} {swept : List Nat} {n : Nat} {event : Event} {failure : Failure}
      (hw : s.worker = .reporting e swept) (hl : setup.listener n event = some failure)
      (he : event.kind ≠ .sourceParsed) :
      WorkerStep setup s
        { s.record (.collectionFailed e.message) with worker := .died failure }
  /-- The outcome of the collection is there already. -/
  | concludedTwice {outcome : Except Failure (List String)}
      (hw : (∃ used count, s.worker = .handing used count) ∨
        ∃ e swept, s.worker = .rejecting e swept)
      (hc : s.collected = some outcome) :
      WorkerStep setup s { s with worker := .died .misused }

theorem workerStep_of_workerStep? {setup : Setup} {s t : State}
    (h : s.workerStep? setup = some t) : WorkerStep setup s t := by
  unfold State.workerStep? at h
  cases hw : s.worker <;> simp only [hw, reduceCtorEq] at h
  case opening =>
      obtain ⟨log, hs, hlog, hwarnings⟩ := exists_log_of_notices setup.load.notices s
      rw [hs] at h
      cases h
      exact .opened hw hlog hwarnings
  case taking rest count =>
      cases rest with
      | nil =>
          cases hf : setup.load.failure with
          | some failure =>
              simp only [hf, Option.some.injEq] at h
              exact h ▸ .ranOut hw hf
          | none =>
              simp only [hf, Option.some.injEq] at h
              exact h ▸ .froze hw hf (by simp [State.note]) (by simp [State.note])
      | cons source rest =>
          cases hf : s.accumulator.feed source.text with
          | error refusal =>
              simp only [hf, Option.some.injEq] at h
              exact h ▸ .refused hw hf
          | ok accumulator =>
              simp only [hf, Option.some.injEq] at h
              exact h ▸ .fed hw hf rfl
  case parsed path added rest count =>
      cases hl : setup.listener (eventsOf s.log).length (.sourceParsed path added) <;>
        simp only [State.emit, hl] at h <;> cases h
      case none => exact .told hw
      case some failure => exact .toldInVain hw hl
  case publishing used count =>
      cases h
      exact .published hw
  case handing used count =>
      cases hc : s.collected <;> simp only [State.conclude, State.collect, hc] at h <;> cases h
      case none => exact .handed hw hc
      case some outcome => exact .concludedTwice (.inl ⟨used, count, hw⟩) hc
  case announcing used count =>
      cases hl : setup.listener (eventsOf s.log).length
          (.collectionCompleted count used.length) <;>
        simp only [State.emit, hl] at h <;> cases h
      case none => exact .completed hw
      case some failure => exact .completedInVain hw hl (by simp [Event.kind])
  case draining used =>
      cases hq : s.queue <;> simp only [hq] at h <;> cases h
      case nil => exact .drained hw hq
      case cons id queue => exact .popped hw hq
  case analysing used id step =>
      cases ha : s.analyse setup id used step with
      | mk t' advance =>
          have hstep := analysisStep_of_analyse ha
          cases advance with
          | next next =>
              simp only [ha, Option.some.injEq] at h
              exact h ▸ .analysed hw hstep
          | done =>
              simp only [ha, Option.some.injEq] at h
              exact h ▸ .finished hw hstep
          | broken failure =>
              simp only [ha, Option.some.injEq] at h
              exact h ▸ .broke hw hstep
  case failing failure =>
      cases h
      exact .failed hw (by simp [State.note]) (by simp [State.note])
  case rejecting failure swept =>
      cases hc : s.collected <;> simp only [State.conclude, State.collect, hc] at h <;> cases h
      case none => exact .rejected hw hc
      case some outcome => exact .concludedTwice (.inr ⟨failure, swept, hw⟩) hc
  case reporting failure swept =>
      cases hl : setup.listener (eventsOf s.log).length
          (.collectionFailed failure.message) <;>
        simp only [State.emit, hl] at h <;> cases h
      case none => exact .reported hw
      case some e => exact .reportedInVain hw hl (by simp [Event.kind])
  case sweeping failure swept =>
      cases swept with
      | nil =>
          cases h
          exact .sweptAll hw
      | cons id swept =>
          cases hr : s.reject id failure with
          | ok t' =>
              simp only [hr, Option.some.injEq] at h
              exact h ▸ .swept hw hr
          | error e =>
              simp only [hr, Option.some.injEq] at h
              exact h ▸ .sweptAmiss hw hr

/-- The worker steps only after it has got its task, and it touches no client. -/
theorem WorkerStep.frame {setup : Setup} {s t : State} (h : WorkerStep setup s t) :
    s.worker ≠ .absent ∧ t.clients = s.clients ∧ t.started = s.started ∧ t.issued = s.issued := by
  cases h with
  | concludedTwice hw =>
      refine ⟨?_, rfl, rfl, rfl⟩
      rcases hw with ⟨used, count, hw⟩ | ⟨e, swept, hw⟩ <;> simp [hw]
  | analysed hw ha | finished hw ha | broke hw ha =>
      obtain ⟨tickets, log, rfl⟩ := ha.frame
      exact ⟨by simp [hw], rfl, rfl, rfl⟩
  | swept hw hr =>
      obtain ⟨tickets, rfl⟩ := frame_of_reject hr
      exact ⟨by simp [hw], rfl, rfl, rfl⟩
  | _ hw => exact ⟨by simp [hw], rfl, rfl, rfl⟩

/-! ## Clients -/

/-- How a client goes on once the session is started. -/
def Request.onward : Request → Client
  | .start => .returned (.ok none)
  | .submit path css => .enqueueing path css
  | .waitReady => .waiting

theorem proceed_eq (s : State) (c : Nat) (request : Request) :
    s.proceed c request = s.setClient c request.onward := by
  cases request <;> rfl

/-- The ticket that an answer hands out, if there is one. -/
def handedOut : Except Failure (Option Nat) → List Nat
  | .ok (some id) => [id]
  | _ => []

theorem giveBack_eq (s : State) (c : Nat) (outcome : Except Failure (Option Nat)) :
    s.giveBack c outcome =
      { s with issued := handedOut outcome ++ s.issued }.setClient c (.returned outcome) := by
  rcases outcome with failure | (_ | id) <;> rfl

/-- The tickets that join the queue when a ticket is written. -/
def State.joining (s : State) : List Nat :=
  if s.phase = .collecting ∨ s.draining then [s.tickets.length] else []

/-- The stage of a client that has written a ticket. -/
def State.entrance (s : State) : Client :=
  if s.phase = .collecting ∨ s.draining then .queued s.tickets.length
  else if s.phase = .failed then .refused s.tickets.length
  else .admitted s.tickets.length

theorem enqueue_eq (s : State) (c : Nat) (path css : String) : s.enqueue c path css =
    { s.write ⟨path, css, .pending⟩ with queue := s.queue ++ s.joining }.setClient c
      s.entrance := by
  unfold State.enqueue State.joining State.entrance
  by_cases hp : s.phase = .collecting ∨ s.draining = true
  · simp only [if_pos hp]
    rfl
  · simp only [if_neg hp, List.append_nil]
    split <;> rfl

/-- One step of a client. -/
inductive ClientStep (setup : Setup) (s : State) (c : Nat) : State → Prop where
  | joined {request : Request} (hc : s.clients c = .starting request) (hs : s.started = true) :
      ClientStep setup s c (s.setClient c request.onward)
  | launched {request : Request} (hc : s.clients c = .starting request) (hs : s.started = false) :
      ClientStep setup s c { s.setClient c (.launching request) with started := true }
  | told {request : Request} (hc : s.clients c = .launching request) :
      ClientStep setup s c
        ((s.record (.collectionStarted setup.patterns)).setClient c (.spawning request))
  | toldInVain {request : Request} {n : Nat} {e : Event} {failure : Failure}
      (hc : s.clients c = .launching request) (hl : setup.listener n e = some failure)
      (he : e.kind ≠ .sourceParsed) :
      ClientStep setup s c
        ((s.record (.collectionStarted setup.patterns)).giveBack c (.error failure))
  | spawned {request : Request} (hc : s.clients c = .spawning request) :
      ClientStep setup s c { s.setClient c request.onward with worker := .opening }
  | queued {path css : String} (hc : s.clients c = .enqueueing path css)
      (hp : s.phase = .collecting ∨ s.draining = true) :
      ClientStep setup s c
        { (s.write ⟨path, css, .pending⟩).setClient c (.queued s.tickets.length) with
          queue := s.queue ++ [s.tickets.length] }
  | refused {path css : String} (hc : s.clients c = .enqueueing path css)
      (hp : s.phase = .failed) (hd : s.draining = false) :
      ClientStep setup s c
        ((s.write ⟨path, css, .pending⟩).setClient c (.refused s.tickets.length))
  | admitted {path css : String} (hc : s.clients c = .enqueueing path css)
      (hp : s.phase = .ready) (hd : s.draining = false) :
      ClientStep setup s c
        ((s.write ⟨path, css, .pending⟩).setClient c (.admitted s.tickets.length))
  | noticed {id : Nat} {ticket : Ticket} (hc : s.clients c = .queued id)
      (ht : s.tickets[id]? = some ticket) :
      ClientStep setup s c
        ((s.record (.documentQueued ticket.path)).giveBack c (.ok (some id)))
  | noticedInVain {id n : Nat} {ticket : Ticket} {e : Event} {failure : Failure}
      (hc : s.clients c = .queued id) (ht : s.tickets[id]? = some ticket)
      (hl : setup.listener n e = some failure) (he : e.kind ≠ .sourceParsed) :
      ClientStep setup s c
        ((s.record (.documentQueued ticket.path)).giveBack c (.error failure))
  | rejected {id : Nat} {failure : Failure} {t : State} (hc : s.clients c = .refused id)
      (hf : s.collected = some (.error failure)) (hr : s.reject id failure = .ok t) :
      ClientStep setup s c (t.giveBack c (.ok (some id)))
  | rejectedAmiss {id : Nat} {failure e : Failure} (hc : s.clients c = .refused id)
      (hf : s.collected = some (.error failure)) (hr : s.reject id failure = .error e) :
      ClientStep setup s c (s.giveBack c (.error e))
  | began {id : Nat} {used : List String} (hc : s.clients c = .admitted id)
      (hf : s.collected = some (.ok used)) :
      ClientStep setup s c (s.setClient c (.analysing id used .begin))
  | admittedInVain {id : Nat} {failure : Failure} (hc : s.clients c = .admitted id)
      (hf : s.collected = some (.error failure)) :
      ClientStep setup s c (s.giveBack c (.error failure))
  | analysed {id : Nat} {used : List String} {step next : Analysis} {t : State}
      (hc : s.clients c = .analysing id used step)
      (ha : AnalysisStep setup s id used step t (.next next)) :
      ClientStep setup s c (t.setClient c (.analysing id used next))
  | finished {id : Nat} {used : List String} {step : Analysis} {t : State}
      (hc : s.clients c = .analysing id used step)
      (ha : AnalysisStep setup s id used step t .done) :
      ClientStep setup s c (t.giveBack c (.ok (some id)))
  | broke {id : Nat} {used : List String} {step : Analysis} {t : State} {failure : Failure}
      (hc : s.clients c = .analysing id used step)
      (ha : AnalysisStep setup s id used step t (.broken failure)) :
      ClientStep setup s c (t.giveBack c (.error failure))
  | waited {outcome : Except Failure (List String)} (hc : s.clients c = .waiting)
      (hf : s.collected = some outcome) :
      ClientStep setup s c (s.giveBack c (outcome.map fun _ => none))

theorem clientStep_of_clientStep? {setup : Setup} {s t : State} {c : Nat}
    (h : s.clientStep? setup c = some t) : ClientStep setup s c t := by
  unfold State.clientStep? at h
  cases hc : s.clients c <;> simp only [hc, reduceCtorEq] at h
  case starting request =>
      cases hs : s.started <;> simp only [hs, if_true, Bool.false_eq_true, if_false] at h <;>
        cases h
      case true => exact proceed_eq s c request ▸ .joined hc hs
      case false => exact .launched hc hs
  case launching request =>
      cases hl : setup.listener (eventsOf s.log).length (.collectionStarted setup.patterns) <;>
        simp only [State.emit, hl] at h <;> cases h
      case none => exact .told hc
      case some failure => exact .toldInVain hc hl (by simp [Event.kind])
  case spawning request =>
      cases h
      exact proceed_eq (s.setWorker .opening) c request ▸ .spawned hc
  case enqueueing path css =>
      cases h
      unfold State.enqueue
      by_cases hp : s.phase = .collecting ∨ s.draining = true
      · simp only [if_pos hp]
        exact .queued hc hp
      · simp only [if_neg hp]
        simp only [not_or, Bool.not_eq_true] at hp
        by_cases hf : s.phase = .failed
        · simp only [if_pos hf]
          exact .refused hc hf hp.2
        · simp only [if_neg hf]
          have hr : s.phase = .ready := by cases h : s.phase <;> simp_all
          exact .admitted hc hr hp.2
  case queued id =>
      cases ht : s.tickets[id]? <;> simp only [ht, reduceCtorEq] at h
      case some ticket =>
          cases hl : setup.listener (eventsOf s.log).length (.documentQueued ticket.path) <;>
            simp only [State.emit, hl] at h <;> cases h
          case none => exact .noticed hc ht
          case some failure => exact .noticedInVain hc ht hl (by simp [Event.kind])
  case refused id =>
      cases hf : s.collected with
      | none => simp [hf] at h
      | some outcome =>
          cases outcome with
          | ok used => simp [hf] at h
          | error failure =>
              cases hr : s.reject id failure with
              | ok t' =>
                  simp only [hf, hr, Option.some.injEq] at h
                  exact h ▸ .rejected hc hf hr
              | error e =>
                  simp only [hf, hr, Option.some.injEq] at h
                  exact h ▸ .rejectedAmiss hc hf hr
  case admitted id =>
      cases hf : s.collected with
      | none => simp [hf] at h
      | some outcome =>
          cases outcome with
          | ok used =>
              simp only [hf, Option.some.injEq] at h
              exact h ▸ .began hc hf
          | error failure =>
              simp only [hf, Option.some.injEq] at h
              exact h ▸ .admittedInVain hc hf
  case analysing id used step =>
      cases ha : s.analyse setup id used step with
      | mk t' advance =>
          have hstep := analysisStep_of_analyse ha
          cases advance with
          | next next =>
              simp only [ha, Option.some.injEq] at h
              exact h ▸ .analysed hc hstep
          | done =>
              simp only [ha, Option.some.injEq] at h
              exact h ▸ .finished hc hstep
          | broken failure =>
              simp only [ha, Option.some.injEq] at h
              exact h ▸ .broke hc hstep
  case waiting =>
      cases hf : s.collected with
      | none => simp [hf] at h
      | some outcome =>
          have hw : ClientStep setup s c _ := .waited hc hf
          cases outcome <;> simp only [hf, Option.some.injEq] at h <;> exact h ▸ hw

section
variable {setup : Setup} {s t : State} {c : Nat}

/-- What the worker alone changes. -/
theorem ClientStep.frame (h : ClientStep setup s c t) :
    t.phase = s.phase ∧ t.draining = s.draining ∧ t.collected = s.collected ∧
      t.accumulator = s.accumulator := by
  cases h with
  | analysed hc ha | finished hc ha | broke hc ha =>
      obtain ⟨tickets, log, rfl⟩ := ha.frame
      simp [giveBack_eq, State.setClient]
  | rejected hc hf hr =>
      obtain ⟨tickets, rfl⟩ := frame_of_reject hr
      simp [giveBack_eq, State.setClient]
  | _ => simp [giveBack_eq, State.setClient, State.record, State.write]

/-- A client leaves the worker alone, or is at the stage where it gives it its task. -/
theorem ClientStep.worker_eq (h : ClientStep setup s c t) :
    t.worker = s.worker ∨ (∃ request, s.clients c = .spawning request) ∧ t.worker = .opening := by
  cases h with
  | spawned hc => exact .inr ⟨⟨_, hc⟩, rfl⟩
  | analysed hc ha | finished hc ha | broke hc ha =>
      obtain ⟨tickets, log, rfl⟩ := ha.frame
      simp [giveBack_eq, State.setClient]
  | rejected hc hf hr =>
      obtain ⟨tickets, rfl⟩ := frame_of_reject hr
      simp [giveBack_eq, State.setClient]
  | _ => simp [giveBack_eq, State.setClient, State.record, State.write]

/-- The queue grows only while stylesheets have to wait. -/
theorem ClientStep.queue_eq (h : ClientStep setup s c t) :
    t.queue = s.queue ∨ s.phase = .collecting ∨ s.draining = true := by
  cases h with
  | queued hc hp => exact .inr hp
  | analysed hc ha | finished hc ha | broke hc ha =>
      obtain ⟨tickets, log, rfl⟩ := ha.frame
      simp [giveBack_eq, State.setClient]
  | rejected hc hf hr =>
      obtain ⟨tickets, rfl⟩ := frame_of_reject hr
      simp [giveBack_eq, State.setClient]
  | _ => simp [giveBack_eq, State.setClient, State.record, State.write]

end

/-! ## All moves -/

/-- One step of a session. -/
inductive Step (setup : Setup) (s : State) : Move → State → Prop where
  | worker {t : State} (h : WorkerStep setup s t) : Step setup s .worker t
  | client {c : Nat} {t : State} (h : ClientStep setup s c t) : Step setup s (.client c) t
  | called {c : Nat} {request : Request}
      (hc : s.clients c = .idle ∨ ∃ outcome, s.clients c = .returned outcome) :
      Step setup s (.call c request) (s.setClient c (.starting request))
  | cancelled {id : Nat} {ticket : Ticket} (ht : s.tickets[id]? = some ticket)
      (hs : ticket.state = .pending) : Step setup s (.cancel id) (s.setTicket id .cancelled)
  /-- A cancellation comes too late, or a second time. -/
  | spared {id : Nat} : Step setup s (.cancel id) s

theorem setTicket_self {s : State} {id : Nat} {ticket : Ticket}
    (ht : s.tickets[id]? = some ticket) : s.setTicket id ticket.state = s := by
  have hmodify : s.tickets.modify id ({ · with state := ticket.state }) = s.tickets := by
    apply List.ext_getElem?
    intro i
    by_cases hi : id = i
    · subst hi
      simp [ht]
    · simp [hi]
  unfold State.setTicket
  rw [hmodify]

theorem step_of_step? {setup : Setup} {s t : State} {m : Move} (h : s.step? setup m = some t) :
    Step setup s m t := by
  cases m with
  | worker => exact .worker (workerStep_of_workerStep? h)
  | client c => exact .client (clientStep_of_clientStep? h)
  | call c request =>
      simp only [State.step?, State.call?] at h
      cases hc : s.clients c <;> simp only [hc, reduceCtorEq, Option.some.injEq] at h <;> subst h
      · exact .called (.inl hc)
      · exact .called (.inr ⟨_, hc⟩)
  | cancel id =>
      simp only [State.step?, State.cancel?] at h
      cases ht : s.tickets[id]? with
      | none => simp [ht] at h
      | some ticket =>
          by_cases hi : id ∈ s.issued
          · have hself := setTicket_self ht
            cases hs : ticket.state <;>
              simp only [ht, if_pos hi, hs, TicketState.cancel, Option.map_some,
                Option.some.injEq] at h <;>
              simp only [hs] at hself <;> subst h
            case pending => exact .cancelled ht hs
            all_goals
              rw [hself]
              exact .spared
          · simp [ht, hi] at h

/-- The state after some moves, if they are possible one after the other. -/
def State.after? (s : State) (setup : Setup) : List Move → Option State
  | [] => some s
  | m :: rest =>
      match s.step? setup m with
      | some t => t.after? setup rest
      | none => none

theorem State.exists_step_of_after {setup : Setup} {s t : State} {m : Move} {rest : List Move}
    (h : s.after? setup (m :: rest) = some t) :
    ∃ u, s.step? setup m = some u ∧ u.after? setup rest = some t := by
  simp only [State.after?] at h
  cases hm : s.step? setup m with
  | none => simp [hm] at h
  | some u => exact ⟨u, rfl, by simpa only [hm] using h⟩

theorem Reachable.after {setup : Setup} {s t : State} {moves : List Move}
    (h : Reachable setup s) (ht : s.after? setup moves = some t) : Reachable setup t := by
  induction moves generalizing s with
  | nil =>
      cases ht
      exact h
  | cons m rest ih =>
      obtain ⟨s', hm, ht⟩ := State.exists_step_of_after ht
      exact ih (.step m h hm) ht

/-- What holds at first and is kept by every step holds in every state that a session comes to. -/
theorem Reachable.invariant {setup : Setup} {P : State → Prop} (hinitial : P (.initial setup))
    (hstep : ∀ {s t : State} {m : Move}, Reachable setup s → P s → Step setup s m t → P t)
    {s : State} (h : Reachable setup s) : P s := by
  induction h with
  | initial => exact hinitial
  | step m hr hm ih => exact hstep hr ih (step_of_step? hm)

end StyleUsage.Session
