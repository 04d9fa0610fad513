import Mathlib.Data.List.Induction
import StyleUsage.Proofs.Session.Passage
import StyleUsage.Proofs.Session.Progress

/-!
# Submissions that are not made

Whoever submits a stylesheet starts the session first, as every request does, and then writes the
ticket. Until then nobody else notices what the client is about: the session goes the same way when
the client asks for a start and for nothing more, and if the session has been started before, when
the client asks for nothing at all.
-/

namespace StyleUsage.Session

namespace Client

/-- A client is about to submit a certain stylesheet, and has not written the ticket. -/
def Asks (path css : String) : Client → Prop
  | starting request | launching request | spawning request => request = .submit path css
  | enqueueing path' css' => path' = path ∧ css' = css
  | _ => False

/-- A client has no request under way. -/
def IsAtRest : Client → Prop
  | idle | returned _ => True
  | _ => False

/-- Where a client is that only starts the session when it is about to submit a stylesheet. -/
def withdrawn : Client → Client
  | starting _ => starting .start
  | launching _ => launching .start
  | spawning _ => spawning .start
  | enqueueing .. => returned (.ok none)
  | stage => stage

end Client

namespace State

/-- The clients are elsewhere. -/
def withClients (s : State) (clients : Nat → Client) : State :=
  { s with clients }

/-- The client only starts the session. -/
def withdraw (s : State) (c : Nat) : State :=
  s.setClient c (s.clients c).withdrawn

end State

/-- After some moves, a client is about to write the ticket of a stylesheet. It has called for the
submission before the last of these moves, and for nothing else since. -/
structure Setup.Asks (setup : Setup) (c : Nat) (path css : String) (before start : List Move)
    (s : State) : Prop where
  after : (State.initial setup).after? setup (before ++ .call c (.submit path css) :: start) =
    some s
  sole : ∀ request, .call c request ∉ start
  stage : (s.clients c).Asks path css

section
variable {setup : Setup} {s t u : State} {m : Move} {c d : Nat} {path css : String}
  {moves : List Move}

/-! ## What others do -/

@[simp] theorem worker_withClients (clients : Nat → Client) :
    (s.withClients clients).worker = s.worker := rfl

@[simp] theorem queue_withClients (clients : Nat → Client) :
    (s.withClients clients).queue = s.queue := rfl

@[simp] theorem collected_withClients (clients : Nat → Client) :
    (s.withClients clients).collected = s.collected := rfl

@[simp] theorem accumulator_withClients (clients : Nat → Client) :
    (s.withClients clients).accumulator = s.accumulator := rfl

@[simp] theorem tickets_withClients (clients : Nat → Client) :
    (s.withClients clients).tickets = s.tickets := rfl

@[simp] theorem log_withClients (clients : Nat → Client) :
    (s.withClients clients).log = s.log := rfl

@[simp] theorem setClient_setClient (stage stage' : Client) :
    (s.setClient c stage).setClient c stage' = s.setClient c stage' := by
  simp only [State.setClient, State.mk.injEq, true_and, and_true]
  funext d
  split <;> rfl

theorem setClient_comm (h : d ≠ c) (stage stage' : Client) :
    (s.setClient d stage).setClient c stage' = (s.setClient c stage').setClient d stage := by
  simp only [State.setClient, State.mk.injEq, true_and, and_true]
  funext i
  by_cases hd : i = d
  · simp [hd, h]
  · simp [hd]

@[simp] theorem started_setClient (stage : Client) :
    (s.setClient c stage).started = s.started := rfl

@[simp] theorem tickets_setClient (stage : Client) :
    (s.setClient c stage).tickets = s.tickets := rfl

@[simp] theorem collected_setClient (stage : Client) :
    (s.setClient c stage).collected = s.collected := rfl

theorem clients_setClient_of_ne (hd : d ≠ c) (stage : Client) :
    (s.setClient c stage).clients d = s.clients d := by
  simp [State.setClient, hd]

theorem emit_setClient (stage : Client) (e : Event) : (s.setClient c stage).emit setup e =
    ((s.emit setup e).1.setClient c stage, (s.emit setup e).2) := rfl

theorem noteVerdict_withClients (clients : Nat → Client) (v : Verdict) :
    (s.withClients clients).noteVerdict v = (s.noteVerdict v).withClients clients := by
  unfold State.noteVerdict
  split <;> rfl

theorem analyse_withClients (clients : Nat → Client) (id : Nat) (used : List String)
    (step : Analysis) : (s.withClients clients).analyse setup id used step =
      ((s.analyse setup id used step).1.withClients clients,
        (s.analyse setup id used step).2) := by
  unfold State.analyse
  rw [tickets_withClients]
  cases s.tickets[id]? with
  | none => rfl
  | some ticket =>
      cases step with
      | begin => cases hs : ticket.state <;> simp only [TicketState.begin, hs] <;> rfl
      | announce =>
          simp only [State.emit, log_withClients]
          cases setup.listener (eventsOf s.log).length (.documentAnalyzing ticket.path) <;> rfl
      | judge =>
          dsimp only
          cases finding setup used ticket.path ticket.css with
          | error e => rfl
          | ok v =>
              simp only [noteVerdict_withClients]
              generalize s.noteVerdict v = noted
              simp only [State.emit, log_withClients]
              cases setup.listener (eventsOf noted.log).length v.event <;> rfl
      | settle outcome => cases hs : ticket.state <;> simp only [TicketState.finish, hs] <;> rfl

theorem reject_withClients (clients : Nat → Client) (id : Nat) (failure : Failure) :
    (s.withClients clients).reject id failure =
      (s.reject id failure).map (·.withClients clients) := by
  unfold State.reject
  rw [tickets_withClients]
  cases s.tickets[id]? with
  | none => rfl
  | some ticket => cases hs : ticket.state <;> simp only [TicketState.begin, hs] <;> rfl

theorem conclude_withClients (clients : Nat → Client) (outcome : Except Failure (List String))
    (next : Worker) : (s.withClients clients).conclude outcome next =
      (s.conclude outcome next).withClients clients := by
  unfold State.conclude State.collect
  rw [collected_withClients]
  cases s.collected <;> rfl

/-- The worker does the same wherever the clients are. -/
theorem workerStep?_withClients (clients : Nat → Client) :
    (s.withClients clients).workerStep? setup =
      (s.workerStep? setup).map (·.withClients clients) := by
  unfold State.workerStep?
  rw [worker_withClients]
  cases s.worker with
  | absent | ended | died | publishing | failing => rfl
  | opening =>
      simp only [notes_eq]
      rfl
  | taking rest count =>
      cases rest with
      | nil => cases setup.load.failure <;> simp only <;> rfl
      | cons source rest =>
          simp only [accumulator_withClients]
          cases s.accumulator.feed source.text <;> rfl
  | parsed path added rest count =>
      simp only [State.emit, log_withClients]
      cases setup.listener (eventsOf s.log).length (.sourceParsed path added) <;> rfl
  | announcing used count =>
      simp only [State.emit, log_withClients]
      cases setup.listener (eventsOf s.log).length (.collectionCompleted count used.length) <;> rfl
  | reporting e swept =>
      simp only [State.emit, log_withClients]
      cases setup.listener (eventsOf s.log).length (.collectionFailed e.message) <;> rfl
  | handing | rejecting => simp only [conclude_withClients, Option.map_some]
  | draining used =>
      simp only [queue_withClients]
      cases s.queue <;> rfl
  | analysing used id step =>
      simp only [analyse_withClients]
      cases s.analyse setup id used step with
      | mk t advance => cases advance <;> rfl
  | sweeping e swept =>
      cases swept with
      | nil => rfl
      | cons id swept =>
          simp only [reject_withClients]
          cases s.reject id e <;> rfl

/-- Who leaves the clients alone does the same when one of them is elsewhere. -/
theorem withClients_setClient (h : t.clients = s.clients) (c : Nat) (stage : Client) :
    t.withClients (s.setClient c stage).clients = t.setClient c stage := by
  simp only [State.withClients, State.setClient, h]

theorem analyse_setClient (stage : Client) (id : Nat) (used : List String) (step : Analysis) :
    (s.setClient c stage).analyse setup id used step =
      ((s.analyse setup id used step).1.setClient c stage, (s.analyse setup id used step).2) := by
  have hsame : (s.analyse setup id used step).1.clients = s.clients := by
    have hstep : AnalysisStep setup s id used step (s.analyse setup id used step).1
        (s.analyse setup id used step).2 := analysisStep_of_analyse rfl
    obtain ⟨tickets, log, ht⟩ := hstep.frame
    rw [ht]
  rw [← withClients_setClient hsame c stage]
  exact analyse_withClients _ id used step

theorem reject_setClient (stage : Client) (id : Nat) (failure : Failure) :
    (s.setClient c stage).reject id failure =
      (s.reject id failure).map (·.setClient c stage) := by
  have hwith := reject_withClients (s := s) (s.setClient c stage).clients id failure
  cases hr : s.reject id failure with
  | error e =>
      rw [hr] at hwith
      exact hwith
  | ok t =>
      obtain ⟨tickets, rfl⟩ := frame_of_reject hr
      rw [hr] at hwith
      exact hwith

theorem workerStep?_setClient (stage : Client) :
    (s.setClient c stage).workerStep? setup =
      (s.workerStep? setup).map (·.setClient c stage) := by
  have hwith : (s.withClients (s.setClient c stage).clients).workerStep? setup = _ :=
    workerStep?_withClients _
  cases ht : s.workerStep? setup with
  | none =>
      rw [ht] at hwith
      exact hwith
  | some t =>
      have hsame := (workerStep_of_workerStep? ht).frame.2.1
      rw [ht, Option.map_some, withClients_setClient hsame] at hwith
      exact hwith

theorem giveBack_setClient (hd : d ≠ c) (stage : Client)
    (outcome : Except Failure (Option Nat)) :
    (s.giveBack d outcome).setClient c stage = (s.setClient c stage).giveBack d outcome := by
  rw [giveBack_eq, giveBack_eq, setClient_comm hd]
  rfl

theorem proceed_setClient (hd : d ≠ c) (stage : Client) (request : Request) :
    (s.proceed d request).setClient c stage = (s.setClient c stage).proceed d request := by
  rw [proceed_eq, proceed_eq, setClient_comm hd]

theorem enqueue_setClient (hd : d ≠ c) (stage : Client) (path css : String) :
    (s.enqueue d path css).setClient c stage = (s.setClient c stage).enqueue d path css := by
  rw [enqueue_eq, enqueue_eq, setClient_comm hd]
  rfl

/-- A client does the same wherever another one is. -/
theorem clientStep?_setClient (hd : d ≠ c) (stage : Client) :
    (s.setClient c stage).clientStep? setup d =
      (s.clientStep? setup d).map (·.setClient c stage) := by
  unfold State.clientStep?
  rw [clients_setClient_of_ne hd]
  cases s.clients d with
  | idle | returned => rfl
  | starting request =>
      cases hs : s.started with
      | true => simp [hs, proceed_setClient hd]
      | false =>
          simp only [started_setClient, hs, Bool.false_eq_true, if_false]
          exact congrArg some (setClient_comm (s := { s with started := true }) hd _ _).symm
  | launching request =>
      simp only [emit_setClient]
      cases s.emit setup (.collectionStarted setup.patterns) with
      | mk t raised => cases raised <;> simp [giveBack_setClient hd, setClient_comm hd]
  | spawning request =>
      simp only [Option.map_some, proceed_setClient hd]
      rfl
  | enqueueing path css => simp only [Option.map_some, enqueue_setClient hd]
  | queued id =>
      simp only [tickets_setClient]
      cases s.tickets[id]? with
      | none => rfl
      | some ticket =>
          simp only [emit_setClient]
          cases s.emit setup (.documentQueued ticket.path) with
          | mk t raised => cases raised <;> simp [giveBack_setClient hd]
  | refused id =>
      simp only [collected_setClient, reject_setClient]
      rcases s.collected with _ | failure | used
      · rfl
      · simp only
        cases s.reject id failure <;> simp [Except.map, giveBack_setClient hd]
      · rfl
  | admitted id =>
      simp only [collected_setClient]
      rcases s.collected with _ | failure | used <;>
        simp [giveBack_setClient hd, setClient_comm hd]
  | analysing id used step =>
      simp only [analyse_setClient]
      cases s.analyse setup id used step with
      | mk t advance => cases advance <;> simp [giveBack_setClient hd, setClient_comm hd]
  | waiting =>
      simp only [collected_setClient]
      rcases s.collected with _ | failure | used <;> simp [giveBack_setClient hd]

/-- Others do the same wherever a client is. -/
theorem step?_setClient (hm : m.client? ≠ some c) (stage : Client) :
    (s.setClient c stage).step? setup m = (s.step? setup m).map (·.setClient c stage) := by
  cases m with
  | worker => exact workerStep?_setClient stage
  | client d =>
      have hd : d ≠ c := fun hd => hm (hd ▸ rfl)
      exact clientStep?_setClient hd stage
  | call d request =>
      have hd : d ≠ c := fun hd => hm (hd ▸ rfl)
      simp only [State.step?, State.call?, clients_setClient_of_ne hd]
      cases s.clients d <;> simp [setClient_comm hd]
  | cancel id =>
      simp only [State.step?, State.cancel?, tickets_setClient]
      cases s.tickets[id]? with
      | none => rfl
      | some ticket =>
          by_cases hi : id ∈ s.issued
          · simp only [if_pos hi, show id ∈ (s.setClient c stage).issued from hi]
            rfl
          · simp [hi, show id ∉ (s.setClient c stage).issued from hi]

/-! ## What the client does -/

/-- Whoever is about to submit a stylesheet has been so before. -/
theorem ClientStep.asks_of (h : ClientStep setup s c t) (ht : (t.clients c).Asks path css) :
    (s.clients c).Asks path css := by
  cases h with
  | @joined request hc | @spawned request hc =>
      cases request <;> simp_all [State.setClient, Request.onward, Client.Asks]
  | launched hc | told hc => simpa [State.setClient, Client.Asks, hc] using ht
  | _ => simp [State.setClient, giveBack_eq, Client.Asks] at ht

theorem not_asks_entrance (s : State) : ¬ s.entrance.Asks path css := by
  unfold State.entrance
  split
  · exact id
  · split <;> exact id

/-- A client that is about to submit a stylesheet takes the same steps if it only starts the
session. -/
theorem clientStep?_withdraw (h : s.clientStep? setup c = some t)
    (hs : (s.clients c).Asks path css) (ht : (t.clients c).Asks path css) :
    (s.withdraw c).clientStep? setup c = some (t.withdraw c) := by
  unfold State.clientStep? at h ⊢
  cases hc : s.clients c <;> rw [hc] at hs <;>
    simp only [State.withdraw, hc, Client.withdrawn, clients_setClient] at h ⊢
  case starting request =>
      obtain rfl : request = .submit path css := hs
      cases hstarted : s.started <;>
        simp only [hstarted, started_setClient, Bool.false_eq_true, if_false, if_true,
          Option.some.injEq] at h ⊢ <;> subst h
      case true => simp [proceed_eq, Request.onward]
      case false =>
          rw [clients_setClient, setClient_setClient]
          exact setClient_setClient (s := { s with started := true }) _ _
  case launching request =>
      simp only [emit_setClient]
      cases he : s.emit setup (.collectionStarted setup.patterns) with
      | mk t' raised =>
          cases raised <;> simp only [he, Option.some.injEq] at h ⊢ <;> subst h
          case none => simp
          case some failure => simp [giveBack_eq, Client.Asks] at ht
  case spawning request =>
      obtain rfl : request = .submit path css := hs
      simp only [Option.some.injEq] at h ⊢
      subst h
      simp only [proceed_eq, Request.onward, clients_setClient, setClient_setClient]
      exact setClient_setClient (s := s.setWorker .opening) _ _
  case enqueueing path' css' =>
      simp only [Option.some.injEq] at h
      subst h
      rw [enqueue_eq, clients_setClient] at ht
      exact absurd ht (not_asks_entrance s)
  all_goals exact hs.elim

/-! ## Up to the ticket -/

/-- Whoever is about to submit a stylesheet has just called for it, or has been so before. -/
theorem Step.asks_of (h : Step setup s m t) (hm : ∀ request, m ≠ .call c request)
    (ht : (t.clients c).Asks path css) : (s.clients c).Asks path css := by
  by_cases hc : m.client? = some c
  · cases h with
    | client h =>
        cases hc
        exact h.asks_of ht
    | called =>
        cases hc
        exact absurd rfl (hm _)
    | worker | cancelled | spared => cases hc
  · rw [h.clients_of_ne hc] at ht
    exact ht

theorem asks_of_after (hsole : ∀ request, .call c request ∉ moves)
    (h : s.after? setup moves = some t) (ht : (t.clients c).Asks path css) :
    (s.clients c).Asks path css := by
  induction moves generalizing s with
  | nil =>
      cases h
      exact ht
  | cons m rest ih =>
      obtain ⟨s', hm, h⟩ := State.exists_step_of_after h
      have hs' := ih (fun request hmem => hsole request (List.mem_cons_of_mem _ hmem)) h
      refine (step_of_step? hm).asks_of (fun request hcall => ?_) hs'
      exact hsole request (hcall ▸ List.mem_cons_self)

/-- Until the ticket is written, everybody takes the same steps if the client only starts the
session. -/
theorem after?_withdraw (hsole : ∀ request, .call c request ∉ moves)
    (h : s.after? setup moves = some t) (ht : (t.clients c).Asks path css) :
    (s.withdraw c).after? setup moves = some (t.withdraw c) := by
  induction moves generalizing s with
  | nil =>
      cases h
      rfl
  | cons m rest ih =>
      have hs := asks_of_after hsole h ht
      have hsole' (request : Request) : .call c request ∉ rest := fun hmem =>
        hsole request (List.mem_cons_of_mem _ hmem)
      obtain ⟨s', hm, h⟩ := State.exists_step_of_after h
      simp only [State.after?]
      have hs' := asks_of_after hsole' h ht
      have hwithdrawn : (s.withdraw c).step? setup m = some (s'.withdraw c) := by
        by_cases hc : m.client? = some c
        · cases m with
          | client d =>
              cases hc
              exact clientStep?_withdraw hm hs hs'
          | call d request =>
              cases hc
              exact absurd List.mem_cons_self (hsole request)
          | worker | cancel => cases hc
        · rw [State.withdraw, step?_setClient hc, hm, Option.map_some, State.withdraw,
            (step_of_step? hm).clients_of_ne hc]
      rw [hwithdrawn]
      exact ih hsole' h

/-- A client that is about to submit a stylesheet has called for that before. -/
theorem exists_asks (h : (State.initial setup).after? setup moves = some s)
    (hs : (s.clients c).Asks path css) :
    ∃ before start, moves = before ++ .call c (.submit path css) :: start ∧
      setup.Asks c path css before start s := by
  induction moves using List.reverseRecOn generalizing s with
  | nil =>
      cases h
      exact hs.elim
  | append_singleton moves m ih =>
      obtain ⟨r, hr, hm⟩ := State.exists_after_of_concat h
      have hstep := step_of_step? hm
      by_cases hcall : ∃ request, m = .call c request
      · obtain ⟨request, rfl⟩ := hcall
        cases hstep with
        | called hc =>
            rw [clients_setClient] at hs
            obtain rfl : request = .submit path css := hs
            exact ⟨moves, [], rfl, h, by simp, by rw [clients_setClient]; rfl⟩
      · have hbefore : (r.clients c).Asks path css :=
          hstep.asks_of (fun request heq => hcall ⟨request, heq⟩) hs
        obtain ⟨before, start, rfl, hasks⟩ := ih hr hbefore
        refine ⟨before, start ++ [m], by simp, by simpa using h, fun request hmem => ?_, hs⟩
        rcases List.mem_append.1 hmem with hmem | hmem
        · exact hasks.sole request hmem
        · exact hcall ⟨request, (List.mem_singleton.1 hmem).symm⟩

/-- The client has had no request under way when it called. -/
theorem Setup.Asks.exists_call {before start : List Move}
    (h : setup.Asks c path css before start s) :
    ∃ r, (State.initial setup).after? setup before = some r ∧ (r.clients c).IsAtRest ∧
      (r.setClient c (.starting (.submit path css))).after? setup start = some s := by
  obtain ⟨r, hr, hs⟩ := State.exists_after_of_append h.after
  refine ⟨r, hr, ?_⟩
  obtain ⟨r', hm, hs⟩ := State.exists_step_of_after hs
  simp only [State.step?, State.call?] at hm
  cases hc : r.clients c <;> simp only [hc, reduceCtorEq, Option.some.injEq] at hm <;>
    subst hm <;> exact ⟨trivial, hs⟩

theorem step?_call (hs : (s.clients c).IsAtRest) (request : Request) :
    s.step? setup (.call c request) = some (s.setClient c (.starting request)) := by
  simp only [State.step?, State.call?]
  cases hc : s.clients c <;> simp_all [Client.IsAtRest]

/-- The client can be left at the start of the session from its call on. -/
theorem Setup.Asks.after?_withdraw {before start : List Move}
    (h : setup.Asks c path css before start s) :
    (State.initial setup).after? setup (before ++ .call c .start :: start) =
      some (s.withdraw c) := by
  obtain ⟨r, hr, hrest, hs⟩ := h.exists_call
  have hsame := StyleUsage.Session.after?_withdraw h.sole hs h.stage
  rw [State.withdraw, clients_setClient, setClient_setClient] at hsame
  rw [State.after?_append hr]
  simp only [State.after?, step?_call hrest, Client.withdrawn] at hsame ⊢
  exact hsame

/-! ## A client that stays away -/

theorem Step.started (h : Step setup s m t) (hs : s.started = true) : t.started = true := by
  cases h with
  | worker h => exact h.frame.2.2.1.trans hs
  | client h =>
      cases h with
      | analysed hc ha | finished hc ha | broke hc ha =>
          obtain ⟨tickets, log, rfl⟩ := ha.frame
          simp [giveBack_eq, State.setClient, hs]
      | rejected hc hf hr =>
          obtain ⟨tickets, rfl⟩ := frame_of_reject hr
          simp [giveBack_eq, State.setClient, hs]
      | _ => simp [giveBack_eq, State.setClient, State.record, State.write, hs]
  | called | cancelled | spared => exact hs

/-- If the session is started, nobody notices whether a client that is about to submit a stylesheet
has called at all. -/
theorem after?_absent (hstarted : s.started = true)
    (hs : s.clients c = .starting (.submit path css) ∨ s.clients c = .enqueueing path css)
    (hsole : ∀ request, .call c request ∉ moves) (h : s.after? setup moves = some t)
    (ht : (t.clients c).Asks path css) (stage : Client) :
    (s.setClient c stage).after? setup (moves.filter (·.client? ≠ some c)) =
      some (t.setClient c stage) := by
  induction moves generalizing s with
  | nil =>
      cases h
      rfl
  | cons m rest ih =>
      have hsole' (request : Request) : .call c request ∉ rest := fun hmem =>
        hsole request (List.mem_cons_of_mem _ hmem)
      obtain ⟨s', hm, hafter⟩ := State.exists_step_of_after h
      have hstarted' := (step_of_step? hm).started hstarted
      by_cases hc : m.client? = some c
      · cases m with
        | worker | cancel => cases hc
        | call d request =>
            cases hc
            exact absurd List.mem_cons_self (hsole request)
        | client d =>
            cases hc
            simp only [Move.client?, ne_eq, not_true_eq_false, decide_false,
              Bool.false_eq_true, not_false_eq_true, List.filter_cons_of_neg]
            rcases hs with hs | hs <;>
              simp only [State.step?, State.clientStep?, hs, hstarted, if_true,
                Option.some.injEq] at hm
            · obtain rfl : s.setClient c (.enqueueing path css) = s' := hm
              have hsame := ih hstarted' (.inr (clients_setClient ..)) hsole' hafter
              rwa [setClient_setClient] at hsame
            · -- the ticket is not written before the last of the moves
              have hasks := asks_of_after hsole' hafter ht
              rw [← hm, enqueue_eq, clients_setClient] at hasks
              exact absurd hasks (not_asks_entrance s)
      · have hkept : (m :: rest).filter (·.client? ≠ some c) =
            m :: rest.filter (·.client? ≠ some c) := by simp [hc]
        rw [hkept]
        simp only [State.after?, step?_setClient hc, hm, Option.map_some]
        refine ih hstarted' ?_ hsole' hafter
        rwa [(step_of_step? hm).clients_of_ne hc]

theorem Setup.Asks.after?_absent {r : State} {before start : List Move}
    (h : setup.Asks c path css before start s)
    (hr : (State.initial setup).after? setup before = some r) (hstarted : r.started = true) :
    (State.initial setup).after? setup (before ++ start.filter (·.client? ≠ some c)) =
      some (s.setClient c (r.clients c)) := by
  obtain ⟨r', hr', -, hs⟩ := h.exists_call
  rw [hr, Option.some.injEq] at hr'
  subst hr'
  have hsame := StyleUsage.Session.after?_absent (s := r.setClient c _) hstarted
    (.inl (clients_setClient ..)) h.sole hs h.stage (r.clients c)
  rw [setClient_setClient, setClient_self rfl] at hsame
  rw [State.after?_append hr, hsame]

/-- Where a client at rest has been left makes no difference until it calls again. -/
theorem exists_after_setClient {stage : Client} (hs : (s.clients c).IsAtRest)
    (hstage : stage.IsAtRest) (h : s.after? setup moves = some t) :
    ∃ stage', (s.setClient c stage).after? setup moves = some (t.setClient c stage') ∧
      (stage' = t.clients c ∨ stage'.IsAtRest ∧ (t.clients c).IsAtRest) := by
  induction moves generalizing s with
  | nil =>
      cases h
      exact ⟨stage, rfl, .inr ⟨hstage, hs⟩⟩
  | cons m rest ih =>
      obtain ⟨s', hm, h⟩ := State.exists_step_of_after h
      simp only [State.after?]
      by_cases hc : m.client? = some c
      · cases m with
        | worker | cancel => cases hc
        | client d =>
            cases hc
            simp only [State.step?, State.clientStep?] at hm
            cases hrest : s.clients c <;> simp only [hrest, reduceCtorEq] at hm <;>
              simp only [hrest, Client.IsAtRest] at hs
        | call d request =>
            cases hc
            rw [step?_call hs, Option.some.injEq] at hm
            subst hm
            have hstage' : ((s.setClient c stage).clients c).IsAtRest := by
              rwa [clients_setClient]
            refine ⟨t.clients c, ?_, .inl rfl⟩
            rw [setClient_self rfl, step?_call hstage', setClient_setClient]
            exact h
      · simp only [step?_setClient hc, hm, Option.map_some]
        exact ih ((step_of_step? hm).clients_of_ne hc ▸ hs) h

/-! ## The ticket -/

theorem ClientStep.writes (h : ClientStep setup s c t)
    (hlen : t.tickets.length ≠ s.tickets.length) :
    (∃ path css, s.clients c = .enqueueing path css) ∧
      t.tickets.length = s.tickets.length + 1 := by
  cases h with
  | queued hc | refused hc | admitted hc =>
      exact ⟨⟨_, _, hc⟩, by simp [State.setClient, State.write]⟩
  | analysed hc ha => exact absurd ha.length_eq hlen
  | finished hc ha | broke hc ha => exact absurd (by simpa using ha.length_eq) hlen
  | rejected hc hf hr => exact absurd (by simpa using length_of_reject hr) hlen
  | _ => simp [State.setClient, State.record] at hlen

/-- A ticket is written by the client that submits the stylesheet, and by nobody else. -/
theorem Step.writes (h : Step setup s m t) (hlen : t.tickets.length ≠ s.tickets.length) :
    ∃ c path css, m = .client c ∧ s.clients c = .enqueueing path css ∧
      t.tickets.length = s.tickets.length + 1 := by
  cases h with
  | worker h => exact absurd h.length_eq hlen
  | @client c t h =>
      obtain ⟨⟨path, css, hc⟩, hmore⟩ := h.writes hlen
      exact ⟨c, path, css, rfl, hc, hmore⟩
  | called | cancelled | spared => simp [State.setClient, State.setTicket] at hlen

/-- Whoever has written a ticket was about to submit a stylesheet. -/
theorem exists_submission {id : Nat} (h : (State.initial setup).after? setup moves = some t)
    (hid : id < t.tickets.length) :
    ∃ before c path css start s rest,
      moves = before ++ .call c (.submit path css) :: start ++ .client c :: rest ∧
      setup.Asks c path css before start s ∧ s.clients c = .enqueueing path css ∧
      s.tickets.length = id := by
  induction moves using List.reverseRecOn generalizing t with
  | nil =>
      cases h
      simp [State.initial] at hid
  | append_singleton moves m ih =>
      obtain ⟨s, hs, hm⟩ := State.exists_after_of_concat h
      by_cases hold : id < s.tickets.length
      · obtain ⟨before, c, path, css, start, s', rest, rfl, hasks⟩ := ih hs hold
        exact ⟨before, c, path, css, start, s', rest ++ [m], by simp, hasks⟩
      · obtain ⟨c, path, css, rfl, hc, hmore⟩ := (step_of_step? hm).writes (by omega)
        have hstage : (s.clients c).Asks path css := by simp [hc, Client.Asks]
        obtain ⟨before, start, rfl, hasks⟩ := exists_asks hs hstage
        exact ⟨before, c, path, css, start, s, [], rfl, hasks, hc, by omega⟩

end

end StyleUsage.Session
