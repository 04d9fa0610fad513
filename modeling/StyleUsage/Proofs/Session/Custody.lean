import StyleUsage.Proofs.Session.History
import StyleUsage.Proofs.Session.Phases

/-!
# Who holds a ticket

From the moment it is written until it has its outcome, a ticket lies with someone: in the queue,
with the worker, or with the client that submitted the stylesheet. This module sums up what a
step does to the tickets and to those who hold them, so that the custody of tickets can be
followed without a look at the stages of the worker and of the clients.
-/

namespace StyleUsage.Session

/-- Where tickets lie until they have an outcome. -/
inductive Holder where
  | queue
  | worker
  | client (c : Nat)
  deriving DecidableEq

/-- The tickets that lie with the worker at some stage. -/
def Worker.held : Worker → List Nat
  | .analysing _ id _ => [id]
  | .rejecting _ swept | .reporting _ swept | .sweeping _ swept => swept
  | _ => []

/-- The next step on the tickets that lie with the worker. -/
def Worker.next : Worker → Analysis
  | .analysing _ _ step => step
  | _ => .begin

/-- The tickets that lie with a client at some stage. -/
def Client.held : Client → List Nat
  | .refused id | .admitted id | .analysing id _ _ => [id]
  | _ => []

/-- The next step on the ticket that lies with a client. -/
def Client.next : Client → Analysis
  | .analysing _ _ step => step
  | _ => .begin

namespace State

def held (s : State) : Holder → List Nat
  | .queue => s.queue
  | .worker => s.worker.held
  | .client c => (s.clients c).held

def next (s : State) : Holder → Analysis
  | .queue => .begin
  | .worker => s.worker.next
  | .client c => (s.clients c).next

/-- Someone is at a step of the analysis of a ticket, for which he has been given used classes. -/
def Analyses (s : State) (h : Holder) (id : Nat) (used : List String) (step : Analysis) : Prop :=
  match h with
  | .queue => False
  | .worker => s.worker = .analysing used id step
  | .client c => s.clients c = .analysing id used step

/-- A listener may raise something at other news than that of a source, or someone has a ticket in
hand that is in no state for the next step on it. -/
def IsAmiss (s : State) (setup : Setup) : Prop :=
  (∃ n e failure, e.kind ≠ .sourceParsed ∧ setup.listener n e = some failure) ∨
    ∃ h, ∃ id ∈ s.held h, ∀ ticket, s.tickets[id]? = some ticket →
      ¬ (s.next h).Fits ticket.state

end State

theorem State.Analyses.held {s : State} {h : Holder} {id : Nat} {used : List String}
    {step : Analysis} (hs : s.Analyses h id used step) : s.held h = [id] ∧ s.next h = step := by
  cases h with
  | queue => exact hs.elim
  | worker =>
      simp only [State.Analyses] at hs
      simp [State.held, State.next, hs, Worker.held, Worker.next]
  | client c =>
      simp only [State.Analyses] at hs
      simp [State.held, State.next, hs, Client.held, Client.next]

theorem State.Analyses.mem {s : State} {h : Holder} {id : Nat} {used : List String}
    {step : Analysis} (hs : s.Analyses h id used step) : id ∈ s.held h := by
  rw [hs.held.1]
  exact List.mem_singleton_self id

/-- An analysis breaks off only if something is amiss. -/
theorem State.Analyses.isAmiss {setup : Setup} {s t : State} {h : Holder} {id : Nat}
    {used : List String} {step : Analysis} {failure : Failure} (hs : s.Analyses h id used step)
    (ha : AnalysisStep setup s id used step t (.broken failure)) : s.IsAmiss setup := by
  obtain ⟨hheld, hnext⟩ := hs.held
  cases ha with
  | raised ht hl he => exact .inl ⟨_, _, _, he, hl⟩
  | amiss hmiss => exact .inr ⟨h, id, by simp [hheld], by simpa [hnext] using hmiss⟩

theorem AnalysisStep.tickets_of_broken {setup : Setup} {s t : State} {id : Nat}
    {used : List String} {step : Analysis} {failure : Failure}
    (ha : AnalysisStep setup s id used step t (.broken failure)) : t.tickets = s.tickets := by
  cases ha <;> rfl

theorem isAmiss_of_reject {setup : Setup} {s : State} {h : Holder} {id : Nat} {rest : List Nat}
    {failure e : Failure} (hs : s.held h = id :: rest) (hnext : s.next h = .begin)
    (hr : s.reject id failure = .error e) : s.IsAmiss setup := by
  refine .inr ⟨h, id, by simp [hs], fun ticket ht => ?_⟩
  rw [hnext]
  exact reject_eq_error hr ticket ht

/-- Nothing changes hands except with one holder. -/
def SameExcept (h : Holder) (s t : State) : Prop :=
  ∀ g, g ≠ h → t.held g = s.held g ∧ t.next g = s.next g

/-- What a move does to the tickets and to those who hold them. -/
inductive Effect (setup : Setup) (s : State) (m : Move) (t : State) : Prop where
  | still (hheld : t.held = s.held) (hnext : t.next = s.next) (htickets : t.tickets = s.tickets)
      (hevents : t.analysisEvents = s.analysisEvents)
  /-- A new ticket comes into someone's hands. -/
  | entered {h : Holder} {ticket : Ticket} (htickets : t.tickets = s.tickets ++ [ticket])
      (hstate : ticket.state = .pending)
      (hheld : t.held h = s.held h ++ [s.tickets.length]) (hbegin : s.next h = .begin)
      (hnext : t.next h = .begin) (hsame : SameExcept h s t)
      (hevents : t.analysisEvents = s.analysisEvents)
  /-- The worker takes tickets from the queue. -/
  | taken {ids : List Nat} (hqueue : s.held .queue = ids ++ t.held .queue)
      (hfree : s.held .worker = []) (hheld : t.held .worker = ids) (hnext : t.next = s.next)
      (hclients : ∀ c, t.held (.client c) = s.held (.client c)) (htickets : t.tickets = s.tickets)
      (hevents : t.analysisEvents = s.analysisEvents)
  | analysed {h : Holder} {id : Nat} {used : List String} {step next : Analysis} {t' : State}
      (hs : s.Analyses h id used step) (hm : s.subject? m = some id)
      (ha : AnalysisStep setup s id used step t' (.next next)) (ht : t.Analyses h id used next)
      (htickets : t.tickets = t'.tickets) (hlog : t.log = t'.log) (hsame : SameExcept h s t)
  | finished {h : Holder} {id : Nat} {used : List String} {step : Analysis} {t' : State}
      (hs : s.Analyses h id used step) (hm : s.subject? m = some id)
      (ha : AnalysisStep setup s id used step t' .done) (ht : t.held h = [])
      (htickets : t.tickets = t'.tickets) (hlog : t.log = t'.log) (hsame : SameExcept h s t)
  | rejected {h : Holder} {id : Nat} {rest : List Nat} {failure : Failure} {t' : State}
      (hp : s.phase = .failed) (hs : s.held h = id :: rest) (hbegin : s.next h = .begin)
      (hr : s.reject id failure = .ok t') (ht : t.held h = rest) (hnext : t.next h = .begin)
      (htickets : t.tickets = t'.tickets) (hsame : SameExcept h s t)
      (hevents : t.analysisEvents = s.analysisEvents)
      (hfailure : s.collected = some (.error failure)) (hqueue : h ≠ .queue)
  | cancelled {id : Nat} {ticket : Ticket} (hheld : t.held = s.held) (hnext : t.next = s.next)
      (ht : s.tickets[id]? = some ticket) (hstate : ticket.state = .pending)
      (htickets : t.tickets = (s.setTicket id .cancelled).tickets)
      (hevents : t.analysisEvents = s.analysisEvents) (hmove : m = .cancel id)
  /-- Someone breaks off what he is at. -/
  | broken {h : Holder} (hs : s.IsAmiss setup) (ht : t.held h = [])
      (htickets : t.tickets = s.tickets) (hsame : SameExcept h s t)
      (hcomplete : t.analysisEvents ≠ s.analysisEvents →
        ∃ id used step, s.Analyses h id used step)

section
variable {setup : Setup} {s t : State} {m : Move}

/-- The worker goes over to another stage and leaves the queue and the clients as they are. -/
theorem sameExcept_worker (hqueue : t.queue = s.queue) (hclients : t.clients = s.clients) :
    SameExcept .worker s t := by
  intro g hg
  cases g with
  | queue => exact ⟨hqueue, rfl⟩
  | worker => exact absurd rfl hg
  | client c => simp [State.held, State.next, hclients]

/-- Whoever has and gets nothing new in hand changes nothing. -/
theorem Effect.of_sameExcept {m : Move} {h : Holder} (hsame : SameExcept h s t)
    (hheld : t.held h = s.held h) (hnext : t.next h = s.next h)
    (htickets : t.tickets = s.tickets) (hevents : t.analysisEvents = s.analysisEvents) :
    Effect setup s m t := by
  refine .still (funext fun g => ?_) (funext fun g => ?_) htickets hevents
  · by_cases hg : g = h
    · exact hg ▸ hheld
    · exact (hsame g hg).1
  · by_cases hg : g = h
    · exact hg ▸ hnext
    · exact (hsame g hg).2

theorem analysisEvents_of_log (hlog : eventsOf t.log = eventsOf s.log) :
    t.analysisEvents = s.analysisEvents := by
  simp [State.analysisEvents, hlog]

theorem analysisEvents_record (s : State) {e : Event} (he : isOfAnalysis e = false) :
    (s.record e).analysisEvents = s.analysisEvents := by
  simp [State.analysisEvents, State.record, he]

/-- A step of the worker that has and gets nothing in hand. -/
theorem Effect.of_worker {m : Move} (hqueue : t.queue = s.queue) (hclients : t.clients = s.clients)
    (hheld : t.worker.held = s.worker.held) (hnext : t.worker.next = s.worker.next)
    (htickets : t.tickets = s.tickets) (hevents : t.analysisEvents = s.analysisEvents) :
    Effect setup s m t :=
  .of_sameExcept (sameExcept_worker hqueue hclients) hheld hnext htickets hevents

theorem WorkerStep.effect (hs : s.AgreesWith s.worker) (h : WorkerStep setup s t) :
    Effect setup s .worker t := by
  cases h with
  | opened hw hlog | froze hw hf hlog =>
      exact .of_worker rfl rfl (by simp [hw, Worker.held]) (by simp [hw, Worker.next]) rfl
        (analysisEvents_of_log hlog)
  | told hw | toldInVain hw hl | completed hw | reported hw =>
      exact .of_worker rfl rfl (by simp [hw, Worker.held]) (by simp [hw, Worker.next]) rfl
        (analysisEvents_record s rfl)
  | drained hw hq =>
      exact .of_worker hq.symm rfl (by simp [hw, Worker.held]) (by simp [hw, Worker.next]) rfl rfl
  | @popped used id queue hw hq =>
      have hqueue : s.held .queue = [id] ++ queue := hq
      refine .taken hqueue (by simp [State.held, hw, Worker.held]) rfl ?_ (fun _ => rfl) rfl rfl
      funext g
      cases g <;> simp [State.next, hw, Worker.next]
  | @failed failure log hw hlog =>
      refine .taken (show s.held .queue = s.queue ++ _ from (List.append_nil _).symm)
        (by simp [State.held, hw, Worker.held]) rfl ?_ (fun _ => rfl) rfl
        (analysisEvents_of_log hlog)
      funext g
      cases g <;> simp [State.next, hw, Worker.next]
  | analysed hw ha =>
      have hframe := ha.frame
      refine .analysed (h := .worker) hw (by simp [State.subject?, hw]) ha rfl rfl rfl ?_
      obtain ⟨tickets, log, rfl⟩ := hframe
      exact sameExcept_worker rfl rfl
  | finished hw ha =>
      have hframe := ha.frame
      refine .finished (h := .worker) hw (by simp [State.subject?, hw]) ha rfl rfl rfl ?_
      obtain ⟨tickets, log, rfl⟩ := hframe
      exact sameExcept_worker rfl rfl
  | @broke used id step t' failure hw ha =>
      have hsame : SameExcept .worker s (t'.setWorker (.died failure)) := by
        obtain ⟨tickets, log, rfl⟩ := ha.frame
        exact sameExcept_worker rfl rfl
      have hs : s.Analyses .worker id used step := hw
      exact .broken (h := .worker) (hs.isAmiss ha) rfl ha.tickets_of_broken hsame fun _ =>
        ⟨id, used, step, hw⟩
  | @swept failure id swept t' hw hr =>
      rw [hw] at hs
      have hheld : s.held .worker = id :: swept := by simp [State.held, hw, Worker.held]
      obtain ⟨tickets, ht⟩ := frame_of_reject hr
      have hsame : SameExcept .worker s (t'.setWorker (.sweeping failure swept)) :=
        ht ▸ sameExcept_worker rfl rfl
      refine .rejected hs.1 hheld (by simp [State.next, hw, Worker.next]) hr rfl rfl rfl hsame ?_
        hs.2.2.1 (by simp)
      rw [ht]
      rfl
  | @sweptAmiss failure e id swept hw hr =>
      have hheld : s.held .worker = id :: swept := by simp [State.held, hw, Worker.held]
      have hamiss : s.IsAmiss setup :=
        isAmiss_of_reject hheld (by simp [State.next, hw, Worker.next]) hr
      exact .broken (h := .worker) hamiss rfl rfl (sameExcept_worker rfl rfl) fun hne =>
        absurd rfl hne
  | completedInVain hw hl he | reportedInVain hw hl he =>
      exact .broken (h := .worker) (.inl ⟨_, _, _, he, hl⟩) rfl rfl
        (sameExcept_worker rfl rfl) fun hne => absurd (analysisEvents_record s rfl) hne
  | concludedTwice hw hc =>
      rcases hw with ⟨used, count, hw⟩ | ⟨e, swept, hw⟩ <;> simp [hw, State.AgreesWith, hc] at hs
  | _ hw =>
      exact .of_worker rfl rfl (by simp [hw, Worker.held]) (by simp [hw, Worker.next]) rfl rfl

/-! ## Steps of a client -/

@[simp] theorem clients_setClient (s : State) (c : Nat) (stage : Client) :
    (s.setClient c stage).clients c = stage := by
  simp [State.setClient]

theorem setClient_self {c : Nat} {stage : Client} (h : s.clients c = stage) :
    s.setClient c stage = s := by
  have hclients : (fun d => if d = c then stage else s.clients d) = s.clients := by
    funext d
    split
    · next hd => rw [hd, h]
    · rfl
  rw [State.setClient, hclients]

/-- A client is at a stage that has just been set, or has been at its stage before. -/
theorem clients_of_setClient {c d : Nat} {new stage : Client}
    (h : (s.setClient c new).clients d = stage) (hstage : stage ≠ new) : s.clients d = stage := by
  by_cases hd : d = c
  · rw [hd, clients_setClient] at h
    exact absurd h.symm hstage
  · simpa [State.setClient, hd] using h

@[simp] theorem clients_giveBack (s : State) (c : Nat) (outcome : Except Failure (Option Nat)) :
    (s.giveBack c outcome).clients c = .returned outcome := by
  simp [giveBack_eq]

@[simp] theorem queue_giveBack (s : State) (c : Nat) (outcome : Except Failure (Option Nat)) :
    (s.giveBack c outcome).queue = s.queue := by
  simp [giveBack_eq, State.setClient]

@[simp] theorem tickets_giveBack (s : State) (c : Nat) (outcome : Except Failure (Option Nat)) :
    (s.giveBack c outcome).tickets = s.tickets := by
  simp [giveBack_eq, State.setClient]

@[simp] theorem log_giveBack (s : State) (c : Nat) (outcome : Except Failure (Option Nat)) :
    (s.giveBack c outcome).log = s.log := by
  simp [giveBack_eq, State.setClient]

/-- A step of a client changes nothing in the hands of others, the queue apart. -/
theorem ClientStep.sameExcept {c : Nat} (h : ClientStep setup s c t) (hlaunch : Launch s)
    (hqueue : t.queue = s.queue) : SameExcept (.client c) s t := by
  intro g hg
  cases g with
  | queue => exact ⟨hqueue, rfl⟩
  | worker =>
      rcases h.launches hlaunch with hworker | ⟨habsent, hworker⟩
      · simp [State.held, State.next, hworker]
      · simp [State.held, State.next, hworker, habsent, Worker.held, Worker.next]
  | client d =>
      have hd : d ≠ c := fun h => hg (h ▸ rfl)
      simp [State.held, State.next, h.clients_of_ne hd]

/-- A step of a client that has and gets nothing in hand. -/
theorem ClientStep.effect_of_still {c : Nat} (h : ClientStep setup s c t) (hlaunch : Launch s)
    (hqueue : t.queue = s.queue) (hheld : (t.clients c).held = (s.clients c).held)
    (hnext : (t.clients c).next = (s.clients c).next) (htickets : t.tickets = s.tickets)
    (hevents : t.analysisEvents = s.analysisEvents) : Effect setup s (.client c) t :=
  .of_sameExcept (h.sameExcept hlaunch hqueue) hheld hnext htickets hevents

theorem ClientStep.effect {c : Nat} (hs : s.InStep) (hlaunch : Launch s)
    (h : ClientStep setup s c t) : Effect setup s (.client c) t := by
  have hstill := h.effect_of_still hlaunch
  have hsame := h.sameExcept hlaunch
  cases h with
  | @joined request hc | @spawned request hc =>
      refine hstill rfl ?_ ?_ rfl rfl <;>
        cases request <;> simp [hc, Request.onward, Client.held, Client.next, State.setClient]
  | launched hc =>
      exact hstill rfl (by simp [hc, Client.held, State.setClient])
        (by simp [hc, Client.next, State.setClient]) rfl rfl
  | told hc =>
      exact hstill rfl (by simp [hc, Client.held]) (by simp [hc, Client.next]) rfl
        (analysisEvents_record s rfl)
  | toldInVain hc hl =>
      refine hstill (by simp [State.record]) (by simp [hc, Client.held])
        (by simp [hc, Client.next]) (by simp [State.record]) ?_
      simpa [State.analysisEvents] using analysisEvents_record s rfl
  | @queued path css hc hp =>
      refine .entered (h := .queue) rfl rfl rfl rfl rfl ?_ rfl
      intro g hg
      cases g with
      | queue => exact absurd rfl hg
      | worker => exact ⟨rfl, rfl⟩
      | client d =>
          by_cases hd : d = c
          · simp [State.held, State.next, State.setClient, hd, hc, Client.held, Client.next]
          · simp [State.held, State.next, State.setClient, State.write, hd]
  | @refused path css hc | @admitted path css hc =>
      exact .entered (h := .client c) rfl rfl
        (by simp [State.held, hc, Client.held]) (by simp [State.next, hc, Client.next])
        (by simp [State.next, Client.next]) (hsame rfl) rfl
  | noticed hc ht | noticedInVain hc ht hl =>
      refine hstill (by simp [State.record]) (by simp [hc, Client.held])
        (by simp [hc, Client.next]) (by simp [State.record]) ?_
      simpa [State.analysisEvents] using analysisEvents_record s rfl
  | @rejected id failure t' hc hf hr =>
      have hphase : s.phase = .failed := by
        have hsuits := hs.client c
        rwa [hc] at hsuits
      have hframe := frame_of_reject hr
      have hheld : s.held (.client c) = [id] := by simp [State.held, hc, Client.held]
      refine .rejected hphase hheld (by simp [State.next, hc, Client.next]) hr
        (by simp [State.held, Client.held]) (by simp [State.next, Client.next]) (by simp)
        (hsame ?_) ?_ hf (by simp)
      all_goals
        obtain ⟨tickets, rfl⟩ := hframe
        simp [State.analysisEvents]
  | @rejectedAmiss id failure e hc hf hr =>
      have hheld : s.held (.client c) = [id] := by simp [State.held, hc, Client.held]
      have hamiss : s.IsAmiss setup :=
        isAmiss_of_reject hheld (by simp [State.next, hc, Client.next]) hr
      refine .broken (h := .client c) hamiss (by simp [State.held, Client.held]) (by simp)
        (hsame (by simp)) fun hne => ?_
      simp [State.analysisEvents] at hne
  | began hc =>
      exact hstill rfl (by simp [hc, Client.held]) (by simp [hc, Client.next]) rfl rfl
  | admittedInVain hc hf =>
      have hphase : s.phase = .ready := by
        have hsuits := hs.client c
        rwa [hc] at hsuits
      exact absurd hf (hs.collected_ne_error hphase _)
  | @analysed id used step next t' hc ha =>
      refine .analysed (h := .client c) hc (by simp [State.subject?, hc]) ha
        (by simp [State.Analyses]) rfl rfl (hsame ?_)
      obtain ⟨tickets, log, rfl⟩ := ha.frame
      rfl
  | finished hc ha =>
      refine .finished (h := .client c) hc (by simp [State.subject?, hc]) ha
        (by simp [State.held, Client.held]) (by simp) (by simp) (hsame ?_)
      obtain ⟨tickets, log, rfl⟩ := ha.frame
      simp
  | @broke id used step t' failure hc ha =>
      have hs : s.Analyses (.client c) id used step := hc
      have hqueue : t'.queue = s.queue := by
        obtain ⟨tickets, log, rfl⟩ := ha.frame
        rfl
      exact .broken (h := .client c) (hs.isAmiss ha) (by simp [State.held, Client.held])
        (by simpa using ha.tickets_of_broken) (hsame (by simpa using hqueue)) fun _ =>
        ⟨id, used, step, hc⟩
  | waited hc hf =>
      exact hstill (by simp) (by simp [hc, Client.held]) (by simp [hc, Client.next]) (by simp)
        (by simp [State.analysisEvents])

/-! ## All steps -/

theorem Step.effect {m : Move} (hs : s.InStep) (hlaunch : Launch s) (h : Step setup s m t) :
    Effect setup s m t := by
  cases h with
  | worker h => exact h.effect hs.worker
  | client h => exact h.effect hs hlaunch
  | @called c request hc =>
      have hnone : (s.clients c).held = [] ∧ (s.clients c).next = .begin := by
        rcases hc with hc | ⟨outcome, hc⟩ <;> simp [hc, Client.held, Client.next]
      refine .of_sameExcept (h := .client c) ?_ ?_ ?_ rfl rfl
      · intro g hg
        cases g with
        | queue => exact ⟨rfl, rfl⟩
        | worker => exact ⟨rfl, rfl⟩
        | client d =>
            have hd : d ≠ c := fun h => hg (h ▸ rfl)
            simp [State.held, State.next, State.setClient, hd]
      · simpa [State.held, Client.held] using hnone.1.symm
      · simpa [State.next, Client.next] using hnone.2.symm
  | cancelled ht hstate => exact .cancelled rfl rfl ht hstate rfl rfl rfl
  | spared => exact .still rfl rfl rfl rfl

/-! ## Tickets under a step -/

theorem getElem?_setTicket (s : State) (id i : Nat) (state : TicketState) :
    (s.setTicket id state).tickets[i]? =
      if id = i then s.tickets[i]?.map ({ · with state }) else s.tickets[i]? := by
  simp only [State.setTicket, List.getElem?_modify]
  split <;> simp

/-- A ticket after a state has been written on one of them. -/
theorem ticket_of_setTicket {id i : Nat} {state : TicketState} {ticket : Ticket}
    (h : (s.setTicket id state).tickets[i]? = some ticket) :
    s.tickets[i]? = some ticket ∨
      id = i ∧ ∃ old, s.tickets[i]? = some old ∧ ticket = { old with state } := by
  rw [getElem?_setTicket] at h
  split at h
  case isTrue hi =>
      obtain ⟨old, hold, rfl⟩ := Option.map_eq_some_iff.1 h
      exact .inr ⟨hi, old, hold, rfl⟩
  case isFalse => exact .inl h

theorem text_setTicket {id i : Nat} {state : TicketState} {old : Ticket}
    (h : s.tickets[i]? = some old) : ∃ ticket, (s.setTicket id state).tickets[i]? = some ticket ∧
      ticket.path = old.path ∧ ticket.css = old.css := by
  rw [getElem?_setTicket]
  split
  · exact ⟨{ old with state }, by simp [h], rfl, rfl⟩
  · exact ⟨old, h, rfl, rfl⟩

theorem AnalysisStep.text {id i : Nat} {used : List String} {step : Analysis} {advance : Advance}
    {old : Ticket} (h : AnalysisStep setup s id used step t advance)
    (hold : s.tickets[i]? = some old) : ∃ ticket, t.tickets[i]? = some ticket ∧
      ticket.path = old.path ∧ ticket.css = old.css := by
  cases h with
  | begun | dropped | settled => exact text_setTicket hold
  | _ => exact ⟨old, hold, rfl, rfl⟩

/-- The text of a ticket never changes. -/
theorem Effect.text {i : Nat} {old : Ticket} (h : Effect setup s m t)
    (hold : s.tickets[i]? = some old) : ∃ ticket, t.tickets[i]? = some ticket ∧
      ticket.path = old.path ∧ ticket.css = old.css := by
  cases h with
  | still hheld hnext htickets | broken hs ht htickets | taken hq hf hheld hn hc htickets =>
      exact ⟨old, htickets ▸ hold, rfl, rfl⟩
  | entered htickets =>
      refine ⟨old, ?_, rfl, rfl⟩
      rw [htickets, List.getElem?_append_left (List.getElem?_eq_some_iff.1 hold).1, hold]
  | cancelled hheld hnext ht hstate htickets =>
      rw [htickets]
      exact text_setTicket hold
  | rejected hp hs hbegin hr ht hnext htickets =>
      rw [htickets]
      obtain ⟨ticket, -, ⟨-, rfl⟩ | ⟨-, rfl⟩⟩ := reject_eq_ok hr <;> exact text_setTicket hold
  | analysed hs hm ha ht htickets | finished hs hm ha ht htickets =>
      rw [htickets]
      exact ha.text hold

/-- Nobody has cancelled the ticket. -/
def TicketState.isKept : TicketState → Bool
  | cancelled | dropped => false
  | _ => true

/-- Tickets are kept when a state is written on one of them that is not for cancelled ones. -/
theorem isKept_of_setTicket {id i : Nat} {state : TicketState} {ticket : Ticket}
    (ht : (s.setTicket id state).tickets[i]? = some ticket) (hstate : state.isKept = true)
    (hs : ∀ old, s.tickets[i]? = some old → old.state.isKept = true) :
    ticket.state.isKept = true := by
  rcases ticket_of_setTicket ht with hold | ⟨-, old, -, rfl⟩
  · exact hs ticket hold
  · exact hstate

/-- Only a cancelled ticket is left out. -/
theorem isKept_of_dropped {id i : Nat} {old ticket : Ticket} (hold : s.tickets[id]? = some old)
    (hcancelled : old.state = .cancelled)
    (ht : (s.setTicket id .dropped).tickets[i]? = some ticket)
    (hs : ∀ old, s.tickets[i]? = some old → old.state.isKept = true) :
    ticket.state.isKept = true := by
  rcases ticket_of_setTicket ht with hkept | ⟨rfl, -⟩
  · exact hs ticket hkept
  · have hcontra := hs old hold
    rw [hcancelled] at hcontra
    cases hcontra

/-- A ticket is kept until its holder cancels it. -/
theorem Effect.isKept {i : Nat} {ticket : Ticket} (h : Effect setup s m t) (hm : m ≠ .cancel i)
    (hs : ∀ old, s.tickets[i]? = some old → old.state.isKept = true)
    (ht : t.tickets[i]? = some ticket) : ticket.state.isKept = true := by
  cases h with
  | still hheld hnext htickets | broken hamiss hleft htickets
  | taken hqueue hfree hheld hnext hclients htickets => exact hs ticket (htickets ▸ ht)
  | entered htickets hstate =>
      rw [htickets, List.getElem?_append] at ht
      split at ht
      case isTrue => exact hs ticket ht
      case isFalse =>
          rw [List.getElem?_singleton] at ht
          split at ht
          · cases ht
            rw [hstate]
            rfl
          · cases ht
  | cancelled hheld hnext hold hstate htickets hevents hmove =>
      rw [htickets] at ht
      rcases ticket_of_setTicket ht with hkept | ⟨rfl, -⟩
      · exact hs ticket hkept
      · exact absurd hmove hm
  | rejected hp hheld hbegin hr hleft hnext htickets =>
      rw [htickets] at ht
      obtain ⟨old, hold, ⟨-, rfl⟩ | ⟨hcancelled, rfl⟩⟩ := reject_eq_ok hr
      · exact isKept_of_setTicket ht rfl hs
      · exact isKept_of_dropped hold hcancelled ht hs
  | analysed ha hsubject hstep hleft htickets =>
      rw [htickets] at ht
      cases hstep with
      | begun => exact isKept_of_setTicket ht rfl hs
      | _ => exact hs ticket ht
  | finished ha hsubject hstep hleft htickets =>
      rw [htickets] at ht
      cases hstep with
      | settled => exact isKept_of_setTicket ht rfl hs
      | dropped hold hcancelled => exact isKept_of_dropped hold hcancelled ht hs

/-- Whoever is past the first step of an analysis has its ticket in hand. -/
theorem analyses_of_next_ne {holder : Holder} (h : s.next holder ≠ .begin) :
    ∃ id used, s.Analyses holder id used (s.next holder) := by
  cases holder with
  | queue => exact absurd rfl h
  | worker =>
      cases hw : s.worker <;> simp [State.next, hw, Worker.next, State.Analyses] at h ⊢
  | client c =>
      cases hc : s.clients c <;> simp [State.next, hc, Client.next, State.Analyses] at h ⊢

/-- Whoever analyses a stylesheet goes by the outcome of the collection. -/
theorem State.Analyses.collected {holder : Holder} {id : Nat} {used : List String}
    {step : Analysis} (ha : s.Analyses holder id used step) (hs : s.InStep) :
    s.phase = .ready ∧ s.collected = some (.ok used) := by
  cases holder with
  | queue => exact ha.elim
  | worker =>
      have hworker := hs.worker
      rw [show s.worker = _ from ha] at hworker
      exact ⟨hworker.1, hworker.2.2⟩
  | client c =>
      have hclient := hs.client c
      rw [show s.clients c = _ from ha] at hclient
      exact hclient

end

end StyleUsage.Session
