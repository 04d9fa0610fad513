import StyleUsage.Proofs.Session.Foundering
import StyleUsage.Proofs.Session.Settlement
import StyleUsage.Proofs.Stylesheet.Depth

/-!
# The end of a session

With listeners that raise nothing, the worker ends without having broken off, no submission ends
in a failure, and what is left at the end is either a session in which every stylesheet has been
analysed once, or one in which every stylesheet has been rejected once. In both, cancelled
stylesheets are left out.
-/

namespace StyleUsage.Session

/-- A stylesheet is being submitted. -/
def Client.IsSubmitting : Client → Prop
  | .starting (.submit ..) | .launching (.submit ..) | .spawning (.submit ..) => True
  | .enqueueing .. | .queued _ | .refused _ | .admitted _ | .analysing .. => True
  | _ => False

namespace Mark

def isBegun : Mark → Bool
  | begun => true
  | _ => false

def isSettled : Mark → Bool
  | settled => true
  | _ => false

end Mark

section
variable {setup : Setup} {s t : State} {m : Move} {history : List (Nat × Mark)}

/-! ## Nobody breaks off -/

theorem WorkerStep.isAmiss_of_died {failure : Failure} (hs : s.AgreesWith s.worker)
    (h : WorkerStep setup s t) (hdied : t.worker = .died failure) : s.IsAmiss setup := by
  cases h with
  | @broke used id step t' e hw ha =>
      have hs : s.Analyses .worker id used step := hw
      exact hs.isAmiss ha
  | @sweptAmiss failure e id swept hw hr =>
      have hheld : s.held .worker = id :: swept := by simp [State.held, hw, Worker.held]
      exact isAmiss_of_reject hheld (by simp [State.next, hw, Worker.next]) hr
  | completedInVain hw hl he | reportedInVain hw hl he => exact .inl ⟨_, _, _, he, hl⟩
  | concludedTwice hw hc =>
      rcases hw with ⟨used, count, hw⟩ | ⟨e, swept, hw⟩ <;> simp [hw, State.AgreesWith, hc] at hs
  | _ => cases hdied

theorem ClientStep.isAmiss_of_failed {c : Nat} {failure : Failure} (hs : s.InStep)
    (h : ClientStep setup s c t) (hsubmitting : (s.clients c).IsSubmitting)
    (hfailed : t.clients c = .returned (.error failure)) : s.IsAmiss setup := by
  cases h with
  | toldInVain hc hl he | noticedInVain hc ht hl he => exact .inl ⟨_, _, _, he, hl⟩
  | @rejectedAmiss id failure e hc hf hr =>
      have hheld : s.held (.client c) = [id] := by simp [State.held, hc, Client.held]
      exact isAmiss_of_reject hheld (by simp [State.next, hc, Client.next]) hr
  | admittedInVain hc hf =>
      have hphase : s.phase = .ready := by
        have hsuits := hs.client c
        rwa [hc] at hsuits
      exact absurd hf (hs.collected_ne_error hphase _)
  | @broke id used step t' e hc ha =>
      have hs : s.Analyses (.client c) id used step := hc
      exact hs.isAmiss ha
  | waited hc => simp [hc, Client.IsSubmitting] at hsubmitting
  | @joined request hc | @spawned request hc =>
      cases request <;> simp [Request.onward, State.setClient] at hfailed
  | _ => simp [State.setClient, giveBack_eq] at hfailed

theorem Setup.IsCalm.not_isAmiss (hcalm : setup.IsCalm) (h : Reachable setup s) :
    ¬ s.IsAmiss setup := by
  obtain ⟨history, hrun⟩ := h.exists_run
  exact StyleUsage.Session.not_isAmiss hcalm h.custody (hcalm.recorded hrun).accounts

theorem Setup.IsCalm.worker_ne_died (hcalm : setup.IsCalm) (h : Reachable setup s)
    (failure : Failure) : s.worker ≠ .died failure := by
  refine h.invariant (P := fun s => s.worker ≠ .died failure) ?_ ?_
  · simp [State.initial]
  · intro s t m hr hs hstep hdied
    cases hstep with
    | worker h => exact hcalm.not_isAmiss hr (h.isAmiss_of_died hr.inStep.worker hdied)
    | client h =>
        rcases h.launches hr.launch with hsame | ⟨-, hopening⟩
        · exact hs (hsame ▸ hdied)
        · rw [hopening] at hdied
          cases hdied
    | called | cancelled | spared => exact hs hdied

theorem Reachable.not_isAmiss (hquiet : ∀ n e, setup.listener n e = none)
    (h : Reachable setup s) : ¬ s.IsAmiss setup :=
  (isCalm_of_quiet hquiet).not_isAmiss h

theorem Reachable.worker_ne_died (hquiet : ∀ n e, setup.listener n e = none)
    (h : Reachable setup s) (failure : Failure) : s.worker ≠ .died failure :=
  (isCalm_of_quiet hquiet).worker_ne_died h failure

/-! ## Nothing happens twice -/

theorem counts_trail {step : Analysis} (ticket : Ticket) :
    (step.trail ticket).countP Mark.isBegun ≤ 1 ∧
      (step.trail ticket).countP Mark.isSettled ≤ 1 := by
  cases step with
  | settle outcome =>
      cases outcome <;> simp [Analysis.trail, List.countP_cons, Mark.isBegun, Mark.isSettled]
  | _ => simp [Analysis.trail, List.countP_cons, Mark.isBegun, Mark.isSettled]

theorem Ticket.IsClosed.counts {ticket : Ticket} {phase : Phase} {marks : List Mark}
    (h : ticket.IsClosed phase marks) :
    marks.countP Mark.isBegun ≤ 1 ∧ marks.countP Mark.isSettled ≤ 1 := by
  cases h with
  | dropped hs hmarks | judged hs hp hroom hmarks | foundered hs hp hdeep hmarks
  | rejected hs hp hmarks => simp [hmarks, List.countP_cons, Mark.isBegun, Mark.isSettled]

theorem Recorded.counts (h : Recorded s history) (id : Nat) :
    (trail history id).countP Mark.isBegun ≤ 1 ∧ (trail history id).countP Mark.isSettled ≤ 1 := by
  cases hticket : s.tickets[id]? with
  | none =>
      rw [h.beyond (List.getElem?_eq_none_iff.1 hticket)]
      simp
  | some ticket =>
      by_cases hheld : ∃ holder, id ∈ s.held holder
      · obtain ⟨holder, hi⟩ := hheld
        rw [((h.accounts id).held hi hticket).2]
        exact counts_trail ticket
      · exact ((h.accounts id).closed (fun holder hi => hheld ⟨holder, hi⟩) hticket).counts

/-- A ticket with an outcome is in nobody's hands. -/
theorem Recorded.not_held_of_finished {id : Nat} {ticket : Ticket}
    {outcome : Except Failure Verdict} (hs : Recorded s history)
    (hticket : s.tickets[id]? = some ticket) (hfinished : ticket.state = .finished outcome)
    (holder : Holder) : id ∉ s.held holder := by
  intro hi
  have hawaits := ((hs.accounts id).held hi hticket).1
  by_cases hbegin : s.next holder = .begin
  · rw [hbegin, Analysis.Awaits, hfinished] at hawaits
    rcases hawaits with h | h <;> cases h
  · have hrunning := hawaits.isRunning hbegin
    rw [hfinished] at hrunning
    cases hrunning

/-- An outcome stands. -/
theorem Effect.finished_kept {id : Nat} {ticket : Ticket} {outcome : Except Failure Verdict}
    (hs : Recorded s history) (h : Effect setup s m t) (hticket : s.tickets[id]? = some ticket)
    (hfinished : ticket.state = .finished outcome) : t.tickets[id]? = some ticket := by
  have hnone := hs.not_held_of_finished hticket hfinished
  cases h with
  | still hheld hnext htickets | taken hqueue hfree hheld hnext hclients htickets
  | broken hamiss ht htickets => exact htickets ▸ hticket
  | entered htickets =>
      rw [htickets, List.getElem?_append_left (List.getElem?_eq_some_iff.1 hticket).1, hticket]
  | @analysed holder i used step next t' ha hm hstep ht htickets
  | @finished holder i used step t' ha hm hstep ht htickets =>
      have hi : id ≠ i := fun hi => hnone holder (hi ▸ ha.mem)
      rw [htickets, hstep.other hi, hticket]
  | @rejected holder i rest failure t' hp hheld hbegin hr ht hnext htickets =>
      have hi : i ≠ id := fun hi => hnone holder (hheld ▸ hi ▸ List.mem_cons_self)
      rw [htickets]
      obtain ⟨old, -, ⟨-, rfl⟩ | ⟨-, rfl⟩⟩ := reject_eq_ok hr <;>
        rw [getElem?_setTicket, if_neg hi, hticket]
  | @cancelled i old hheld hnext hold hpending htickets =>
      have hi : i ≠ id := by
        rintro rfl
        rw [hticket, Option.some.injEq] at hold
        subst hold
        rw [hfinished] at hpending
        cases hpending
      rw [htickets, getElem?_setTicket, if_neg hi, hticket]

/-! ## The end -/

/-- Nobody has a ticket in hand when the worker has ended and nobody submits a stylesheet. -/
theorem held_eq_nil_of_ended (hs : s.InStep) (hw : s.worker = .ended)
    (hclients : ∀ c, ¬ (s.clients c).IsSubmitting) (holder : Holder) : s.held holder = [] := by
  cases holder with
  | queue =>
      have hworker := hs.worker
      rw [hw] at hworker
      exact hworker.2.2
  | worker => simp [State.held, hw, Worker.held]
  | client c =>
      have hc := hclients c
      cases hstage : s.clients c <;>
        simp [State.held, hstage, Client.held, Client.IsSubmitting] at hc ⊢

theorem Ticket.IsClosed.isDone {ticket : Ticket} {phase : Phase} {marks : List Mark}
    (h : ticket.IsClosed phase marks) : ticket.state.isDone = true := by
  cases h with
  | dropped hs | judged hs | foundered hs | rejected hs => simp [hs, TicketState.isDone]

/-- A ticket has been analysed once: its analysis and then its verdict were announced, or there was
no room for reading its stylesheet, and nothing was announced after the analysis. -/
def Ticket.IsAnalysed (ticket : Ticket) (marks : List Mark) : Prop :=
  if Stylesheet.isTooDeep ticket.css then
    ticket.state = .finished (.error .tooDeep) ∧
      marks = [.begun, .event (.documentAnalyzing ticket.path), .settled]
  else
    ∃ v, ticket.state = .finished (.ok v) ∧
      marks = [.begun, .event (.documentAnalyzing ticket.path), .event v.event, .settled]

/-- In a ready session a closed ticket has been analysed, unless it was cancelled. -/
theorem Ticket.IsClosed.of_ready {ticket : Ticket} {marks : List Mark}
    (h : ticket.IsClosed .ready marks) :
    (ticket.state = .dropped ∧ marks = []) ∨ ticket.IsAnalysed marks := by
  cases h with
  | dropped hs hmarks => exact .inl ⟨hs, hmarks⟩
  | judged hs _ hroom hmarks =>
      rw [Ticket.IsAnalysed, hroom]
      exact .inr ⟨_, hs, hmarks⟩
  | foundered hs _ hdeep hmarks =>
      rw [Ticket.IsAnalysed, hdeep]
      exact .inr ⟨hs, hmarks⟩
  | rejected _ hfailed => cases hfailed

/-- In a failed session a closed ticket has been rejected, unless it was cancelled. -/
theorem Ticket.IsClosed.of_failed {ticket : Ticket} {marks : List Mark}
    (h : ticket.IsClosed .failed marks) : (ticket.state = .dropped ∧ marks = []) ∨
      ∃ failure, ticket.state = .finished (.error failure) ∧ marks = [.begun, .settled] := by
  cases h with
  | dropped hs hmarks => exact .inl ⟨hs, hmarks⟩
  | judged _ hready | foundered _ hready => cases hready
  | rejected hs _ hmarks => exact .inr ⟨_, hs, hmarks⟩

theorem mem_trail {id : Nat} {mark : Mark} (h : (id, mark) ∈ history) :
    mark ∈ trail history id :=
  List.mem_filterMap.2 ⟨(id, mark), h, by simp⟩

/-- If all tickets of a failed session are closed, no analysis has announced anything. -/
theorem Recorded.analysisEvents_eq_nil (h : Recorded s history) (hp : s.phase = .failed)
    (hclosed : ∀ {id : Nat} {ticket : Ticket}, s.tickets[id]? = some ticket →
      ticket.IsClosed s.phase (trail history id)) : s.analysisEvents = [] := by
  rw [← h.events, announced, List.filterMap_eq_nil_iff]
  rintro ⟨id, mark⟩ hmem
  have hmark := mem_trail hmem
  cases mark with
  | begun | settled => rfl
  | event e =>
      cases hticket : s.tickets[id]? with
      | none =>
          rw [h.beyond (List.getElem?_eq_none_iff.1 hticket)] at hmark
          cases hmark
      | some ticket =>
          cases hclosed hticket with
          | dropped _ hmarks | rejected _ _ hmarks => simp [hmarks] at hmark
          | judged _ hready | foundered _ hready => simp [hp] at hready

/-- With listeners that raise nothing, the worker never breaks off and no submission fails; no
ticket is set running twice or gets a second outcome; and when the worker has ended and nobody
submits a stylesheet, nothing is left in the queue and every ticket is done: cancelled and left
out, or else analysed exactly once if the session is ready, and rejected if it has failed. The
analysis comes to a verdict, and an event tells of it, exactly if there is room for reading the
stylesheet. -/
theorem every_ticket_settled_once (hquiet : ∀ n e, setup.listener n e = none)
    (h : Run setup history s) :
    (∀ failure, s.worker ≠ .died failure) ∧
    (∀ c t failure, (s.clients c).IsSubmitting → s.step? setup (.client c) = some t →
      t.clients c ≠ .returned (.error failure)) ∧
    (∀ id, (trail history id).countP Mark.isBegun ≤ 1 ∧
      (trail history id).countP Mark.isSettled ≤ 1) ∧
    (∀ m t (id : Nat) (ticket : Ticket) outcome, s.step? setup m = some t →
      s.tickets[id]? = some ticket →
      ticket.state = .finished outcome → t.tickets[id]? = some ticket) ∧
    announced history = s.analysisEvents ∧
    (s.worker = .ended → (∀ c, ¬ (s.clients c).IsSubmitting) →
      s.queue = [] ∧ (∀ ticket ∈ s.tickets, ticket.state.isDone = true) ∧
      ((s.phase = .ready ∧ ∀ (id : Nat) (ticket : Ticket), s.tickets[id]? = some ticket →
          (ticket.state = .dropped ∧ trail history id = []) ∨
            ticket.IsAnalysed (trail history id)) ∨
        (s.phase = .failed ∧ s.analysisEvents = [] ∧
          ∀ (id : Nat) (ticket : Ticket), s.tickets[id]? = some ticket →
            (ticket.state = .dropped ∧ trail history id = []) ∨
            ∃ failure, ticket.state = .finished (.error failure) ∧
              trail history id = [.begun, .settled]))) := by
  have hr := h.reachable
  have hrecorded := h.recorded hquiet
  refine ⟨hr.worker_ne_died hquiet, ?_, hrecorded.counts, ?_, hrecorded.events, ?_⟩
  · intro c t failure hsubmitting hm hfailed
    cases step_of_step? hm with
    | client hstep =>
        exact hr.not_isAmiss hquiet (hstep.isAmiss_of_failed hr.inStep hsubmitting hfailed)
  · intro m t id ticket outcome hm hticket hfinished
    exact ((step_of_step? hm).effect hr.inStep hr.launch).finished_kept hrecorded hticket hfinished
  · intro hw hclients
    have hnone := held_eq_nil_of_ended hr.inStep hw hclients
    have hclosed {id : Nat} {ticket : Ticket} (hticket : s.tickets[id]? = some ticket) :
        ticket.IsClosed s.phase (trail history id) :=
      (hrecorded.accounts id).closed (fun holder => by simp [hnone holder]) hticket
    have hworker := hr.inStep.worker
    rw [hw] at hworker
    refine ⟨hnone .queue, fun ticket hmem => ?_, ?_⟩
    · obtain ⟨id, hticket⟩ := List.mem_iff_getElem?.1 hmem
      exact (hclosed hticket).isDone
    · rcases hworker.1 with ⟨hp, -⟩ | ⟨hp, -⟩
      · exact .inl ⟨hp, fun id ticket hticket => (hp ▸ hclosed hticket).of_ready⟩
      · exact .inr ⟨hp, hrecorded.analysisEvents_eq_nil hp hclosed,
          fun id ticket hticket => (hp ▸ hclosed hticket).of_failed⟩

/-- The record of a session that analyses a stylesheet of a thousand blocks within each other tells
of the analysis, but of no verdict. -/
theorem analysis_without_verdict : ∃ history s ticket, Run emptySetup history s ∧
    s.worker = .ended ∧ (∀ c, ¬ (s.clients c).IsSubmitting) ∧ s.phase = .ready ∧
    s.tickets = [ticket] ∧ ticket.css = Stylesheet.nestedText 1000 ∧
    ticket.state = .finished (.error .tooDeep) ∧
    announced history = [.documentAnalyzing "a.css"] := by
  have hquiet : ∀ n e, emptySetup.listener n e = none := fun _ _ => rfl
  obtain ⟨s, hs, hopen, hworker, htickets, hlog, hidle⟩ := exists_opened
  have hdone := after?_submission hquiet hopen "a.css" Stylesheet.isTooDeep_thousand
  obtain ⟨history, hrun⟩ := ((Reachable.initial.after hs).after hdone).exists_run
  refine ⟨history, _, ⟨"a.css", Stylesheet.nestedText 1000, .finished (.error .tooDeep)⟩, hrun,
    hworker, fun c => ?_, hopen.phase, ?_, rfl, rfl, ?_⟩
  · by_cases hc : c = 0
    · simp [State.founder, hc, Client.IsSubmitting]
    · simp [State.founder, hc, hidle c hc, Client.IsSubmitting]
  · simp [State.founder, htickets]
  · rw [(hrun.recorded hquiet).events]
    simp [State.analysisEvents, State.founder, hlog, isOfAnalysis]

/-! ## A session that fails -/

/-- The client that a move is one of. -/
def Move.client? : Move → Option Nat
  | .client c | .call c _ => some c
  | _ => none

theorem Step.clients_of_ne {c : Nat} (h : Step setup s m t) (hc : m.client? ≠ some c) :
    t.clients c = s.clients c := by
  cases h with
  | worker h => rw [h.frame.2.1]
  | @client d t h => exact h.clients_of_ne fun hd => hc (hd ▸ rfl)
  | @called d request =>
      have hd : c ≠ d := fun hd => hc (hd ▸ rfl)
      simp [State.setClient, hd]
  | cancelled | spared => rfl

/-- A client stays at the stage that it is at while only others move. -/
theorem clients_of_after {c : Nat} {moves : List Move} (hc : ∀ m ∈ moves, m.client? ≠ some c)
    (h : s.after? setup moves = some t) : t.clients c = s.clients c := by
  induction moves generalizing s with
  | nil =>
      cases h
      rfl
  | cons m rest ih =>
      obtain ⟨s', hm, h⟩ := State.exists_step_of_after h
      rw [ih (fun m' hm' => hc m' (List.mem_cons_of_mem _ hm')) h]
      exact (step_of_step? hm).clients_of_ne (hc m List.mem_cons_self)

end

/-- A session whose sources cannot be read. -/
def failingSetup : Setup where
  patterns := []
  directives := true
  exemptions := []
  load := ⟨[], [], some (.raised "OSError" "no such directory")⟩
  listener := quiet

/-- Two stylesheets wait for the collection, and the second one is cancelled; a third one is
submitted when the collection has failed. -/
def failingMoves : List Move :=
  List.flatten [
    [.call 0 (.submit "a.css" "")], List.replicate 5 (.client 0),
    [.call 1 (.submit "b.css" "")], List.replicate 3 (.client 1), [.cancel 1],
    List.replicate 8 .worker,
    [.call 2 (.submit "c.css" "")], List.replicate 3 (.client 2)]

theorem every_ticket_settled_once_failing :
    ∃ history s, Run failingSetup history s ∧ s.worker = .ended ∧
      (∀ c, ¬ (s.clients c).IsSubmitting) ∧ s.tickets.length = 3 ∧ s.queue = [] ∧
      ∀ ticket ∈ s.tickets, ticket.state.isDone = true := by
  have hrun : ((State.initial failingSetup).after? failingSetup failingMoves).map
      (fun s => (s.worker matches .ended, s.clients 0 matches .returned _,
        s.clients 1 matches .returned _, s.clients 2 matches .returned _, s.tickets.length)) =
      some (true, true, true, true, 3) := by
    decide +kernel
  obtain ⟨s, hs, hseen⟩ := Option.map_eq_some_iff.1 hrun
  simp only [Prod.mk.injEq] at hseen
  obtain ⟨hworker, h0, h1, h2, hlength⟩ := hseen
  have hended : s.worker = .ended := by
    cases hw : s.worker <;> simp [hw] at hworker
    rfl
  have hclients (c : Nat) : ¬ (s.clients c).IsSubmitting := by
    match c with
    | 0 => cases hc : s.clients 0 <;> simp [hc, Client.IsSubmitting] at h0 ⊢
    | 1 => cases hc : s.clients 1 <;> simp [hc, Client.IsSubmitting] at h1 ⊢
    | 2 => cases hc : s.clients 2 <;> simp [hc, Client.IsSubmitting] at h2 ⊢
    | n + 3 =>
        have hidle : s.clients (n + 3) = .idle :=
          clients_of_after (by simp [failingMoves, Move.client?]) hs
        simp [hidle, Client.IsSubmitting]
  obtain ⟨history, hhistory⟩ := (Reachable.initial.after hs).exists_run
  obtain ⟨-, -, -, -, -, hend⟩ := every_ticket_settled_once (fun _ _ => rfl) hhistory
  obtain ⟨hqueue, hdone, -⟩ := hend hended hclients
  exact ⟨history, s, hhistory, hended, hclients, hlength, hqueue, hdone⟩

end StyleUsage.Session
