import StyleUsage.Proofs.Session.Custody

/-!
# Every ticket is settled once

A ticket lies with one holder until it has its outcome, and whoever holds it finds it in the state
in which it was left. So it is analysed or rejected once unless it is cancelled, and when the
worker has ended and no client has a stylesheet in hand, no ticket is left without an outcome.
-/

namespace StyleUsage.Session

section
variable {setup : Setup} {s t : State} {m : Move} {history : List (Nat × Mark)}

/-! ## One holder a ticket -/

/-- A ticket lies with one holder at most, once. -/
structure Custody (s : State) : Prop where
  nodup : ∀ holder, (s.held holder).Nodup
  unique : ∀ {g h id}, id ∈ s.held g → id ∈ s.held h → g = h
  written : ∀ {holder id}, id ∈ s.held holder → id < s.tickets.length

theorem custody_initial (setup : Setup) : Custody (.initial setup) := by
  have hnone (holder : Holder) : (State.initial setup).held holder = [] := by
    cases holder <;> rfl
  refine ⟨fun holder => ?_, fun hg => ?_, fun hheld => ?_⟩
  · simp [hnone]
  · simp [hnone] at hg
  · simp [hnone] at hheld

theorem Effect.length_le (h : Effect setup s m t) : s.tickets.length ≤ t.tickets.length := by
  apply Nat.le_of_not_lt
  intro hlt
  obtain ⟨ticket, hticket, -⟩ := h.text (List.getElem?_eq_getElem hlt)
  rw [List.getElem?_eq_none (Nat.le_refl _)] at hticket
  cases hticket

/-- Tickets may leave the hands of a holder. -/
theorem Custody.of_sublist {changed : Holder} (hs : Custody s) (hsame : SameExcept changed s t)
    (hsub : (t.held changed).Sublist (s.held changed))
    (hlen : s.tickets.length ≤ t.tickets.length) : Custody t := by
  have hall (holder : Holder) : (t.held holder).Sublist (s.held holder) := by
    by_cases hc : holder = changed
    · exact hc ▸ hsub
    · exact (hsame holder hc).1 ▸ List.Sublist.refl _
  refine ⟨fun holder => (hall holder).nodup (hs.nodup holder), fun hg hh => ?_, fun hheld => ?_⟩
  · exact hs.unique ((hall _).subset hg) ((hall _).subset hh)
  · exact Nat.lt_of_lt_of_le (hs.written ((hall _).subset hheld)) hlen

/-- Who held a ticket that comes into the hands of the worker, or stays with its holder. -/
def origin : Holder → Holder
  | .worker => .queue
  | holder => holder

theorem Custody.of_taken (hs : Custody s) {ids : List Nat}
    (hqueue : s.held .queue = ids ++ t.held .queue) (hheld : t.held .worker = ids)
    (hclients : ∀ c, t.held (.client c) = s.held (.client c))
    (hlen : s.tickets.length ≤ t.tickets.length) : Custody t := by
  have horigin {holder : Holder} {id : Nat} (hi : id ∈ t.held holder) :
      id ∈ s.held (origin holder) := by
    cases holder with
    | queue => exact hqueue ▸ List.mem_append_right ids hi
    | worker => exact hqueue ▸ List.mem_append_left _ (hheld ▸ hi)
    | client c => exact hclients c ▸ hi
  have hnodup := hs.nodup .queue
  rw [hqueue, List.nodup_append] at hnodup
  have hdisjoint {id : Nat} (hw : id ∈ t.held .worker) (hq : id ∈ t.held .queue) : False :=
    hnodup.2.2 id (hheld ▸ hw) id hq rfl
  refine ⟨fun holder => ?_, fun {g h id} hg hh => ?_, fun hi =>
    Nat.lt_of_lt_of_le (hs.written (horigin hi)) hlen⟩
  · cases holder with
    | queue => exact hnodup.2.1
    | worker => exact hheld ▸ hnodup.1
    | client c => exact hclients c ▸ hs.nodup (.client c)
  · have hsame := hs.unique (horigin hg) (horigin hh)
    cases g <;> cases h <;> simp only [origin, reduceCtorEq] at hsame ⊢
    case queue.worker => exact hdisjoint hh hg
    case worker.queue => exact hdisjoint hg hh
    case client.client c d => exact hsame

theorem Custody.of_entered (hs : Custody s) {changed : Holder} {ticket : Ticket}
    (htickets : t.tickets = s.tickets ++ [ticket])
    (hheld : t.held changed = s.held changed ++ [s.tickets.length])
    (hsame : SameExcept changed s t) : Custody t := by
  have horigin {holder : Holder} {id : Nat} (hi : id ∈ t.held holder) :
      id ∈ s.held holder ∨ holder = changed ∧ id = s.tickets.length := by
    by_cases hc : holder = changed
    · subst hc
      rw [hheld, List.mem_append, List.mem_singleton] at hi
      exact hi.imp_right fun h => ⟨rfl, h⟩
    · exact .inl ((hsame holder hc).1 ▸ hi)
  have hnew (holder : Holder) : s.tickets.length ∉ s.held holder := fun hi =>
    Nat.lt_irrefl _ (hs.written hi)
  refine ⟨fun holder => ?_, fun {g h id} hg hh => ?_, fun {holder id} hi => ?_⟩
  · by_cases hc : holder = changed
    · subst hc
      rw [hheld, List.nodup_append]
      refine ⟨hs.nodup holder, by simp, fun a ha b hb hab => ?_⟩
      rw [List.mem_singleton] at hb
      exact hnew holder (hb ▸ hab ▸ ha)
    · exact (hsame holder hc).1 ▸ hs.nodup holder
  · rcases horigin hg with hg | ⟨rfl, rfl⟩ <;> rcases horigin hh with hh | ⟨rfl, hid⟩
    · exact hs.unique hg hh
    · exact absurd (hid ▸ hg) (hnew g)
    · exact absurd hh (hnew h)
    · rfl
  · rw [htickets, List.length_append, List.length_singleton]
    rcases horigin hi with hi | ⟨-, rfl⟩
    · exact Nat.lt_succ_of_lt (hs.written hi)
    · exact Nat.lt_succ_self _

theorem Effect.custody (hs : Custody s) (h : Effect setup s m t) : Custody t := by
  have hlen := h.length_le
  cases h with
  | still hheld | cancelled hheld =>
      refine ⟨fun holder => hheld ▸ hs.nodup holder, fun hg hh => ?_, fun hi => ?_⟩
      · exact hs.unique (hheld ▸ hg) (hheld ▸ hh)
      · exact Nat.lt_of_lt_of_le (hs.written (hheld ▸ hi)) hlen
  | @analysed changed id used step next t' ha hm hstep ht htickets hlog hsame =>
      have hsub : (t.held changed).Sublist (s.held changed) :=
        ht.held.1.trans ha.held.1.symm ▸ List.Sublist.refl _
      exact hs.of_sublist hsame hsub hlen
  | finished ha hm hstep ht htickets hlog hsame =>
      exact hs.of_sublist hsame (ht ▸ List.nil_sublist _) hlen
  | broken hamiss ht htickets hsame =>
      exact hs.of_sublist hsame (ht ▸ List.nil_sublist _) hlen
  | rejected hp hheld hbegin hr ht hnext htickets hsame =>
      refine hs.of_sublist hsame ?_ hlen
      rw [hheld, ht]
      exact List.sublist_cons_self _ _
  | entered htickets hstate hheld hbegin hnext hsame =>
      exact hs.of_entered htickets hheld hsame
  | taken hqueue hfree hheld hnext hclients =>
      exact hs.of_taken hqueue hheld hclients hlen

theorem Reachable.custody (h : Reachable setup s) : Custody s :=
  h.invariant (custody_initial setup) fun hr hs hstep =>
    (hstep.effect hr.inStep hr.launch).custody hs

/-! ## What has happened to a ticket -/

/-- What a ticket is like that waits for the next step on it. -/
def Analysis.Awaits : Analysis → Ticket → Prop
  | .begin, ticket => ticket.state = .pending ∨ ticket.state = .cancelled
  | .announce, ticket | .judge, ticket => ticket.state = .running
  | .settle (.ok _), ticket =>
      ticket.state = .running ∧ Stylesheet.isTooDeep ticket.css = false
  | .settle (.error failure), ticket =>
      ticket.state = .running ∧ Stylesheet.isTooDeep ticket.css = true ∧ failure = .tooDeep

/-- What has happened to a ticket before the next step on it. -/
def Analysis.trail (ticket : Ticket) : Analysis → List Mark
  | .begin => []
  | .announce => [.begun]
  | .judge | .settle (.error _) => [.begun, .event (.documentAnalyzing ticket.path)]
  | .settle (.ok v) => [.begun, .event (.documentAnalyzing ticket.path), .event v.event]

/-- Nothing more happens to the ticket. It has been left out since it was cancelled, it has been
analysed once, with a verdict or without room for one, or it has been rejected once. -/
inductive Ticket.IsClosed (ticket : Ticket) (phase : Phase) (marks : List Mark) : Prop where
  | dropped (hs : ticket.state = .dropped) (hmarks : marks = [])
  | judged {v : Verdict} (hs : ticket.state = .finished (.ok v)) (hp : phase = .ready)
      (hroom : Stylesheet.isTooDeep ticket.css = false)
      (hmarks : marks =
        [.begun, .event (.documentAnalyzing ticket.path), .event v.event, .settled])
  | foundered (hs : ticket.state = .finished (.error .tooDeep)) (hp : phase = .ready)
      (hdeep : Stylesheet.isTooDeep ticket.css = true)
      (hmarks : marks = [.begun, .event (.documentAnalyzing ticket.path), .settled])
  | rejected {failure : Failure} (hs : ticket.state = .finished (.error failure))
      (hp : phase = .failed) (hmarks : marks = [.begun, .settled])

/-- What has happened to a ticket agrees with who holds it, and with its state. -/
structure Accounts (s : State) (history : List (Nat × Mark)) (id : Nat) : Prop where
  held : ∀ {holder ticket}, id ∈ s.held holder → s.tickets[id]? = some ticket →
    (s.next holder).Awaits ticket ∧ trail history id = (s.next holder).trail ticket
  closed : ∀ {ticket}, (∀ holder, id ∉ s.held holder) → s.tickets[id]? = some ticket →
    ticket.IsClosed s.phase (trail history id)

/-- Once its analysis has begun, a ticket is running until it has its outcome. -/
theorem Analysis.Awaits.isRunning {step : Analysis} {ticket : Ticket} (h : step.Awaits ticket)
    (hstep : step ≠ .begin) : ticket.state = .running := by
  cases step with
  | begin => exact absurd rfl hstep
  | announce | judge => exact h
  | settle outcome => cases outcome <;> exact h.1

theorem Analysis.Awaits.fits {step : Analysis} {ticket : Ticket} (h : step.Awaits ticket) :
    step.Fits ticket.state := by
  cases step with
  | begin => exact h
  | settle outcome => exact .inr (h.isRunning (by simp))
  | _ => trivial

/-- Listeners that raise something at the news of a source at most. -/
def Setup.IsCalm (setup : Setup) : Prop :=
  ∀ n e, e.kind ≠ .sourceParsed → setup.listener n e = none

theorem isCalm_of_quiet (hquiet : ∀ n e, setup.listener n e = none) : setup.IsCalm :=
  fun n e _ => hquiet n e

/-- With calm listeners, nothing is amiss while the accounts are in order. -/
theorem not_isAmiss (hcalm : setup.IsCalm) (hcustody : Custody s)
    (hs : ∀ id, Accounts s history id) : ¬ s.IsAmiss setup := by
  rintro (⟨n, e, failure, he, hl⟩ | ⟨holder, id, hi, hfits⟩)
  · rw [hcalm n e he] at hl
    cases hl
  · have hlt := hcustody.written hi
    have hticket := List.getElem?_eq_getElem hlt
    exact hfits _ hticket ((hs id).held hi hticket).1.fits

/-! ## One step -/

theorem trail_step (history : List (Nat × Mark)) (id : Nat) :
    trail (history ++ s.marks m t) id = trail history id ++ s.marksOn m t id := by
  rw [trail_append, trail_marks]

@[simp] theorem begins_self (state : TicketState) : state.begins state = false := by
  cases state <;> rfl

@[simp] theorem settles_self (state : TicketState) : state.settles state = false := by
  cases state <;> rfl

/-- Nothing happens to a ticket that keeps its state while no analysis of it is announced. -/
theorem marksOn_eq_nil {id : Nat} (hticket : t.tickets[id]? = s.tickets[id]?)
    (hnews : s.subject? m ≠ some id ∨ s.news t = []) : s.marksOn m t id = [] := by
  unfold State.marksOn
  rw [hticket]
  cases hs : s.tickets[id]? with
  | none => rfl
  | some ticket => rcases hnews with hm | hnone <;> simp_all

theorem marksOn_eq {id : Nat} {old new : Ticket} (hs : s.tickets[id]? = some old)
    (ht : t.tickets[id]? = some new) : s.marksOn m t id =
      (if old.state.begins new.state then [.begun] else []) ++
        (if s.subject? m = some id then (s.news t).map .event else []) ++
        (if old.state.settles new.state then [.settled] else []) := by
  simp only [State.marksOn, hs, ht]

theorem Ticket.IsClosed.mono {ticket : Ticket} {phase phase' : Phase} {marks : List Mark}
    (h : ticket.IsClosed phase marks) (hphase : phase ≠ .collecting → phase' = phase) :
    ticket.IsClosed phase' marks := by
  cases h with
  | dropped hs hmarks => exact .dropped hs hmarks
  | judged hs hp hroom hmarks => exact .judged hs ((hphase (by simp [hp])).trans hp) hroom hmarks
  | foundered hs hp hdeep hmarks =>
      exact .foundered hs ((hphase (by simp [hp])).trans hp) hdeep hmarks
  | rejected hs hp hmarks => exact .rejected hs ((hphase (by simp [hp])).trans hp) hmarks

/-- A ticket that a step does not touch. -/
theorem Accounts.frame {id : Nat} (h : Accounts s history id)
    (hphase : s.phase ≠ .collecting → t.phase = s.phase)
    (hticket : t.tickets[id]? = s.tickets[id]?)
    (hheld : ∀ holder, id ∈ t.held holder ↔ id ∈ s.held holder)
    (hnext : ∀ holder, id ∈ s.held holder → t.next holder = s.next holder)
    (hnews : s.subject? m ≠ some id ∨ s.news t = []) :
    Accounts t (history ++ s.marks m t) id := by
  have htrail : trail (history ++ s.marks m t) id = trail history id := by
    rw [trail_step, marksOn_eq_nil hticket hnews, List.append_nil]
  refine ⟨fun {holder ticket} hi ht => ?_, fun {ticket} hi ht => ?_⟩
  · have hi' := (hheld holder).1 hi
    rw [htrail, hnext holder hi']
    exact h.held hi' (hticket ▸ ht)
  · rw [htrail]
    exact (h.closed (fun holder hi' => hi holder ((hheld holder).2 hi')) (hticket ▸ ht)).mono hphase

theorem Accounts.of_sameExcept {changed : Holder} {id : Nat} (h : Accounts s history id)
    (hphase : s.phase ≠ .collecting → t.phase = s.phase)
    (hticket : t.tickets[id]? = s.tickets[id]?) (hsame : SameExcept changed s t)
    (hheld : id ∈ t.held changed ↔ id ∈ s.held changed)
    (hnext : id ∈ s.held changed → t.next changed = s.next changed)
    (hnews : s.subject? m ≠ some id ∨ s.news t = []) :
    Accounts t (history ++ s.marks m t) id := by
  refine h.frame hphase hticket (fun holder => ?_) (fun holder hi => ?_) hnews
  · by_cases hc : holder = changed
    · exact hc ▸ hheld
    · rw [(hsame holder hc).1]
  · by_cases hc : holder = changed
    · subst hc
      exact hnext hi
    · exact (hsame holder hc).2

theorem news_eq {events : List Event} (h : t.analysisEvents = s.analysisEvents ++ events) :
    s.news t = events := by
  simp [State.news, h]

theorem news_eq_nil (h : t.analysisEvents = s.analysisEvents) : s.news t = [] := by
  simp [State.news, h]

theorem news_eq_singleton {e : Event} (hlog : eventsOf t.log = eventsOf s.log ++ [e])
    (he : isOfAnalysis e = true) : s.news t = [e] := by
  apply news_eq
  simp [State.analysisEvents, hlog, he]

theorem getElem?_setTicket_self {id : Nat} {state : TicketState} {old : Ticket}
    (hold : s.tickets[id]? = some old) :
    (s.setTicket id state).tickets[id]? = some { old with state } := by
  rw [getElem?_setTicket, if_pos rfl, hold]
  rfl

section
variable {t' : State} {id : Nat} {used : List String} {step next : Analysis} {advance : Advance}

theorem AnalysisStep.other (ha : AnalysisStep setup s id used step t advance) {i : Nat}
    (hi : i ≠ id) : t.tickets[i]? = s.tickets[i]? := by
  cases ha with
  | begun | dropped | settled => rw [getElem?_setTicket, if_neg (Ne.symm hi)]
  | _ => rfl

/-- A step of an analysis that goes on leaves the ticket as the next step awaits it. -/
theorem AnalysisStep.goesOn (hcalm : setup.IsCalm) {old : Ticket}
    (ha : AnalysisStep setup s id used step t' (.next next)) (hm : s.subject? m = some id)
    (htickets : t.tickets = t'.tickets) (hlog : t.log = t'.log)
    (hold : s.tickets[id]? = some old) (hawaits : step.Awaits old) :
    ∃ new, t.tickets[id]? = some new ∧ next.Awaits new ∧
      step.trail old ++ s.marksOn m t id = next.trail new := by
  cases ha with
  | begun hticket hpending =>
      rw [hold, Option.some.injEq] at hticket
      subst hticket
      have hnew := (congrArg (·[id]?) htickets).trans (getElem?_setTicket_self hold)
      have hnews : s.news t = [] := news_eq_nil (analysisEvents_of_log (congrArg eventsOf hlog))
      refine ⟨_, hnew, rfl, ?_⟩
      rw [marksOn_eq hold hnew, hnews]
      simp [hpending, TicketState.begins, TicketState.settles, Analysis.trail]
  | announced hticket =>
      rw [hold, Option.some.injEq] at hticket
      subst hticket
      have hnew := (congrArg (·[id]?) htickets).trans hold
      have hevents : eventsOf t.log = eventsOf s.log ++ [.documentAnalyzing old.path] := by
        rw [hlog]
        simp [State.record]
      refine ⟨old, hnew, hawaits, ?_⟩
      rw [marksOn_eq hold hnew, news_eq_singleton hevents rfl]
      simp [hm, Analysis.trail]
  | judged hticket hlog' hwarnings hroom =>
      rw [hold, Option.some.injEq] at hticket
      subst hticket
      have hnew := (congrArg (·[id]?) htickets).trans hold
      have hevents := (congrArg eventsOf hlog).trans hlog'
      refine ⟨old, hnew, ⟨hawaits, hroom⟩, ?_⟩
      rw [marksOn_eq hold hnew, news_eq_singleton hevents (isOfAnalysis_event _)]
      simp [hm, Analysis.trail]
  | foundered hticket hdeep =>
      rw [hold, Option.some.injEq] at hticket
      subst hticket
      have hnew := (congrArg (·[id]?) htickets).trans hold
      have hnews : s.news t = [] := news_eq_nil (analysisEvents_of_log (congrArg eventsOf hlog))
      refine ⟨old, hnew, ⟨hawaits, hdeep, rfl⟩, ?_⟩
      rw [marksOn_eq hold hnew, hnews]
      simp [Analysis.trail]
  | overruled hticket hlog' hl hwarnings he =>
      rw [hcalm _ _ he] at hl
      cases hl

/-- The last step of an analysis closes the ticket. -/
theorem AnalysisStep.closed {old : Ticket} (ha : AnalysisStep setup s id used step t' .done)
    (htickets : t.tickets = t'.tickets) (hlog : t.log = t'.log)
    (hold : s.tickets[id]? = some old) (hawaits : step.Awaits old) :
    ∃ new, t.tickets[id]? = some new ∧
      new.IsClosed .ready (step.trail old ++ s.marksOn m t id) := by
  cases ha with
  | dropped hticket hcancelled =>
      rw [hold, Option.some.injEq] at hticket
      subst hticket
      have hnew := (congrArg (·[id]?) htickets).trans (getElem?_setTicket_self hold)
      have hnews : s.news t = [] := news_eq_nil (analysisEvents_of_log (congrArg eventsOf hlog))
      refine ⟨_, hnew, .dropped rfl ?_⟩
      rw [marksOn_eq hold hnew, hnews]
      simp [hcancelled, TicketState.begins, TicketState.settles, Analysis.trail]
  | @settled ticket outcome hticket =>
      have hnew := (congrArg (·[id]?) htickets).trans (getElem?_setTicket_self hold)
      have hnews : s.news t = [] := news_eq_nil (analysisEvents_of_log (congrArg eventsOf hlog))
      have hrunning : old.state = .running := hawaits.isRunning (by simp)
      cases outcome with
      | error failure =>
          obtain ⟨-, hdeep, rfl⟩ := hawaits
          refine ⟨_, hnew, .foundered rfl rfl hdeep ?_⟩
          rw [marksOn_eq hold hnew, hnews]
          simp [hrunning, TicketState.begins, TicketState.settles, Analysis.trail]
      | ok v =>
          refine ⟨_, hnew, .judged rfl rfl hawaits.2 ?_⟩
          rw [marksOn_eq hold hnew, hnews]
          simp [hrunning, TicketState.begins, TicketState.settles, Analysis.trail]

end

/-- What the history of a run says of its tickets and of the record. -/
structure Recorded (s : State) (history : List (Nat × Mark)) : Prop where
  accounts : ∀ id, Accounts s history id
  beyond : ∀ {id}, s.tickets.length ≤ id → trail history id = []
  events : announced history = s.analysisEvents

theorem accounts_of_analysed {changed : Holder} {id i : Nat} {used : List String}
    {step next : Analysis} {t' : State} (hcalm : setup.IsCalm)
    (hcustody : Custody s) (hs : ∀ i, Accounts s history i)
    (hphase : s.phase ≠ .collecting → t.phase = s.phase)
    (ha : s.Analyses changed id used step) (hm : s.subject? m = some id)
    (hstep : AnalysisStep setup s id used step t' (.next next))
    (ht : t.Analyses changed id used next) (htickets : t.tickets = t'.tickets)
    (hlog : t.log = t'.log) (hsame : SameExcept changed s t) :
    Accounts t (history ++ s.marks m t) i := by
  obtain ⟨hheld, hnext⟩ := ha.held
  obtain ⟨hheld', hnext'⟩ := ht.held
  by_cases hi : i = id
  · subst hi
    have hmem := ha.mem
    have hold := List.getElem?_eq_getElem (hcustody.written hmem)
    obtain ⟨hawaits, htrail⟩ := (hs i).held hmem hold
    rw [hnext] at hawaits htrail
    obtain ⟨new, hnew, hawaits', htrail'⟩ :=
      hstep.goesOn hcalm hm htickets hlog hold hawaits
    refine ⟨fun {holder ticket} hmem' hticket => ?_, fun {ticket} hnone => ?_⟩
    · have hc : holder = changed := by
        apply Classical.byContradiction
        intro hc
        exact hc (hcustody.unique ((hsame holder hc).1 ▸ hmem') hmem)
      rw [hnew, Option.some.injEq] at hticket
      subst hticket hc
      rw [hnext', trail_step, htrail]
      exact ⟨hawaits', htrail'⟩
    · exact absurd ht.mem (hnone changed)
  · refine (hs i).of_sameExcept hphase (htickets ▸ hstep.other hi) hsame (by rw [hheld, hheld'])
      (fun hmem => absurd (List.mem_singleton.1 (hheld ▸ hmem)) hi) (.inl ?_)
    simpa [hm] using Ne.symm hi

/-- A ticket that leaves the hands of its holder is in nobody's hands. -/
theorem Custody.not_held {changed : Holder} {id : Nat} (hcustody : Custody s)
    (hsame : SameExcept changed s t) (hmem : id ∈ s.held changed) (hleft : id ∉ t.held changed)
    (holder : Holder) : id ∉ t.held holder := by
  intro hi
  by_cases hc : holder = changed
  · exact hleft (hc ▸ hi)
  · exact hc (hcustody.unique ((hsame holder hc).1 ▸ hi) hmem)

theorem Accounts.of_closed {id : Nat} {new : Ticket} {marks : List Mark}
    (hnew : t.tickets[id]? = some new) (hnone : ∀ holder, id ∉ t.held holder)
    (htrail : trail history id = marks) (hclosed : new.IsClosed t.phase marks) :
    Accounts t history id where
  held hi := absurd hi (hnone _)
  closed _ hticket := by
    rw [hnew, Option.some.injEq] at hticket
    subst hticket
    exact htrail ▸ hclosed

theorem accounts_of_finished {changed : Holder} {id i : Nat} {used : List String}
    {step : Analysis} {t' : State} (hcustody : Custody s) (hs : ∀ i, Accounts s history i)
    (hphase : s.phase ≠ .collecting → t.phase = s.phase) (hready : s.phase = .ready)
    (ha : s.Analyses changed id used step) (hm : s.subject? m = some id)
    (hstep : AnalysisStep setup s id used step t' .done) (ht : t.held changed = [])
    (htickets : t.tickets = t'.tickets) (hlog : t.log = t'.log) (hsame : SameExcept changed s t) :
    Accounts t (history ++ s.marks m t) i := by
  obtain ⟨hheld, hnext⟩ := ha.held
  by_cases hi : i = id
  · subst hi
    have hmem := ha.mem
    have hold := List.getElem?_eq_getElem (hcustody.written hmem)
    obtain ⟨hawaits, htrail⟩ := (hs i).held hmem hold
    rw [hnext] at hawaits htrail
    obtain ⟨new, hnew, hclosed⟩ := hstep.closed (m := m) htickets hlog hold hawaits
    have hphase' : t.phase = .ready := (hphase (by simp [hready])).trans hready
    have hnone := hcustody.not_held hsame hmem (by simp [ht])
    exact .of_closed hnew hnone (by rw [trail_step, htrail]) (hphase' ▸ hclosed)
  · refine (hs i).of_sameExcept hphase (htickets ▸ hstep.other hi) hsame ?_
      (fun hmem => absurd (List.mem_singleton.1 (hheld ▸ hmem)) hi) (.inl ?_)
    · simp [hheld, ht, hi]
    · simpa [hm] using Ne.symm hi

theorem accounts_of_rejected {changed : Holder} {id i : Nat} {rest : List Nat}
    {failure : Failure} {t' : State} (hcustody : Custody s) (hs : ∀ i, Accounts s history i)
    (hphase : s.phase ≠ .collecting → t.phase = s.phase) (hfailed : s.phase = .failed)
    (hheld : s.held changed = id :: rest) (hbegin : s.next changed = .begin)
    (hr : s.reject id failure = .ok t') (ht : t.held changed = rest)
    (hnext : t.next changed = .begin) (htickets : t.tickets = t'.tickets)
    (hsame : SameExcept changed s t) (hnews : s.news t = []) :
    Accounts t (history ++ s.marks m t) i := by
  obtain ⟨old, hold, hreject⟩ := reject_eq_ok hr
  have hmem : id ∈ s.held changed := hheld ▸ List.mem_cons_self
  have hnodup := hcustody.nodup changed
  rw [hheld, List.nodup_cons] at hnodup
  by_cases hi : i = id
  · subst hi
    obtain ⟨-, htrail⟩ := (hs i).held hmem hold
    rw [hbegin] at htrail
    have hphase' : t.phase = .failed := (hphase (by simp [hfailed])).trans hfailed
    have hnone := hcustody.not_held hsame hmem (ht ▸ hnodup.1)
    rcases hreject with ⟨hpending, rfl⟩ | ⟨hcancelled, rfl⟩
    · have hnew := (congrArg (·[i]?) htickets).trans (getElem?_setTicket_self hold)
      refine .of_closed hnew hnone (by rw [trail_step, htrail]) (.rejected rfl hphase' ?_)
      rw [marksOn_eq hold hnew, hnews]
      simp [hpending, TicketState.begins, TicketState.settles, Analysis.trail]
    · have hnew := (congrArg (·[i]?) htickets).trans (getElem?_setTicket_self hold)
      refine .of_closed hnew hnone (by rw [trail_step, htrail]) (.dropped rfl ?_)
      rw [marksOn_eq hold hnew, hnews]
      simp [hcancelled, TicketState.begins, TicketState.settles, Analysis.trail]
  · refine (hs i).of_sameExcept hphase ?_ hsame ?_ (fun _ => hnext.trans hbegin.symm) (.inr hnews)
    · rw [htickets]
      rcases hreject with ⟨-, rfl⟩ | ⟨-, rfl⟩ <;>
        rw [getElem?_setTicket, if_neg (Ne.symm hi)]
    · simp [hheld, ht, hi]

theorem accounts_of_entered {changed : Holder} {ticket : Ticket} {i : Nat}
    (hcustody : Custody s) (hs : Recorded s history)
    (hphase : s.phase ≠ .collecting → t.phase = s.phase)
    (htickets : t.tickets = s.tickets ++ [ticket]) (hstate : ticket.state = .pending)
    (hheld : t.held changed = s.held changed ++ [s.tickets.length])
    (hbegin : s.next changed = .begin) (hnext : t.next changed = .begin)
    (hsame : SameExcept changed s t) (hnews : s.news t = []) :
    Accounts t (history ++ s.marks m t) i := by
  have hlen : s.tickets.length ∈ t.held changed := by simp [hheld]
  by_cases hi : i = s.tickets.length
  · subst hi
    have htrail : trail (history ++ s.marks m t) s.tickets.length = [] := by
      rw [trail_step, hs.beyond (Nat.le_refl _), marksOn_eq_nil_of_le (Nat.le_refl _)]
      rfl
    refine ⟨fun {holder found} hmem hfound => ?_, fun hnone => absurd hlen (hnone changed)⟩
    have hc : holder = changed := by
      apply Classical.byContradiction
      intro hc
      exact Nat.lt_irrefl _ (hcustody.written ((hsame holder hc).1 ▸ hmem))
    rw [htickets, List.getElem?_concat_length, Option.some.injEq] at hfound
    subst hc hfound
    rw [hnext]
    exact ⟨.inl hstate, htrail⟩
  · refine (hs.accounts i).of_sameExcept hphase ?_ hsame ?_ (fun _ => hnext.trans hbegin.symm)
      (.inr hnews)
    · rw [htickets, List.getElem?_append]
      split
      · rfl
      · rw [List.getElem?_singleton, if_neg (by omega), List.getElem?_eq_none (by omega)]
    · simp [hheld, hi]

theorem accounts_of_taken {ids : List Nat} {i : Nat} (hs : ∀ i, Accounts s history i)
    (hphase : s.phase ≠ .collecting → t.phase = s.phase)
    (hqueue : s.held .queue = ids ++ t.held .queue) (hfree : s.held .worker = [])
    (hheld : t.held .worker = ids) (hnext : t.next = s.next)
    (hclients : ∀ c, t.held (.client c) = s.held (.client c)) (htickets : t.tickets = s.tickets)
    (hnews : s.news t = []) : Accounts t (history ++ s.marks m t) i := by
  have htrail : trail (history ++ s.marks m t) i = trail history i := by
    rw [trail_step, marksOn_eq_nil (by rw [htickets]) (.inr hnews), List.append_nil]
  have hbegin : s.next .worker = .begin := by
    apply Classical.byContradiction
    intro hpast
    obtain ⟨id, used, ha⟩ := analyses_of_next_ne hpast
    rw [ha.held.1] at hfree
    cases hfree
  refine ⟨fun {holder ticket} hi hticket => ?_, fun {ticket} hnone hticket => ?_⟩
  · rw [htrail, hnext]
    rw [htickets] at hticket
    cases holder with
    | queue =>
        have hmem : i ∈ s.held .queue := hqueue ▸ List.mem_append_right ids hi
        exact (hs i).held hmem hticket
    | worker =>
        have hmem : i ∈ s.held .queue := hqueue ▸ List.mem_append_left _ (hheld ▸ hi)
        rw [hbegin]
        exact (hs i).held hmem hticket
    | client c => exact (hs i).held (hclients c ▸ hi) hticket
  · rw [htrail]
    rw [htickets] at hticket
    refine ((hs i).closed (fun holder hi => ?_) hticket).mono hphase
    cases holder with
    | queue =>
        rcases List.mem_append.1 (hqueue ▸ hi) with hi | hi
        · exact hnone .worker (hheld ▸ hi)
        · exact hnone .queue hi
    | worker => simp [hfree] at hi
    | client c => exact hnone (.client c) (hclients c ▸ hi)

theorem accounts_of_cancelled {id i : Nat} {old : Ticket} (hs : ∀ i, Accounts s history i)
    (hphase : s.phase ≠ .collecting → t.phase = s.phase) (hheld : t.held = s.held)
    (hnext : t.next = s.next) (hold : s.tickets[id]? = some old) (hstate : old.state = .pending)
    (htickets : t.tickets = (s.setTicket id .cancelled).tickets) (hnews : s.news t = []) :
    Accounts t (history ++ s.marks m t) i := by
  by_cases hi : i = id
  · subst hi
    have hnew := (congrArg (·[i]?) htickets).trans (getElem?_setTicket_self hold)
    have htrail : trail (history ++ s.marks m t) i = trail history i := by
      rw [trail_step, marksOn_eq hold hnew, hnews]
      simp [hstate, TicketState.begins, TicketState.settles]
    refine ⟨fun {holder ticket} hmem hticket => ?_, fun {ticket} hnone _ => ?_⟩
    · rw [hnew, Option.some.injEq] at hticket
      subst hticket
      rw [htrail, hnext]
      obtain ⟨hawaits, hmarks⟩ := (hs i).held (hheld ▸ hmem) hold
      -- Only a ticket whose analysis has not begun is still pending.
      by_cases hbegin : s.next holder = .begin
      · exact ⟨hbegin ▸ .inr rfl, by simpa [hbegin, Analysis.trail] using hmarks⟩
      · have hrunning := hawaits.isRunning hbegin
        rw [hstate] at hrunning
        cases hrunning
    · have hclosed := (hs i).closed (fun holder hmem => hnone holder (hheld ▸ hmem)) hold
      cases hclosed with
      | dropped h | judged h | foundered h | rejected h =>
          rw [hstate] at h
          cases h
  · refine (hs i).frame hphase ?_ (fun _ => by rw [hheld]) (fun _ _ => by rw [hnext]) (.inr hnews)
    rw [htickets, getElem?_setTicket, if_neg (Ne.symm hi)]

theorem Effect.accounts {i : Nat} (hcalm : setup.IsCalm) (hcustody : Custody s)
    (hstep : s.InStep) (hs : Recorded s history)
    (hphase : s.phase ≠ .collecting → t.phase = s.phase) (h : Effect setup s m t) :
    Accounts t (history ++ s.marks m t) i := by
  cases h with
  | still hheld hnext htickets hevents =>
      exact (hs.accounts i).frame hphase (by rw [htickets]) (fun _ => by rw [hheld])
        (fun _ _ => by rw [hnext]) (.inr (news_eq_nil hevents))
  | entered htickets hstate hheld hbegin hnext hsame hevents =>
      exact accounts_of_entered hcustody hs hphase htickets hstate hheld hbegin hnext hsame
        (news_eq_nil hevents)
  | taken hqueue hfree hheld hnext hclients htickets hevents =>
      exact accounts_of_taken hs.accounts hphase hqueue hfree hheld hnext hclients htickets
        (news_eq_nil hevents)
  | analysed ha hm hnext ht htickets hlog hsame =>
      exact accounts_of_analysed hcalm hcustody hs.accounts hphase ha hm hnext ht htickets hlog
        hsame
  | finished ha hm hdone ht htickets hlog hsame =>
      exact accounts_of_finished hcustody hs.accounts hphase (ha.collected hstep).1 ha hm hdone ht
        htickets hlog hsame
  | rejected hp hheld hbegin hr ht hnext htickets hsame hevents =>
      exact accounts_of_rejected hcustody hs.accounts hphase hp hheld hbegin hr ht hnext htickets
        hsame (news_eq_nil hevents)
  | cancelled hheld hnext hold hstate htickets hevents =>
      exact accounts_of_cancelled hs.accounts hphase hheld hnext hold hstate htickets
        (news_eq_nil hevents)
  | broken hamiss => exact absurd hamiss (not_isAmiss hcalm hcustody hs.accounts)

theorem AnalysisStep.events {t' : State} {id : Nat} {used : List String} {step : Analysis}
    {advance : Advance} (ha : AnalysisStep setup s id used step t' advance)
    (hlog : t.log = t'.log) : ∃ events, t.analysisEvents = s.analysisEvents ++ events := by
  have hmore : ∃ events, eventsOf t'.log = eventsOf s.log ++ events := by
    cases ha with
    | announced | raised => exact ⟨_, eventsOf_append _ _⟩
    | judged _ hlog' | overruled _ hlog' => exact ⟨_, hlog'⟩
    | _ => exact ⟨[], (List.append_nil _).symm⟩
  obtain ⟨events, hevents⟩ := hmore
  exact ⟨events.filter isOfAnalysis, by simp [State.analysisEvents, hlog, hevents]⟩

/-- A step adds to the events on record, and only for a ticket whose analysis it carries on. -/
theorem Effect.events (hcustody : Custody s) (hamiss : ¬ s.IsAmiss setup)
    (h : Effect setup s m t) : t.analysisEvents = s.analysisEvents ++ s.news t ∧
      (s.news t = [] ∨ ∃ id, s.subject? m = some id ∧ id < s.tickets.length) := by
  have hall : (∃ events, t.analysisEvents = s.analysisEvents ++ events) →
      t.analysisEvents = s.analysisEvents ++ s.news t := by
    rintro ⟨events, hevents⟩
    rw [news_eq hevents, hevents]
  cases h with
  | still hheld hnext htickets hevents | entered htickets hstate hheld hbegin hnext hsame hevents
  | taken hqueue hfree hheld hnext hclients htickets hevents
  | rejected hp hheld hbegin hr ht hnext htickets hsame hevents
  | cancelled hheld hnext hold hstate htickets hevents =>
      have hnone := news_eq_nil hevents
      exact ⟨by rw [hnone, hevents, List.append_nil], .inl hnone⟩
  | analysed ha hm hstep ht htickets hlog | finished ha hm hstep ht htickets hlog =>
      exact ⟨hall (hstep.events hlog), .inr ⟨_, hm, hcustody.written ha.mem⟩⟩
  | broken h => exact absurd h hamiss

theorem recorded_initial (setup : Setup) : Recorded (.initial setup) [] where
  accounts id := by
    refine ⟨fun _ hticket => ?_, fun _ hticket => ?_⟩ <;> simp [State.initial] at hticket
  beyond _ := rfl
  events := rfl

theorem Setup.IsCalm.recorded (hcalm : setup.IsCalm) (h : Run setup history s) :
    Recorded s history := by
  induction h with
  | initial => exact recorded_initial setup
  | @step history s t m hrun hm ih =>
      have hr := hrun.reachable
      have hstep := step_of_step? hm
      have heffect := hstep.effect hr.inStep hr.launch
      obtain ⟨hevents, hnews⟩ :=
        heffect.events hr.custody (not_isAmiss hcalm hr.custody ih.accounts)
      refine ⟨fun id => heffect.accounts hcalm hr.custody hr.inStep ih ?_, fun hid => ?_, ?_⟩
      · exact hstep.phase_eq hr.inStep
      · have hid' := Nat.le_trans heffect.length_le hid
        rw [trail_step, ih.beyond hid', marksOn_eq_nil_of_le hid']
        rfl
      · rw [announced_append, ih.events, announced_marks heffect.length_le hnews, hevents]

theorem Run.recorded (hquiet : ∀ n e, setup.listener n e = none) (h : Run setup history s) :
    Recorded s history :=
  (isCalm_of_quiet hquiet).recorded h

end

end StyleUsage.Session
