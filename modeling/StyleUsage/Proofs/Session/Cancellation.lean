import StyleUsage.Proofs.Session.Failing
import StyleUsage.Proofs.Session.Omission
import StyleUsage.Proofs.Session.Order
import StyleUsage.Proofs.Session.Withdrawal

/-!
# Cancelled stylesheets

A ticket can be cancelled once it has been handed out, and only a ticket that waits in the line can
still be cancelled then. From there on nothing happens to it any more, and the session goes the same
way as if the stylesheet had never been submitted: what is left of the submission is the news that
the stylesheet was queued.
-/

namespace StyleUsage.Session

/-- How the state of a ticket changes by a step. -/
inductive TicketState.Becomes : TicketState → TicketState → Prop where
  | same (state : TicketState) : Becomes state state
  | begun : Becomes pending running
  | settled {state : TicketState} (hs : state = pending ∨ state = running)
      (outcome : Except Failure Verdict) : Becomes state (finished outcome)
  | cancelled : Becomes pending cancelled
  | dropped : Becomes cancelled dropped

/-- A ticket has been cancelled. -/
def State.IsCancelled (s : State) (id : Nat) : Prop :=
  ∃ ticket, s.tickets[id]? = some ticket ∧ ticket.state.isKept = false

/-- The moves of a session, and those that are left when a client does not submit the stylesheet
that gets a certain ticket. If the session was started before the client called, its moves up to the
ticket are left out. Otherwise it may be this client that starts the session, as every request does
first, and then it calls for that and for nothing else. From the ticket on, the moves that concern
it are left out. -/
inductive Setup.Forgoes (setup : Setup) (k c : Nat) (path : String) :
    List Move → List Move → Prop where
  | started {css : String} {before start rest : List Move} {r s t : State}
      (hasks : setup.Asks c path css before start s) (hc : s.clients c = .enqueueing path css)
      (hk : s.tickets.length = k) (ht : s.step? setup (.client c) = some t)
      (hr : (State.initial setup).after? setup before = some r) (hstarted : r.started = true) :
      setup.Forgoes k c path (before ++ .call c (.submit path css) :: start ++ .client c :: rest)
        (before ++ start.filter (·.client? ≠ some c) ++ t.movesWithout setup k rest)
  | starting {css : String} {before start rest : List Move} {r s t : State}
      (hasks : setup.Asks c path css before start s) (hc : s.clients c = .enqueueing path css)
      (hk : s.tickets.length = k) (ht : s.step? setup (.client c) = some t)
      (hr : (State.initial setup).after? setup before = some r) (hstarted : r.started = false) :
      setup.Forgoes k c path (before ++ .call c (.submit path css) :: start ++ .client c :: rest)
        (before ++ .call c .start :: start ++ t.movesWithout setup k rest)

section
variable {setup : Setup} {s t u : State} {m : Move} {k c : Nat} {history : List (Nat × Mark)}
  {moves : List Move}

/-! ## What becomes of a ticket -/

theorem becomes_of_setTicket {id i : Nat} {state : TicketState} {ticket old : Ticket}
    (hid : s.tickets[id]? = some ticket) (hold : s.tickets[i]? = some old)
    (hstate : ticket.state.Becomes state) :
    ∃ new, (s.setTicket id state).tickets[i]? = some new ∧ old.state.Becomes new.state := by
  by_cases hi : id = i
  · subst hi
    rw [hid, Option.some.injEq] at hold
    subst hold
    exact ⟨_, getElem?_setTicket_self hid, hstate⟩
  · refine ⟨old, ?_, .same _⟩
    rw [getElem?_setTicket, if_neg hi, hold]

theorem AnalysisStep.becomes {id i : Nat} {used : List String} {step : Analysis}
    {advance : Advance} {old : Ticket} (h : AnalysisStep setup s id used step t advance)
    (hold : s.tickets[i]? = some old) :
    ∃ new, t.tickets[i]? = some new ∧ old.state.Becomes new.state := by
  cases h with
  | begun ht hs => exact becomes_of_setTicket ht hold (hs ▸ .begun)
  | dropped ht hs => exact becomes_of_setTicket ht hold (hs ▸ .dropped)
  | settled ht hs => exact becomes_of_setTicket ht hold (.settled hs _)
  | _ => exact ⟨old, hold, .same _⟩

theorem Effect.becomes {i : Nat} {old : Ticket} (h : Effect setup s m t)
    (hold : s.tickets[i]? = some old) :
    ∃ new, t.tickets[i]? = some new ∧ old.state.Becomes new.state := by
  cases h with
  | still hheld hnext htickets | taken hqueue hfree hheld hnext hclients htickets
  | broken hamiss hleft htickets => exact ⟨old, htickets ▸ hold, .same _⟩
  | entered htickets =>
      refine ⟨old, ?_, .same _⟩
      rw [htickets, List.getElem?_append_left (List.getElem?_eq_some_iff.1 hold).1, hold]
  | analysed ha hm hstep hleft htickets | finished ha hm hstep hleft htickets =>
      rw [htickets]
      exact hstep.becomes hold
  | rejected hp hheld hbegin hr hleft hnext htickets =>
      rw [htickets]
      obtain ⟨ticket, hticket, ⟨hs, rfl⟩ | ⟨hs, rfl⟩⟩ := reject_eq_ok hr
      · exact becomes_of_setTicket hticket hold (.settled (.inl hs) _)
      · exact becomes_of_setTicket hticket hold (hs ▸ .dropped)
  | cancelled hheld hnext hticket hs htickets =>
      rw [htickets]
      exact becomes_of_setTicket hticket hold (hs ▸ .cancelled)

theorem TicketState.Becomes.isKept_eq_false {state state' : TicketState} (h : state.Becomes state')
    (hstate : state.isKept = false) : state'.isKept = false := by
  cases h with
  | same => exact hstate
  | dropped => rfl
  | begun | cancelled => cases hstate
  | settled hs => rcases hs with rfl | rfl <;> cases hstate

theorem TicketState.Becomes.isUntouched_of {state state' : TicketState}
    (h : state.Becomes state') (hstate : state'.isUntouched = true) : state.isUntouched = true := by
  cases h with
  | same => exact hstate
  | begun | settled => cases hstate
  | cancelled | dropped => rfl

/-- A cancelled ticket stays cancelled. -/
theorem Effect.isCancelled (h : Effect setup s m t) (hs : s.IsCancelled k) : t.IsCancelled k := by
  obtain ⟨old, hold, hcancelled⟩ := hs
  obtain ⟨new, hnew, hbecomes⟩ := h.becomes hold
  exact ⟨new, hnew, hbecomes.isKept_eq_false hcancelled⟩

/-- A ticket that nobody has begun with has been so since it was written. -/
theorem Effect.isUntouched_of (h : Effect setup s m t) (hk : k < s.tickets.length)
    (ht : t.IsUntouched k) : s.IsUntouched k := by
  obtain ⟨new, hnew, huntouched⟩ := ht
  have hold := List.getElem?_eq_getElem hk
  obtain ⟨new', hnew', hbecomes⟩ := h.becomes hold
  rw [hnew, Option.some.injEq] at hnew'
  subst hnew'
  exact ⟨_, hold, hbecomes.isUntouched_of huntouched⟩

theorem State.IsCancelled.isUntouched (h : s.IsCancelled k) : s.IsUntouched k := by
  obtain ⟨ticket, hticket, hstate⟩ := h
  refine ⟨ticket, hticket, ?_⟩
  cases hs : ticket.state <;> simp_all [TicketState.isKept, TicketState.isUntouched]

theorem isCancelled_of_after (hr : Reachable setup s) (h : s.after? setup moves = some t)
    (hs : s.IsCancelled k) : t.IsCancelled k := by
  have hleads : s.LeadsTo setup (fun _ => True) t := ⟨moves, fun _ _ => trivial, h⟩
  refine (hleads.keeps (Q := fun u => u.IsCancelled k ∧ Reachable setup u) ⟨hs, hr⟩ ?_).1
  rintro u v m - ⟨hu, hr⟩ hm
  exact ⟨((step_of_step? hm).effect hr.inStep hr.launch).isCancelled hu, hr.step m hm⟩

theorem isUntouched_of_after (hr : Reachable setup s) (h : s.after? setup moves = some t)
    (hk : k < s.tickets.length) (ht : t.IsUntouched k) : s.IsUntouched k := by
  apply Classical.byContradiction
  intro hs
  have hleads : s.LeadsTo setup (fun _ => True) t := ⟨moves, fun _ _ => trivial, h⟩
  refine (hleads.keeps (Q := fun u => k < u.tickets.length ∧ ¬ u.IsUntouched k ∧ Reachable setup u)
    ⟨hk, hs, hr⟩ ?_).2.1 ht
  rintro u v m - ⟨hk, hu, hr⟩ hm
  have heffect := (step_of_step? hm).effect hr.inStep hr.launch
  exact ⟨Nat.lt_of_lt_of_le hk heffect.length_le, fun hv => hu (heffect.isUntouched_of hk hv),
    hr.step m hm⟩

/-! ## A ticket that nobody has begun with -/

/-- Whoever holds a ticket that nobody has begun with is about to begin with it. -/
theorem Recorded.next_eq_begin {holder : Holder} (h : Recorded s history)
    (hs : s.IsUntouched k) (hheld : k ∈ s.held holder) : s.next holder = .begin := by
  obtain ⟨ticket, hticket, huntouched⟩ := hs
  obtain ⟨hawaits, -⟩ := (h.accounts k).held hheld hticket
  apply Classical.byContradiction
  intro hbegin
  rw [hawaits.isRunning hbegin] at huntouched
  cases huntouched

theorem Recorded.trail_eq_nil (h : Recorded s history) (hs : s.IsUntouched k) :
    trail history k = [] := by
  have hbegin {holder : Holder} (hmem : k ∈ s.held holder) := h.next_eq_begin hs hmem
  obtain ⟨ticket, hticket, huntouched⟩ := hs
  by_cases hheld : ∃ holder, k ∈ s.held holder
  · obtain ⟨holder, hmem⟩ := hheld
    rw [((h.accounts k).held hmem hticket).2, hbegin hmem]
    rfl
  · have hclosed := (h.accounts k).closed (fun holder hmem => hheld ⟨holder, hmem⟩) hticket
    cases hclosed with
    | dropped _ hmarks => exact hmarks
    | judged hfinished | foundered hfinished | rejected hfinished =>
        rw [hfinished] at huntouched
        cases huntouched

/-! ## Tickets that are handed out -/

/-- A ticket that has been handed out stays so. -/
theorem Step.mem_issued (h : Step setup s m t) (hk : k ∈ s.issued) : k ∈ t.issued := by
  cases h with
  | worker h => exact h.frame.2.2.2 ▸ hk
  | client h =>
      rcases h.handsOut with ⟨hissued, -⟩ | ⟨id, hissued, -⟩ <;> rw [hissued]
      · exact hk
      · exact List.mem_cons_of_mem _ hk
  | called | cancelled | spared => exact hk

theorem mem_issued_of_after (h : s.after? setup moves = some t) (hk : k ∈ s.issued) :
    k ∈ t.issued := by
  have hleads : s.LeadsTo setup (fun _ => True) t := ⟨moves, fun _ _ => trivial, h⟩
  exact hleads.keeps hk fun _ hu hm => (step_of_step? hm).mem_issued hu

/-- One client at most is about to hand out a queued ticket, and it has not been handed out. -/
structure HandsOutOnce (s : State) : Prop where
  unique : ∀ {c d id}, s.clients c = .queued id → s.clients d = .queued id → c = d
  fresh : ∀ {c id}, s.clients c = .queued id → id ∉ s.issued

theorem handsOutOnce_initial (setup : Setup) : HandsOutOnce (.initial setup) := by
  constructor <;> simp [State.initial]

theorem HandsOutOnce.of_kept (hs : HandsOutOnce s) (hissued : t.issued = s.issued)
    (hclients : ∀ {d id}, t.clients d = .queued id → s.clients d = .queued id) :
    HandsOutOnce t where
  unique hc hd := hs.unique (hclients hc) (hclients hd)
  fresh hc := hissued ▸ hs.fresh (hclients hc)

theorem ClientStep.handsOutOnce (hs : HandsOutOnce s) (hr : Reachable setup s)
    (h : ClientStep setup s c t) : HandsOutOnce t := by
  have hothers {d : Nat} (hd : d ≠ c) : t.clients d = s.clients d := h.clients_of_ne hd
  have hnew {id : Nat} (hc : t.clients c = .queued id) : ¬ s.IsIssued id := by
    rw [(h.queued_of hc).1]
    exact fun hi => Nat.lt_irrefl _ (hr.issued.written hi)
  constructor
  case unique =>
    intro a b id ha hb
    by_cases hac : a = c <;> by_cases hbc : b = c
    · rw [hac, hbc]
    · exact absurd (.inr ⟨b, hothers hbc ▸ hb⟩) (hnew (hac ▸ ha))
    · exact absurd (.inr ⟨a, hothers hac ▸ ha⟩) (hnew (hbc ▸ hb))
    · exact hs.unique (hothers hac ▸ ha) (hothers hbc ▸ hb)
  case fresh =>
    intro d id hd hi
    by_cases hdc : d = c
    · subst hdc
      rcases h.handsOut with ⟨hissued, -⟩ | ⟨i, -, hreturned, -⟩
      · exact hnew hd (.inl (hissued ▸ hi))
      · rw [hd] at hreturned
        cases hreturned
    · rw [hothers hdc] at hd
      rcases h.handsOut with ⟨hissued, -⟩ | ⟨i, hissued, -, horigin⟩
      · exact hs.fresh hd (hissued ▸ hi)
      · rw [hissued, List.mem_cons] at hi
        rcases hi with rfl | hi
        · rcases horigin with hqueued | hheld
          · exact hdc (hs.unique hd hqueued)
          · exact hr.issued.free (.inr ⟨d, hd⟩) c (by simp [State.held, hheld])
        · exact hs.fresh hd hi

theorem Reachable.handsOutOnce (h : Reachable setup s) : HandsOutOnce s := by
  refine h.invariant (handsOutOnce_initial setup) ?_
  intro s t m hr hs hstep
  cases hstep with
  | worker h => exact hs.of_kept h.frame.2.2.2 fun hd => h.frame.2.1 ▸ hd
  | client h => exact h.handsOutOnce hs hr
  | called hc => exact hs.of_kept rfl fun hd => clients_of_setClient hd (by simp)
  | cancelled | spared => exact hs.of_kept rfl fun hd => hd

/-! ## Cancelling -/

/-- Only a ticket that has been handed out can be cancelled. -/
theorem mem_issued_of_cancel? {isCancelled : Bool} (h : s.cancel? k = some (t, isCancelled)) :
    k ∈ s.issued := by
  unfold State.cancel? at h
  cases ht : s.tickets[k]? <;> simp only [ht, reduceCtorEq] at h
  split at h
  · assumption
  · cases h

/-- A cancellation that succeeds leaves the ticket cancelled. -/
theorem isCancelled_of_cancel? (h : s.cancel? k = some (t, true)) : t.IsCancelled k := by
  unfold State.cancel? at h
  cases ht : s.tickets[k]? with
  | none => simp [ht] at h
  | some ticket =>
      simp only [ht, Option.ite_none_right_eq_some] at h
      obtain ⟨-, h⟩ := h
      cases hs : ticket.state <;>
        simp only [hs, TicketState.cancel, Option.some.injEq, Prod.mk.injEq, and_true,
          Bool.false_eq_true, and_false] at h <;> subst h <;>
        exact ⟨_, getElem?_setTicket_self ht, rfl⟩

/-- Whoever can cancel a ticket that has gone past the line finds it with an outcome. -/
theorem exists_finished_past_line (hquiet : ∀ n e, setup.listener n e = none)
    (hr : Reachable setup s) (hissued : k ∈ s.issued) (hline : k ∉ s.line)
    (hkept : ¬ s.IsCancelled k) :
    ∃ ticket outcome, s.tickets[k]? = some ticket ∧ ticket.state = .finished outcome := by
  obtain ⟨history, hrun⟩ := hr.exists_run
  have hfree (holder : Holder) : k ∉ s.held holder := by
    cases holder with
    | queue => exact fun hmem => hline (List.mem_append_right _ hmem)
    | worker => exact fun hmem => hline (List.mem_append_left _ hmem)
    | client c => exact hr.issued.free (.inl hissued) c
  have hticket := List.getElem?_eq_getElem (hr.issued.written (.inl hissued))
  have hclosed := ((hrun.recorded hquiet).accounts k).closed hfree hticket
  cases hclosed with
  | judged hs | foundered hs | rejected hs => exact ⟨_, _, hticket, hs⟩
  | dropped hs => exact absurd ⟨_, hticket, by rw [hs]; rfl⟩ hkept

/-- A ticket that has gone past the line is never cancelled. -/
theorem past_line_of_step (hquiet : ∀ n e, setup.listener n e = none) (hr : Reachable setup s)
    (hm : s.step? setup m = some t) (hk : k < s.tickets.length) (hline : k ∉ s.line)
    (hkept : ¬ s.IsCancelled k) : k ∉ t.line ∧ ¬ t.IsCancelled k := by
  have hstep := step_of_step? hm
  have heffect := hstep.effect hr.inStep hr.launch
  have hpassage := hstep.passage hr.launch hr.custody ((hr.step m hm).worker_ne_died hquiet)
  refine ⟨fun hmem => ?_, fun ⟨ticket, hticket, hcancelled⟩ => ?_⟩
  · rcases hpassage.of_mem_line hmem with hmem | rfl
    · exact hline hmem
    · exact Nat.lt_irrefl _ hk
  · by_cases hcancel : m = .cancel k
    · subst hcancel
      obtain ⟨⟨t', isCancelled⟩, hc, -⟩ := Option.map_eq_some_iff.1 hm
      obtain ⟨old, outcome, hold, hfinished⟩ :=
        exists_finished_past_line hquiet hr (mem_issued_of_cancel? hc) hline hkept
      obtain ⟨history, hrun⟩ := hr.exists_run
      have hsame := heffect.finished_kept (hrun.recorded hquiet) hold hfinished
      rw [hsame, Option.some.injEq] at hticket
      subst hticket
      rw [hfinished] at hcancelled
      cases hcancelled
    · have hall (old : Ticket) (hold : s.tickets[k]? = some old) : old.state.isKept = true := by
        cases hstate : old.state.isKept with
        | true => rfl
        | false => exact absurd ⟨old, hold, hstate⟩ hkept
      rw [heffect.isKept hcancel hall hticket] at hcancelled
      cases hcancelled

theorem past_line_of_after (hquiet : ∀ n e, setup.listener n e = none) (hr : Reachable setup s)
    (h : s.after? setup moves = some t) (hk : k < s.tickets.length) (hline : k ∉ s.line)
    (hkept : ¬ s.IsCancelled k) : ¬ t.IsCancelled k := by
  have hleads : s.LeadsTo setup (fun _ => True) t := ⟨moves, fun _ _ => trivial, h⟩
  refine (hleads.keeps (Q := fun u => Reachable setup u ∧ k < u.tickets.length ∧ k ∉ u.line ∧
    ¬ u.IsCancelled k) ⟨hr, hk, hline, hkept⟩ ?_).2.2.2
  rintro u v m - ⟨hr, hk, hline, hkept⟩ hm
  have hlen := ((step_of_step? hm).effect hr.inStep hr.launch).length_le
  exact ⟨hr.step m hm, Nat.lt_of_lt_of_le hk hlen,
    past_line_of_step hquiet hr hm hk hline hkept⟩

/-! ## A ticket that has just been written -/

theorem log_enqueue (s : State) (c : Nat) (path css : String) :
    (s.enqueue c path css).log = s.log := by
  simp [enqueue_eq, State.setClient, State.write]

/-- Without the ticket that has just joined the queue, the client has only started the session. -/
theorem without_enqueue_self {path css : String} (hr : Reachable setup s)
    (hc : s.clients c = .enqueueing path css)
    (hopen : s.phase = .collecting ∨ s.draining = true) :
    (s.enqueue c path css).without s.tickets.length s.log = s.withdraw c := by
  have hqueue : leaveOut s.tickets.length (s.queue ++ s.joining) = s.queue := by
    rw [State.joining, if_pos hopen, leaveOut_append, leaveOut_cons_self, leaveOut_nil,
      List.append_nil]
    exact leaveOut_of_lt fun i hi => hr.custody.written (show i ∈ s.held .queue from hi)
  have hworker : s.worker.without s.tickets.length = s.worker :=
    Worker.without_of_lt fun i hi => hr.custody.written (show i ∈ s.held .worker from hi)
  have hclients : (fun d => (s.clients d).without s.tickets.length) = s.clients := by
    funext d
    have hheld (i : Nat) (hi : i ∈ s.held (.client d)) := hr.custody.written hi
    exact Client.without_of_lt hheld (fun i hi => hr.issued.written (.inr ⟨d, hi⟩))
      fun i hi => hr.issued.written (.inl (hr.issued.returned hi))
  have hissued : leaveOut s.tickets.length s.issued = s.issued :=
    leaveOut_of_lt fun i hi => hr.issued.written (.inl hi)
  have hentrance : s.entrance.without s.tickets.length = (s.clients c).withdrawn := by
    rw [State.entrance, if_pos hopen, hc]
    simp [Client.without, Client.withdrawn]
  rw [enqueue_eq, without_setClient, hentrance, State.withdraw]
  simp [State.without, State.write, hqueue, hworker, hclients, hissued,
    List.eraseIdx_append_of_length_le]

theorem tickets_enqueue (s : State) (c : Nat) (path css : String) :
    (s.enqueue c path css).tickets = s.tickets ++ [⟨path, css, .pending⟩] := by
  simp [enqueue_eq, State.setClient, State.write]

/-- A ticket that is cancelled later has joined the queue when it was written. -/
theorem open_of_isCancelled (hquiet : ∀ n e, setup.listener n e = none) {path css : String}
    (hr : Reachable setup s) (hm : s.step? setup (.client c) = some (s.enqueue c path css))
    (hu : (s.enqueue c path css).after? setup moves = some u)
    (hcancelled : u.IsCancelled s.tickets.length) :
    s.phase = .collecting ∨ s.draining = true := by
  apply Classical.byContradiction
  intro hshut
  have hline : (s.enqueue c path css).line = s.line := by
    simp [enqueue_eq, State.line, State.setClient, State.write, State.joining, hshut]
  refine past_line_of_after hquiet (hr.step _ hm) hu ?_ (fun hmem => ?_) ?_ hcancelled
  · simp [tickets_enqueue]
  · have hnew (holder : Holder) : s.tickets.length ∉ s.held holder := fun hi =>
      Nat.lt_irrefl _ (hr.custody.written hi)
    rw [hline, State.line, List.mem_append] at hmem
    exact hmem.elim (hnew .worker) (hnew .queue)
  · rintro ⟨ticket, hticket, hstate⟩
    rw [tickets_enqueue, List.getElem?_concat_length, Option.some.injEq] at hticket
    subst hticket
    cases hstate

/-! ## The session without the submission -/

/-- A session, and what it is when a certain submission has not been made. Its client has still to
give the news that the stylesheet is queued, or this news is all that the other record lacks. -/
structure Shadow (k c : Nat) (path css : String) (s v : State) : Prop where
  about : s.IsAbout k path css
  without : ∃ log, v = s.without k log ∧
    (s.clients c = .queued k ∧ log = s.log ∨
      k ∈ s.issued ∧ ∃ n : Nat, s.log[n]? = some (.event (.documentQueued path)) ∧
        log = s.log.eraseIdx n)

variable {v : State} {path css : String}

theorem Shadow.isIssued (h : Shadow k c path css s v) : s.IsIssued k := by
  obtain ⟨log, -, ⟨hqueued, -⟩ | ⟨hissued, -⟩⟩ := h.without
  · exact .inr ⟨c, hqueued⟩
  · exact .inl hissued

/-- A move that concerns the ticket is not made in the session without the submission. -/
theorem Shadow.of_concerns (hquiet : ∀ n e, setup.listener n e = none) (hr : Reachable setup s)
    (hm : s.step? setup m = some t) (h : Shadow k c path css s v) (hk : s.concerns k m = true)
    (ht : t.IsUntouched k) : Shadow k c path css t v := by
  have hstep := step_of_step? hm
  have hs := (hstep.effect hr.inStep hr.launch).isUntouched_of (hr.issued.written h.isIssued) ht
  have hbegin (used : List String) (step : Analysis) (hw : s.worker = .analysing used k step) :
      step = .begin := by
    obtain ⟨history, hrun⟩ := hr.exists_run
    have hanalyses : s.Analyses .worker k used step := hw
    rw [← hanalyses.held.2]
    exact (hrun.recorded hquiet).next_eq_begin hs hanalyses.mem
  have hpasses := hstep.passes hquiet hk hbegin ((hr.step m hm).worker_ne_died hquiet) ht
  obtain ⟨habout, log, rfl, hlog⟩ := h
  refine ⟨hstep.isAbout hr habout, log, (hpasses.without_eq log).symm, ?_⟩
  rcases hpasses.log_eq with ⟨hsame, hclients⟩ | ⟨d, ticket, hd, hticket, hissued, hmore⟩
  · rw [hsame, hclients]
    exact hlog.imp_right fun ⟨hk, hn⟩ => ⟨hstep.mem_issued hk, hn⟩
  · -- the client gives the news now, which it has not done before
    refine .inr ⟨hissued, s.log.length, ?_⟩
    obtain ⟨ticket', hticket', rfl, -⟩ := habout
    rw [hticket, Option.some.injEq] at hticket'
    subst hticket'
    rcases hlog with ⟨-, rfl⟩ | ⟨hk, -⟩
    · simp [hmore, List.eraseIdx_append_of_length_le]
    · exact absurd hk (hr.handsOutOnce.fresh hd)

/-- Any other move is made in the session without the submission too. -/
theorem Shadow.step (hquiet : ∀ n e, setup.listener n e = none) (hr : Reachable setup s)
    (hm : s.step? setup m = some t) (h : Shadow k c path css s v) (hk : s.concerns k m = false) :
    ∃ w, v.step? setup (m.renumbered k) = some w ∧ Shadow k c path css t w := by
  have hstep := step_of_step? hm
  have hissued := h.isIssued
  obtain ⟨habout, log, rfl, hlog⟩ := h
  obtain ⟨more, hmore, hsame⟩ :=
    step?_without hquiet (hr.issued.written hissued) (hr.issued.free hissued) hk hm
  refine ⟨_, hsame log, hstep.isAbout hr habout, _, rfl, ?_⟩
  rcases hlog with ⟨hqueued, rfl⟩ | ⟨hmem, n, hn, rfl⟩
  · refine .inl ⟨?_, hmore.symm⟩
    have hc : m.client? ≠ some c := by
      intro hc
      cases hstep with
      | client =>
          cases hc
          simp [State.concerns, hqueued] at hk
      | called hidle =>
          cases hc
          simp [hqueued] at hidle
      | worker | cancelled | spared => cases hc
    rw [hstep.clients_of_ne hc, hqueued]
  · have hlt : n < s.log.length := (List.getElem?_eq_some_iff.1 hn).1
    refine .inr ⟨hstep.mem_issued hmem, n, ?_, ?_⟩
    · rw [hmore, List.getElem?_append_left hlt, hn]
    · rw [hmore, List.eraseIdx_append_of_lt_length hlt]

/-- As long as nobody begins with the ticket, the other moves make up a run of the session without
the submission. -/
theorem Shadow.after (hquiet : ∀ n e, setup.listener n e = none) (hr : Reachable setup s)
    (h : Shadow k c path css s v) (hu : s.after? setup moves = some u)
    (huntouched : u.IsUntouched k) :
    ∃ w, v.after? setup (s.movesWithout setup k moves) = some w ∧ Shadow k c path css u w := by
  induction moves generalizing s v with
  | nil =>
      cases hu
      exact ⟨v, rfl, h⟩
  | cons m rest ih =>
      obtain ⟨t, hm, hu⟩ := State.exists_step_of_after hu
      have ht := hr.step m hm
      have hlen := ((step_of_step? hm).effect hr.inStep hr.launch).length_le
      have hlt := Nat.lt_of_lt_of_le (hr.issued.written h.isIssued) hlen
      have htouch := isUntouched_of_after ht hu hlt huntouched
      simp only [State.movesWithout, hm]
      cases hk : s.concerns k m with
      | true =>
          simp only [if_true]
          exact ih ht (h.of_concerns hquiet hr hm hk htouch) hu
      | false =>
          obtain ⟨w, hw, hshadow⟩ := h.step hquiet hr hm hk
          obtain ⟨x, hx, hend⟩ := ih ht hshadow hu
          refine ⟨x, ?_, hend⟩
          simp only [Bool.false_eq_true, if_false, State.after?, hw, hx]

/-! ## What happens to the others -/

theorem held_without {i : Nat} (hi : i ≠ k) (hfree : ∀ c, k ∉ s.held (.client c))
    (log : List Entry) (holder : Holder) :
    (renumber k i ∈ (s.without k log).held holder ↔ i ∈ s.held holder) ∧
      (i ∈ s.held holder → (s.without k log).next holder = s.next holder) := by
  cases holder with
  | queue => exact ⟨renumber_mem_leaveOut hi, fun _ => rfl⟩
  | worker =>
      simp only [State.held, State.next, State.without]
      cases s.worker with
      | analysing used id step =>
          by_cases hid : id = k
          · simp [Worker.without, Worker.held, hid, hi]
          · simp [Worker.without, Worker.held, Worker.next, hid, renumber_inj hi hid]
      | rejecting failure swept | reporting failure swept | sweeping failure swept =>
          exact ⟨renumber_mem_leaveOut hi, fun _ => rfl⟩
      | _ => simp [Worker.without, Worker.held]
  | client d =>
      have hd := hfree d
      simp only [State.held, State.next, State.without] at hd ⊢
      cases hc : s.clients d with
      | refused id | admitted id | analysing id used step =>
          have hid : id ≠ k := by simpa [hc, Client.held, eq_comm] using hd
          simp [Client.without, Client.held, Client.next, renumber_inj hi hid]
      | queued id =>
          by_cases hid : id = k <;> simp [Client.without, Client.held, hid]
      | _ => simp [Client.without, Client.held]

/-- The state of a closed ticket tells what has happened to it. -/
theorem Ticket.IsClosed.marks_eq {ticket : Ticket} {phase : Phase} {marks marks' : List Mark}
    (h : ticket.IsClosed phase marks) (h' : ticket.IsClosed phase marks') : marks = marks' := by
  cases h with
  | dropped hs hmarks | judged hs hp hroom hmarks | foundered hs hp hdeep hmarks
  | rejected hs hp hmarks =>
      cases h' with
      | dropped hs' hmarks' | judged hs' hp' hroom' hmarks' | foundered hs' hp' hdeep' hmarks'
      | rejected hs' hp' hmarks' => simp_all

/-- The same happens to the other tickets when one is left out, wherever clients at rest are. -/
theorem Recorded.trail_without {history' : List (Nat × Mark)} {i : Nat} {log : List Entry}
    {v : State} (hs : Recorded s history) (hv : Recorded v history')
    (hfree : ∀ c, k ∉ s.held (.client c)) (hi : i ≠ k) (htickets : v.tickets = s.tickets.eraseIdx k)
    (hphase : v.phase = s.phase)
    (hheld : v.held = (s.without k log).held) (hnext : v.next = (s.without k log).next) :
    trail history' (renumber k i) = trail history i := by
  have hticket : v.tickets[renumber k i]? = s.tickets[i]? :=
    htickets ▸ getElem?_eraseIdx_renumber hi s.tickets
  have hothers := held_without hi hfree log
  rw [← hheld, ← hnext] at hothers
  cases hold : s.tickets[i]? with
  | none =>
      rw [hold] at hticket
      rw [hs.beyond (List.getElem?_eq_none_iff.1 hold),
        hv.beyond (List.getElem?_eq_none_iff.1 hticket)]
  | some ticket =>
      rw [hold] at hticket
      by_cases hany : ∃ holder, i ∈ s.held holder
      · obtain ⟨holder, hmem⟩ := hany
        rw [((hs.accounts i).held hmem hold).2,
          ((hv.accounts _).held ((hothers holder).1.2 hmem) hticket).2, (hothers holder).2 hmem]
      · have hclosed := (hs.accounts i).closed (fun holder hmem => hany ⟨holder, hmem⟩) hold
        refine Ticket.IsClosed.marks_eq
          (hphase ▸ (hv.accounts _).closed (fun holder hmem => ?_) hticket) hclosed
        exact hany ⟨holder, (hothers holder).1.1 hmem⟩

theorem held_of_isAtRest {stage : Client} (h : stage.IsAtRest) :
    stage.held = [] ∧ stage.next = .begin := by
  cases stage <;> simp_all [Client.IsAtRest, Client.held, Client.next]

/-- Where a client at rest has been left makes no difference to the tickets in hand. -/
theorem held_setClient_of_isAtRest {stage : Client}
    (h : stage = s.clients c ∨ stage.IsAtRest ∧ (s.clients c).IsAtRest) :
    (s.setClient c stage).held = s.held ∧ (s.setClient c stage).next = s.next := by
  rcases h with rfl | ⟨hstage, hrest⟩
  · rw [setClient_self rfl]
    exact ⟨rfl, rfl⟩
  · obtain ⟨hheld, hnext⟩ := held_of_isAtRest hstage
    obtain ⟨hheld', hnext'⟩ := held_of_isAtRest hrest
    refine ⟨funext fun holder => ?_, funext fun holder => ?_⟩ <;> cases holder with
    | queue | worker => rfl
    | client d =>
        by_cases hd : d = c
        · subst hd
          simp [State.held, State.next, hheld, hnext, hheld', hnext']
        · simp [State.held, State.next, clients_setClient_of_ne hd]

theorem analysisEvents_of_eraseIdx {n : Nat} {e : Event} (hn : s.log[n]? = some (.event e))
    (he : isOfAnalysis e = false) (hlog : v.log = s.log.eraseIdx n) :
    v.analysisEvents = s.analysisEvents := by
  obtain ⟨hlt, hget⟩ := List.getElem?_eq_some_iff.1 hn
  have hsplit : s.log = s.log.take n ++ ([.event e] ++ s.log.drop (n + 1)) := by
    rw [← hget, List.singleton_append, ← List.drop_eq_getElem_cons hlt, List.take_append_drop]
  have hevents := congrArg eventsOf hsplit
  simp only [eventsOf_append, eventsOf_event] at hevents
  simp [State.analysisEvents, hlog, List.eraseIdx_eq_take_drop_succ, hevents, he]

/-! ## Cancelled means never analysed -/

/-- A submission whose ticket is cancelled later leaves nothing behind but the news that the
stylesheet was queued. -/
theorem exists_forgoes (hquiet : ∀ n e, setup.listener n e = none)
    (hu : (State.initial setup).after? setup moves = some u) (hissued : k ∈ u.issued)
    (hcancelled : u.IsCancelled k) :
    ∃ c path others stage, ∃ n : Nat, setup.Forgoes k c path moves others ∧
      (State.initial setup).after? setup others =
        some ((u.without k (u.log.eraseIdx n)).setClient c stage) ∧
      u.log[n]? = some (.event (.documentQueued path)) ∧
      (stage = (u.without k (u.log.eraseIdx n)).clients c ∨
        stage.IsAtRest ∧ ((u.without k (u.log.eraseIdx n)).clients c).IsAtRest) := by
  have hr : Reachable setup u := Reachable.initial.after hu
  obtain ⟨before, c, path, css, start, s, rest, rfl, hasks, hc, rfl⟩ :=
    exists_submission hu (hr.issued.written (.inl hissued))
  have hs : Reachable setup s := Reachable.initial.after hasks.after
  have hm : s.step? setup (.client c) = some (s.enqueue c path css) := by
    simp only [State.step?, State.clientStep?, hc]
  rw [State.after?_append hasks.after] at hu
  simp only [State.after?, hm] at hu
  have hopen := open_of_isCancelled hquiet hs hm hu hcancelled
  have hshadow : Shadow s.tickets.length c path css (s.enqueue c path css) (s.withdraw c) := by
    refine ⟨isAbout_new (tickets_enqueue ..), s.log, (without_enqueue_self hs hc hopen).symm,
      .inl ⟨?_, (log_enqueue ..).symm⟩⟩
    rw [enqueue_eq, clients_setClient, State.entrance, if_pos hopen]
  obtain ⟨v, hv, -, log, rfl, hlog⟩ :=
    hshadow.after hquiet (hs.step _ hm) hu hcancelled.isUntouched
  rcases hlog with ⟨hqueued, -⟩ | ⟨-, n, hn, rfl⟩
  · exact absurd hissued (hr.handsOutOnce.fresh hqueued)
  obtain ⟨r, hbefore, hrest, -⟩ := hasks.exists_call
  cases hstarted : r.started with
  | true =>
      have hwithdrawn : ((s.withdraw c).clients c).IsAtRest := by
        simp [State.withdraw, hc, Client.withdrawn, Client.IsAtRest]
      obtain ⟨stage, hstage, hwhere⟩ := exists_after_setClient hwithdrawn hrest hv
      refine ⟨c, path, _, stage, n, .started hasks hc rfl hm hbefore hstarted, ?_, hn, hwhere⟩
      rw [State.after?_append (hasks.after?_absent hbefore hstarted), ← hstage, State.withdraw,
        setClient_setClient]
  | false =>
      refine ⟨c, path, _, _, n, .starting hasks hc rfl hm hbefore hstarted, ?_, hn, .inl rfl⟩
      rw [setClient_self rfl, State.after?_append hasks.after?_withdraw, hv]

/-- With listeners that raise nothing, a cancellation that succeeds is final, in whatever order the
worker and the clients move. In every later state the ticket is cancelled and has no outcome, and
nothing has happened to it: no event of an analysis has come from it. And the session has gone the
same way as without the submission: the moves that are left lead to a state with the same tickets
but this one, in which the same has happened to each of them, and with the same record but for the
news that the stylesheet was queued. -/
theorem cancelled_is_never_analysed (hquiet : ∀ n e, setup.listener n e = none)
    {before after : List Move} (hs : (State.initial setup).after? setup before = some s)
    (hcancel : s.cancel? k = some (t, true)) (hu : t.after? setup after = some u) :
    (∃ ticket, u.tickets[k]? = some ticket ∧
      (ticket.state = .cancelled ∨ ticket.state = .dropped)) ∧
    (∀ history, Run setup history u →
      trail history k = [] ∧ announced history = u.analysisEvents) ∧
    ∃ c path others v, ∃ n : Nat,
      setup.Forgoes k c path (before ++ .cancel k :: after) others ∧
      (State.initial setup).after? setup others = some v ∧
      u.log[n]? = some (.event (.documentQueued path)) ∧
      (∃ stage, v = (u.without k (u.log.eraseIdx n)).setClient c stage) ∧
      v.tickets = u.tickets.eraseIdx k ∧ v.log = u.log.eraseIdx n ∧
      v.analysisEvents = u.analysisEvents ∧
      ∀ history history' i, Run setup history u → Run setup history' v → i ≠ k →
        trail history' (renumber k i) = trail history i := by
  have hr : Reachable setup s := Reachable.initial.after hs
  have hm : s.step? setup (.cancel k) = some t := by
    simp only [State.step?, hcancel, Option.map_some]
  have ht : Reachable setup t := hr.step _ hm
  have hall : (State.initial setup).after? setup (before ++ .cancel k :: after) = some u := by
    rw [State.after?_append hs]
    simp only [State.after?, hm, hu]
  have hcancelled := isCancelled_of_after ht hu (isCancelled_of_cancel? hcancel)
  have hissued := mem_issued_of_after hu
    ((step_of_step? hm).mem_issued (mem_issued_of_cancel? hcancel))
  refine ⟨?_, fun history hrun => ?_, ?_⟩
  · obtain ⟨ticket, hticket, hstate⟩ := hcancelled
    refine ⟨ticket, hticket, ?_⟩
    cases hstage : ticket.state <;> simp_all [TicketState.isKept]
  · have hrecorded := hrun.recorded hquiet
    exact ⟨hrecorded.trail_eq_nil hcancelled.isUntouched, hrecorded.events⟩
  · obtain ⟨c, path, others, stage, n, hforgoes, hv, hn, hwhere⟩ :=
      exists_forgoes hquiet hall hissued hcancelled
    obtain ⟨hheld, hnext⟩ := held_setClient_of_isAtRest hwhere
    refine ⟨c, path, others, _, n, hforgoes, hv, hn, ⟨stage, rfl⟩, rfl, rfl,
      analysisEvents_of_eraseIdx hn rfl rfl, fun history history' i hrun hrun' hi => ?_⟩
    exact (hrun.recorded hquiet).trail_without (hrun'.recorded hquiet)
      ((ht.after hu).issued.free (.inl hissued)) hi rfl rfl hheld hnext

end

theorem cancelled_is_never_analysed_sample : ∃ s t u,
    (State.initial orderlySetup).after? orderlySetup (orderlyMoves.take 10) = some s ∧
    s.cancel? 1 = some (t, true) ∧ t.after? orderlySetup (orderlyMoves.drop 11) = some u ∧
    u.tickets.map Ticket.path = ["a.css", "b.css", "c.css", "d.css"] ∧
    (∃ ticket, u.tickets[1]? = some ticket ∧
      (ticket.state = .cancelled ∨ ticket.state = .dropped)) ∧
    ∃ c path others v, ∃ n : Nat,
      orderlySetup.Forgoes 1 c path (orderlyMoves.take 10 ++ .cancel 1 :: orderlyMoves.drop 11)
        others ∧
      (State.initial orderlySetup).after? orderlySetup others = some v ∧
      v.tickets.map Ticket.path = ["a.css", "c.css", "d.css"] ∧
      u.log[n]? = some (.event (.documentQueued path)) ∧ v.log = u.log.eraseIdx n := by
  have hrun : (((State.initial orderlySetup).after? orderlySetup (orderlyMoves.take 10)).bind
      fun s => (s.cancel? 1).bind fun (t, isCancelled) =>
        (t.after? orderlySetup (orderlyMoves.drop 11)).map fun u =>
          (isCancelled, u.tickets.map Ticket.path)) =
      some (true, ["a.css", "b.css", "c.css", "d.css"]) := by
    decide +kernel
  obtain ⟨s, hs, hrest⟩ := Option.bind_eq_some_iff.1 hrun
  obtain ⟨⟨t, isCancelled⟩, hcancel, hrest⟩ := Option.bind_eq_some_iff.1 hrest
  obtain ⟨u, hu, hseen⟩ := Option.map_eq_some_iff.1 hrest
  simp only [Prod.mk.injEq] at hseen
  obtain ⟨rfl, hpaths⟩ := hseen
  obtain ⟨hcancelled, -, c, path, others, v, n, hforgoes, hv, hn, -, htickets, hlog, -⟩ :=
    cancelled_is_never_analysed (fun _ _ => rfl) hs hcancel hu
  refine ⟨s, t, u, hs, hcancel, hu, hpaths, hcancelled, c, path, others, v, n, hforgoes, hv, ?_,
    hn, hlog⟩
  rw [htickets, ← List.eraseIdx_map, hpaths]
  rfl

end StyleUsage.Session
