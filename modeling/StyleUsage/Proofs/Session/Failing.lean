import StyleUsage.Proofs.Session.Chronicle
import StyleUsage.Proofs.Session.Conclusion
import StyleUsage.Proofs.Session.Passage
import StyleUsage.Proofs.Session.Progress

/-!
# A collection that fails

The loader, the reader of markup and a listener at the news of a source can each break the
collection off. Nothing of what has been gathered until then is ever shown: the accumulator stays
open, the record tells of the failure once, and whoever waits for the collection, or has submitted a
stylesheet before or after the failure, gets the failure and nothing else.
-/

namespace StyleUsage.Session

/-- The next step of the worker breaks the collection off. -/
inductive State.BreaksOff (s : State) (setup : Setup) : Failure → Prop where
  /-- The loader raises something instead of yielding another source. -/
  | loader {count : Nat} {failure : Failure} (hw : s.worker = .taking [] count)
      (hf : setup.load.failure = some failure) : s.BreaksOff setup failure
  /-- The markup of the next source is rejected. -/
  | source {source : MarkupSource} {rest : List MarkupSource} {count : Nat}
      {rejection : Markup.Rejection} (hw : s.worker = .taking (source :: rest) count)
      (htags : Markup.tags source.text = .error rejection) :
      s.BreaksOff setup (.refused (.rejected rejection))
  /-- A listener raises something at the news of a source. -/
  | listener {path : String} {added count : Nat} {rest : List MarkupSource} {failure : Failure}
      (hw : s.worker = .parsed path added rest count)
      (hl : setup.listener (eventsOf s.log).length (.sourceParsed path added) = some failure) :
      s.BreaksOff setup failure

/-- The worker still gathers used classes, or is about to. -/
def Worker.IsGathering : Worker → Prop
  | .absent | .opening | .taking .. | .parsed .. => True
  | _ => False

namespace State

/-- What the stage of the worker says after the collection has broken off. -/
def FailsWith (s : State) (failure : Failure) : Worker → Prop
  | .failing e | .rejecting e _ | .reporting e _ | .sweeping e _ => e = failure
  | .ended => s.collected = some (.error failure)
  | _ => False

/-- The collection has broken off, and the accumulator is left as it was then. -/
structure IsFailing (s : State) (failure : Failure) : Prop where
  isOpen : s.accumulator.isFrozen = false
  worker : s.FailsWith failure s.worker

/-- Nothing partial shows of a collection that fails, or is about to: neither in the phase, nor in
the record, nor on a ticket. -/
structure Withholds (s : State) (failure : Failure) : Prop where
  phase : s.phase ≠ .ready
  isOpen : s.accumulator.isFrozen = false
  silent : ∀ e ∈ eventsOf s.log, e.kind ≠ .collectionCompleted ∧ isOfAnalysis e = false
  failures : (eventsOf s.log).filter (fun e => e.kind = .collectionFailed) = [] ∨
    (eventsOf s.log).filter (fun e => e.kind = .collectionFailed) =
      [.collectionFailed failure.message]
  collected : ∀ outcome, s.collected = some outcome → outcome = .error failure
  tickets : ∀ ticket ∈ s.tickets, ∀ outcome, ticket.state = .finished outcome →
    outcome = .error failure

/-- The failure is all that comes of a session to which some moves have led: the record tells of it
once, every ticket that has been handed out bears it unless it has been cancelled, and so does the
answer to whoever waits for the collection or submits a stylesheet now. -/
structure ComesToNothing (s : State) (setup : Setup) (moves : List Move) (failure : Failure) :
    Prop where
  phase : s.phase = .failed
  failures : (eventsOf s.log).filter (fun e => e.kind = .collectionFailed) =
    [.collectionFailed failure.message]
  collected : s.collected = some (.error failure)
  tickets : ∀ id ∈ s.issued, .cancel id ∉ moves →
    ∃ ticket, s.tickets[id]? = some ticket ∧ ticket.state = .finished (.error failure)
  waits : ∀ c, s.clients c = .waiting ∨ s.clients c = .starting .waitReady →
    (moveFor setup c requestSteps s).clients c = .returned (.error failure)
  submits : ∀ c path css, s.Submits path css (s.clients c) → ∃ id ticket,
    (moveFor setup c requestSteps s).clients c = .returned (.ok (some id)) ∧
      (moveFor setup c requestSteps s).tickets[id]? = some ticket ∧ ticket.path = path ∧
      ticket.css = css ∧ (.cancel id ∉ moves → ticket.state = .finished (.error failure))

/-- The ticket has been handed out, or is about to be after it has been put into the queue. -/
def IsIssued (s : State) (id : Nat) : Prop :=
  id ∈ s.issued ∨ ∃ c, s.clients c = .queued id

end State

section
variable {setup : Setup} {s t u : State} {m : Move} {c id : Nat} {failure : Failure}
  {before after moves : List Move}

/-! ## Tickets that have been handed out -/

/-- Nobody has a ticket in hand any more that has been handed out, the queue and the worker
apart. -/
structure Issued (s : State) : Prop where
  returned : ∀ {c id : Nat}, s.clients c = .returned (.ok (some id)) → id ∈ s.issued
  written : ∀ {id : Nat}, s.IsIssued id → id < s.tickets.length
  free : ∀ {id : Nat}, s.IsIssued id → ∀ c, id ∉ s.held (.client c)

theorem issued_initial (setup : Setup) : Issued (.initial setup) := by
  have hnone (id : Nat) : ¬ (State.initial setup).IsIssued id := by
    simp [State.IsIssued, State.initial]
  refine ⟨fun h => ?_, fun h => absurd h (hnone _), fun h => absurd h (hnone _)⟩
  simp [State.initial] at h

/-- A client hands out a ticket that it has put into the queue or had in hand, and no other. -/
theorem ClientStep.handsOut (h : ClientStep setup s c t) :
    (t.issued = s.issued ∧ ∀ id, t.clients c ≠ .returned (.ok (some id))) ∨
      ∃ id, t.issued = id :: s.issued ∧ t.clients c = .returned (.ok (some id)) ∧
        (s.clients c = .queued id ∨ (s.clients c).held = [id]) := by
  cases h with
  | noticed hc =>
      refine .inr ⟨_, ?_, clients_giveBack .., .inl hc⟩
      simp [giveBack_eq, handedOut, State.setClient, State.record]
  | @rejected id failure t' hc hf hr =>
      obtain ⟨tickets, rfl⟩ := frame_of_reject hr
      refine .inr ⟨id, ?_, clients_giveBack .., .inr (by simp [hc, Client.held])⟩
      simp [giveBack_eq, handedOut, State.setClient]
  | @finished id used step t' hc ha =>
      obtain ⟨tickets, log, rfl⟩ := ha.frame
      refine .inr ⟨id, ?_, clients_giveBack .., .inr (by simp [hc, Client.held])⟩
      simp [giveBack_eq, handedOut, State.setClient]
  | @joined request hc | @spawned request hc =>
      exact .inl ⟨rfl, by cases request <;> simp [State.setClient, Request.onward]⟩
  | analysed hc ha =>
      obtain ⟨tickets, log, rfl⟩ := ha.frame
      exact .inl ⟨rfl, by simp⟩
  | broke hc ha =>
      obtain ⟨tickets, log, rfl⟩ := ha.frame
      exact .inl ⟨by simp [giveBack_eq, handedOut, State.setClient], by simp⟩
  | toldInVain | noticedInVain | rejectedAmiss | admittedInVain =>
      exact .inl ⟨by simp [giveBack_eq, handedOut, State.setClient, State.record], by simp⟩
  | @waited outcome hc hf =>
      cases outcome <;>
        exact .inl ⟨by simp [giveBack_eq, handedOut, State.setClient, Except.map],
          by simp [Except.map]⟩
  | launched | told | queued | refused | admitted | began =>
      exact .inl ⟨rfl, by simp [State.setClient]⟩

/-- A ticket that comes into the queue has just been written. -/
theorem ClientStep.queued_of (h : ClientStep setup s c t) (hc : t.clients c = .queued id) :
    id = s.tickets.length ∧ t.tickets.length = s.tickets.length + 1 := by
  cases h with
  | queued =>
      rw [clients_setClient] at hc
      cases hc
      simp [State.setClient, State.write]
  | @joined request | @spawned request =>
      cases request <;> simp [State.setClient, Request.onward] at hc
  | _ => simp [State.setClient, giveBack_eq] at hc

/-- A ticket that is issued after a step was issued before it, or the client that has moved had it
in hand or has just written it; then this client has nothing in hand any more. -/
theorem ClientStep.issued_before (hr : Reachable setup s) (h : ClientStep setup s c t)
    (hi : t.IsIssued id) : s.IsIssued id ∨
      (id ∈ s.held (.client c) ∨ id = s.tickets.length) ∧ id < t.tickets.length ∧
        (t.clients c).held = [] := by
  have hlen := (h.effect hr.inStep hr.launch).length_le
  rcases hi with hi | ⟨d, hd⟩
  · rcases h.handsOut with ⟨hissued, -⟩ | ⟨i, hissued, hc, horigin⟩
    · exact .inl (.inl (hissued ▸ hi))
    · rw [hissued, List.mem_cons] at hi
      rcases hi with rfl | hi
      · rcases horigin with hqueued | hheld
        · exact .inl (.inr ⟨c, hqueued⟩)
        · have hmem : id ∈ s.held (.client c) := by simp [State.held, hheld]
          exact .inr ⟨.inl hmem, Nat.lt_of_lt_of_le (hr.custody.written hmem) hlen,
            by simp [hc, Client.held]⟩
      · exact .inl (.inl hi)
  · by_cases hdc : d = c
    · subst hdc
      obtain ⟨hnew, hlonger⟩ := h.queued_of hd
      exact .inr ⟨.inr hnew, by omega, by simp [hd, Client.held]⟩
    · exact .inl (.inr ⟨d, h.clients_of_ne hdc ▸ hd⟩)

theorem ClientStep.issued (hs : Issued s) (hr : Reachable setup s) (h : ClientStep setup s c t) :
    Issued t := by
  have hpassage := h.passage hr.launch hr.custody
  have hlen := (h.effect hr.inStep hr.launch).length_le
  have hothers {d : Nat} (hd : d ≠ c) := h.clients_of_ne hd
  constructor
  case returned =>
    intro d id hd
    rcases h.handsOut with ⟨hissued, hnone⟩ | ⟨i, hissued, hc, -⟩
    · have hdc : d ≠ c := fun hdc => hnone id (hdc ▸ hd)
      rw [hissued]
      exact hs.returned (hothers hdc ▸ hd)
    · rw [hissued]
      by_cases hdc : d = c
      · rw [hdc, hc] at hd
        cases hd
        exact List.mem_cons_self
      · exact List.mem_cons_of_mem _ (hs.returned (hothers hdc ▸ hd))
  case written =>
    intro id hi
    rcases h.issued_before hr hi with hold | ⟨-, hlt, -⟩
    · exact Nat.lt_of_lt_of_le (hs.written hold) hlen
    · exact hlt
  case free =>
    intro id hi d hheld
    rcases h.issued_before hr hi with hold | ⟨hfrom, -, hnone⟩
    · have hfree := hs.free hold d
      have hlt := hs.written hold
      cases hpassage with
      | kept htickets hline hclients | joined htickets hopen hroute hline hclients =>
          exact hfree (hclients d id hheld)
      | passed htickets hshut hroute hline hclients =>
          rcases hclients d id hheld with hheld | rfl
          · exact hfree hheld
          · exact Nat.lt_irrefl _ hlt
    · have hdc : d ≠ c := by
        rintro rfl
        simp [State.held, hnone] at hheld
      have hbefore : id ∈ s.held (.client d) := by
        rwa [State.held, hothers hdc] at hheld
      rcases hfrom with hmem | rfl
      · have hsame : Holder.client d = .client c := hr.custody.unique hbefore hmem
        exact hdc (Holder.client.inj hsame)
      · exact Nat.lt_irrefl _ (hr.custody.written hbefore)

theorem Step.issued (hs : Issued s) (hr : Reachable setup s) (h : Step setup s m t) :
    Issued t := by
  have hlen := (h.effect hr.inStep hr.launch).length_le
  have hsame (hissued : t.issued = s.issued) (hclients : t.clients = s.clients) : Issued t := by
    have hi {id : Nat} (hi : t.IsIssued id) : s.IsIssued id := by
      rwa [State.IsIssued, hissued, hclients] at hi
    refine ⟨fun hc => ?_, fun ht => Nat.lt_of_lt_of_le (hs.written (hi ht)) hlen, fun ht d => ?_⟩
    · rw [hissued]
      exact hs.returned (hclients ▸ hc)
    · rw [State.held, hclients]
      exact hs.free (hi ht) d
  cases h with
  | worker h => exact hsame h.frame.2.2.2 h.frame.2.1
  | client h => exact h.issued hs hr
  | @called c request hc =>
      have hi {id : Nat} (hi : (s.setClient c (.starting request)).IsIssued id) :
          s.IsIssued id := by
        rcases hi with hi | ⟨d, hd⟩
        · exact .inl hi
        · exact .inr ⟨d, clients_of_setClient hd (by simp)⟩
      refine ⟨fun hd => hs.returned (clients_of_setClient hd (by simp)),
        fun ht => hs.written (hi ht), fun ht d hheld => ?_⟩
      by_cases hdc : d = c
      · simp [State.held, hdc, Client.held] at hheld
      · simp only [State.held, State.setClient, hdc, if_false] at hheld
        exact hs.free (hi ht) d hheld
  | cancelled => exact hsame rfl rfl
  | spared => exact hs

theorem Reachable.issued (h : Reachable setup s) : Issued s :=
  h.invariant (issued_initial setup) fun hr hs hstep => hstep.issued hs hr

/-! ## From the break to the end -/

/-- When the collection breaks off, the accumulator is still open. -/
theorem State.BreaksOff.isFailing (hbreak : s.BreaksOff setup failure) (hr : Reachable setup s)
    (ht : s.step? setup .worker = some t) : t.IsFailing failure := by
  have hfed := hr.gathered.worker
  simp only [State.step?, State.workerStep?] at ht
  cases hbreak with
  | loader hw hf =>
      rw [hw] at hfed
      obtain ⟨done, -, hfeed⟩ := hfed
      simp only [hw, hf, Option.some.injEq] at ht
      subst ht
      exact ⟨(used_of_feedAll hfeed).1, rfl⟩
  | source hw htags =>
      rw [hw] at hfed
      obtain ⟨done, -, hfeed⟩ := hfed
      have hopen := (used_of_feedAll hfeed).1
      simp only [hw, Usage.Accumulator.feed, hopen, htags, Bool.false_eq_true, if_false,
        Option.some.injEq] at ht
      subst ht
      exact ⟨hopen, rfl⟩
  | listener hw hl =>
      rw [hw] at hfed
      obtain ⟨done, -, hfeed⟩ := hfed
      simp only [hw, State.emit, hl, Option.some.injEq] at ht
      subst ht
      exact ⟨(used_of_feedAll hfeed).1, rfl⟩

theorem State.IsFailing.collected_of_ended (hs : s.IsFailing failure) (hw : s.worker = .ended) :
    s.collected = some (.error failure) := by
  have hfails := hs.worker
  rwa [hw] at hfails

theorem WorkerStep.isFailing (hs : s.IsFailing failure) (hstep : s.AgreesWith s.worker)
    (ht : ∀ e, t.worker ≠ .died e) (h : WorkerStep setup s t) : t.IsFailing failure := by
  obtain ⟨hopen, hworker⟩ := hs
  cases h with
  | failed hw | rejected hw | reported hw =>
      rw [hw] at hworker
      exact ⟨hopen, hworker⟩
  | swept hw hr =>
      obtain ⟨tickets, rfl⟩ := frame_of_reject hr
      rw [hw] at hworker
      exact ⟨hopen, hworker⟩
  | sweptAll hw =>
      rw [hw] at hworker hstep
      obtain rfl : _ = failure := hworker
      exact ⟨hopen, hstep.2.2.1⟩
  | broke | sweptAmiss | completedInVain | reportedInVain | concludedTwice =>
      exact absurd rfl (ht _)
  | _ hw =>
      rw [hw] at hworker
      exact hworker.elim

/-- A collection that has failed stays failed. -/
theorem Step.isFailing (hs : s.IsFailing failure) (hr : Reachable setup s)
    (ht : ∀ e, t.worker ≠ .died e) (h : Step setup s m t) : t.IsFailing failure := by
  cases h with
  | worker h => exact h.isFailing hs hr.inStep.worker ht
  | client h =>
      obtain ⟨-, -, hcollected, haccumulator⟩ := h.frame
      obtain ⟨hopen, hworker⟩ := hs
      refine ⟨haccumulator ▸ hopen, ?_⟩
      rcases h.launches hr.launch with hsame | ⟨habsent, -⟩
      · rw [hsame]
        simpa only [State.FailsWith, hcollected] using hworker
      · rw [habsent] at hworker
        exact hworker.elim
  | called | cancelled | spared => exact ⟨hs.isOpen, hs.worker⟩

/-- A worker that still gathers has done nothing else before. -/
theorem Step.isGathering_of (hlaunch : Launch s) (h : Step setup s m t)
    (ht : t.worker.IsGathering) : s.worker.IsGathering := by
  cases h with
  | worker h =>
      cases h with
      | opened hw | fed hw | told hw => simp [hw, Worker.IsGathering]
      | analysed | finished | broke | swept => exact ht.elim
      | _ => exact ht.elim
  | client h =>
      rcases h.launches hlaunch with hsame | ⟨habsent, -⟩
      · exact hsame ▸ ht
      · simp [habsent, Worker.IsGathering]
  | called | cancelled | spared => exact ht

theorem isGathering_of_after (hr : Reachable setup s) (h : s.after? setup moves = some t)
    (ht : t.worker.IsGathering) : s.worker.IsGathering := by
  apply Classical.byContradiction
  intro hs
  have hleads : s.LeadsTo setup (fun _ => True) t := ⟨moves, fun _ _ => trivial, h⟩
  refine (hleads.keeps (Q := fun u => ¬ u.worker.IsGathering ∧ Reachable setup u) ⟨hs, hr⟩ ?_).1 ht
  rintro u v m - ⟨hu, hr⟩ hm
  exact ⟨fun hv => hu ((step_of_step? hm).isGathering_of hr.launch hv), hr.step m hm⟩

theorem isFailing_of_after (hcalm : setup.IsCalm) (hr : Reachable setup s)
    (hs : s.IsFailing failure) (h : s.after? setup moves = some t) : t.IsFailing failure := by
  have hleads : s.LeadsTo setup (fun _ => True) t := ⟨moves, fun _ _ => trivial, h⟩
  refine (hleads.keeps (Q := fun u => u.IsFailing failure ∧ Reachable setup u) ⟨hs, hr⟩ ?_).1
  rintro u v m - ⟨hu, hr⟩ hm
  have hv := hr.step m hm
  exact ⟨(step_of_step? hm).isFailing hu hr (hcalm.worker_ne_died hv), hv⟩

/-- A ticket is kept by moves that do not cancel it. -/
theorem isKept_of_after (hr : Reachable setup s) (h : s.after? setup moves = some t)
    (hmoves : .cancel id ∉ moves)
    (hs : ∀ ticket, s.tickets[id]? = some ticket → ticket.state.isKept = true) :
    ∀ ticket, t.tickets[id]? = some ticket → ticket.state.isKept = true := by
  have hleads : s.LeadsTo setup (fun m => m ≠ .cancel id) t :=
    ⟨moves, fun m hm hcancel => hmoves (hcancel ▸ hm), h⟩
  refine (hleads.keeps (Q := fun u => (∀ ticket, u.tickets[id]? = some ticket →
    ticket.state.isKept = true) ∧ Reachable setup u) ⟨hs, hr⟩ ?_).1
  rintro u v m hm ⟨hu, hr⟩ hstep
  exact ⟨fun ticket =>
    ((step_of_step? hstep).effect hr.inStep hr.launch).isKept hm hu, hr.step m hstep⟩

/-! ## What shows of the collection -/

/-- While the worker gathers, the record tells of no end. -/
theorem Told.tellsEnd_of_gathering (hs : Told setup s) (hw : s.worker.IsGathering) :
    s.TellsEnd [] := by
  have hworker := hs.worker
  cases h : s.worker <;> rw [h] at hworker hw
  case absent =>
    refine ⟨s.collectionEvents, (List.append_nil _).symm, fun e he => ?_⟩
    rcases hworker with hnone | hstarted
    · rw [hnone] at he
      cases he
    · rw [hstarted, List.mem_singleton] at he
      exact .inl (he ▸ rfl)
  case opening =>
    have htold : s.HasTold setup [] [] := hworker
    exact htold.tellsEnd
  case taking =>
    obtain ⟨done, -, -, htold⟩ := hworker
    exact htold.tellsEnd
  case parsed =>
    obtain ⟨done, source, tags, -, -, -, -, -, htold⟩ := hworker
    exact htold.tellsEnd
  all_goals exact hw.elim

/-- After the break the record tells of the failure once, and not before the outcome is known. -/
theorem Told.tellsEnd_of_failing (hs : Told setup s) (hw : s.IsFailing failure) :
    s.TellsEnd [] ∧ s.worker ≠ .ended ∨ s.TellsEnd [.collectionFailed failure.message] := by
  have hworker := hs.worker
  have hfails := hw.worker
  cases h : s.worker <;> rw [h] at hworker hfails
  case failing | rejecting | reporting =>
    obtain ⟨done, -, htold⟩ := hworker
    exact .inl ⟨htold.tellsEnd, by simp⟩
  case sweeping =>
    obtain rfl : _ = failure := hfails
    obtain ⟨done, -, htold⟩ := hworker
    exact .inr htold.tellsEnd
  case ended =>
    obtain ⟨done, -, htold⟩ := hworker _ hfails
    exact .inr htold.tellsEnd
  all_goals exact hfails.elim

/-- An accumulator that is still open keeps the rest of the session from showing anything. -/
theorem withholds_of_tellsEnd (hcalm : setup.IsCalm) (hr : Reachable setup s)
    (hopen : s.accumulator.isFrozen = false) (hphase : s.phase ≠ .ready)
    (hcollected : ∀ outcome, s.collected = some outcome → outcome = .error failure)
    (hend : s.TellsEnd [] ∨ s.TellsEnd [.collectionFailed failure.message]) :
    s.Withholds failure := by
  have hnone : s.analysisEvents = [] := by
    apply Classical.byContradiction
    intro hne
    have hfrozen := (hr.informed.complete hne).isFrozen
    rw [hopen] at hfrozen
    cases hfrozen
  refine ⟨hphase, hopen, fun e he => ⟨fun hkind => ?_, ?_⟩, ?_, hcollected, ?_⟩
  · rcases hend with hend | hend
    · cases hend.mem_of_completed he hkind
    · rw [List.mem_singleton.1 (hend.mem_of_completed he hkind)] at hkind
      cases hkind
  · rw [State.analysisEvents, List.filter_eq_nil_iff] at hnone
    simpa using hnone e he
  · exact hend.imp State.TellsEnd.failures State.TellsEnd.failures
  · intro ticket hmem outcome hfinished
    obtain ⟨i, hticket⟩ := List.mem_iff_getElem?.1 hmem
    have hdecided := hcalm.decided hr
    cases outcome with
    | ok v =>
        obtain ⟨used, hused⟩ := hdecided.verdict hticket hfinished
        cases hcollected _ hused
    | error e =>
        have hfails := hdecided.failure hticket hfinished
        cases hheld : s.collected with
        | none =>
            rw [hheld] at hfails
            exact hfails.elim
        | some outcome =>
            cases hcollected outcome hheld
            rw [hheld] at hfails
            exact congrArg Except.error hfails

theorem withholds_of_gathering (hcalm : setup.IsCalm) (hr : Reachable setup s)
    (hw : s.worker.IsGathering) (failure : Failure) : s.Withholds failure := by
  have hfed := hr.gathered.worker
  have hstep := hr.inStep.worker
  have hopen : s.accumulator.isFrozen = false := by
    cases h : s.worker <;> rw [h] at hfed hw
    case absent | opening =>
      rw [show s.accumulator = _ from hfed]
      rfl
    case taking | parsed =>
      obtain ⟨done, -, hfeed⟩ := hfed
      exact (used_of_feedAll hfeed).1
    all_goals exact hw.elim
  have hcollecting : s.phase = .collecting ∧ s.draining = false ∧ s.collected = none := by
    cases h : s.worker <;> rw [h] at hstep hw <;> first | exact hstep | exact hw.elim
  refine withholds_of_tellsEnd hcalm hr hopen (by simp [hcollecting.1]) ?_
    (.inl (hr.told.tellsEnd_of_gathering hw))
  simp [hcollecting.2.2]

theorem withholds_of_failing (hcalm : setup.IsCalm) (hr : Reachable setup s)
    (hs : s.IsFailing failure) : s.Withholds failure := by
  have hfails := hs.worker
  have hstep := hr.inStep.worker
  have hknown : s.phase ≠ .ready ∧
      ∀ outcome, s.collected = some outcome → outcome = .error failure := by
    cases h : s.worker <;> rw [h] at hfails hstep
    case failing => simp [hstep.1, hstep.2.2]
    case rejecting => simp [hstep.1, hstep.2.2.1]
    case reporting | sweeping =>
      obtain rfl : _ = failure := hfails
      simp [hstep.1, hstep.2.2.1, eq_comm]
    case ended =>
      have hcollected : s.collected = some (.error failure) := hfails
      simp [hstep.1.phase_eq_failed hcollected, hcollected, eq_comm]
    all_goals exact hfails.elim
  refine withholds_of_tellsEnd hcalm hr hs.isOpen hknown.1 hknown.2 ?_
  exact (hr.told.tellsEnd_of_failing hs).imp And.left id

/-! ## What is left at the end -/

theorem started_of_present (hlaunch : Launch s) (hw : s.worker ≠ .absent) : s.started = true := by
  cases h : s.started with
  | true => rfl
  | false => exact absurd (hlaunch.absent_of_not_started h) hw

/-- Whoever waits for a collection that has failed gets the failure. -/
theorem returned_of_waiting (hstarted : s.started = true)
    (hcollected : s.collected = some (.error failure))
    (hc : s.clients c = .waiting ∨ s.clients c = .starting .waitReady) :
    (State.moveFor setup c State.requestSteps s).clients c = .returned (.error failure) := by
  rcases hc with hc | hc <;>
    simp [State.moveFor, State.requestSteps, State.clientStep?, State.proceed, State.giveBack,
      State.setClient, hc, hstarted, hcollected]

/-- When the worker has ended, a ticket that has been handed out bears the failure unless it has
been cancelled. -/
theorem finished_of_issued (hcalm : setup.IsCalm)
    (h : (State.initial setup).after? setup moves = some s) (hw : s.worker = .ended)
    (hcollected : s.collected = some (.error failure)) (hi : id ∈ s.issued)
    (hcancel : .cancel id ∉ moves) :
    ∃ ticket, s.tickets[id]? = some ticket ∧ ticket.state = .finished (.error failure) := by
  have hr : Reachable setup s := Reachable.initial.after h
  have hstep := hr.inStep.worker
  rw [hw] at hstep
  have hticket := List.getElem?_eq_getElem (hr.issued.written (.inl hi))
  have hfree (holder : Holder) : id ∉ s.held holder := by
    cases holder with
    | queue => simp [State.held, hstep.2.2]
    | worker => simp [State.held, hw, Worker.held]
    | client c => exact hr.issued.free (.inl hi) c
  obtain ⟨history, hrun⟩ := hr.exists_run
  have hclosed := ((hcalm.recorded hrun).accounts id).closed hfree hticket
  rw [hstep.1.phase_eq_failed hcollected] at hclosed
  refine ⟨_, hticket, ?_⟩
  rcases hclosed.of_failed with ⟨hdropped, -⟩ | ⟨e, hfailed, -⟩
  · have hkept := isKept_of_after .initial h hcancel (by simp [State.initial]) _ hticket
    rw [hdropped] at hkept
    cases hkept
  · have hfails := (hcalm.decided hr).failure hticket hfailed
    rw [hcollected] at hfails
    obtain rfl : e = failure := hfails
    exact hfailed

/-- Whoever submits a stylesheet when the worker has ended gets a ticket for it. -/
theorem exists_ticket_of_submits (hcalm : setup.IsCalm) (hr : Reachable setup s)
    (hw : s.worker = .ended) {path css : String} (hs : s.Submits path css (s.clients c)) :
    ∃ id, (State.moveFor setup c State.requestSteps s).clients c = .returned (.ok (some id)) ∧
      (State.moveFor setup c State.requestSteps s).IsAbout id path css := by
  have hleads := leadsTo_moveFor setup c State.requestSteps s
  have hwork : (s.clients c).work ≤ State.requestSteps := by
    cases h : s.clients c with
    | analysing id used step => cases step <;> simp [Client.work, Analysis.work, State.requestSteps]
    | _ => simp [Client.work, State.requestSteps]
  obtain ⟨hfree, hsubmits, hu⟩ := hleads.keeps (Q := fun u => u.IsFree ∧
      u.Submits path css (u.clients c) ∧ Reachable setup u) ⟨.inr hw, hs, hr⟩ (by
    rintro u v m rfl ⟨hfree, hsubmits, hu⟩ hm
    cases step_of_step? hm with
    | client hstep => exact ⟨hstep.isFree hu hfree, hstep.submits hcalm hu hsubmits, hu.step _ hm⟩)
  exact hu.returned_of_stuck hfree hsubmits (moveFor_stops hwork)

theorem comesToNothing_of_ended (hcalm : setup.IsCalm)
    (h : (State.initial setup).after? setup moves = some s) (hs : s.IsFailing failure)
    (hw : s.worker = .ended) : s.ComesToNothing setup moves failure := by
  have hr : Reachable setup s := Reachable.initial.after h
  have hstep := hr.inStep.worker
  rw [hw] at hstep
  have hcollected := hs.collected_of_ended hw
  constructor
  case phase => exact hstep.1.phase_eq_failed hcollected
  case failures =>
    rcases hr.told.tellsEnd_of_failing hs with ⟨-, hnot⟩ | hend
    · exact absurd hw hnot
    · exact hend.failures
  case collected => exact hcollected
  case tickets => exact fun id hi => finished_of_issued hcalm h hw hcollected hi
  case waits =>
    intro c hc
    exact returned_of_waiting (started_of_present hr.launch (by simp [hw])) hcollected hc
  case submits =>
    intro c path css hsubmits
    obtain ⟨id, hreturned, ticket, hticket, hpath, hcss⟩ :=
      exists_ticket_of_submits hcalm hr hw hsubmits
    refine ⟨id, ticket, hreturned, hticket, hpath, hcss, fun hcancel => ?_⟩
    -- the moves that end the submission are moves of the session too
    obtain ⟨more, hmore, hafter⟩ := leadsTo_moveFor setup c State.requestSteps s
    have hall := (State.after?_append h more).trans hafter
    have hworker := (hr.worker_moveFor (by simp [hw]) c State.requestSteps).trans hw
    have hcollected' := (isFailing_of_after hcalm hr hs hafter).collected_of_ended hworker
    have hissued := (Reachable.initial.after hall).issued.returned hreturned
    have hcancel' : .cancel id ∉ moves ++ more := by
      rw [List.mem_append]
      rintro (hmem | hmem)
      · exact hcancel hmem
      · cases hmore _ hmem
    obtain ⟨found, hfound, hfinished⟩ :=
      finished_of_issued hcalm hall hworker hcollected' hissued hcancel'
    rw [hticket] at hfound
    cases hfound
    exact hfinished

/-- If the loader, the reader of markup or a listener at the news of a source breaks the collection
off, and listeners raise nothing at other events, then in whatever order the worker and the clients
move, nothing partial ever shows, before the break or after it. The worker goes on to its end in a
failed session, and there the failure is all that comes of the collection: it is announced once, it
is on every ticket that has not been cancelled, and it is the answer to everybody who waits for the
used classes. -/
theorem failed_collection_comes_to_nothing (hcalm : setup.IsCalm)
    (hs : (State.initial setup).after? setup before = some s) (hbreak : s.BreaksOff setup failure)
    (ht : s.after? setup (.worker :: after) = some t) :
    (∀ earlier later u, before ++ .worker :: after = earlier ++ later →
      (State.initial setup).after? setup earlier = some u → u.Withholds failure) ∧
    (t.runWorker setup).worker = .ended ∧ (t.runWorker setup).phase = .failed ∧
    (t.worker = .ended → t.ComesToNothing setup (before ++ .worker :: after) failure) := by
  have hr : Reachable setup s := Reachable.initial.after hs
  have hgathering : s.worker.IsGathering := by
    cases hbreak with
    | loader hw | source hw | listener hw => simp [hw, Worker.IsGathering]
  -- whatever follows the break finds the collection failed
  have hfailing {rest : List Move} {u : State} (hu : s.after? setup (.worker :: rest) = some u) :
      u.IsFailing failure := by
    simp only [State.after?] at hu
    cases hm : s.step? setup .worker with
    | none => simp [hm] at hu
    | some s' =>
        simp only [hm] at hu
        exact isFailing_of_after hcalm (hr.step _ hm) (hbreak.isFailing hr hm) hu
  have hall := (State.after?_append hs (.worker :: after)).trans ht
  have htr : Reachable setup t := Reachable.initial.after hall
  refine ⟨fun earlier later u hmoves hu => ?_, ?_⟩
  · have hur : Reachable setup u := Reachable.initial.after hu
    rcases List.append_eq_append_iff.1 hmoves with ⟨rest, hearlier, hrest⟩ | ⟨rest, hbefore, -⟩
    · subst hearlier
      rw [State.after?_append hs] at hu
      cases rest with
      | nil =>
          cases hu
          exact withholds_of_gathering hcalm hr hgathering failure
      | cons m rest =>
          rw [List.cons_append, List.cons.injEq] at hrest
          exact withholds_of_failing hcalm hur (hfailing (hrest.1 ▸ hu))
    · subst hbefore
      rw [State.after?_append hu] at hs
      exact withholds_of_gathering hcalm hur (isGathering_of_after hur hs hgathering) failure
  · obtain ⟨more, -, hmore⟩ : t.LeadsTo setup (· = .worker) (t.runWorker setup) :=
      leadsTo_runWorker t
    have hend := isFailing_of_after hcalm htr (hfailing ht) hmore
    have hw : (t.runWorker setup).worker = .ended := by
      refine hcalm.worker_runWorker htr fun habsent => ?_
      have hfails := (hfailing ht).worker
      rw [habsent] at hfails
      exact hfails
    refine ⟨hw, ?_, comesToNothing_of_ended hcalm hall (hfailing ht)⟩
    have hrun := (State.after?_append hall more).trans hmore
    exact (comesToNothing_of_ended hcalm hrun hend hw).phase

end

/-- A session in which a listener raises something at the news of the second source. -/
def brokenSetup : Setup where
  patterns := []
  directives := true
  exemptions := []
  load := ⟨[], [⟨"page.html", "<p class='used'>"⟩, ⟨"more.html", "<p class='more'>"⟩], none⟩
  listener := fun _ e =>
    if e.kind = .sourceParsed ∧ e.path? = some "more.html" then some (.raised "ValueError" "no")
    else none

/-- Two stylesheets wait for the collection, and the second one is cancelled. -/
def movesBeforeBreak : List Move :=
  List.flatten [
    [.call 0 (.submit "a.css" "")], List.replicate 5 (.client 0),
    [.call 1 (.submit "b.css" "")], List.replicate 3 (.client 1), [.cancel 1],
    List.replicate 4 .worker]

/-- A third stylesheet comes when the session has failed but its failure is not known yet; another
client waits for the collection. -/
def movesAfterBreak : List Move :=
  List.flatten [
    [.worker, .call 2 (.submit "c.css" "")], List.replicate 2 (.client 2),
    [.call 3 .waitReady, .client 3], List.replicate 5 .worker, [.client 2]]

theorem failed_collection_comes_to_nothing_sample : ∃ s t,
    (State.initial brokenSetup).after? brokenSetup movesBeforeBreak = some s ∧
    s.accumulator.used = ["more", "used"] ∧
    s.BreaksOff brokenSetup (.raised "ValueError" "no") ∧
    s.after? brokenSetup (.worker :: movesAfterBreak) = some t ∧
    t.worker = .ended ∧ t.issued = [2, 1, 0] ∧ t.clients 3 = .waiting ∧
    (∀ earlier later u, movesBeforeBreak ++ .worker :: movesAfterBreak = earlier ++ later →
      (State.initial brokenSetup).after? brokenSetup earlier = some u →
      u.Withholds (.raised "ValueError" "no")) ∧
    t.ComesToNothing brokenSetup (movesBeforeBreak ++ .worker :: movesAfterBreak)
      (.raised "ValueError" "no") := by
  have hbefore : ((State.initial brokenSetup).after? brokenSetup movesBeforeBreak).map
      (fun s => (s.accumulator.used, match s.worker with
        | .parsed path added _ _ =>
            brokenSetup.listener (eventsOf s.log).length (.sourceParsed path added)
        | _ => none)) = some (["more", "used"], some (.raised "ValueError" "no")) := by
    decide +kernel
  have hafter : ((State.initial brokenSetup).after? brokenSetup
      (movesBeforeBreak ++ .worker :: movesAfterBreak)).map
      (fun t => (t.worker matches .ended, t.issued, t.clients 3 matches .waiting)) =
      some (true, [2, 1, 0], true) := by
    decide +kernel
  obtain ⟨s, hs, hseen⟩ := Option.map_eq_some_iff.1 hbefore
  rw [State.after?_append hs] at hafter
  obtain ⟨t, ht, hend⟩ := Option.map_eq_some_iff.1 hafter
  simp only [Prod.mk.injEq] at hseen hend
  obtain ⟨hused, hbroken⟩ := hseen
  obtain ⟨hworker, hissued, hclient⟩ := hend
  have hended : t.worker = .ended := by
    cases h : t.worker <;> simp [h] at hworker
    rfl
  have hwaiting : t.clients 3 = .waiting := by
    cases h : t.clients 3 <;> simp [h] at hclient
    rfl
  have hbreak : s.BreaksOff brokenSetup (.raised "ValueError" "no") := by
    cases h : s.worker <;> simp only [h, reduceCtorEq] at hbroken
    exact .listener h hbroken
  have hcalm : brokenSetup.IsCalm := by
    intro n e he
    simp [brokenSetup, he]
  obtain ⟨hwithheld, -, -, hnothing⟩ := failed_collection_comes_to_nothing hcalm hs hbreak ht
  exact ⟨s, t, hs, hused, hbreak, ht, hended, hissued, hwaiting, hwithheld, hnothing hended⟩

end StyleUsage.Session
