import StyleUsage.Proofs.Session.Completion
import StyleUsage.Proofs.Session.Verdicts

/-!
# How a session turns out

With listeners that raise nothing, the outcome of the collection depends on the loader alone, and
the outcome on a ticket on that and on the text of the stylesheet. When a ticket gets its outcome
makes no difference to it.
-/

namespace StyleUsage.Session

open StyleUsage.Usage

/-- What the collection comes to: the used classes, or the first refusal of a source, or the failure
of the loader after its last source. -/
def Setup.collection (setup : Setup) : Except Failure (List String) :=
  match setup.accumulator.feedAll (setup.load.sources.map (·.text)) with
  | .error refusal => .error (.refused refusal)
  | .ok a =>
      match setup.load.failure with
      | some failure => .error failure
      | none => .ok a.used

/-- What the analysis of a stylesheet comes to. -/
def Setup.outcome (setup : Setup) (path css : String) : Except Failure Verdict :=
  setup.collection.bind fun used => finding setup used path css

theorem feedAll_of_error {a b : Accumulator} {texts rest : List String} {text : String}
    {refusal : Refusal} (ha : a.feedAll texts = .ok b) (hb : b.feed text = .error refusal) :
    a.feedAll (texts ++ text :: rest) = .error refusal := by
  induction texts generalizing a with
  | nil =>
      cases ha
      simp [Accumulator.feedAll, hb]
  | cons first texts ih =>
      simp only [List.cons_append, Accumulator.feedAll] at ha ⊢
      cases hfeed : a.feed first with
      | error e => simp [hfeed] at ha
      | ok a' =>
          simp only [hfeed] at ha ⊢
          exact ih ha

section
variable {setup : Setup} {s t : State} {m : Move} {history : List (Nat × Mark)}

/-! ## The collection -/

/-- What the stage of the worker says about the outcome of the collection. -/
def Worker.Expects (collection : Except Failure (List String)) : Worker → Prop
  | .publishing used _ | .handing used _ => collection = .ok used
  | .failing failure | .rejecting failure _ => collection = .error failure
  | _ => True

/-- The session comes to the outcome of the collection. -/
structure Concludes (setup : Setup) (s : State) : Prop where
  worker : s.worker.Expects setup.collection
  collected : ∀ outcome, s.collected = some outcome → outcome = setup.collection

theorem concludes_initial (setup : Setup) : Concludes setup (.initial setup) where
  worker := trivial
  collected _ h := by cases h

theorem WorkerStep.concludes (hquiet : ∀ n e, setup.listener n e = none)
    (hs : Concludes setup s) (hgathered : s.Gathered setup) (h : WorkerStep setup s t) :
    Concludes setup t := by
  have hworker := hs.worker
  have hfed := hgathered.worker
  cases h with
  | ranOut hw hf =>
      rw [hw] at hfed
      obtain ⟨done, hdone, hfeed⟩ := hfed
      rw [List.append_nil] at hdone
      subst hdone
      refine ⟨?_, hs.collected⟩
      simp [Worker.Expects, Setup.collection, hfeed, hf]
  | froze hw hf =>
      rw [hw] at hfed
      obtain ⟨done, hdone, hfeed⟩ := hfed
      rw [List.append_nil] at hdone
      subst hdone
      refine ⟨?_, hs.collected⟩
      simp [Worker.Expects, Setup.collection, hfeed, hf]
  | @refused source rest count refusal hw hf =>
      rw [hw] at hfed
      obtain ⟨done, hdone, hfeed⟩ := hfed
      have hall : setup.accumulator.feedAll (setup.load.sources.map (·.text)) = .error refusal := by
        rw [← hdone, List.map_append, List.map_cons]
        exact feedAll_of_error hfeed hf
      refine ⟨?_, hs.collected⟩
      simp [Worker.Expects, Setup.collection, hall]
  | toldInVain hw hl =>
      rw [hquiet] at hl
      cases hl
  | published hw | failed hw =>
      rw [hw] at hworker
      exact ⟨hworker, hs.collected⟩
  | handed hw hc | rejected hw hc =>
      rw [hw] at hworker
      refine ⟨trivial, fun outcome ho => ?_⟩
      cases ho
      exact hworker.symm
  | analysed hw ha | finished hw ha | broke hw ha =>
      obtain ⟨tickets, log, rfl⟩ := ha.frame
      exact ⟨trivial, hs.collected⟩
  | swept hw hr =>
      obtain ⟨tickets, rfl⟩ := frame_of_reject hr
      exact ⟨trivial, hs.collected⟩
  | _ => exact ⟨trivial, hs.collected⟩

theorem Step.concludes (hquiet : ∀ n e, setup.listener n e = none) (hs : Concludes setup s)
    (hr : Reachable setup s) (h : Step setup s m t) : Concludes setup t := by
  cases h with
  | worker h => exact h.concludes hquiet hs hr.gathered
  | client h =>
      refine ⟨?_, fun outcome ho => hs.collected outcome (h.frame.2.2.1 ▸ ho)⟩
      rcases h.launches hr.launch with hworker | ⟨-, hworker⟩
      · exact hworker ▸ hs.worker
      · rw [hworker]
        trivial
  | called | cancelled | spared => exact ⟨hs.worker, hs.collected⟩

theorem Reachable.concludes (hquiet : ∀ n e, setup.listener n e = none)
    (h : Reachable setup s) : Concludes setup s :=
  h.invariant (concludes_initial setup) fun hr hs hstep => hstep.concludes hquiet hs hr

/-! ## Tickets -/

/-- A ticket fails with the collection, or for want of room for reading its stylesheet. -/
def Ticket.FailsWith (ticket : Ticket) (failure : Failure) :
    Option (Except Failure (List String)) → Prop
  | some (.error e) => failure = e
  | some (.ok _) => Stylesheet.isTooDeep ticket.css = true ∧ failure = .tooDeep
  | none => False

/-- A failure comes on a ticket when it is rejected, or at the end of its analysis. -/
theorem Effect.source_of_failure {i : Nat} {ticket : Ticket} {failure : Failure}
    (h : Effect setup s m t) (hstep : s.InStep) (hs : Recorded s history)
    (ht : t.tickets[i]? = some ticket) (hf : ticket.state = .finished (.error failure)) :
    s.tickets[i]? = some ticket ∨ ticket.FailsWith failure s.collected := by
  have hwritten {id : Nat} {state : TicketState} (hstate : state ≠ .finished (.error failure))
      (ht : (s.setTicket id state).tickets[i]? = some ticket) : s.tickets[i]? = some ticket := by
    rcases ticket_of_setTicket ht with hold | ⟨-, old, -, rfl⟩
    · exact hold
    · exact absurd hf hstate
  cases h with
  | still hheld hnext htickets | broken hs ht' htickets | taken hq hfree hheld hn hc htickets =>
      exact .inl (htickets ▸ ht)
  | entered htickets hstate =>
      rw [htickets, List.getElem?_append] at ht
      split at ht
      case isTrue => exact .inl ht
      case isFalse =>
          rw [List.getElem?_singleton] at ht
          split at ht
          · cases ht
            rw [hstate] at hf
            cases hf
          · cases ht
  | cancelled hheld hnext ht' hstate htickets =>
      exact .inl (hwritten (by simp) (htickets ▸ ht))
  | rejected hp hheld hbegin hr ht' hnext htickets hsame hevents hfailure =>
      rw [htickets] at ht
      obtain ⟨old, -, ⟨-, rfl⟩ | ⟨-, rfl⟩⟩ := reject_eq_ok hr
      · rcases ticket_of_setTicket ht with hold | ⟨-, old, -, rfl⟩
        · exact .inl hold
        · cases hf
          exact .inr (by rw [hfailure]; rfl)
      · exact .inl (hwritten (by simp) ht)
  | analysed ha hm hstep ht' htickets =>
      rw [htickets] at ht
      cases hstep with
      | begun => exact .inl (hwritten (by simp) ht)
      | _ => exact .inl ht
  | finished ha hm hstep ht' htickets =>
      rw [htickets] at ht
      cases hstep with
      | dropped => exact .inl (hwritten (by simp) ht)
      | @settled old outcome hold =>
          cases outcome with
          | ok v => exact .inl (hwritten (by simp) ht)
          | error e =>
              have hawaits := ((hs.accounts _).held ha.mem hold).1
              rw [ha.held.2] at hawaits
              rcases ticket_of_setTicket ht with hsame | ⟨rfl, found, hfound, rfl⟩
              · exact .inl hsame
              · rw [hold] at hfound
                cases hfound
                cases hf
                rw [(ha.collected hstep).2]
                exact .inr hawaits.2

/-- Whoever has got an outcome has got it after the collection was over. -/
structure Decided (s : State) : Prop where
  verdict : ∀ {i : Nat} {ticket : Ticket} {v : Verdict}, s.tickets[i]? = some ticket →
    ticket.state = .finished (.ok v) → ∃ used, s.collected = some (.ok used)
  failure : ∀ {i : Nat} {ticket : Ticket} {failure : Failure}, s.tickets[i]? = some ticket →
    ticket.state = .finished (.error failure) → ticket.FailsWith failure s.collected

theorem decided_initial (setup : Setup) : Decided (.initial setup) where
  verdict h := by simp [State.initial] at h
  failure h := by simp [State.initial] at h

theorem Step.decided (hs : Decided s) (hr : Reachable setup s) (hrecorded : Recorded s history)
    (h : Step setup s m t) : Decided t := by
  have heffect := h.effect hr.inStep hr.launch
  constructor
  case verdict =>
    intro i ticket v ht hv
    rcases heffect.source_of_verdict ht hv with hold | ⟨holder, old, hheld, hnext, -⟩
    · obtain ⟨used, hused⟩ := hs.verdict hold hv
      exact ⟨used, h.collected_eq hr.inStep hused⟩
    · have hpast : s.next holder ≠ .begin := by simp [hnext]
      obtain ⟨id, used, ha⟩ := analyses_of_next_ne hpast
      exact ⟨used, h.collected_eq hr.inStep (ha.collected hr.inStep).2⟩
  case failure =>
    intro i ticket failure ht hf
    have hfails : ticket.FailsWith failure s.collected :=
      (heffect.source_of_failure hr.inStep hrecorded ht hf).elim (hs.failure · hf) id
    cases hcollected : s.collected with
    | none =>
        rw [hcollected] at hfails
        exact hfails.elim
    | some outcome => rwa [h.collected_eq hr.inStep hcollected, ← hcollected]

theorem Setup.IsCalm.decided (hcalm : setup.IsCalm) (h : Reachable setup s) : Decided s := by
  refine h.invariant (decided_initial setup) fun hr hs hstep => ?_
  obtain ⟨history, hrun⟩ := hr.exists_run
  exact hstep.decided hs hr (hcalm.recorded hrun)

theorem Reachable.decided (hquiet : ∀ n e, setup.listener n e = none) (h : Reachable setup s) :
    Decided s :=
  (isCalm_of_quiet hquiet).decided h

/-- Whatever ticket gets an outcome gets the one that its stylesheet has to get. -/
theorem Reachable.outcome_eq (hquiet : ∀ n e, setup.listener n e = none) (h : Reachable setup s)
    {i : Nat} {ticket : Ticket} {outcome : Except Failure Verdict}
    (hticket : s.tickets[i]? = some ticket) (hfinished : ticket.state = .finished outcome) :
    outcome = setup.outcome ticket.path ticket.css := by
  have hcollection := (h.concludes hquiet).collected
  cases outcome with
  | error failure =>
      have hfails := (h.decided hquiet).failure hticket hfinished
      cases hcollected : s.collected with
      | none =>
          rw [hcollected] at hfails
          exact hfails.elim
      | some outcome =>
          rw [hcollected] at hfails
          rw [Setup.outcome, ← hcollection _ hcollected]
          cases outcome with
          | error e => exact congrArg Except.error hfails
          | ok used => exact (finding_eq_error_iff.2 hfails).symm
  | ok v =>
      obtain ⟨used, hused⟩ := (h.decided hquiet).verdict hticket hfinished
      obtain ⟨-, hv⟩ := h.informed.finished hticket hfinished
      rw [Setup.outcome, ← hcollection _ hused, (h.gathered.collected used hused).2]
      exact hv.symm

end

end StyleUsage.Session
