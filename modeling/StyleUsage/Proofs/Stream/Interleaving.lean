import StyleUsage.Proofs.Session.Release
import StyleUsage.Stream

/-!
# Streams beside a worker

While a stream deals with its documents one after the other, the worker of its session moves at any
time. These are all the ways in which a stream can run, whatever the worker does in between; the one
in which the worker moves only while it is waited for is among them.
-/

namespace StyleUsage.Stream

open Session
open Session.State (soleClient)

/-! ## One document -/

/-- What becomes of a document: it passes, or the stream stops at it, perhaps with a failure, and
perhaps with a notice. -/
inductive Fate where
  | passes
  | stops (failure : Option Failure) (notice : Option String)

/-- What becomes of a document whose stylesheet has been checked. -/
def Fate.ofOutcome (softStop : Bool) (d : Document) : Except Session.Failure Verdict → Fate
  | .error e => .stops (some (.session e)) none
  | .ok v =>
      match v.outcome with
      | .error e => if softStop then .passes else .stops (some (.notParsed d.path e)) none
      | .ok report =>
          if report.isClean then .passes
          else
            .stops (if softStop then none else some (.unusedClasses d.path report.unused))
              (some (unusedNotice d.path report.unused))

/-- Notice is given of a document at which the stream stops. -/
def noteOf (s : State) : Option String → State
  | some message => s.note .warning message
  | none => s

/-- The worker moves, or the client goes on with its request. -/
def IsOnward (m : Move) : Prop :=
  m = .worker ∨ m = .client soleClient

/-- Who has submitted a stylesheet gets the outcome on the ticket, or has got a failure instead of
a ticket. -/
inductive Answers (s : State) : Except Session.Failure Verdict → Prop where
  | outcome {id : Nat} {outcome : Except Session.Failure Verdict}
      (hc : s.clients soleClient = .returned (.ok (some id))) (ho : s.outcome? id = some outcome) :
      Answers s outcome
  | failure {e : Session.Failure} (hc : s.clients soleClient = .returned (.error e)) :
      Answers s (.error e)

/-- A stylesheet is submitted, and its outcome is waited for. The worker may have moved on when the
stream goes on. -/
def Checks (setup : Setup) (s : State) (path css : String) (t : State)
    (outcome : Except Session.Failure Verdict) : Prop :=
  ∃ u, s.step? setup (.call soleClient (.submit path css)) = some u ∧
    u.LeadsTo setup IsOnward t ∧ Answers t outcome

/-- A document is dealt with. -/
inductive Handles (setup : Setup) (softStop : Bool) (s : State) (d : Document) :
    State → Fate → Prop where
  | null (hn : d.isNull = true) : Handles setup softStop s d s .passes
  | streamed (hn : d.isNull = false) (hs : d.isStream = true) :
      Handles setup softStop s d s (.stops (some (.streamed d.path)) none)
  | checked {t : State} {outcome : Except Session.Failure Verdict} (hn : d.isNull = false)
      (hs : d.isStream = false) (h : Checks setup s d.path d.text t outcome) :
      Handles setup softStop s d t (.ofOutcome softStop d outcome)

/-! ## All documents -/

/-- The documents of a stream are dealt with one after the other, up to the first one at which the
stream stops. -/
inductive Streams (setup : Setup) (softStop : Bool) : State → List Document → Run → Prop where
  | drained {s : State} : Streams setup softStop s [] ⟨[], none, 0, s⟩
  | passed {s t : State} {d : Document} {rest : List Document} {r : Run}
      (h : Handles setup softStop s d t .passes) (hrest : Streams setup softStop t rest r) :
      Streams setup softStop s (d :: rest) (r.pass d)
  | stopped {s t : State} {d : Document} {rest : List Document} {failure : Option Failure}
      {notice : Option String} (h : Handles setup softStop s d t (.stops failure notice)) :
      Streams setup softStop s (d :: rest) (endWith failure (noteOf t notice))

/-- A stream runs to its end: the session is started, the documents are dealt with, and the worker
moves on until it stops. -/
inductive Runs (setup : Setup) (softStop : Bool) (documents : List Document) : Run → Prop where
  | refused {s t : State} {e : Session.Failure}
      (hcall : (State.initial setup).step? setup (.call soleClient .start) = some s)
      (hmoves : s.LeadsTo setup IsOnward t) (hc : t.clients soleClient = .returned (.error e)) :
      Runs setup softStop documents ⟨[], some (.session e), 0, t⟩
  | ended {s t u : State} {r : Run}
      (hcall : (State.initial setup).step? setup (.call soleClient .start) = some s)
      (hmoves : s.LeadsTo setup IsOnward t) (hc : t.clients soleClient = .returned (.ok none))
      (h : Streams setup softStop t documents r)
      (hrest : r.session.LeadsTo setup (· = .worker) u) (hstopped : u.workerStep? setup = none) :
      Runs setup softStop documents { r with session := u }

section
variable {setup : Setup} {softStop : Bool} {s t : State} {d : Document}
  {documents : List Document} {r : Run}

/-! ## What a check comes to -/

theorem Answers.outcome?_eq {id : Nat} {outcome : Except Session.Failure Verdict}
    (h : Answers s outcome) (hc : s.clients soleClient = .returned (.ok (some id))) :
    s.outcome? id = some outcome := by
  cases h with
  | outcome hc' ho =>
      rw [hc] at hc'
      cases hc'
      exact ho
  | failure hc' =>
      rw [hc] at hc'
      cases hc'

theorem Checks.reachable {path css : String} {outcome : Except Session.Failure Verdict}
    (h : Checks setup s path css t outcome) (hr : Reachable setup s) : Reachable setup t := by
  obtain ⟨u, hcall, hmoves, -⟩ := h
  exact hmoves.reachable (hr.step _ hcall)

theorem submits_of_call {path css : String}
    (h : s.step? setup (.call soleClient (.submit path css)) = some t) :
    t.Submits path css (t.clients soleClient) := by
  cases step_of_step? h
  rw [clients_setClient]
  rfl

theorem submits_of_onward {path css : String} (hquiet : ∀ n e, setup.listener n e = none)
    (hr : Reachable setup s) (hs : s.Submits path css (s.clients soleClient))
    (h : s.LeadsTo setup IsOnward t) : t.Submits path css (t.clients soleClient) := by
  refine (h.keeps (Q := fun u => u.Submits path css (u.clients soleClient) ∧ Reachable setup u)
    ⟨hs, hr⟩ ?_).1
  rintro u v m hm ⟨hu, hr⟩ hstep
  refine ⟨?_, hr.step m hstep⟩
  have habout {id : Nat} : u.IsAbout id path css → v.IsAbout id path css :=
    (step_of_step? hstep).isAbout hr
  rcases hm with rfl | rfl
  · cases step_of_step? hstep with
    | worker h =>
        rw [h.frame.2.1]
        exact hu.mono fun _ => habout
  · cases step_of_step? hstep with
    | client h => exact h.submits (isCalm_of_quiet hquiet) hr hu

/-- Whatever the worker does in the meantime, a check has the outcome that the stylesheet has to
get, and it has it after the collection. -/
theorem Checks.outcome_eq {path css : String} {outcome : Except Session.Failure Verdict}
    (hquiet : ∀ n e, setup.listener n e = none) (hr : Reachable setup s)
    (h : Checks setup s path css t outcome) :
    outcome = setup.outcome path css ∧ t.collected ≠ none := by
  have ht := h.reachable hr
  obtain ⟨u, hcall, hmoves, hanswer⟩ := h
  have hsubmits := submits_of_onward hquiet (hr.step _ hcall) (submits_of_call hcall) hmoves
  cases hanswer with
  | failure hc =>
      rw [hc] at hsubmits
      exact hsubmits.elim
  | @outcome id outcome hc ho =>
      rw [hc] at hsubmits
      obtain ⟨ticket, hticket, rfl, rfl⟩ := hsubmits
      have hfinished : ticket.state = .finished outcome := by
        rw [State.outcome?, hticket] at ho
        cases hstate : ticket.state <;> simp_all
      refine ⟨ht.outcome_eq hquiet hticket hfinished, ?_⟩
      cases outcome with
      | ok v =>
          obtain ⟨used, hused⟩ := (ht.decided hquiet).verdict hticket hfinished
          simp [hused]
      | error e =>
          have hfails := (ht.decided hquiet).failure hticket hfinished
          intro hnone
          rw [hnone] at hfails
          exact hfails.elim

/-- A ticket has its outcome when a session with one client has ended. -/
theorem outcome?_of_hasEnded {submitted : List (String × String)} {id : Nat} {path css : String}
    (hquiet : ∀ n e, setup.listener n e = none)
    (hs : (State.initial setup).Submitting setup submitted s) (hended : s.HasEnded)
    (habout : s.IsAbout id path css) : s.outcome? id = some (setup.outcome path css) := by
  obtain ⟨ticket, hticket, rfl, rfl⟩ := habout
  have hall := (hs.outcomes hquiet hended).1
  have hmem : ticket ∈ s.tickets := List.mem_of_getElem? hticket
  rw [hall, List.mem_map] at hmem
  obtain ⟨⟨path, css⟩, -, rfl⟩ := hmem
  simp [State.outcome?, hticket]

/-- A check in which neither the worker nor the client can move any more has been answered. -/
theorem checks_of_stuck {submitted : List (String × String)} {path css : String} {u : State}
    (hquiet : ∀ n e, setup.listener n e = none)
    (hs : (State.initial setup).Submitting setup submitted s) (hpresent : t.worker ≠ .absent)
    (hcall : s.step? setup (.call soleClient (.submit path css)) = some u)
    (hmoves : u.LeadsTo setup IsOnward t) (hworker : t.workerStep? setup = none)
    (hclient : t.clientStep? setup soleClient = none) :
    Checks setup s path css t (setup.outcome path css) := by
  have hr := hs.reachable .initial
  have hu := hr.step _ hcall
  have ht := hmoves.reachable hu
  have hsubmits := submits_of_onward hquiet hu (submits_of_call hcall) hmoves
  have hended := ht.hasEnded_of_stuck hquiet hpresent hworker hclient
  obtain ⟨id, hreturned, habout⟩ := ht.returned_of_stuck (.inr hended.1) hsubmits hclient
  have hasked : s.Submitting setup [(path, css)] u :=
    ⟨[.call soleClient (.submit path css)], by simp [Move.isSole], rfl,
      by simp [State.after?, hcall]⟩
  have hanswered : u.Submitting setup [] t := hmoves.submitting (by
    rintro m (rfl | rfl) <;> exact ⟨rfl, rfl⟩)
  have hall := (hs.trans hasked).trans hanswered
  exact ⟨u, hcall, hmoves, .outcome hreturned (outcome?_of_hasEnded hquiet hall hended habout)⟩

/-! ## The worker moves while it is waited for -/

/-- The stream can go on to its next document. -/
structure IsReady (setup : Setup) (s : State) : Prop where
  submitting : ∃ submitted, (State.initial setup).Submitting setup submitted s
  idle : s.IsIdle
  free : s.IsFree
  present : s.worker ≠ .absent

theorem IsReady.reachable (hs : IsReady setup s) : Reachable setup s := by
  obtain ⟨submitted, h⟩ := hs.submitting
  exact h.reachable .initial

theorem isReady_started (hquiet : ∀ n e, setup.listener n e = none) :
    IsReady setup ((State.initial setup).request setup .start) := by
  obtain ⟨hworker, hphase, hreturned⟩ := request_start hquiet
  exact ⟨⟨_, State.submitting_request (.inl rfl) .start⟩, .inr ⟨_, hreturned⟩, .inl hphase,
    by simp [hworker]⟩

theorem clients_runWorker (s : State) : (s.runWorker setup).clients = s.clients := by
  refine (leadsTo_runWorker s).keeps (Q := fun u => u.clients = s.clients) rfl ?_
  rintro u v m rfl hu hm
  cases step_of_step? hm with
  | worker h => exact h.frame.2.1.trans hu

/-- A check is answered when the client has moved until it has its ticket and then the worker until
it stops. -/
theorem IsReady.check (hquiet : ∀ n e, setup.listener n e = none) (hs : IsReady setup s)
    (path css : String) :
    Checks setup s path css (check setup s path css).1 (check setup s path css).2 ∧
      IsReady setup (check setup s path css).1 := by
  obtain ⟨submitted, hsubmitting⟩ := hs.submitting
  obtain ⟨u, hcall, hmoves⟩ := leadsTo_request setup hs.idle (.submit path css)
  obtain ⟨-, id, hreturned, habout⟩ :=
    hs.reachable.request_submit hquiet hs.free hs.idle path css
  have hworker := hs.reachable.worker_request hs.idle hs.present (.submit path css)
  have hasked := hsubmitting.trans (State.submitting_request hs.idle (.submit path css))
  unfold Stream.check
  generalize s.request setup (.submit path css) = asked at *
  -- the worker ends, and the client keeps its ticket
  have hended := (hasked.reachable .initial).worker_runWorker hquiet (hworker ▸ hs.present)
  have hdone := hasked.trans (State.submitting_runWorker asked)
  have hreturned' : (asked.runWorker setup).clients soleClient = .returned (.ok (some id)) := by
    rw [clients_runWorker, hreturned]
  have hchecks := checks_of_stuck hquiet hsubmitting (by simp [hended]) hcall
    ((hmoves.mono fun _ hm => .inr hm).trans
      ((leadsTo_runWorker asked).mono fun _ hm => .inl hm))
    (workFor_stops (Nat.le_refl _)) (by simp [State.clientStep?, hreturned'])
  have houtcome : (asked.runWorker setup).outcome? id = some (setup.outcome path css) := by
    obtain ⟨v, -, -, hanswer⟩ := hchecks
    exact hanswer.outcome?_eq hreturned'
  simp only [State.answer?, hreturned, houtcome]
  exact ⟨hchecks, ⟨_, hdone⟩, .inr ⟨_, hreturned'⟩, .inr hended, by simp [hended]⟩

/-- After a check the stream goes on or stops as the outcome says. -/
theorem checkAll_of_check {outcome : Except Session.Failure Verdict} {rest : List Document}
    (hn : d.isNull = false) (hd : d.isStream = false)
    (h : check setup s d.path d.text = (t, outcome)) :
    checkAll setup softStop (d :: rest) s =
      match Fate.ofOutcome softStop d outcome with
      | .passes => .pass d (checkAll setup softStop rest t)
      | .stops failure notice => endWith failure (noteOf t notice) := by
  simp only [checkAll, hn, hd, h, Bool.false_eq_true, if_false]
  cases outcome with
  | error e => rfl
  | ok v =>
      cases hv : v.outcome with
      | error e => cases softStop <;> simp [Fate.ofOutcome, hv, noteOf]
      | ok report =>
          cases hclean : report.isClean <;> cases softStop <;>
            simp [Fate.ofOutcome, hv, hclean, noteOf]

/-- The documents of a stream are dealt with while the worker moves only when it is waited for. -/
theorem IsReady.checkAll (hquiet : ∀ n e, setup.listener n e = none) (hs : IsReady setup s)
    (documents : List Document) :
    Streams setup softStop s documents (checkAll setup softStop documents s) := by
  induction documents generalizing s with
  | nil => exact .drained
  | cons d rest ih =>
      cases hn : d.isNull with
      | true =>
          rw [Stream.checkAll, if_pos hn]
          exact .passed (.null hn) (ih hs)
      | false =>
          cases hd : d.isStream with
          | true =>
              rw [Stream.checkAll, if_neg (by simp [hn]), if_pos hd]
              exact .stopped (.streamed hn hd)
          | false =>
              obtain ⟨hchecks, ht⟩ := hs.check hquiet d.path d.text
              have hhandles : Handles setup softStop s d _ _ := .checked hn hd hchecks
              rw [checkAll_of_check hn hd rfl]
              split
              case h_1 hfate => exact .passed (hfate ▸ hhandles) (ih ht)
              case h_2 hfate => exact .stopped (hfate ▸ hhandles)

/-- The way in which a stream is run is one of the ways in which it can run. -/
theorem runs_run (hquiet : ∀ n e, setup.listener n e = none) (softStop : Bool)
    (documents : List Document) :
    Runs setup softStop documents (run setup softStop documents) := by
  have hready : IsReady setup ((State.initial setup).request setup .start) :=
    isReady_started hquiet
  obtain ⟨-, -, hreturned⟩ := request_start hquiet
  obtain ⟨s, hcall, hmoves⟩ := leadsTo_request setup (s := .initial setup) (.inl rfl) .start
  have hstreams : Streams setup softStop _ documents _ := hready.checkAll hquiet documents
  unfold run
  simp only [State.answer?, hreturned]
  exact .ended hcall (hmoves.mono fun _ hm => .inr hm) hreturned hstreams (leadsTo_runWorker _)
    (workFor_stops (Nat.le_refl _))

end

end StyleUsage.Stream
