import StyleUsage.Proofs.Session.Completion
import StyleUsage.Session.Run

/-!
# Progress

Every step of the worker and of a client brings it nearer to its end. With listeners that raise
nothing, a client that submits a stylesheet gets its ticket without waiting for anybody as long as
the collection goes on, and again once the worker has ended; and a worker that moves until it stops
has ended.
-/

namespace StyleUsage.Session

open State (soleClient)

section
variable {setup : Setup} {s t u : State} {m : Move} {P : Move → Prop}

/-! ## Moves in a row -/

/-- Moves of some kind lead from one state to another. -/
def State.LeadsTo (setup : Setup) (P : Move → Prop) (s t : State) : Prop :=
  ∃ moves, (∀ m ∈ moves, P m) ∧ s.after? setup moves = some t

namespace State

theorem after?_append {moves : List Move} (h : s.after? setup moves = some t) (rest : List Move) :
    s.after? setup (moves ++ rest) = t.after? setup rest := by
  induction moves generalizing s with
  | nil =>
      cases h
      rfl
  | cons m moves ih =>
      obtain ⟨s', hm, h⟩ := exists_step_of_after h
      simp only [List.cons_append, after?, hm]
      exact ih h

theorem exists_after_of_append {moves rest : List Move}
    (h : s.after? setup (moves ++ rest) = some t) :
    ∃ u, s.after? setup moves = some u ∧ u.after? setup rest = some t := by
  induction moves generalizing s with
  | nil => exact ⟨s, rfl, h⟩
  | cons m moves ih =>
      obtain ⟨s', hm, h⟩ := exists_step_of_after h
      simp only [after?, hm]
      exact ih h

/-- Whoever moves at last moves in a state that the moves before lead to. -/
theorem exists_after_of_concat {moves : List Move}
    (h : s.after? setup (moves ++ [m]) = some t) :
    ∃ u, s.after? setup moves = some u ∧ u.step? setup m = some t := by
  obtain ⟨u, hu, ht⟩ := exists_after_of_append h
  obtain ⟨u', hm, ht⟩ := exists_step_of_after ht
  cases ht
  exact ⟨u, hu, hm⟩

theorem LeadsTo.refl : s.LeadsTo setup P s :=
  ⟨[], by simp, rfl⟩

theorem LeadsTo.head (hm : P m) (hs : s.step? setup m = some t) (ht : t.LeadsTo setup P u) :
    s.LeadsTo setup P u := by
  obtain ⟨moves, hmoves, hafter⟩ := ht
  refine ⟨m :: moves, List.forall_mem_cons.2 ⟨hm, hmoves⟩, ?_⟩
  simp only [after?, hs, hafter]

/-- What every single move keeps is kept by all of them. -/
theorem LeadsTo.keeps {Q : State → Prop} (h : s.LeadsTo setup P t) (hs : Q s)
    (hkept : ∀ {s t : State} {m : Move}, P m → Q s → s.step? setup m = some t → Q t) : Q t := by
  obtain ⟨moves, hmoves, hafter⟩ := h
  induction moves generalizing s with
  | nil =>
      cases hafter
      exact hs
  | cons m rest ih =>
      obtain ⟨hm, hrest⟩ := List.forall_mem_cons.1 hmoves
      obtain ⟨s', hstep, hafter⟩ := exists_step_of_after hafter
      exact ih (hkept hm hs hstep) hrest hafter

theorem LeadsTo.reachable (h : s.LeadsTo setup P t) (hs : Reachable setup s) :
    Reachable setup t :=
  h.keeps hs fun _ hr hm => hr.step _ hm

theorem LeadsTo.trans (h : s.LeadsTo setup P t) (h' : t.LeadsTo setup P u) :
    s.LeadsTo setup P u := by
  obtain ⟨moves, hmoves, hafter⟩ := h
  obtain ⟨moves', hmoves', hafter'⟩ := h'
  refine ⟨moves ++ moves', fun m hm => ?_, ?_⟩
  · exact (List.mem_append.1 hm).elim (hmoves m) (hmoves' m)
  · rw [after?_append hafter, hafter']

theorem LeadsTo.mono {Q : Move → Prop} (h : s.LeadsTo setup P t) (hPQ : ∀ m, P m → Q m) :
    s.LeadsTo setup Q t := by
  obtain ⟨moves, hmoves, hafter⟩ := h
  exact ⟨moves, fun m hm => hPQ m (hmoves m hm), hafter⟩

end State

/-! ## The worker -/

theorem AnalysisStep.work_lt {id : Nat} {used : List String} {step next : Analysis}
    (h : AnalysisStep setup s id used step t (.next next)) : next.work < step.work := by
  cases h <;> simp [Analysis.work]

theorem Analysis.work_pos (step : Analysis) : 0 < step.work := by
  cases step <;> simp [Analysis.work]

/-- The worker gets nearer to its end with every step. -/
theorem WorkerStep.work_lt (h : WorkerStep setup s t) : t.work setup < s.work setup := by
  cases h with
  | concludedTwice hw hc =>
      rcases hw with ⟨used, count, hw⟩ | ⟨e, swept, hw⟩ <;> simp [State.work, hw]
  | analysed hw ha =>
      have hlt := ha.work_lt
      obtain ⟨tickets, log, rfl⟩ := ha.frame
      simp only [State.work, State.setWorker, hw]
      omega
  | @finished used id step t' hw ha =>
      have hpos := step.work_pos
      obtain ⟨tickets, log, rfl⟩ := ha.frame
      simp only [State.work, State.setWorker, hw]
      omega
  | @broke used id step t' failure hw ha =>
      have hpos := step.work_pos
      simp only [State.work, State.setWorker, hw]
      omega
  | swept hw hr =>
      simp only [State.work, State.setWorker, hw, List.length_cons]
      omega
  | drained hw hq | popped hw hq =>
      simp only [State.work, hw, hq, Analysis.work, List.length_cons, List.length_nil]
      omega
  | _ hw =>
      simp only [State.work, State.record, hw, List.length_cons, List.length_nil]
      omega

/-- The worker stops only where nothing is left for it to do. -/
theorem stopped_of_workerStep?_eq_none (h : s.workerStep? setup = none) :
    s.worker = .absent ∨ s.worker = .ended ∨ ∃ failure, s.worker = .died failure := by
  unfold State.workerStep? at h
  cases hw : s.worker <;> simp only [hw] at h
  case absent => exact .inl rfl
  case ended => exact .inr (.inl rfl)
  case died failure => exact .inr (.inr ⟨failure, rfl⟩)
  case opening | publishing | handing | failing | rejecting => cases h
  case taking rest count =>
      cases rest with
      | nil => cases hf : setup.load.failure <;> simp [hf] at h
      | cons source rest => cases hf : s.accumulator.feed source.text <;> simp [hf] at h
  case draining used => cases hq : s.queue <;> simp [hq] at h
  case sweeping failure swept =>
      cases swept with
      | nil => cases h
      | cons id swept => cases hr : s.reject id failure <;> simp [hr] at h
  case parsed | announcing | analysing | reporting => split at h <;> cases h

theorem workFor_stops {n : Nat} (h : s.work setup ≤ n) :
    (State.workFor setup n s).workerStep? setup = none := by
  induction n generalizing s with
  | zero =>
      cases hstep : s.workerStep? setup with
      | none => exact hstep
      | some t =>
          have hlt := (workerStep_of_workerStep? hstep).work_lt
          omega
  | succ n ih =>
      rw [State.workFor]
      cases hstep : s.workerStep? setup with
      | none => exact hstep
      | some t =>
          have hlt := (workerStep_of_workerStep? hstep).work_lt
          exact ih (by omega)

theorem leadsTo_workFor (n : Nat) (s : State) :
    s.LeadsTo setup (· = .worker) (State.workFor setup n s) := by
  induction n generalizing s with
  | zero => exact .refl
  | succ n ih =>
      rw [State.workFor]
      cases hstep : s.workerStep? setup with
      | none => exact .refl
      | some t => exact .head rfl hstep (ih t)

theorem leadsTo_runWorker (s : State) :
    s.LeadsTo setup (· = .worker) (s.runWorker setup) :=
  leadsTo_workFor _ s

theorem WorkerStep.present (h : WorkerStep setup s t) : t.worker ≠ .absent := by
  cases h <;> simp [State.setWorker]

/-- A worker that has its task is never without one again. -/
theorem Step.present (hlaunch : Launch s) (h : Step setup s m t) (hs : s.worker ≠ .absent) :
    t.worker ≠ .absent := by
  cases h with
  | worker h => exact h.present
  | client h =>
      rcases h.launches hlaunch with hworker | ⟨-, hworker⟩
      · exact hworker ▸ hs
      · simp [hworker]
  | called | cancelled | spared => exact hs

theorem State.LeadsTo.present (h : s.LeadsTo setup P t) (hr : Reachable setup s)
    (hs : s.worker ≠ .absent) : t.worker ≠ .absent := by
  refine (h.keeps (Q := fun u => u.worker ≠ .absent ∧ Reachable setup u) ⟨hs, hr⟩ ?_).1
  intro u v m _ hu hm
  exact ⟨(step_of_step? hm).present hu.2.launch hu.1, hu.2.step m hm⟩

/-- A worker that has its task and does not die ends when it moves until it stops. -/
theorem Reachable.ended_of_ne_died (h : Reachable setup s) (hpresent : s.worker ≠ .absent)
    (hlives : ∀ failure, (s.runWorker setup).worker ≠ .died failure) :
    (s.runWorker setup).worker = .ended := by
  rcases stopped_of_workerStep?_eq_none (workFor_stops (Nat.le_refl _)) with hw | hw | ⟨e, hw⟩
  · exact absurd hw ((leadsTo_runWorker s).present h hpresent)
  · exact hw
  · exact absurd hw (hlives e)

theorem Setup.IsCalm.worker_runWorker (hcalm : setup.IsCalm) (h : Reachable setup s)
    (hpresent : s.worker ≠ .absent) : (s.runWorker setup).worker = .ended :=
  h.ended_of_ne_died hpresent (hcalm.worker_ne_died ((leadsTo_runWorker s).reachable h))

theorem Reachable.worker_runWorker (hquiet : ∀ n e, setup.listener n e = none)
    (h : Reachable setup s) (hpresent : s.worker ≠ .absent) :
    (s.runWorker setup).worker = .ended :=
  (isCalm_of_quiet hquiet).worker_runWorker h hpresent

/-! ## A client -/

/-- The number of steps that a client still takes at most. -/
def Client.work : Client → Nat
  | .idle | .returned _ => 0
  | .starting _ => 10
  | .launching _ => 9
  | .spawning _ => 8
  | .enqueueing .. => 6
  | .admitted _ => 5
  | .analysing _ _ step => step.work
  | .queued _ | .refused _ | .waiting => 1

/-- A client gets nearer to its answer with every step. -/
theorem ClientStep.work_lt {c : Nat} (h : ClientStep setup s c t) :
    (t.clients c).work < (s.clients c).work := by
  cases h with
  | @joined request hc | @spawned request hc =>
      cases request <;> simp [hc, State.setClient, Request.onward, Client.work]
  | analysed hc ha => simpa [hc, Client.work] using ha.work_lt
  | @finished id used step t' hc ha | @broke id used step t' failure hc ha =>
      simpa [hc, Client.work] using step.work_pos
  | _ hc => simp [hc, State.setClient, giveBack_eq, Client.work, Analysis.work]

theorem moveFor_stops {c n : Nat} (h : (s.clients c).work ≤ n) :
    (State.moveFor setup c n s).clientStep? setup c = none := by
  induction n generalizing s with
  | zero =>
      cases hstep : s.clientStep? setup c with
      | none => exact hstep
      | some t =>
          have hlt := (clientStep_of_clientStep? hstep).work_lt
          omega
  | succ n ih =>
      rw [State.moveFor]
      cases hstep : s.clientStep? setup c with
      | none => exact hstep
      | some t =>
          have hlt := (clientStep_of_clientStep? hstep).work_lt
          exact ih (by omega)

theorem leadsTo_moveFor (setup : Setup) (c n : Nat) (s : State) :
    s.LeadsTo setup (· = .client c) (State.moveFor setup c n s) := by
  induction n generalizing s with
  | zero => exact .refl
  | succ n ih =>
      rw [State.moveFor]
      cases hstep : s.clientStep? setup c with
      | none => exact .refl
      | some t => exact .head rfl hstep (ih t)

/-- A worker that has its task is left alone by a client that moves. -/
theorem Reachable.worker_moveFor (h : Reachable setup s) (hpresent : s.worker ≠ .absent)
    (c n : Nat) : (State.moveFor setup c n s).worker = s.worker := by
  refine ((leadsTo_moveFor setup c n s).keeps
    (Q := fun u => u.worker = s.worker ∧ Reachable setup u) ⟨rfl, h⟩ ?_).1
  rintro u v m rfl ⟨hu, hr⟩ hm
  refine ⟨?_, hr.step _ hm⟩
  cases step_of_step? hm with
  | client hstep =>
      rcases hstep.launches hr.launch with hsame | ⟨habsent, -⟩
      · exact hsame.trans hu
      · exact absurd (hu ▸ habsent) hpresent

/-! ## Submissions -/

/-- A ticket is about a certain stylesheet. -/
def State.IsAbout (s : State) (id : Nat) (path css : String) : Prop :=
  ∃ ticket, s.tickets[id]? = some ticket ∧ ticket.path = path ∧ ticket.css = css

/-- A client is submitting a certain stylesheet, or has just got the ticket for it. -/
def State.Submits (s : State) (path css : String) : Client → Prop
  | .starting request | .launching request | .spawning request => request = .submit path css
  | .enqueueing path' css' => path' = path ∧ css' = css
  | .queued id | .refused id | .admitted id | .analysing id _ _ | .returned (.ok (some id)) =>
      s.IsAbout id path css
  | _ => False

theorem State.Submits.mono {path css : String} {stage : Client} (h : s.Submits path css stage)
    (habout : ∀ id, s.IsAbout id path css → t.IsAbout id path css) : t.Submits path css stage := by
  unfold State.Submits at h ⊢
  split at h <;> first | exact h | exact habout _ h

theorem Step.isAbout {id : Nat} {path css : String} (hr : Reachable setup s)
    (h : Step setup s m t) (hs : s.IsAbout id path css) : t.IsAbout id path css := by
  obtain ⟨old, hold, hpath, hcss⟩ := hs
  obtain ⟨ticket, hticket, hpath', hcss'⟩ := (h.effect hr.inStep hr.launch).text hold
  exact ⟨ticket, hticket, hpath'.trans hpath, hcss'.trans hcss⟩

theorem isAbout_new {path css : String} {state : TicketState}
    (h : t.tickets = s.tickets ++ [⟨path, css, state⟩]) : t.IsAbout s.tickets.length path css :=
  ⟨_, by rw [h, List.getElem?_concat_length], rfl, rfl⟩

theorem ClientStep.submits {c : Nat} {path css : String} (hcalm : setup.IsCalm)
    (hr : Reachable setup s) (h : ClientStep setup s c t)
    (hs : s.Submits path css (s.clients c)) : t.Submits path css (t.clients c) := by
  have habout {id : Nat} : s.IsAbout id path css → t.IsAbout id path css :=
    (Step.client h).isAbout hr
  have hfailed {e : Failure} (hsubmitting : (s.clients c).IsSubmitting)
      (hreturned : t.clients c = .returned (.error e)) : False :=
    hcalm.not_isAmiss hr (h.isAmiss_of_failed hr.inStep hsubmitting hreturned)
  cases h with
  | joined hc | spawned hc =>
      rw [hc] at hs
      cases hs
      simp [State.setClient, Request.onward, State.Submits]
  | launched hc | told hc =>
      rw [hc] at hs
      simpa [State.setClient, State.Submits] using hs
  | queued hc | refused hc | admitted hc =>
      rw [hc] at hs
      obtain ⟨rfl, rfl⟩ := hs
      simpa [State.setClient, State.Submits] using isAbout_new rfl
  | toldInVain hc hl he | noticedInVain hc ht hl he =>
      rw [hcalm _ _ he] at hl
      cases hl
  | noticed hc | rejected hc | began hc | analysed hc | finished hc =>
      rw [hc] at hs
      simpa [State.Submits] using habout hs
  | rejectedAmiss hc | admittedInVain hc | broke hc =>
      exact (hfailed (by simp [hc, Client.IsSubmitting]) (clients_giveBack ..)).elim
  | waited hc =>
      rw [hc] at hs
      exact hs.elim

/-- Only a request makes a client submit something. -/
theorem ClientStep.isSubmitting_of {c : Nat} (h : ClientStep setup s c t)
    (ht : (t.clients c).IsSubmitting) : (s.clients c).IsSubmitting := by
  cases h with
  | @joined request hc | @spawned request hc =>
      cases request <;> simp_all [State.setClient, Request.onward, Client.IsSubmitting]
  | @launched request hc | @told request hc =>
      cases request <;> simp_all [State.setClient, Client.IsSubmitting]
  | toldInVain | waited => simp [clients_giveBack, Client.IsSubmitting] at ht
  | _ hc => simp [hc, Client.IsSubmitting]

/-- Whoever submits something submits a certain stylesheet. -/
theorem Reachable.exists_submits {c : Nat} (hcalm : setup.IsCalm) (h : Reachable setup s)
    (hs : (s.clients c).IsSubmitting) : ∃ path css, s.Submits path css (s.clients c) := by
  refine h.invariant (P := fun s => (s.clients c).IsSubmitting →
    ∃ path css, s.Submits path css (s.clients c)) ?_ ?_ hs
  · simp [State.initial, Client.IsSubmitting]
  · intro s t m hr hs hstep ht
    by_cases hm : m.client? = some c
    · cases hstep with
      | worker | cancelled | spared => cases hm
      | client hstep =>
          cases hm
          obtain ⟨path, css, hsubmits⟩ := hs (hstep.isSubmitting_of ht)
          exact ⟨path, css, hstep.submits hcalm hr hsubmits⟩
      | @called d request =>
          cases hm
          rw [clients_setClient] at ht ⊢
          cases request with
          | submit path css => exact ⟨path, css, rfl⟩
          | start | waitReady => exact ht.elim
    · have hsame := hstep.clients_of_ne hm
      rw [hsame] at ht ⊢
      obtain ⟨path, css, hsubmits⟩ := hs ht
      exact ⟨path, css, hsubmits.mono fun id => hstep.isAbout hr⟩

/-- A submission waits for nobody now: the collection goes on, or the worker has ended. -/
def State.IsFree (s : State) : Prop :=
  s.phase = .collecting ∨ s.worker = .ended

theorem ClientStep.isFree {c : Nat} (hr : Reachable setup s) (h : ClientStep setup s c t)
    (hs : s.IsFree) : t.IsFree := by
  rcases hs with hphase | hended
  · exact .inl (h.frame.1.trans hphase)
  · rcases h.launches hr.launch with hworker | ⟨habsent, -⟩
    · exact .inr (hworker.trans hended)
    · rw [hended] at habsent
      cases habsent

/-- A submission that waits for nobody stops only with the ticket. -/
theorem Reachable.returned_of_stuck {c : Nat} {path css : String} (h : Reachable setup s)
    (hfree : s.IsFree) (hs : s.Submits path css (s.clients c))
    (hstuck : s.clientStep? setup c = none) :
    ∃ id, s.clients c = .returned (.ok (some id)) ∧ s.IsAbout id path css := by
  have hsuits := h.inStep.client c
  -- a client that has gone past the queue finds the collection concluded
  have hconcluded (hphase : s.phase ≠ .collecting) : s.HasConcluded := by
    have hworker := h.inStep.worker
    rw [hfree.resolve_left hphase] at hworker
    exact hworker.1
  unfold State.clientStep? at hstuck
  cases hc : s.clients c <;> rw [hc] at hs hsuits <;> simp only [hc] at hstuck
  case idle | waiting => exact hs.elim
  case starting => split at hstuck <;> cases hstuck
  case launching | analysing => split at hstuck <;> cases hstuck
  case spawning | enqueueing => cases hstuck
  case returned outcome =>
      match outcome with
      | .ok (some id) => exact ⟨id, rfl, hs⟩
      | .ok none | .error e => exact hs.elim
  case queued id =>
      obtain ⟨ticket, hticket, -⟩ := hs
      simp only [hticket] at hstuck
      split at hstuck <;> cases hstuck
  case refused id =>
      have hphase : s.phase = .failed := hsuits
      rcases hconcluded (by simp [hphase]) with ⟨hready, -⟩ | ⟨-, failure, hfailure⟩
      · rw [hphase] at hready
        cases hready
      · simp only [hfailure] at hstuck
        split at hstuck <;> cases hstuck
  case admitted id =>
      have hphase : s.phase = .ready := hsuits
      rcases hconcluded (by simp [hphase]) with ⟨-, used, hused⟩ | ⟨hfailed, -⟩
      · simp [hused] at hstuck
      · rw [hphase] at hfailed
        cases hfailed

/-! ## The only client -/

/-- The only client has no request under way. -/
def State.IsIdle (s : State) : Prop :=
  s.clients soleClient = .idle ∨ ∃ outcome, s.clients soleClient = .returned outcome

theorem exists_call_of_isIdle (setup : Setup) (hs : s.IsIdle) (request : Request) : ∃ t,
    s.step? setup (.call soleClient request) = some t ∧
      t = s.setClient soleClient (.starting request) ∧
      s.request setup request = State.moveFor setup soleClient State.requestSteps t := by
  have hcall : s.call? soleClient request =
      some (s.setClient soleClient (.starting request)) := by
    unfold State.call?
    rcases hs with hc | ⟨outcome, hc⟩ <;> rw [hc]
  exact ⟨_, hcall, rfl, by simp only [State.request, hcall]⟩

/-- A request moves the client alone. -/
theorem leadsTo_request (setup : Setup) (hs : s.IsIdle) (request : Request) : ∃ t,
    s.step? setup (.call soleClient request) = some t ∧
      t.LeadsTo setup (· = .client soleClient) (s.request setup request) := by
  obtain ⟨t, hcall, -, hrequest⟩ := exists_call_of_isIdle setup hs request
  exact ⟨t, hcall, hrequest ▸ leadsTo_moveFor setup _ _ t⟩

/-- A worker that has its task is left alone by a request. -/
theorem Reachable.worker_request (h : Reachable setup s) (hs : s.IsIdle)
    (hpresent : s.worker ≠ .absent) (request : Request) :
    (s.request setup request).worker = s.worker := by
  obtain ⟨t, hcall, ht, hrequest⟩ := exists_call_of_isIdle setup hs request
  have hworker : t.worker = s.worker := by
    rw [ht]
    rfl
  rw [hrequest, (h.step _ hcall).worker_moveFor (hworker ▸ hpresent), hworker]

/-- A stylesheet that the only client submits gets its ticket, if nobody is to be waited for. -/
theorem Reachable.request_submit (hquiet : ∀ n e, setup.listener n e = none)
    (h : Reachable setup s) (hfree : s.IsFree) (hidle : s.IsIdle) (path css : String) :
    (s.request setup (.submit path css)).IsFree ∧
      ∃ id, (s.request setup (.submit path css)).clients soleClient = .returned (.ok (some id)) ∧
        (s.request setup (.submit path css)).IsAbout id path css := by
  obtain ⟨t, hcall, ht, hrequest⟩ := exists_call_of_isIdle setup hidle (.submit path css)
  have hstage : t.clients soleClient = .starting (.submit path css) := by
    rw [ht, clients_setClient]
  have hmoves := leadsTo_moveFor setup soleClient State.requestSteps t
  have hstuck : (State.moveFor setup soleClient State.requestSteps t).clientStep? setup
      soleClient = none := moveFor_stops (by simp [hstage, Client.work, State.requestSteps])
  rw [← hrequest] at hmoves hstuck
  -- what is under way stays under way until the ticket is handed out
  have hkept := hmoves.keeps (Q := fun u => u.IsFree ∧
      u.Submits path css (u.clients soleClient) ∧ Reachable setup u)
    ⟨ht ▸ hfree, by rw [hstage]; rfl, h.step _ hcall⟩ (by
      rintro u v m rfl ⟨hfree, hsubmits, hu⟩ hm
      cases step_of_step? hm with
      | client hstep =>
          exact ⟨hstep.isFree hu hfree, hstep.submits (isCalm_of_quiet hquiet) hu hsubmits,
            hu.step _ hm⟩)
  obtain ⟨hfree', hsubmits, hr'⟩ := hkept
  exact ⟨hfree', hr'.returned_of_stuck hfree' hsubmits hstuck⟩

/-- The only client starts the session and goes on at once. -/
theorem request_start (hquiet : ∀ n e, setup.listener n e = none) :
    ((State.initial setup).request setup .start).worker = .opening ∧
      ((State.initial setup).request setup .start).phase = .collecting ∧
      ((State.initial setup).request setup .start).clients soleClient =
        .returned (.ok none) := by
  simp [State.request, State.call?, State.moveFor, State.initial, State.clientStep?,
    State.requestSteps, State.setClient, State.emit, hquiet, State.proceed, State.giveBack,
    State.setWorker]

end

end StyleUsage.Session
