import StyleUsage.Proofs.Session.Launch

/-!
# The phases of a session

How far the worker has come says which phase the session is in, whether the queue is being
drained, and what is known of the collection. A client that has a stylesheet in hand agrees with
that. In particular a session is ready or failed, with nothing left in the queue, once the worker
has ended.
-/

namespace StyleUsage.Session

namespace State

/-- The collection is over, one way or the other. -/
def HasConcluded (s : State) : Prop :=
  (s.phase = .ready ∧ ∃ used, s.collected = some (.ok used)) ∨
    (s.phase = .failed ∧ ∃ failure, s.collected = some (.error failure))

/-- What the stage of the worker says about the rest of the session. -/
def AgreesWith (s : State) : Worker → Prop
  | .absent | .opening | .taking .. | .parsed .. | .publishing .. | .failing _ =>
      s.phase = .collecting ∧ s.draining = false ∧ s.collected = none
  | .handing .. => s.phase = .ready ∧ s.draining = true ∧ s.collected = none
  | .announcing used _ | .draining used | .analysing used _ _ =>
      s.phase = .ready ∧ s.draining = true ∧ s.collected = some (.ok used)
  | .rejecting .. =>
      s.phase = .failed ∧ s.draining = false ∧ s.collected = none ∧ s.queue = []
  | .reporting failure _ | .sweeping failure _ =>
      s.phase = .failed ∧ s.draining = false ∧ s.collected = some (.error failure) ∧ s.queue = []
  | .ended => s.HasConcluded ∧ s.draining = false ∧ s.queue = []
  | .died _ => s.HasConcluded

/-- What the stage of a client says about the session. -/
def Suits (s : State) : Client → Prop
  | .refused _ => s.phase = .failed
  | .admitted _ => s.phase = .ready
  | .analysing _ used _ => s.phase = .ready ∧ s.collected = some (.ok used)
  | _ => True

theorem HasConcluded.phase_eq_failed {s : State} {failure : Failure} (hs : s.HasConcluded)
    (hc : s.collected = some (.error failure)) : s.phase = .failed := by
  rcases hs with ⟨-, used, hused⟩ | ⟨hphase, -⟩
  · rw [hc] at hused
    cases hused
  · exact hphase

/-- The worker and the clients agree with the rest of the session on how far it has come. -/
structure InStep (s : State) : Prop where
  worker : s.AgreesWith s.worker
  client : ∀ c, s.Suits (s.clients c)

/-- A session is never ready while its collection is known to have failed. -/
theorem InStep.collected_ne_error {s : State} (hs : s.InStep) (hp : s.phase = .ready)
    (failure : Failure) : s.collected ≠ some (.error failure) := by
  intro hc
  have hworker := hs.worker
  cases hw : s.worker <;> simp [hw, AgreesWith, HasConcluded, hp, hc] at hworker

end State

section
variable {setup : Setup} {s t : State}

theorem inStep_initial (setup : Setup) : (State.initial setup).InStep where
  worker := ⟨rfl, rfl, rfl⟩
  client _ := trivial

theorem WorkerStep.agreesWith (hs : s.AgreesWith s.worker) (h : WorkerStep setup s t) :
    t.AgreesWith t.worker := by
  cases h with
  | concludedTwice hw hc =>
      rcases hw with ⟨used, count, hw⟩ | ⟨e, swept, hw⟩ <;> simp [hw, State.AgreesWith, hc] at hs
  | analysed hw ha | finished hw ha =>
      obtain ⟨tickets, log, rfl⟩ := ha.frame
      rw [hw] at hs
      exact hs
  | broke hw ha =>
      obtain ⟨tickets, log, rfl⟩ := ha.frame
      rw [hw] at hs
      exact .inl ⟨hs.1, _, hs.2.2⟩
  | completedInVain hw =>
      rw [hw] at hs
      exact .inl ⟨hs.1, _, hs.2.2⟩
  | reportedInVain hw =>
      rw [hw] at hs
      exact .inr ⟨hs.1, _, hs.2.2.1⟩
  | swept hw hr =>
      obtain ⟨tickets, rfl⟩ := frame_of_reject hr
      rw [hw] at hs
      exact hs
  | sweptAmiss hw =>
      rw [hw] at hs
      exact .inr ⟨hs.1, _, hs.2.2.1⟩
  | published hw =>
      rw [hw] at hs
      exact ⟨rfl, rfl, hs.2.2⟩
  | handed hw =>
      rw [hw] at hs
      exact ⟨hs.1, hs.2.1, rfl⟩
  | drained hw =>
      rw [hw] at hs
      exact ⟨.inl ⟨hs.1, _, hs.2.2⟩, rfl, rfl⟩
  | failed hw =>
      rw [hw] at hs
      exact ⟨rfl, hs.2.1, hs.2.2, rfl⟩
  | rejected hw =>
      rw [hw] at hs
      exact ⟨hs.1, hs.2.1, rfl, hs.2.2.2⟩
  | sweptAll hw =>
      rw [hw] at hs
      exact ⟨.inr ⟨hs.1, _, hs.2.2.1⟩, hs.2.1, hs.2.2.2⟩
  | _ hw =>
      rw [hw] at hs
      exact hs

/-- Neither the phase after the collection nor its outcome changes any more. -/
theorem WorkerStep.keeps (hs : s.AgreesWith s.worker) (h : WorkerStep setup s t) :
    (s.phase ≠ .collecting → t.phase = s.phase) ∧
      ∀ outcome, s.collected = some outcome → t.collected = some outcome := by
  cases h with
  | published hw | failed hw =>
      rw [hw] at hs
      exact ⟨fun hp => absurd hs.1 hp, fun _ hc => hc⟩
  | handed hw hc | rejected hw hc =>
      refine ⟨fun _ => rfl, fun outcome ho => ?_⟩
      rw [hc] at ho
      cases ho
  | analysed hw ha | finished hw ha | broke hw ha =>
      obtain ⟨tickets, log, rfl⟩ := ha.frame
      exact ⟨fun _ => rfl, fun _ hc => hc⟩
  | swept hw hr =>
      obtain ⟨tickets, rfl⟩ := frame_of_reject hr
      exact ⟨fun _ => rfl, fun _ hc => hc⟩
  | _ => exact ⟨fun _ => rfl, fun _ hc => hc⟩

theorem State.Suits.mono {stage : Client} (hs : s.Suits stage)
    (hphase : s.phase ≠ .collecting → t.phase = s.phase)
    (hcollected : ∀ outcome, s.collected = some outcome → t.collected = some outcome) :
    t.Suits stage := by
  cases stage with
  | refused id | admitted id => exact (hphase (by simp [show s.phase = _ from hs])).trans hs
  | analysing id used step =>
      exact ⟨(hphase (by simp [hs.1])).trans hs.1, hcollected _ hs.2⟩
  | _ => trivial

theorem WorkerStep.inStep (hs : s.InStep) (h : WorkerStep setup s t) : t.InStep where
  worker := h.agreesWith hs.worker
  client c := by
    obtain ⟨hphase, hcollected⟩ := h.keeps hs.worker
    rw [h.frame.2.1]
    exact (hs.client c).mono hphase hcollected

/-- A queue that has been emptied for good stays empty, since nobody waits any more. -/
theorem State.AgreesWith.of_queue (hs : s.AgreesWith s.worker) (hworker : t.worker = s.worker)
    (hphase : t.phase = s.phase) (hdraining : t.draining = s.draining)
    (hcollected : t.collected = s.collected)
    (hqueue : t.queue = s.queue ∨ s.phase = .collecting ∨ s.draining = true) :
    t.AgreesWith t.worker := by
  rw [hworker]
  cases hw : s.worker <;>
    simp only [hw, State.AgreesWith, State.HasConcluded, hphase, hdraining, hcollected] at hs ⊢
  case rejecting | reporting | sweeping =>
      obtain ⟨hp, hd, hc, hq⟩ := hs
      simp only [hp, hd, reduceCtorEq, Bool.false_eq_true, or_false] at hqueue
      exact ⟨hp, hd, hc, hqueue.trans hq⟩
  case ended =>
      obtain ⟨hp, hd, hq⟩ := hs
      have hcollecting : s.phase ≠ .collecting := by
        rcases hp with hp | hp <;> simp [hp.1]
      simp only [hcollecting, hd, Bool.false_eq_true, or_false] at hqueue
      exact ⟨hp, hd, hqueue.trans hq⟩
  all_goals exact hs

theorem ClientStep.agreesWith {c : Nat} (hs : s.AgreesWith s.worker) (hlaunch : Launch s)
    (h : ClientStep setup s c t) : t.AgreesWith t.worker := by
  obtain ⟨hphase, hdraining, hcollected, -⟩ := h.frame
  rcases h.launches hlaunch with hworker | ⟨habsent, hworker⟩
  · exact hs.of_queue hworker hphase hdraining hcollected h.queue_eq
  · rw [habsent] at hs
    rw [hworker]
    exact ⟨hphase.trans hs.1, hdraining.trans hs.2.1, hcollected.trans hs.2.2⟩

/-- The stage that a client comes to agrees with the session. -/
theorem ClientStep.suits {c : Nat} (hs : s.InStep) (h : ClientStep setup s c t) :
    s.Suits (t.clients c) := by
  have hbefore := hs.client c
  cases h with
  | @joined request | @spawned request =>
      simp only [State.setClient, if_true]
      cases request <;> trivial
  | refused hc hp | admitted hc hp => simpa [State.setClient, State.Suits] using hp
  | began hc hf =>
      rw [hc] at hbefore
      simpa [State.setClient, State.Suits] using ⟨hbefore, hf⟩
  | analysed hc ha =>
      rw [hc] at hbefore
      simpa [State.setClient, State.Suits] using hbefore
  | _ => simp [giveBack_eq, State.setClient, State.Suits]

/-- A step of a client moves no other client. -/
theorem ClientStep.clients_of_ne {c d : Nat} (h : ClientStep setup s c t) (hd : d ≠ c) :
    t.clients d = s.clients d := by
  cases h with
  | analysed hc ha | finished hc ha | broke hc ha =>
      obtain ⟨tickets, log, rfl⟩ := ha.frame
      simp [giveBack_eq, State.setClient, hd]
  | rejected hc hf hr =>
      obtain ⟨tickets, rfl⟩ := frame_of_reject hr
      simp [giveBack_eq, State.setClient, hd]
  | _ => simp [giveBack_eq, State.setClient, State.record, State.write, hd]

theorem ClientStep.inStep {c : Nat} (hs : s.InStep) (hlaunch : Launch s)
    (h : ClientStep setup s c t) : t.InStep where
  worker := h.agreesWith hs.worker hlaunch
  client d := by
    obtain ⟨hphase, -, hcollected, -⟩ := h.frame
    have hsuits : s.Suits (t.clients d) := by
      by_cases hd : d = c
      · exact hd ▸ h.suits hs
      · rw [h.clients_of_ne hd]
        exact hs.client d
    exact hsuits.mono (fun _ => hphase) fun _ ho => hcollected.trans ho

/-- A phase after the collection is the last one. -/
theorem Step.phase_eq {m : Move} (hs : s.InStep) (h : Step setup s m t)
    (hp : s.phase ≠ .collecting) : t.phase = s.phase := by
  cases h with
  | worker h => exact (h.keeps hs.worker).1 hp
  | client h => exact h.frame.1
  | called | cancelled | spared => rfl

/-- What is known of the collection stays known. -/
theorem Step.collected_eq {m : Move} (hs : s.InStep) (h : Step setup s m t)
    {outcome : Except Failure (List String)} (ho : s.collected = some outcome) :
    t.collected = some outcome := by
  cases h with
  | worker h => exact (h.keeps hs.worker).2 outcome ho
  | client h => exact h.frame.2.2.1.trans ho
  | called | cancelled | spared => exact ho

theorem Step.inStep {m : Move} (hs : s.InStep) (hlaunch : Launch s) (h : Step setup s m t) :
    t.InStep := by
  cases h with
  | worker h => exact h.inStep hs
  | client h => exact h.inStep hs hlaunch
  | @called c request =>
      refine ⟨hs.worker, fun d => ?_⟩
      by_cases hd : d = c
      · simp [State.setClient, hd, State.Suits]
      · simp only [State.setClient, hd, if_false]
        exact hs.client d
  | cancelled => exact ⟨hs.worker, hs.client⟩
  | spared => exact hs

end

theorem Reachable.inStep {setup : Setup} {s : State} (h : Reachable setup s) : s.InStep :=
  h.invariant (inStep_initial setup) fun hr hs hstep => hstep.inStep hs hr.launch

end StyleUsage.Session
