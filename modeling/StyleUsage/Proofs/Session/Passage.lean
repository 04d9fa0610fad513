import StyleUsage.Proofs.Session.Completion

/-!
# The ways of stylesheets

A stylesheet that arrives waits in a line for the worker, or it stays with its client, which
analyses it or gives it the failure of the collection. Once a stylesheet has gone past the line,
the line is empty and nobody joins it any more.
-/

namespace StyleUsage.Session

/-- The way that a stylesheet takes. -/
inductive Route where
  /-- It waits for the worker. -/
  | queued
  /-- Its client gives it the failure of the collection. -/
  | refused
  /-- Its client analyses it. -/
  | direct
  deriving Repr, DecidableEq

namespace State

/-- The way of a stylesheet, as it shows right after its arrival. -/
def route (s : State) (id : Nat) : Route :=
  if id ∈ s.queue then .queued else if s.phase = .failed then .refused else .direct

/-- The ways of the stylesheets that arrive by a step, in order. -/
def arrivals (s t : State) : List Route :=
  (List.range' s.tickets.length (t.tickets.length - s.tickets.length)).map t.route

/-- The tickets that wait for the worker, those that it has in hand first. -/
def line (s : State) : List Nat :=
  s.worker.held ++ s.queue

end State

/-- What a step does to the line, and to the tickets in the hands of clients. -/
inductive Passage (s t : State) : Prop where
  | kept (htickets : t.tickets.length = s.tickets.length)
      (hline : t.line = s.line ∨ t.line = s.line.tail)
      (hclients : ∀ c, ∀ id ∈ t.held (.client c), id ∈ s.held (.client c))
  /-- A stylesheet joins the line. -/
  | joined (htickets : t.tickets.length = s.tickets.length + 1)
      (hopen : s.phase = .collecting ∨ s.draining = true)
      (hroute : t.route s.tickets.length = .queued)
      (hline : t.line = s.line ++ [s.tickets.length])
      (hclients : ∀ c, ∀ id ∈ t.held (.client c), id ∈ s.held (.client c))
  /-- A stylesheet goes past the line. -/
  | passed (htickets : t.tickets.length = s.tickets.length + 1)
      (hshut : s.phase ≠ .collecting ∧ s.draining = false)
      (hroute : t.route s.tickets.length ≠ .queued) (hline : t.line = s.line)
      (hclients : ∀ c, ∀ id ∈ t.held (.client c), id ∈ s.held (.client c) ∨ id = s.tickets.length)

section
variable {setup : Setup} {s t : State} {m : Move} {routes : List Route}
  {history : List (Nat × Mark)}

/-! ## One step -/

theorem WorkerStep.line_eq (h : WorkerStep setup s t) (ht : ∀ failure, t.worker ≠ .died failure) :
    t.line = s.line ∨ t.line = s.line.tail := by
  cases h with
  | broke | sweptAmiss | completedInVain | reportedInVain | concludedTwice =>
      exact absurd rfl (ht _)
  | analysed hw ha =>
      obtain ⟨tickets, log, rfl⟩ := ha.frame
      exact .inl (by simp [State.line, hw, Worker.held, State.setWorker])
  | finished hw ha =>
      obtain ⟨tickets, log, rfl⟩ := ha.frame
      exact .inr (by simp [State.line, hw, Worker.held, State.setWorker])
  | swept hw hr =>
      obtain ⟨tickets, rfl⟩ := frame_of_reject hr
      exact .inr (by simp [State.line, hw, Worker.held, State.setWorker])
  | drained hw hq | popped hw hq => exact .inl (by simp [State.line, hw, hq, Worker.held])
  | _ hw => exact .inl (by simp [State.line, State.record, hw, Worker.held])

theorem AnalysisStep.length_eq {id : Nat} {used : List String} {step : Analysis}
    {advance : Advance} (h : AnalysisStep setup s id used step t advance) :
    t.tickets.length = s.tickets.length := by
  cases h <;> simp [State.setTicket, State.record]

theorem length_of_reject {id : Nat} {failure : Failure} (h : s.reject id failure = .ok t) :
    t.tickets.length = s.tickets.length := by
  obtain ⟨ticket, -, ⟨-, rfl⟩ | ⟨-, rfl⟩⟩ := reject_eq_ok h <;> simp [State.setTicket]

theorem WorkerStep.length_eq (h : WorkerStep setup s t) : t.tickets.length = s.tickets.length := by
  cases h with
  | analysed hw ha | finished hw ha | broke hw ha => exact ha.length_eq
  | swept hw hr => simpa [State.setWorker] using length_of_reject hr
  | _ => rfl

theorem route_of_not_mem {id : Nat} (h : id ∉ s.queue) : s.route id ≠ .queued := by
  unfold State.route
  rw [if_neg h]
  split <;> simp

theorem route_of_ne_queued {id : Nat} (h : s.route id ≠ .queued) :
    s.route id = if s.phase = .failed then .refused else .direct := by
  unfold State.route at h ⊢
  by_cases hid : id ∈ s.queue
  · simp [hid] at h
  · rw [if_neg hid]

theorem ClientStep.passage {c : Nat} (h : ClientStep setup s c t) (hlaunch : Launch s)
    (hcustody : Custody s) : Passage s t := by
  have hworker : t.worker.held = s.worker.held := by
    rcases h.launches hlaunch with hworker | ⟨habsent, hworker⟩
    · rw [hworker]
    · rw [hworker, habsent]
      rfl
  have hline (hqueue : t.queue = s.queue) : t.line = s.line := by
    rw [State.line, State.line, hworker, hqueue]
  have hothers {d : Nat} (hd : d ≠ c) : t.held (.client d) = s.held (.client d) := by
    rw [State.held, State.held, h.clients_of_ne hd]
  have hclients (hc : ∀ id ∈ (t.clients c).held, id ∈ (s.clients c).held) (d : Nat) (id : Nat)
      (hid : id ∈ t.held (.client d)) : id ∈ s.held (.client d) := by
    by_cases hd : d = c
    · subst hd
      exact hc id hid
    · exact hothers hd ▸ hid
  have hkept (htickets : t.tickets.length = s.tickets.length) (hqueue : t.queue = s.queue)
      (hc : ∀ id ∈ (t.clients c).held, id ∈ (s.clients c).held) : Passage s t :=
    .kept htickets (.inl (hline hqueue)) (hclients hc)
  have hnew : s.tickets.length ∉ s.held .queue := fun hmem =>
    Nat.lt_irrefl _ (hcustody.written hmem)
  cases h with
  | queued hc hp =>
      refine .joined (by simp [State.write, State.setClient]) hp ?_ ?_ (hclients ?_)
      · simp [State.route]
      · simp [State.line, State.write, State.setClient]
      · simp [State.setClient, Client.held]
  | refused hc hp hd | admitted hc hp hd =>
      refine .passed (by simp [State.write, State.setClient]) ⟨by simp [hp], hd⟩
        (route_of_not_mem hnew) rfl fun d id hid => ?_
      by_cases hd : d = c
      · subst hd
        simp only [State.held, clients_setClient, Client.held, List.mem_singleton] at hid
        exact .inr hid
      · exact .inl (hothers hd ▸ hid)
  | rejected hc hf hr =>
      refine hkept (by simpa using length_of_reject hr) ?_ (by simp [Client.held])
      obtain ⟨tickets, rfl⟩ := frame_of_reject hr
      simp
  | analysed hc ha =>
      refine hkept ha.length_eq ?_ (by simp [hc, Client.held])
      obtain ⟨tickets, log, rfl⟩ := ha.frame
      rfl
  | finished hc ha | broke hc ha =>
      refine hkept (by simpa using ha.length_eq) ?_ (by simp [Client.held])
      obtain ⟨tickets, log, rfl⟩ := ha.frame
      simp
  | @joined request hc | @spawned request hc =>
      exact hkept rfl rfl (by cases request <;> simp [Request.onward, State.setClient, Client.held])
  | launched hc => exact hkept rfl rfl (by simp [State.setClient, Client.held])
  | told hc => exact hkept rfl rfl (by simp [Client.held])
  | began hc => exact hkept rfl rfl (by simp [hc, Client.held])
  | _ => exact hkept (by simp [State.record]) (by simp [State.record]) (by simp [Client.held])

theorem Step.passage (h : Step setup s m t) (hlaunch : Launch s) (hcustody : Custody s)
    (ht : ∀ failure, t.worker ≠ .died failure) : Passage s t := by
  cases h with
  | worker h =>
      refine .kept h.length_eq (h.line_eq ht) fun c id hid => ?_
      rw [State.held, h.frame.2.1] at hid
      exact hid
  | client h => exact h.passage hlaunch hcustody
  | @called c request hc =>
      refine .kept rfl (.inl rfl) fun d id hid => ?_
      by_cases hd : d = c
      · simp [State.held, State.setClient, hd, Client.held] at hid
      · simpa [State.held, State.setClient, hd] using hid
  | cancelled => exact .kept (by simp [State.setTicket]) (.inl rfl) fun _ _ hid => hid
  | spared => exact .kept rfl (.inl rfl) fun _ _ hid => hid

/-- Nobody joins the line any more once it is shut. -/
theorem Step.draining_eq (hs : s.InStep) (h : Step setup s m t) (hp : s.phase ≠ .collecting)
    (hd : s.draining = false) : t.draining = false := by
  cases h with
  | worker h =>
      cases h with
      | published hw =>
          have hworker := hs.worker
          rw [hw] at hworker
          exact absurd hworker.1 hp
      | drained => rfl
      | analysed hw ha | finished hw ha | broke hw ha =>
          obtain ⟨tickets, log, rfl⟩ := ha.frame
          exact hd
      | swept hw hr =>
          obtain ⟨tickets, rfl⟩ := frame_of_reject hr
          exact hd
      | _ => exact hd
  | client h => exact h.frame.2.1.trans hd
  | called | cancelled | spared => exact hd

/-- When the session is ready and the line is shut, nobody is left in it. -/
theorem State.InStep.line_eq_nil (hs : s.InStep) (hp : s.phase = .ready) (hd : s.draining = false)
    (hw : ∀ failure, s.worker ≠ .died failure) : s.line = [] := by
  have hworker := hs.worker
  cases h : s.worker <;> simp_all [State.AgreesWith, State.line, Worker.held]

/-! ## The ways taken so far -/

/-- The ways of the stylesheets that have arrived, in order, and what they say of where the tickets
are now. -/
structure Routed (s : State) (routes : List Route) : Prop where
  length : routes.length = s.tickets.length
  sorted : s.line.Pairwise (· < ·)
  line : ∀ {id}, id ∈ s.line → routes[id]? = some .queued
  client : ∀ {c id}, id ∈ s.held (.client c) → routes[id]? ≠ some .queued
  direct : .direct ∈ routes → s.phase = .ready ∧ s.draining = false
  refused : .refused ∈ routes → s.phase = .failed
  afterwards : routes.Pairwise fun r r' => r = .direct → r' ≠ .queued

theorem routed_initial (setup : Setup) : Routed (.initial setup) [] where
  length := rfl
  sorted := .nil
  line h := by simp [State.initial, State.line, Worker.held] at h
  client h := by simp [State.initial, State.held, Client.held] at h
  direct h := by cases h
  refused h := by cases h
  afterwards := .nil

theorem arrivals_of_length_eq (h : t.tickets.length = s.tickets.length) : s.arrivals t = [] := by
  simp [State.arrivals, h]

theorem arrivals_of_length_eq_succ (h : t.tickets.length = s.tickets.length + 1) :
    s.arrivals t = [t.route s.tickets.length] := by
  simp [State.arrivals, h]

theorem Routed.lt_of_mem_line {id : Nat} (h : Routed s routes) (hid : id ∈ s.line) :
    id < s.tickets.length := by
  rw [← h.length]
  exact (List.getElem?_eq_some_iff.1 (h.line hid)).1

/-- What is said of a ticket stays true when others arrive. -/
theorem Routed.getElem?_append {id : Nat} (hs : Routed s routes) (hid : id < s.tickets.length)
    (more : List Route) : (routes ++ more)[id]? = routes[id]? :=
  List.getElem?_append_left (hs.length ▸ hid)

/-- The ways taken so far fit the phase after a step too. -/
theorem Routed.phase_of_mem (hs : Routed s routes)
    (hphase : s.phase ≠ .collecting → t.phase = s.phase)
    (hdraining : s.phase ≠ .collecting → s.draining = false → t.draining = false) :
    (.direct ∈ routes → t.phase = .ready ∧ t.draining = false) ∧
      (.refused ∈ routes → t.phase = .failed) := by
  refine ⟨fun hmem => ?_, fun hmem => ?_⟩
  · obtain ⟨hp, hd⟩ := hs.direct hmem
    have hnot : s.phase ≠ .collecting := by simp [hp]
    exact ⟨(hphase hnot).trans hp, hdraining hnot hd⟩
  · have hp := hs.refused hmem
    exact (hphase (by simp [hp])).trans hp

theorem Routed.of_kept (hs : Routed s routes) (htickets : t.tickets.length = s.tickets.length)
    (hline : t.line = s.line ∨ t.line = s.line.tail)
    (hclients : ∀ c, ∀ id ∈ t.held (.client c), id ∈ s.held (.client c))
    (hdirect : .direct ∈ routes → t.phase = .ready ∧ t.draining = false)
    (hrefused : .refused ∈ routes → t.phase = .failed) : Routed t routes := by
  have hsub : t.line.Sublist s.line := by
    rcases hline with hline | hline
    · exact hline ▸ List.Sublist.refl _
    · exact hline ▸ List.tail_sublist _
  exact ⟨hs.length.trans htickets.symm, hs.sorted.sublist hsub,
    fun hid => hs.line (hsub.subset hid), fun hid => hs.client (hclients _ _ hid),
    hdirect, hrefused, hs.afterwards⟩

theorem Routed.of_joined (hs : Routed s routes) (hcustody : Custody s)
    (htickets : t.tickets.length = s.tickets.length + 1)
    (hopen : s.phase = .collecting ∨ s.draining = true)
    (hline : t.line = s.line ++ [s.tickets.length])
    (hclients : ∀ c, ∀ id ∈ t.held (.client c), id ∈ s.held (.client c))
    (hdirect : .direct ∈ routes → t.phase = .ready ∧ t.draining = false)
    (hrefused : .refused ∈ routes → t.phase = .failed) : Routed t (routes ++ [.queued]) := by
  have hnone : .direct ∉ routes := by
    intro hmem
    obtain ⟨hp, hd⟩ := hs.direct hmem
    simp [hp, hd] at hopen
  refine ⟨by simp [hs.length, htickets], ?_, fun {id} hid => ?_, fun {c id} hid => ?_,
    fun hmem => hdirect (by simpa using hmem), fun hmem => hrefused (by simpa using hmem), ?_⟩
  · rw [hline, List.pairwise_append]
    refine ⟨hs.sorted, List.pairwise_singleton _ _, fun id hid n hn => ?_⟩
    rw [List.mem_singleton.1 hn]
    exact hs.lt_of_mem_line hid
  · rw [hline, List.mem_append, List.mem_singleton] at hid
    rcases hid with hid | rfl
    · rw [hs.getElem?_append (hs.lt_of_mem_line hid)]
      exact hs.line hid
    · rw [← hs.length, List.getElem?_concat_length]
  · have hbefore := hclients c id hid
    rw [hs.getElem?_append (hcustody.written hbefore)]
    exact hs.client hbefore
  · rw [List.pairwise_append]
    refine ⟨hs.afterwards, List.pairwise_singleton _ _, fun r hr _ _ heq => ?_⟩
    exact absurd (heq ▸ hr) hnone

/-- A stylesheet that does not join the line goes past it, or is refused, as the phase says. -/
theorem Routed.of_passed {r : Route} (hs : Routed s routes) (hcustody : Custody s)
    (htickets : t.tickets.length = s.tickets.length + 1) (hline : t.line = s.line)
    (hclients : ∀ c, ∀ id ∈ t.held (.client c),
      id ∈ s.held (.client c) ∨ id = s.tickets.length) (hr : r ≠ .queued)
    (hdirect : .direct ∈ routes ++ [r] → t.phase = .ready ∧ t.draining = false)
    (hrefused : .refused ∈ routes ++ [r] → t.phase = .failed) : Routed t (routes ++ [r]) := by
  refine ⟨by simp [hs.length, htickets], hline ▸ hs.sorted, fun {id} hid => ?_,
    fun {c id} hid => ?_, hdirect, hrefused, ?_⟩
  · rw [hline] at hid
    rw [hs.getElem?_append (hs.lt_of_mem_line hid)]
    exact hs.line hid
  · rcases hclients c id hid with hbefore | rfl
    · rw [hs.getElem?_append (hcustody.written hbefore)]
      exact hs.client hbefore
    · rw [← hs.length, List.getElem?_concat_length]
      exact fun heq => hr (Option.some.inj heq)
  · rw [List.pairwise_append]
    refine ⟨hs.afterwards, List.pairwise_singleton _ _, fun r' hr' q hq _ => ?_⟩
    rw [List.mem_singleton.1 hq]
    exact hr

theorem Routed.step (hs : Routed s routes) (hcustody : Custody s) (h : Passage s t)
    (hphase : s.phase ≠ .collecting → t.phase = s.phase)
    (hdraining : s.phase ≠ .collecting → s.draining = false → t.draining = false) :
    Routed t (routes ++ s.arrivals t) := by
  obtain ⟨hdirect, hrefused⟩ := hs.phase_of_mem hphase hdraining
  cases h with
  | kept htickets hline hclients =>
      rw [arrivals_of_length_eq htickets, List.append_nil]
      exact hs.of_kept htickets hline hclients hdirect hrefused
  | joined htickets hopen hroute hline hclients =>
      rw [arrivals_of_length_eq_succ htickets, hroute]
      exact hs.of_joined hcustody htickets hopen hline hclients hdirect hrefused
  | passed htickets hshut hroute hline hclients =>
      rw [arrivals_of_length_eq_succ htickets]
      refine hs.of_passed hcustody htickets hline hclients hroute (fun hmem => ?_) fun hmem => ?_
      · rcases List.mem_append.1 hmem with hmem | hmem
        · exact hdirect hmem
        · refine ⟨?_, hdraining hshut.1 hshut.2⟩
          rw [List.mem_singleton, route_of_ne_queued hroute] at hmem
          cases hp : t.phase with
          | ready => rfl
          | collecting => exact absurd (hphase hshut.1 ▸ hp) hshut.1
          | failed => simp [hp] at hmem
      · rcases List.mem_append.1 hmem with hmem | hmem
        · exact hrefused hmem
        · rw [List.mem_singleton, route_of_ne_queued hroute] at hmem
          apply Classical.byContradiction
          intro hp
          simp [hp] at hmem

/-! ## Runs -/

/-- The runs of a session, with the ways that its stylesheets take and the history of what happens
to their tickets. -/
inductive RoutedRun (setup : Setup) : List Route → List (Nat × Mark) → State → Prop where
  | initial : RoutedRun setup [] [] (.initial setup)
  | step {routes : List Route} {history : List (Nat × Mark)} {s t : State} (m : Move)
      (h : RoutedRun setup routes history s) (hm : s.step? setup m = some t) :
      RoutedRun setup (routes ++ s.arrivals t) (history ++ s.marks m t) t

theorem RoutedRun.run (h : RoutedRun setup routes history s) : Run setup history s := by
  induction h with
  | initial => exact .initial
  | step m h hm ih => exact ih.step m hm

theorem RoutedRun.routed (hquiet : ∀ n e, setup.listener n e = none)
    (h : RoutedRun setup routes history s) : Routed s routes := by
  induction h with
  | initial => exact routed_initial setup
  | @step routes history s t m hrun hm ih =>
      have hr := hrun.run.reachable
      have hstep := step_of_step? hm
      have hpassage := hstep.passage hr.launch hr.custody ((hr.step m hm).worker_ne_died hquiet)
      exact ih.step hr.custody hpassage (hstep.phase_eq hr.inStep) (hstep.draining_eq hr.inStep)

end

end StyleUsage.Session
