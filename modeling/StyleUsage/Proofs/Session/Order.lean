import StyleUsage.Proofs.Session.Passage

/-!
# Arrival order

The worker takes the stylesheets of the line one after the other, in the order of their arrival,
and a stylesheet goes past the line only when the line has been worked off. So the history of the
queued stylesheets is in the order of their arrival, and it ends before that of any other one
begins.
-/

namespace StyleUsage.Session

section
variable {setup : Setup} {s t : State} {m : Move} {routes : List Route}
  {history : List (Nat × Mark)}

/-! ## The ticket of a step -/

theorem marksOn_ne_nil {x : Nat × Mark} (h : x ∈ s.marks m t) : s.marksOn m t x.1 ≠ [] := by
  obtain ⟨id, -, hx⟩ := List.mem_flatMap.1 h
  obtain ⟨mark, hmark, rfl⟩ := List.mem_map.1 hx
  exact List.ne_nil_of_mem hmark

theorem fst_of_mem_marks {id : Nat} {x : Nat × Mark}
    (h : ∀ i, i ≠ id → s.marksOn m t i = []) (hx : x ∈ s.marks m t) : x.1 = id :=
  Classical.byContradiction fun hne => marksOn_ne_nil hx (h x.1 hne)

/-- Someone other than the queue has a ticket in hand, and it is his turn with it. -/
def State.HasInHand (s : State) (id : Nat) : Prop :=
  ∃ holder rest, holder ≠ .queue ∧ s.held holder = id :: rest

/-- A step marks one ticket at most, which someone has in hand. -/
theorem Effect.marked (h : Effect setup s m t) (hamiss : ¬ s.IsAmiss setup) :
    (∀ id, s.marksOn m t id = []) ∨
      ∃ id, s.HasInHand id ∧ ∀ i, i ≠ id → s.marksOn m t i = [] := by
  cases h with
  | still hheld hnext htickets hevents | taken hqueue hfree hheld hnext hclients htickets hevents =>
      exact .inl fun id => marksOn_eq_nil (by rw [htickets]) (.inr (news_eq_nil hevents))
  | entered htickets hstate hheld hbegin hnext hsame hevents =>
      refine .inl fun id => ?_
      by_cases hid : id < s.tickets.length
      · refine marksOn_eq_nil ?_ (.inr (news_eq_nil hevents))
        rw [htickets, List.getElem?_append_left hid]
      · exact marksOn_eq_nil_of_le (Nat.le_of_not_lt hid)
  | @cancelled id old hheld hnext hold hstate htickets hevents =>
      refine .inl fun i => ?_
      by_cases hi : i = id
      · subst hi
        have hnew := (congrArg (·[i]?) htickets).trans (getElem?_setTicket_self hold)
        rw [marksOn_eq hold hnew, news_eq_nil hevents]
        simp [hstate, TicketState.begins, TicketState.settles]
      · refine marksOn_eq_nil ?_ (.inr (news_eq_nil hevents))
        rw [htickets, getElem?_setTicket, if_neg (Ne.symm hi)]
  | @analysed holder id used step next t' ha hm hstep ht htickets
  | @finished holder id used step t' ha hm hstep ht htickets =>
      have hholder : holder ≠ .queue := by
        rintro rfl
        exact ha
      refine .inr ⟨id, ⟨holder, [], hholder, ha.held.1⟩, fun i hi => ?_⟩
      refine marksOn_eq_nil (htickets ▸ hstep.other hi) (.inl ?_)
      simpa [hm] using Ne.symm hi
  | @rejected holder id rest failure t' hp hheld hbegin hr ht hnext htickets hsame hevents hf hq =>
      refine .inr ⟨id, ⟨holder, rest, hq, hheld⟩, fun i hi => ?_⟩
      refine marksOn_eq_nil ?_ (.inr (news_eq_nil hevents))
      rw [htickets]
      obtain ⟨old, -, ⟨-, rfl⟩ | ⟨-, rfl⟩⟩ := reject_eq_ok hr <;>
        rw [getElem?_setTicket, if_neg (Ne.symm hi)]
  | broken h => exact absurd h hamiss

/-- The ticket that a new mark belongs to. -/
theorem Effect.of_mem_marks (h : Effect setup s m t) (hamiss : ¬ s.IsAmiss setup)
    {x : Nat × Mark} (hx : x ∈ s.marks m t) :
    s.HasInHand x.1 ∧ ∀ y ∈ s.marks m t, y.1 = x.1 := by
  rcases h.marked hamiss with hnone | ⟨id, hhand, hothers⟩
  · exact absurd (hnone x.1) (marksOn_ne_nil hx)
  · rw [fst_of_mem_marks hothers hx]
    exact ⟨hhand, fun y hy => fst_of_mem_marks hothers hy⟩

theorem mem_of_mem_trail {id : Nat} {mark : Mark} (h : mark ∈ trail history id) :
    (id, mark) ∈ history := by
  obtain ⟨⟨i, found⟩, hx, heq⟩ := List.mem_filterMap.1 h
  by_cases hi : i = id
  · simp only [hi, if_true, Option.some.injEq] at heq
    exact hi ▸ heq ▸ hx
  · simp [hi] at heq

theorem Recorded.lt_of_mem (h : Recorded s history) {x : Nat × Mark} (hx : x ∈ history) :
    x.1 < s.tickets.length := by
  apply Nat.lt_of_not_le
  intro hle
  have hmark := mem_trail hx
  rw [h.beyond hle] at hmark
  cases hmark

/-- The worker has the first of the line in hand, and a client what went past the line. -/
theorem Routed.of_hasInHand {id : Nat} (hs : Routed s routes) (h : s.HasInHand id) :
    (id ∈ s.line ∧ ∀ j ∈ s.line, id ≤ j) ∨ ∃ c, id ∈ s.held (.client c) := by
  obtain ⟨holder, rest, hholder, hheld⟩ := h
  cases holder with
  | queue => exact absurd rfl hholder
  | client c => exact .inr ⟨c, hheld ▸ List.mem_cons_self⟩
  | worker =>
      have hline : s.line = id :: (rest ++ s.queue) := by
        rw [State.line, show s.worker.held = _ from hheld]
        rfl
      have hsorted := hs.sorted
      rw [hline, List.pairwise_cons] at hsorted
      refine .inl ⟨hline ▸ List.mem_cons_self, fun j hj => ?_⟩
      rcases List.mem_cons.1 (hline ▸ hj) with rfl | hj
      · exact Nat.le_refl _
      · exact Nat.le_of_lt (hsorted.1 j hj)

/-! ## In turn -/

/-- The history of the stylesheets that take a certain way is in the order of their arrival, and
goes up to the first of those that wait. -/
structure InTurn (routes : List Route) (r : Route) (waiting : List Nat)
    (history : List (Nat × Mark)) : Prop where
  sorted : history.Pairwise fun x y =>
    routes[x.1]? = some r → routes[y.1]? = some r → x.1 ≤ y.1
  reached : ∀ x ∈ history, routes[x.1]? = some r → ∀ j ∈ waiting, x.1 ≤ j

/-- A step that marks nothing but the first of those that wait. -/
theorem InTurn.step {r : Route} {waiting waiting' : List Nat} {marks : List (Nat × Mark)}
    {more : List Route} (hs : InTurn routes r waiting history)
    (hold : ∀ x ∈ history ++ marks, x.1 < routes.length)
    (hmarks : ∀ x ∈ marks, ∀ y ∈ marks, y.1 = x.1)
    (hfirst : ∀ x ∈ marks, routes[x.1]? = some r → x.1 ∈ waiting ∧ ∀ j ∈ waiting, x.1 ≤ j)
    (hwaiting : ∀ j ∈ waiting', j ∈ waiting ∨ j = routes.length) :
    InTurn (routes ++ more) r waiting' (history ++ marks) := by
  have hroute {x : Nat × Mark} (hx : x ∈ history ++ marks) :
      (routes ++ more)[x.1]? = routes[x.1]? := List.getElem?_append_left (hold x hx)
  have hreached (x : Nat × Mark) (hx : x ∈ history ++ marks) (hr : routes[x.1]? = some r)
      (j : Nat) (hj : j ∈ waiting) : x.1 ≤ j := by
    rcases List.mem_append.1 hx with hx | hx
    · exact hs.reached x hx hr j hj
    · exact (hfirst x hx hr).2 j hj
  constructor
  case sorted =>
    have hall : (history ++ marks).Pairwise fun x y =>
        routes[x.1]? = some r → routes[y.1]? = some r → x.1 ≤ y.1 := by
      rw [List.pairwise_append]
      refine ⟨hs.sorted, ?_, fun x hx y hy hrx hry => ?_⟩
      · refine List.pairwise_of_forall_mem_list fun x hx y hy _ _ => ?_
        exact Nat.le_of_eq (hmarks x hx y hy).symm
      · exact hs.reached x hx hrx y.1 (hfirst y hy hry).1
    refine hall.imp_of_mem fun hx hy h => ?_
    rw [hroute hx, hroute hy]
    exact h
  case reached =>
    intro x hx hr j hj
    rw [hroute hx] at hr
    rcases hwaiting j hj with hj | rfl
    · exact hreached x hx hr j hj
    · exact Nat.le_of_lt (hold x hx)

/-- The line is worked off in turn, and nothing past it is touched before it is done. -/
structure Ordered (s : State) (routes : List Route) (history : List (Nat × Mark)) : Prop where
  queued : InTurn routes .queued s.line history
  direct : history.Pairwise fun x y => routes[x.1]? = some .direct → routes[y.1]? ≠ some .queued

theorem Passage.of_mem_line (h : Passage s t) {j : Nat} (hj : j ∈ t.line) :
    j ∈ s.line ∨ j = s.tickets.length := by
  cases h with
  | kept htickets hline =>
      rcases hline with hline | hline <;> rw [hline] at hj
      · exact .inl hj
      · exact .inl (List.mem_of_mem_tail hj)
  | joined htickets hopen hroute hline =>
      rw [hline, List.mem_append, List.mem_singleton] at hj
      exact hj
  | passed htickets hshut hroute hline => exact .inl (hline ▸ hj)

theorem Ordered.step (hs : Ordered s routes history) (hrouted : Routed s routes)
    (hold : ∀ x ∈ history, x.1 < s.tickets.length) (hpassage : Passage s t)
    (heffect : Effect setup s m t) (hamiss : ¬ s.IsAmiss setup) (hcustody : Custody s)
    (hempty : .direct ∈ routes → s.line = []) :
    Ordered t (routes ++ s.arrivals t) (history ++ s.marks m t) := by
  have hfirst (x : Nat × Mark) (hx : x ∈ s.marks m t) (hr : routes[x.1]? = some .queued) :
      x.1 ∈ s.line ∧ ∀ j ∈ s.line, x.1 ≤ j := by
    rcases hrouted.of_hasInHand (heffect.of_mem_marks hamiss hx).1 with hline | ⟨c, hc⟩
    · exact hline
    · exact absurd hr (hrouted.client hc)
  have hall (x : Nat × Mark) (hx : x ∈ history ++ s.marks m t) : x.1 < routes.length := by
    rw [hrouted.length]
    rcases List.mem_append.1 hx with hx | hx
    · exact hold x hx
    · obtain ⟨holder, rest, -, hheld⟩ := (heffect.of_mem_marks hamiss hx).1
      exact hcustody.written (hheld ▸ List.mem_cons_self)
  constructor
  case queued =>
    refine hs.queued.step hall (fun x hx => (heffect.of_mem_marks hamiss hx).2) hfirst
      fun j hj => ?_
    rw [hrouted.length]
    exact hpassage.of_mem_line hj
  case direct =>
    have hbefore : (history ++ s.marks m t).Pairwise fun x y =>
        routes[x.1]? = some .direct → routes[y.1]? ≠ some .queued := by
      rw [List.pairwise_append]
      refine ⟨hs.direct, ?_, fun x hx y hy hrx hry => ?_⟩
      · refine List.pairwise_of_forall_mem_list fun x hx y hy hrx => ?_
        rw [(heffect.of_mem_marks hamiss hx).2 y hy, hrx]
        simp
      · have hline := (hfirst y hy hry).1
        rw [hempty (List.mem_of_getElem? hrx)] at hline
        cases hline
    refine hbefore.imp_of_mem fun hx hy h => ?_
    rw [List.getElem?_append_left (hall _ hx), List.getElem?_append_left (hall _ hy)]
    exact h

theorem RoutedRun.line_eq_nil (hquiet : ∀ n e, setup.listener n e = none)
    (h : RoutedRun setup routes history s) (hdirect : .direct ∈ routes) : s.line = [] := by
  have hr := h.run.reachable
  obtain ⟨hp, hd⟩ := (h.routed hquiet).direct hdirect
  exact hr.inStep.line_eq_nil hp hd (hr.worker_ne_died hquiet)

theorem RoutedRun.ordered (hquiet : ∀ n e, setup.listener n e = none)
    (h : RoutedRun setup routes history s) : Ordered s routes history := by
  induction h with
  | initial => exact ⟨⟨.nil, fun x hx => by cases hx⟩, .nil⟩
  | @step routes history s t m hrun hm ih =>
      have hr := hrun.run.reachable
      have hstep := step_of_step? hm
      have hpassage := hstep.passage hr.launch hr.custody ((hr.step m hm).worker_ne_died hquiet)
      exact ih.step (hrun.routed hquiet) (fun x hx => (hrun.run.recorded hquiet).lt_of_mem hx)
        hpassage (hstep.effect hr.inStep hr.launch) (hr.not_isAmiss hquiet) hr.custody
        (hrun.line_eq_nil hquiet)

/-! ## Worked off -/

/-- Nothing more is to be done with a ticket: it has been left out, analysed or rejected. -/
def State.IsHandled (s : State) (history : List (Nat × Mark)) (id : Nat) : Prop :=
  ∃ ticket, s.tickets[id]? = some ticket ∧ ticket.IsClosed s.phase (trail history id)

/-- A queued stylesheet that is no longer in the line has been handled. -/
theorem Routed.isHandled {id : Nat} (hs : Routed s routes) (hrecorded : Recorded s history)
    (hr : routes[id]? = some .queued) (hline : id ∉ s.line) : s.IsHandled history id := by
  have hlt : id < s.tickets.length := by
    rw [← hs.length]
    exact (List.getElem?_eq_some_iff.1 hr).1
  refine ⟨_, List.getElem?_eq_getElem hlt, ?_⟩
  refine (hrecorded.accounts id).closed (fun holder hid => ?_) (List.getElem?_eq_getElem hlt)
  cases holder with
  | queue => exact hline (List.mem_append_right _ hid)
  | worker => exact hline (List.mem_append_left _ hid)
  | client c => exact hs.client hid hr

/-- Whoever analyses a stylesheet in its client has sent it past the line. -/
theorem Routed.direct_of_analysing {c id : Nat} {used : List String} {step : Analysis}
    (hs : Routed s routes) (hstep : s.InStep) (hcustody : Custody s)
    (h : s.clients c = .analysing id used step) : routes[id]? = some .direct := by
  have hheld : id ∈ s.held (.client c) := by simp [State.held, h, Client.held]
  have hphase : s.phase = .ready := by
    have hsuits := hstep.client c
    rw [h] at hsuits
    exact hsuits.1
  have hlt : id < routes.length := hs.length ▸ hcustody.written hheld
  have hnot := hs.client hheld
  rw [List.getElem?_eq_getElem hlt] at hnot ⊢
  cases hr : routes[id] with
  | direct => rfl
  | queued => exact absurd (congrArg some hr) hnot
  | refused =>
      have hfailed := hs.refused (hr ▸ List.getElem_mem hlt)
      rw [hphase] at hfailed
      cases hfailed

/-- In every run, the stylesheets that the worker analyses have been queued, and those that a client
analyses have gone past the line. What happens to queued stylesheets happens in the order of their
arrival: when anything has happened to one of them, those before it have been handled, and the same
holds when a stylesheet has gone past the line. After that no stylesheet is queued any more. -/
theorem handled_in_arrival_order (hquiet : ∀ n e, setup.listener n e = none)
    (h : RoutedRun setup routes history s) :
    routes.length = s.tickets.length ∧ announced history = s.analysisEvents ∧
    (∀ id used step, s.worker = .analysing used id step → routes[id]? = some .queued) ∧
    (∀ c id used step, s.clients c = .analysing id used step → routes[id]? = some .direct) ∧
    history.Pairwise (fun x y => routes[y.1]? = some .queued →
      routes[x.1]? ≠ some .direct ∧ (routes[x.1]? = some .queued → x.1 ≤ y.1)) ∧
    (∀ i j : Nat, i < j → routes[i]? = some .queued → routes[j]? = some .queued →
      trail history j ≠ [] → s.IsHandled history i) ∧
    (∀ i j : Nat, routes[i]? = some .queued → routes[j]? = some .direct → s.IsHandled history i) ∧
    routes.Pairwise (fun r r' => r = .direct → r' ≠ .queued) := by
  have hr := h.run.reachable
  have hrecorded := h.run.recorded hquiet
  have hrouted := h.routed hquiet
  have hordered := h.ordered hquiet
  refine ⟨hrouted.length, hrecorded.events, fun id used step hw => hrouted.line ?_,
    fun c id used step hc => hrouted.direct_of_analysing hr.inStep hr.custody hc, ?_, ?_, ?_,
    hrouted.afterwards⟩
  · simp [State.line, hw, Worker.held]
  · refine hordered.queued.sorted.imp₂ (fun x y hsorted hdirect hry => ?_) hordered.direct
    exact ⟨fun hrx => hdirect hrx hry, fun hrx => hsorted hrx hry⟩
  · intro i j hij hi hj htrail
    refine hrouted.isHandled hrecorded hi fun hline => ?_
    obtain ⟨mark, hmark⟩ := List.exists_mem_of_ne_nil _ htrail
    have hle := hordered.queued.reached (j, mark) (mem_of_mem_trail hmark) hj i hline
    exact Nat.not_le_of_lt hij hle
  · intro i j hi hj
    refine hrouted.isHandled hrecorded hi fun hline => ?_
    rw [h.line_eq_nil hquiet (List.mem_of_getElem? hj)] at hline
    cases hline

/-! ## A tour -/

/-- The ways and the history of some moves, if they are possible one after the other. -/
def State.tour? (s : State) (setup : Setup) :
    List Move → Option (List Route × List (Nat × Mark) × State)
  | [] => some ([], [], s)
  | m :: rest =>
      match s.step? setup m with
      | some t => (t.tour? setup rest).map fun (routes, history, last) =>
          (s.arrivals t ++ routes, s.marks m t ++ history, last)
      | none => none

theorem RoutedRun.tour {moves : List Move} {more : List Route} {marks : List (Nat × Mark)}
    (h : RoutedRun setup routes history s) (ht : s.tour? setup moves = some (more, marks, t)) :
    RoutedRun setup (routes ++ more) (history ++ marks) t := by
  induction moves generalizing s routes history more marks with
  | nil =>
      cases ht
      simpa using h
  | cons m rest ih =>
      simp only [State.tour?] at ht
      cases hm : s.step? setup m with
      | none => simp [hm] at ht
      | some s' =>
          simp only [hm] at ht
          obtain ⟨⟨routes', history', last⟩, hrest, heq⟩ := Option.map_eq_some_iff.1 ht
          cases heq
          rw [← List.append_assoc, ← List.append_assoc]
          exact ih (h.step m hm) hrest

end

/-- A session whose only source uses one class. -/
def orderlySetup : Setup where
  patterns := []
  directives := false
  exemptions := []
  load := ⟨[], [⟨"page.html", "<p class='used'>"⟩], none⟩
  listener := quiet

/-- Two stylesheets wait for the collection and the second one is cancelled; a third one comes while
the line is worked off, and a fourth one goes past it. -/
def orderlyMoves : List Move :=
  List.flatten [
    [.call 0 (.submit "a.css" ".used \x7b\x7d")], List.replicate 5 (.client 0),
    [.call 1 (.submit "b.css" "")], List.replicate 3 (.client 1), [.cancel 1],
    List.replicate 9 .worker,
    [.call 2 (.submit "c.css" "")], List.replicate 3 (.client 2),
    List.replicate 11 .worker,
    [.call 0 (.submit "d.css" "")], List.replicate 7 (.client 0)]

theorem handled_in_arrival_order_sample : ∃ routes history s,
    RoutedRun orderlySetup routes history s ∧ routes = [.queued, .queued, .queued, .direct] ∧
    history.map Prod.fst = [0, 0, 0, 0, 2, 2, 2, 2, 3, 3, 3, 3] ∧
    (∀ i j : Nat, i < j → routes[i]? = some .queued → routes[j]? = some .queued →
      trail history j ≠ [] → s.IsHandled history i) ∧
    (∀ i j : Nat, routes[i]? = some .queued → routes[j]? = some .direct →
      s.IsHandled history i) := by
  have hrun : ((State.initial orderlySetup).tour? orderlySetup orderlyMoves).map
      (fun (routes, history, _) => (routes, history.map Prod.fst)) =
      some ([.queued, .queued, .queued, .direct], [0, 0, 0, 0, 2, 2, 2, 2, 3, 3, 3, 3]) := by
    decide +kernel
  obtain ⟨⟨routes, history, s⟩, htour, hseen⟩ := Option.map_eq_some_iff.1 hrun
  simp only [Prod.mk.injEq] at hseen
  obtain ⟨hroutes, hhistory⟩ := hseen
  have h : RoutedRun orderlySetup routes history s := RoutedRun.initial.tour htour
  obtain ⟨-, -, -, -, -, hqueued, hdirect, -⟩ := handled_in_arrival_order (fun _ _ => rfl) h
  exact ⟨routes, history, s, h, hroutes, hhistory, hqueued, hdirect⟩

end StyleUsage.Session
