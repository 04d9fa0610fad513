import StyleUsage.Proofs.Session.Conclusion
import StyleUsage.Proofs.Session.Progress
import StyleUsage.Proofs.Session.SoleClient

/-!
# When the collection ends makes no difference

One client submits stylesheets one after the other, and nobody cancels. Whatever the worker does in
between, in the end every ticket has the same outcome, and the same has been announced in the same
order: as if each stylesheet had been analysed when it was submitted.
-/

namespace StyleUsage.Session

open State (soleClient)

/-! ## Histories in order -/

def Mark.event? : Mark → Option Event
  | .event e => some e
  | _ => none

theorem announced_eq (history : List (Nat × Mark)) :
    announced history = history.filterMap fun x => x.2.event? := by
  unfold announced
  congr 1
  funext x
  obtain ⟨id, mark⟩ := x
  cases mark <;> rfl

/-- A history in order comes apart before a number. -/
theorem eq_append_of_sorted {history : List (Nat × Mark)} {n : Nat}
    (hsorted : history.Pairwise fun x y => x.1 ≤ y.1) :
    history = history.filter (fun x => x.1 < n) ++ history.filter (fun x => n ≤ x.1) := by
  induction history with
  | nil => rfl
  | cons x rest ih =>
      rw [List.pairwise_cons] at hsorted
      by_cases hx : x.1 < n
      · rw [List.filter_cons_of_pos (by simpa using hx),
          List.filter_cons_of_neg (by simpa using hx), List.cons_append, ← ih hsorted.2]
      · have hnone : rest.filter (fun y => y.1 < n) = [] := by
          refine List.filter_eq_nil_iff.2 fun y hy => ?_
          have hle := hsorted.1 y hy
          simp only [decide_eq_true_eq]
          omega
        have hall : rest.filter (fun y => n ≤ y.1) = rest := by
          refine List.filter_eq_self.2 fun y hy => ?_
          have hle := hsorted.1 y hy
          simp only [decide_eq_true_eq]
          omega
        rw [List.filter_cons_of_neg (by simpa using hx),
          List.filter_cons_of_pos (by simpa using hx), hnone, hall, List.nil_append]

theorem trail_eq_nil {history : List (Nat × Mark)} {id : Nat} (h : ∀ x ∈ history, x.1 ≠ id) :
    trail history id = [] := by
  refine List.filterMap_eq_nil_iff.2 fun x hx => ?_
  exact if_neg (h x hx)

theorem announced_of_trail {history : List (Nat × Mark)} {id : Nat}
    (h : ∀ x ∈ history, x.1 = id) :
    announced history = (trail history id).filterMap Mark.event? := by
  induction history with
  | nil => rfl
  | cons x rest ih =>
      obtain ⟨hx, hrest⟩ := List.forall_mem_cons.1 h
      have ih := ih hrest
      rw [announced_eq] at ih
      simp only [announced_eq, trail, List.filterMap_cons, hx, if_true] at ih ⊢
      rw [ih]

/-- The events of a history in order are those of one ticket after the other. -/
theorem announced_of_sorted {history : List (Nat × Mark)} {n : Nat}
    (hsorted : history.Pairwise fun x y => x.1 ≤ y.1) (hlt : ∀ x ∈ history, x.1 < n) :
    announced history =
      (List.range n).flatMap fun id => (trail history id).filterMap Mark.event? := by
  induction n generalizing history with
  | zero =>
      cases history with
      | nil => rfl
      | cons x rest => exact absurd (hlt x List.mem_cons_self) (Nat.not_lt_zero _)
  | succ n ih =>
      have hapart := eq_append_of_sorted (n := n) hsorted
      generalize hbefore : history.filter (fun x => x.1 < n) = before at hapart
      generalize hafter : history.filter (fun x => n ≤ x.1) = after at hapart
      have hlow (x : Nat × Mark) (hx : x ∈ before) : x.1 < n := by
        rw [← hbefore] at hx
        simpa using (List.mem_filter.1 hx).2
      have hhigh (x : Nat × Mark) (hx : x ∈ after) : x.1 = n := by
        have hmem : x ∈ history := by
          rw [hapart]
          exact List.mem_append_right _ hx
        rw [← hafter] at hx
        have hle : n ≤ x.1 := by simpa using (List.mem_filter.1 hx).2
        have hlt := hlt x hmem
        omega
      have hsorted' : before.Pairwise fun x y => x.1 ≤ y.1 :=
        hbefore ▸ hsorted.sublist List.filter_sublist
      have hlast : trail history n = trail after n := by
        rw [hapart, trail_append, trail_eq_nil fun x hx => Nat.ne_of_lt (hlow x hx),
          List.nil_append]
      have hfirst (id : Nat) (hid : id < n) : trail history id = trail before id := by
        have hnone : trail after id = [] := trail_eq_nil fun x hx => by
          rw [hhigh x hx]
          exact Nat.ne_of_gt hid
        rw [hapart, trail_append, hnone, List.append_nil]
      rw [List.range_succ, List.flatMap_append, List.flatMap_singleton, hlast,
        ← announced_of_trail hhigh]
      conv => lhs; rw [hapart, announced_append, ih hsorted' hlow]
      congr 1
      rw [List.flatMap_def, List.flatMap_def]
      congr 1
      refine List.map_congr_left fun id hid => ?_
      rw [hfirst id (List.mem_range.1 hid)]

section
variable {setup : Setup} {s t u : State} {routes : List Route} {history : List (Nat × Mark)}
  {documents more : List (String × String)}

/-- In a ready session with one client, everything has happened in the order of arrival. -/
theorem sorted_of_ready {waiting : List Nat} (hrouted : Routed s routes)
    (hordered : Ordered s routes history) (hdirect : InTurn routes .direct waiting history)
    (hlt : ∀ x ∈ history, x.1 < s.tickets.length) (hp : s.phase = .ready) :
    history.Pairwise fun x y => x.1 ≤ y.1 := by
  have hway (x : Nat × Mark) (hx : x ∈ history) :
      routes[x.1]? = some .queued ∨ routes[x.1]? = some .direct := by
    have hx : x.1 < routes.length := hrouted.length ▸ hlt x hx
    rw [List.getElem?_eq_getElem hx]
    cases hr : routes[x.1] with
    | queued => exact .inl rfl
    | direct => exact .inr rfl
    | refused =>
        have hfailed := hrouted.refused (hr ▸ List.getElem_mem hx)
        rw [hp] at hfailed
        cases hfailed
  -- no stylesheet is queued after one that goes past the line
  have hafterwards {i j : Nat} (hi : routes[i]? = some .queued) (hj : routes[j]? = some .direct) :
      i ≤ j := by
    apply Nat.le_of_not_lt
    intro hlt
    obtain ⟨hi', hi⟩ := List.getElem?_eq_some_iff.1 hi
    obtain ⟨hj', hj⟩ := List.getElem?_eq_some_iff.1 hj
    exact List.pairwise_iff_getElem.1 hrouted.afterwards j i hj' hi' hlt hj hi
  have hall := (hordered.queued.sorted.and hordered.direct).and hdirect.sorted
  refine hall.imp_of_mem fun {x y} hx hy h => ?_
  obtain ⟨⟨hqueued, hbefore⟩, hdirect⟩ := h
  rcases hway x hx with hrx | hrx <;> rcases hway y hy with hry | hry
  · exact hqueued hrx hry
  · exact hafterwards hrx hry
  · exact absurd hry (hbefore hrx)
  · exact hdirect hrx hry

/-! ## The end -/

/-- What is announced of the stylesheets of a session, one after the other: the analysis of each,
and its verdict if there is one. -/
def Setup.announcements (setup : Setup) (documents : List (String × String)) : List Event :=
  match setup.collection with
  | .ok used => documents.flatMap fun (path, css) =>
      .documentAnalyzing path :: ((finding setup used path css).toOption.map Verdict.event).toList
  | .error _ => []

/-- The worker has ended, and the only client submits nothing. -/
def State.HasEnded (s : State) : Prop :=
  s.worker = .ended ∧ ¬ (s.clients soleClient).IsSubmitting

theorem Sole.closed (hs : Sole documents s routes history)
    (hquiet : ∀ n e, setup.listener n e = none) (hrun : RoutedRun setup routes history s)
    (hended : s.HasEnded) {id : Nat} {ticket : Ticket} (hticket : s.tickets[id]? = some ticket) :
    ticket.IsClosed s.phase (trail history id) := by
  have hclients (c : Nat) : ¬ (s.clients c).IsSubmitting := by
    by_cases hc : c = soleClient
    · exact hc ▸ hended.2
    · simp [hs.others c hc, Client.IsSubmitting]
  have hnone := held_eq_nil_of_ended hrun.run.reachable.inStep hended.1 hclients
  exact ((hrun.run.recorded hquiet).accounts id).closed (fun holder => by simp [hnone holder])
    hticket

theorem submission?_eq_none {stage : Client} (h : ¬ stage.IsSubmitting) :
    stage.submission? = none := by
  cases stage with
  | starting request | launching request | spawning request =>
      cases request <;> simp_all [Client.IsSubmitting, Client.submission?]
  | enqueueing => simp [Client.IsSubmitting] at h
  | _ => rfl

theorem Sole.tickets_eq (hs : Sole documents s routes history)
    (hquiet : ∀ n e, setup.listener n e = none) (hrun : RoutedRun setup routes history s)
    (hended : s.HasEnded) : s.tickets =
      documents.map fun (path, css) => ⟨path, css, .finished (setup.outcome path css)⟩ := by
  have htexts : s.texts = documents := by
    rw [← hs.submitted, State.submitted, submission?_eq_none hended.2]
    exact (List.append_nil _).symm
  rw [← htexts, State.texts, List.map_map]
  conv => lhs; rw [← List.map_id s.tickets]
  refine List.map_congr_left fun ticket hmem => ?_
  obtain ⟨id, hticket⟩ := List.mem_iff_getElem?.1 hmem
  have hstate : ticket.state = .finished (setup.outcome ticket.path ticket.css) := by
    cases hs.closed hquiet hrun hended hticket with
    | dropped hdropped =>
        have hkept := hs.kept ticket hmem
        rw [hdropped] at hkept
        cases hkept
    | judged hv | foundered hv | rejected hv =>
        rw [hv, hrun.run.reachable.outcome_eq hquiet hticket hv]
  exact congrArg (Ticket.mk ticket.path ticket.css) hstate

/-- What is announced of a stylesheet that has been analysed. -/
theorem Ticket.IsClosed.events {path css : String} {used : List String} {marks : List Mark}
    (h : Ticket.IsClosed ⟨path, css, .finished (setup.outcome path css)⟩ .ready marks)
    (hcollection : setup.collection = .ok used) : marks.filterMap Mark.event? =
      .documentAnalyzing path ::
        ((finding setup used path css).toOption.map Verdict.event).toList := by
  cases h with
  | dropped hs => cases hs
  | rejected hs hp => cases hp
  | judged hs hp hroom hmarks | foundered hs hp hdeep hmarks =>
      have hfinding := TicketState.finished.inj hs
      rw [Setup.outcome, hcollection] at hfinding
      rw [hmarks, show finding setup used path css = _ from hfinding]
      rfl

theorem Sole.analysisEvents_eq (hs : Sole documents s routes history)
    (hquiet : ∀ n e, setup.listener n e = none) (hrun : RoutedRun setup routes history s)
    (hended : s.HasEnded) : s.analysisEvents = setup.announcements documents := by
  have hr := hrun.run.reachable
  have hrecorded := hrun.run.recorded hquiet
  have hlt (x : Nat × Mark) (hx : x ∈ history) := hrecorded.lt_of_mem hx
  have hclosed {id : Nat} {ticket : Ticket} (hticket : s.tickets[id]? = some ticket) :=
    hs.closed hquiet hrun hended hticket
  have hworker := hr.inStep.worker
  rw [hended.1] at hworker
  rcases hworker.1 with ⟨hp, used, hused⟩ | ⟨hp, failure, hfailure⟩
  · have hcollection := ((hr.concludes hquiet).collected _ hused).symm
    have hsorted := sorted_of_ready (hrun.routed hquiet) (hrun.ordered hquiet) hs.direct hlt hp
    have htickets := hs.tickets_eq hquiet hrun hended
    have hlength : s.tickets.length = documents.length := by rw [htickets, List.length_map]
    rw [← hrecorded.events, announced_of_sorted hsorted hlt, Setup.announcements, hcollection]
    simp only [List.flatMap_def]
    congr 1
    apply List.ext_getElem
    · simp [hlength]
    · intro id hid hid'
      simp only [List.getElem_map, List.getElem_range, List.length_map] at hid' ⊢
      generalize hdocument : documents[id] = document
      obtain ⟨path, css⟩ := document
      have hticket : s.tickets[id]? =
          some ⟨path, css, .finished (setup.outcome path css)⟩ := by
        rw [htickets, List.getElem?_map, List.getElem?_eq_getElem hid', hdocument]
        rfl
      exact (hp ▸ hclosed hticket).events hcollection
  · have hcollection := ((hr.concludes hquiet).collected _ hfailure).symm
    rw [hrecorded.analysisEvents_eq_nil hp hclosed, Setup.announcements, hcollection]

/-! ## Runs with one client -/

namespace State

/-- The worker and the only client lead from one state to another, in any order of their steps, and
the client submits some stylesheets one after the other. -/
def Submitting (setup : Setup) (documents : List (String × String)) (s t : State) : Prop :=
  ∃ moves : List Move, (∀ m ∈ moves, m.isSole = true) ∧
    moves.filterMap Move.submission? = documents ∧ s.after? setup moves = some t

theorem Submitting.trans (h : s.Submitting setup documents t) (h' : t.Submitting setup more u) :
    s.Submitting setup (documents ++ more) u := by
  obtain ⟨moves, hsole, hdocuments, hafter⟩ := h
  obtain ⟨moves', hsole', hdocuments', hafter'⟩ := h'
  refine ⟨moves ++ moves', fun m hm => ?_, ?_, ?_⟩
  · exact (List.mem_append.1 hm).elim (hsole m) (hsole' m)
  · rw [List.filterMap_append, hdocuments, hdocuments']
  · rw [after?_append hafter, hafter']

theorem LeadsTo.submitting {P : Move → Prop} (h : s.LeadsTo setup P t)
    (hP : ∀ m, P m → m.isSole = true ∧ m.submission? = none) : s.Submitting setup [] t := by
  obtain ⟨moves, hmoves, hafter⟩ := h
  refine ⟨moves, fun m hm => (hP m (hmoves m hm)).1, ?_, hafter⟩
  exact List.filterMap_eq_nil_iff.2 fun m hm => (hP m (hmoves m hm)).2

theorem submitting_runWorker (s : State) : s.Submitting setup [] (s.runWorker setup) := by
  refine (leadsTo_runWorker s).submitting ?_
  rintro m rfl
  exact ⟨rfl, rfl⟩

theorem submitting_request (hs : s.IsIdle) (request : Request) : s.Submitting setup
    ((Move.call soleClient request).submission?.toList) (s.request setup request) := by
  obtain ⟨t, hcall, hmoves⟩ := leadsTo_request setup hs request
  have hrest : t.Submitting setup [] (s.request setup request) := by
    refine hmoves.submitting ?_
    rintro m rfl
    exact ⟨rfl, rfl⟩
  have hfirst : s.Submitting setup ((Move.call soleClient request).submission?.toList) t := by
    refine ⟨[.call soleClient request], by simp [Move.isSole], ?_, by simp [after?, hcall]⟩
    cases request <;> rfl
  simpa using hfirst.trans hrest

/-- The only client submits some stylesheets one after the other. -/
def submitAll (s : State) (setup : Setup) (documents : List (String × String)) : State :=
  documents.foldl (fun s (path, css) => s.request setup (.submit path css)) s

/-- A session whose collection is held back until the first `k` stylesheets are submitted. -/
def released (setup : Setup) (documents : List (String × String)) (k : Nat) : State :=
  let started := (State.initial setup).request setup .start
  ((started.submitAll setup (documents.take k)).runWorker setup).submitAll setup
    (documents.drop k)

end State

theorem State.Submitting.reachable (h : s.Submitting setup documents t) (hs : Reachable setup s) :
    Reachable setup t := by
  obtain ⟨moves, -, -, hafter⟩ := h
  exact hs.after hafter

/-- What a session with one client comes to depends only on the stylesheets that it submits. -/
theorem State.Submitting.outcomes (hquiet : ∀ n e, setup.listener n e = none)
    (hs : (State.initial setup).Submitting setup documents s) (hended : s.HasEnded) :
    (s.tickets = documents.map fun (path, css) =>
      ⟨path, css, .finished (setup.outcome path css)⟩) ∧
    s.analysisEvents = setup.announcements documents := by
  obtain ⟨moves, hmoves, rfl, hafter⟩ := hs
  obtain ⟨routes, history, hrun, hsole⟩ :=
    exists_sole_of_after hquiet .initial (sole_initial setup) hmoves hafter
  exact ⟨hsole.tickets_eq hquiet hrun hended, hsole.analysisEvents_eq hquiet hrun hended⟩

/-- A client that does not have to wait gets through with its stylesheets, and the worker is where
it was. -/
theorem submitting_submitAll (hquiet : ∀ n e, setup.listener n e = none) (hr : Reachable setup s)
    (hfree : s.IsFree) (hidle : s.IsIdle) (hpresent : s.worker ≠ .absent)
    (documents : List (String × String)) :
    s.Submitting setup documents (s.submitAll setup documents) ∧
      (s.submitAll setup documents).worker = s.worker ∧
      (s.submitAll setup documents).IsIdle := by
  induction documents generalizing s with
  | nil => exact ⟨⟨[], by simp, rfl, rfl⟩, rfl, hidle⟩
  | cons document rest ih =>
      obtain ⟨path, css⟩ := document
      have hfirst : s.Submitting setup [(path, css)] (s.request setup (.submit path css)) :=
        State.submitting_request hidle (.submit path css)
      have hworker := hr.worker_request hidle hpresent (.submit path css)
      obtain ⟨hfree', id, hreturned, -⟩ := hr.request_submit hquiet hfree hidle path css
      obtain ⟨hrest, hworker', hidle'⟩ := ih (hfirst.reachable hr) hfree'
        (.inr ⟨_, hreturned⟩) (hworker ▸ hpresent)
      exact ⟨hfirst.trans hrest, hworker'.trans hworker, hidle'⟩

theorem not_isSubmitting_of_isIdle (hs : s.IsIdle) : ¬ (s.clients soleClient).IsSubmitting := by
  rcases hs with hc | ⟨outcome, hc⟩ <;> simp [hc, Client.IsSubmitting]

/-- Whenever the collection is let go, the worker ends and the client gets through. -/
theorem released_hasEnded (hquiet : ∀ n e, setup.listener n e = none)
    (documents : List (String × String)) (k : Nat) :
    (State.initial setup).Submitting setup documents (State.released setup documents k) ∧
      (State.released setup documents k).HasEnded := by
  obtain ⟨hworker₀, hphase₀, hreturned₀⟩ := request_start hquiet
  have hstart : (State.initial setup).Submitting setup []
      ((State.initial setup).request setup .start) :=
    State.submitting_request (.inl rfl) .start
  rw [State.released]
  generalize (State.initial setup).request setup .start = started
    at hworker₀ hphase₀ hreturned₀ hstart
  -- before the collection is let go
  have hr₀ := hstart.reachable .initial
  obtain ⟨hbefore, hworker₁, hidle₁⟩ := submitting_submitAll hquiet hr₀ (.inl hphase₀)
    (.inr ⟨_, hreturned₀⟩) (by simp [hworker₀]) (documents.take k)
  have hr₁ := hbefore.reachable hr₀
  generalize started.submitAll setup (documents.take k) = held at hbefore hworker₁ hidle₁ hr₁
  -- the worker moves until it has ended
  have hcollected : held.Submitting setup [] (held.runWorker setup) :=
    State.submitting_runWorker held
  have hended := hr₁.worker_runWorker hquiet (by simp [hworker₁, hworker₀])
  have hidle₂ : (held.runWorker setup).IsIdle := by
    refine (leadsTo_runWorker held).keeps (Q := State.IsIdle) hidle₁ ?_
    rintro u v m rfl hu hm
    cases step_of_step? hm with
    | worker h => rwa [State.IsIdle, h.frame.2.1]
  have hr₂ := hcollected.reachable hr₁
  -- after it
  obtain ⟨hafter, hworker₃, hidle₃⟩ := submitting_submitAll hquiet hr₂ (.inr hended) hidle₂
    (by simp [hended]) (documents.drop k)
  refine ⟨?_, hworker₃.trans hended, not_isSubmitting_of_isIdle hidle₃⟩
  have hall := ((hstart.trans hbefore).trans hcollected).trans hafter
  simpa [List.take_append_drop] using hall

/-- A launched session in which neither the worker nor the only client can move has ended. -/
theorem Reachable.hasEnded_of_stuck (hquiet : ∀ n e, setup.listener n e = none)
    (h : Reachable setup s) (hpresent : s.worker ≠ .absent)
    (hworker : s.workerStep? setup = none)
    (hclient : s.clientStep? setup soleClient = none) : s.HasEnded := by
  have hended : s.worker = .ended := by
    rcases stopped_of_workerStep?_eq_none hworker with hw | hw | ⟨e, hw⟩
    · exact absurd hw hpresent
    · exact hw
    · exact absurd hw (h.worker_ne_died hquiet e)
  refine ⟨hended, fun hsubmitting => ?_⟩
  obtain ⟨path, css, hsubmits⟩ := h.exists_submits (isCalm_of_quiet hquiet) hsubmitting
  obtain ⟨id, hreturned, -⟩ := h.returned_of_stuck (.inr hended) hsubmits hclient
  simp [hreturned, Client.IsSubmitting] at hsubmitting

/-- Whenever the collection of a session with one client comes to its end, and in whatever order the
worker and the client move, the tickets end with the same outcomes, and the same is announced of the
stylesheets in the same order. A session ends however far the client has got when the collection is
let go, and it has ended as soon as nobody can move any more. -/
theorem outcomes_independent_of_release (hquiet : ∀ n e, setup.listener n e = none)
    (documents : List (String × String)) :
    (∀ s t : State, (State.initial setup).Submitting setup documents s →
      (State.initial setup).Submitting setup documents t → s.HasEnded → t.HasEnded →
      s.tickets = t.tickets ∧ s.analysisEvents = t.analysisEvents) ∧
    (∀ k, (State.initial setup).Submitting setup documents (State.released setup documents k) ∧
      (State.released setup documents k).HasEnded) ∧
    (∀ s : State, (State.initial setup).Submitting setup documents s → s.worker ≠ .absent →
      s.workerStep? setup = none → s.clientStep? setup soleClient = none → s.HasEnded) := by
  refine ⟨fun s t hs ht hs' ht' => ?_, released_hasEnded hquiet documents,
    fun s hs hpresent hworker hclient => ?_⟩
  · obtain ⟨htickets, hevents⟩ := hs.outcomes hquiet hs'
    obtain ⟨htickets', hevents'⟩ := ht.outcomes hquiet ht'
    exact ⟨htickets.trans htickets'.symm, hevents.trans hevents'.symm⟩
  · exact (hs.reachable .initial).hasEnded_of_stuck hquiet hpresent hworker hclient

end

/-- A stylesheet that declares a class and one that is none. -/
def heldBack : List (String × String) :=
  [("a.css", ".used \x7b\x7d .spare \x7b\x7d"), ("b.css", ".a \x7b")]

/-- Once the collection ends before the stylesheets come, and once both have to wait for it. -/
theorem outcomes_independent_of_release_sample :
    (eventsOf (State.released orderlySetup heldBack 0).log).map Event.kind =
      [.collectionStarted, .sourceParsed, .collectionCompleted,
        .documentAnalyzing, .documentResolved, .documentAnalyzing, .documentFailed] ∧
    (eventsOf (State.released orderlySetup heldBack 2).log).map Event.kind =
      [.collectionStarted, .documentQueued, .documentQueued, .sourceParsed, .collectionCompleted,
        .documentAnalyzing, .documentResolved, .documentAnalyzing, .documentFailed] ∧
    (State.released orderlySetup heldBack 0).tickets =
      (State.released orderlySetup heldBack 2).tickets ∧
    (State.released orderlySetup heldBack 0).analysisEvents =
      (State.released orderlySetup heldBack 2).analysisEvents := by
  obtain ⟨hsame, hreleased, -⟩ :=
    @outcomes_independent_of_release orderlySetup (fun _ _ => rfl) heldBack
  refine ⟨by decide +kernel, by decide +kernel, ?_⟩
  exact hsame _ _ (hreleased 0).1 (hreleased 2).1 (hreleased 0).2 (hreleased 2).2

end StyleUsage.Session
