import StyleUsage.Proofs.Session.Order
import StyleUsage.Session.Run

/-!
# A session with one client

If one client submits stylesheets one after the other and nobody cancels, the tickets are about
these stylesheets in this order, none of them is left out, and the client has one of them in hand
at a time.
-/

namespace StyleUsage.Session

open State (soleClient)

/-- A move of the worker or of the only client, which cancels nothing. -/
def Move.isSole : Move → Bool
  | .worker => true
  | .client c | .call c _ => c == soleClient
  | .cancel _ => false

/-- The stylesheet that a move submits. -/
def Move.submission? : Move → Option (String × String)
  | .call _ (.submit path css) => some (path, css)
  | _ => none

/-- The stylesheet that a client submits and that is on no ticket yet. -/
def Client.submission? : Client → Option (String × String)
  | .starting (.submit path css) | .launching (.submit path css) | .spawning (.submit path css)
  | .enqueueing path css => some (path, css)
  | _ => none

namespace State

/-- The stylesheets on the tickets, in the order of their arrival. -/
def texts (s : State) : List (String × String) :=
  s.tickets.map fun ticket => (ticket.path, ticket.css)

/-- The stylesheets that the only client has submitted so far. -/
def submitted (s : State) : List (String × String) :=
  s.texts ++ (s.clients soleClient).submission?.toList

/-- No ticket has been cancelled. -/
def IsKept (s : State) : Prop :=
  ∀ ticket ∈ s.tickets, ticket.state.isKept = true

end State

section
variable {setup : Setup} {s t : State} {m : Move} {routes : List Route}
  {history : List (Nat × Mark)} {id : Nat} {used : List String} {current : Analysis}
  {advance : Advance} {failure : Failure}

/-! ## What is on the tickets -/

theorem texts_setTicket (s : State) (id : Nat) (state : TicketState) :
    (s.setTicket id state).texts = s.texts := by
  apply List.ext_getElem?
  intro i
  simp only [State.texts, List.getElem?_map, getElem?_setTicket]
  split
  · cases s.tickets[i]? <;> rfl
  · rfl

theorem AnalysisStep.texts_eq (h : AnalysisStep setup s id used current t advance) :
    t.texts = s.texts := by
  cases h with
  | begun | dropped | settled => exact texts_setTicket _ _ _
  | _ => rfl

theorem texts_of_reject (h : s.reject id failure = .ok t) : t.texts = s.texts := by
  obtain ⟨ticket, -, ⟨-, rfl⟩ | ⟨-, rfl⟩⟩ := reject_eq_ok h <;> exact texts_setTicket _ _ _

theorem WorkerStep.texts_eq (h : WorkerStep setup s t) : t.texts = s.texts := by
  cases h with
  | analysed hw ha | finished hw ha | broke hw ha => exact ha.texts_eq
  | @swept e id swept t' hw hr =>
      have htexts : t'.texts = s.texts := texts_of_reject hr
      exact htexts
  | _ => rfl

/-- A step of a client loses no stylesheet, unless a listener raises something. -/
theorem ClientStep.submitted_eq (hquiet : ∀ n e, setup.listener n e = none)
    (h : ClientStep setup s soleClient t) : t.submitted = s.submitted := by
  have hgiven {u : State} {outcome : Except Failure (Option Nat)} (hu : u.texts = s.texts)
      (hc : (s.clients soleClient).submission? = none) :
      (u.giveBack soleClient outcome).submitted = s.submitted := by
    rw [State.submitted, State.submitted, State.texts, tickets_giveBack, clients_giveBack, hc,
      ← State.texts, hu]
    rfl
  cases h with
  | @joined request hc | @spawned request hc =>
      cases request <;>
        simp [State.submitted, State.texts, State.setClient, hc, Request.onward, Client.submission?]
  | @launched request hc | @told request hc =>
      cases request <;>
        simp [State.submitted, State.texts, State.setClient, State.record, hc, Client.submission?]
  | toldInVain hc hl =>
      rw [hquiet] at hl
      cases hl
  | queued hc | refused hc | admitted hc =>
      simp [State.submitted, State.texts, State.setClient, State.write, hc, Client.submission?]
  | noticed hc | noticedInVain hc => exact hgiven rfl (by rw [hc]; rfl)
  | rejected hc hf hr => exact hgiven (texts_of_reject hr) (by rw [hc]; rfl)
  | began hc => simp [State.submitted, State.texts, State.setClient, hc, Client.submission?]
  | analysed hc ha =>
      have htexts := ha.texts_eq
      simp only [State.submitted, State.texts, State.setClient, hc, Client.submission?] at htexts ⊢
      simp [htexts]
  | finished hc ha | broke hc ha => exact hgiven ha.texts_eq (by rw [hc]; rfl)
  | rejectedAmiss hc | admittedInVain hc | waited hc => exact hgiven rfl (by rw [hc]; rfl)

/-- Whatever the worker and the only client do, only a request adds to what has been submitted. -/
theorem Step.submitted_eq (hquiet : ∀ n e, setup.listener n e = none) (h : Step setup s m t)
    (hm : m.isSole = true) : t.submitted = s.submitted ++ m.submission?.toList := by
  cases h with
  | worker h =>
      rw [State.submitted, h.texts_eq, h.frame.2.1]
      exact (List.append_nil _).symm
  | @client c t h =>
      obtain rfl : c = soleClient := by simpa [Move.isSole] using hm
      rw [h.submitted_eq hquiet]
      exact (List.append_nil _).symm
  | @called c request hc =>
      obtain rfl : c = soleClient := by simpa [Move.isSole] using hm
      have hnone : (s.clients soleClient).submission? = none := by
        rcases hc with hc | ⟨outcome, hc⟩ <;> rw [hc] <;> rfl
      have htexts : (s.setClient soleClient (.starting request)).texts = s.texts := rfl
      rw [State.submitted, State.submitted, htexts, hnone, clients_setClient]
      cases request <;> simp [Client.submission?, Move.submission?]
  | cancelled | spared => cases hm

/-! ## Nothing is cancelled -/

theorem Step.isKept (hr : Reachable setup s) (h : Step setup s m t) (hm : m.isSole = true)
    (hs : s.IsKept) : t.IsKept := by
  intro ticket hticket
  obtain ⟨i, hi⟩ := List.mem_iff_getElem?.1 hticket
  refine (h.effect hr.inStep hr.launch).isKept ?_ (fun old hold => ?_) hi
  · rintro rfl
    cases hm
  · exact hs old (List.mem_of_getElem? hold)

/-! ## Runs -/

theorem Client.held_of_mem {stage : Client} (h : id ∈ stage.held) : stage.held = [id] := by
  cases stage <;> simp_all [Client.held]

theorem Passage.of_mem_held (h : Passage s t) {c j : Nat} (hj : j ∈ t.held (.client c)) :
    j ∈ s.held (.client c) ∨ j = s.tickets.length := by
  cases h with
  | kept htickets hline hclients | joined htickets hopen hroute hline hclients =>
      exact .inl (hclients c j hj)
  | passed htickets hshut hroute hline hclients => exact hclients c j hj

/-- What holds in a run of the worker and the only client that has submitted the stylesheets of a
list: no other client does anything, nothing is lost or cancelled, and the stylesheets that go past
the line are handled in the order of their arrival. -/
structure Sole (documents : List (String × String)) (s : State) (routes : List Route)
    (history : List (Nat × Mark)) : Prop where
  others : ∀ c, c ≠ soleClient → s.clients c = .idle
  submitted : s.submitted = documents
  kept : s.IsKept
  direct : InTurn routes .direct (s.held (.client soleClient)) history

theorem sole_initial (setup : Setup) : Sole [] (.initial setup) [] [] where
  others _ _ := rfl
  submitted := rfl
  kept ticket h := by cases h
  direct := ⟨.nil, fun x hx => by cases hx⟩

theorem Sole.step {documents : List (String × String)}
    (hquiet : ∀ n e, setup.listener n e = none) (hs : Sole documents s routes history)
    (hrun : RoutedRun setup routes history s) (hm : s.step? setup m = some t)
    (hsole : m.isSole = true) :
    Sole (documents ++ m.submission?.toList) t (routes ++ s.arrivals t)
      (history ++ s.marks m t) := by
  have hr := hrun.run.reachable
  have hstep := step_of_step? hm
  have hpassage := hstep.passage hr.launch hr.custody ((hr.step m hm).worker_ne_died hquiet)
  have hmarked {x : Nat × Mark} (hx : x ∈ s.marks m t) :=
    (hstep.effect hr.inStep hr.launch).of_mem_marks (hr.not_isAmiss hquiet) hx
  have hrouted := hrun.routed hquiet
  refine ⟨fun c hc => ?_, ?_, hstep.isKept hr hsole hs.kept, ?_⟩
  · have hclient : m.client? ≠ some c := by
      cases m with
      | worker | cancel => simp [Move.client?]
      | client d | call d =>
          obtain rfl : d = soleClient := by simpa [Move.isSole] using hsole
          simpa [Move.client?] using Ne.symm hc
    rw [hstep.clients_of_ne hclient]
    exact hs.others c hc
  · rw [hstep.submitted_eq hquiet hsole, hs.submitted]
  · refine hs.direct.step (fun x hx => ?_) (fun x hx => (hmarked hx).2) (fun x hx hr => ?_)
      fun j hj => ?_
    · rw [hrouted.length]
      rcases List.mem_append.1 hx with hx | hx
      · exact (hrun.run.recorded hquiet).lt_of_mem hx
      · obtain ⟨holder, rest, -, hheld⟩ := (hmarked hx).1
        exact hrun.run.reachable.custody.written (hheld ▸ List.mem_cons_self)
    · rcases hrouted.of_hasInHand (hmarked hx).1 with ⟨hline, -⟩ | ⟨c, hheld⟩
      · rw [hrouted.line hline] at hr
        cases hr
      · have hc : c = soleClient := by
          apply Classical.byContradiction
          intro hc
          rw [State.held, hs.others c hc] at hheld
          cases hheld
        subst hc
        have hall : s.held (.client soleClient) = [x.1] := Client.held_of_mem hheld
        rw [hall]
        simp
    · rw [hrouted.length]
      exact hpassage.of_mem_held hj

/-- Every run of the worker and the only client is of this kind. -/
theorem exists_sole_of_after {moves : List Move} {documents : List (String × String)}
    (hquiet : ∀ n e, setup.listener n e = none) (hrun : RoutedRun setup routes history s)
    (hs : Sole documents s routes history) (hmoves : ∀ m ∈ moves, m.isSole = true)
    (hafter : s.after? setup moves = some t) : ∃ routes' history',
      RoutedRun setup routes' history' t ∧
      Sole (documents ++ moves.filterMap Move.submission?) t routes' history' := by
  induction moves generalizing s routes history documents with
  | nil =>
      cases hafter
      exact ⟨routes, history, hrun, by simpa using hs⟩
  | cons m rest ih =>
      obtain ⟨hm, hrest⟩ := List.forall_mem_cons.1 hmoves
      simp only [State.after?] at hafter
      cases hstep : s.step? setup m with
      | none => simp [hstep] at hafter
      | some s' =>
          simp only [hstep] at hafter
          obtain ⟨routes', history', hrun', hs'⟩ :=
            ih (hrun.step m hstep) (hs.step hquiet hrun hstep hm) hrest hafter
          refine ⟨routes', history', hrun', ?_⟩
          cases hsub : m.submission? <;> simpa [hsub] using hs'

end

end StyleUsage.Session
