import StyleUsage.Proofs.Session.Transition

/-!
# Stylesheets for which there is no room

Whoever submits a stylesheet to a ready session analyses it. If there is no room for reading it, the
ticket holds the failure, and all that the record tells is that the analysis has begun.
-/

namespace StyleUsage.Session

section
variable {setup : Setup} {s : State} {c : Nat} {path css : String} {used : List String}

/-- The session is ready, its line is shut, and the client has nothing under way. -/
structure State.IsOpenTo (s : State) (c : Nat) (used : List String) : Prop where
  started : s.started = true
  phase : s.phase = .ready
  shut : s.draining = false
  collected : s.collected = some (.ok used)
  client : s.clients c = .idle ∨ ∃ outcome, s.clients c = .returned outcome

/-- The state after a client has come to an end with a stylesheet for which there is no room. -/
def State.founder (s : State) (c : Nat) (path css : String) : State :=
  { s with
    tickets := s.tickets ++ [⟨path, css, .finished (.error .tooDeep)⟩]
    issued := s.tickets.length :: s.issued
    clients := fun d => if d = c then .returned (.ok (some s.tickets.length)) else s.clients d
    log := s.log ++ [.event (.documentAnalyzing path)] }

theorem State.IsOpenTo.founder (h : s.IsOpenTo c used) (path css : String) :
    (s.founder c path css).IsOpenTo c used :=
  ⟨h.started, h.phase, h.shut, h.collected, .inr ⟨_, if_pos rfl⟩⟩

theorem modify_concat {α : Type} (items : List α) (a : α) (f : α → α) :
    (items ++ [a]).modify items.length f = items ++ [f a] := by
  induction items with
  | nil => rfl
  | cons b items ih => simp [ih]

/-- The moves of a client that submits a stylesheet to a ready session. -/
def submission (c : Nat) (path css : String) : List Move :=
  .call c (.submit path css) :: List.replicate 7 (.client c)

/-- A ready session takes a stylesheet for which there is no room, and gets over it. -/
theorem after?_submission (hquiet : ∀ n e, setup.listener n e = none) (h : s.IsOpenTo c used)
    (path : String) (hdeep : Stylesheet.isTooDeep css = true) :
    s.after? setup (submission c path css) = some (s.founder c path css) := by
  have hcall : s.step? setup (.call c (.submit path css)) =
      some (s.setClient c (.starting (.submit path css))) := by
    rcases h.client with hclient | ⟨outcome, hclient⟩ <;>
      simp [State.step?, State.call?, hclient]
  simp only [submission, State.after?, hcall, List.replicate]
  simp only [State.step?, State.clientStep?, State.setClient, State.proceed, State.enqueue,
    State.analyse, State.setTicket, State.emit, State.giveBack, State.founder, if_true,
    h.started, h.phase, h.shut, h.collected, hquiet, finding, hdeep, reduceCtorEq, or_false,
    Bool.false_eq_true, if_false, List.getElem?_concat_length, modify_concat, TicketState.begin,
    TicketState.finish, Option.some.injEq, State.mk.injEq, true_and, and_true]
  -- the stages in between are of the same client, and the last one is left
  funext d
  by_cases hd : d = c <;> simp only [hd, if_true, if_false]

end

/-- A session over no sources, whose listeners raise nothing. -/
def emptySetup : Setup where
  patterns := []
  directives := true
  exemptions := []
  load := ⟨[], [], none⟩
  listener := quiet

/-- The session is started, and the worker runs until it stops. -/
def openingMoves : List Move :=
  .call 0 .start :: (List.replicate 3 (.client 0) ++ List.replicate 6 .worker)

theorem exists_opened : ∃ s, (State.initial emptySetup).after? emptySetup openingMoves = some s ∧
    s.IsOpenTo 0 [] ∧ s.worker = .ended ∧ s.tickets = [] ∧
    eventsOf s.log = [.collectionStarted [], .collectionCompleted 0 0] ∧
    ∀ c, c ≠ 0 → s.clients c = .idle := by
  refine ⟨_, rfl, ⟨rfl, rfl, rfl, rfl, .inr ⟨_, rfl⟩⟩, rfl, rfl, rfl, fun c hc => ?_⟩
  cases c with
  | zero => exact absurd rfl hc
  | succ n => rfl

end StyleUsage.Session
