import StyleUsage.Event

/-! # Event buses

Listeners register for every event or for the events of one kind. An event goes to the listeners
that are registered when its dispatch begins: first to those for every event, then to those for
its kind, each group in the order of registration. -/

namespace StyleUsage

/-- A listener and the kind of events that it is registered for; none stands for every event. -/
structure Registration (Listener : Type) where
  listener : Listener
  kind : Option EventKind
  deriving Repr, DecidableEq

/-- The registrations that are in force, the oldest first. -/
abbrev Bus (Listener : Type) := List (Registration Listener)

namespace Bus

variable {Listener : Type}

def subscribe (bus : Bus Listener) (kind : EventKind) (listener : Listener) : Bus Listener :=
  bus ++ [⟨listener, some kind⟩]

def onAll (bus : Bus Listener) (listener : Listener) : Bus Listener :=
  bus ++ [⟨listener, none⟩]

/-- Every registration of a listener ends. -/
def unsubscribe [DecidableEq Listener] (bus : Bus Listener) (listener : Listener) : Bus Listener :=
  bus.filter (·.listener ≠ listener)

/-- The listeners that an event of the given kind goes to, in order. -/
def targets (bus : Bus Listener) (kind : EventKind) : List Listener :=
  ((bus.filter (·.kind = none)) ++ bus.filter (·.kind = some kind)).map (·.listener)

end Bus

/-! ## Listeners that act

A listener may act on the bus whenever it is called. Events that it emits are dispatched within the
call. -/

inductive BusAction (Listener : Type) where
  | subscribe (kind : EventKind) (listener : Listener)
  | onAll (listener : Listener)
  | unsubscribe (listener : Listener)
  | emit (event : Event)
  | raise (message : String)

/-- How an action ends. -/
inductive BusOutcome where
  | done
  | raised (message : String)
  /-- Events are emitted within each other more deeply than allowed. -/
  | tooDeep
  deriving Repr, DecidableEq

/-- What a listener does in one call. How it goes on depends on how its actions have ended. -/
inductive Reaction (Listener : Type) where
  | ended (outcome : BusOutcome)
  | doing (action : BusAction Listener) (next : BusOutcome → Reaction Listener)

/-- Does what a reaction consists in, with `act` for each of its actions. -/
def Reaction.perform {Listener σ : Type} (act : BusAction Listener → σ → σ × BusOutcome) :
    Reaction Listener → σ → σ × BusOutcome
  | .ended outcome, s => (s, outcome)
  | .doing action next, s => (next (act action s).2).perform act (act action s).1

/-- What every listener does with an event, given how many calls were made before. -/
abbrev Behavior (Listener : Type) := Nat → Listener → Event → Reaction Listener

/-- A bus and the calls that it has made, the latest first. -/
structure BusRun (Listener : Type) where
  bus : Bus Listener
  calls : List (Listener × EventKind)

/-- Calls a listener with an event. -/
def BusRun.call {Listener : Type} (behavior : Behavior Listener)
    (act : BusAction Listener → BusRun Listener → BusRun Listener × BusOutcome) (event : Event)
    (listener : Listener) (run : BusRun Listener) : BusRun Listener × BusOutcome :=
  (behavior run.calls.length listener event).perform act
    { run with calls := (listener, event.kind) :: run.calls }

/-- Steps one after the other, up to the first that does not end well. -/
def sequenceSteps {α β : Type} (step : α → β → β × BusOutcome) : List α → β → β × BusOutcome
  | [], s => (s, .done)
  | a :: rest, s =>
      match step a s with
      | (s, .done) => sequenceSteps step rest s
      | (s, outcome) => (s, outcome)

/-- How deep events may be emitted within each other. -/
def deepestEmission : Nat := 330

section
variable {Listener : Type} [DecidableEq Listener]

/-- Does an action, in which events may be emitted `depth` deep. -/
def performWith (behavior : Behavior Listener) :
    Nat → BusAction Listener → BusRun Listener → BusRun Listener × BusOutcome
  | _, .subscribe kind listener, run =>
      ({ run with bus := run.bus.subscribe kind listener }, .done)
  | _, .onAll listener, run => ({ run with bus := run.bus.onAll listener }, .done)
  | _, .unsubscribe listener, run => ({ run with bus := run.bus.unsubscribe listener }, .done)
  | _, .raise message, run => (run, .raised message)
  | 0, .emit _, run => (run, .tooDeep)
  | depth + 1, .emit event, run =>
      sequenceSteps (BusRun.call behavior (performWith behavior depth) event)
        (run.bus.targets event.kind) run

/-- Does some actions one after the other, however each of them ends. -/
def performAll (behavior : Behavior Listener) (depth : Nat) :
    List (BusAction Listener) → BusRun Listener → BusRun Listener × List BusOutcome
  | [], run => (run, [])
  | action :: rest, run =>
      let (next, outcome) := performWith behavior depth action run
      let (last, outcomes) := performAll behavior depth rest next
      (last, outcome :: outcomes)

end

/-! ## Scripted listeners

A scripted listener does the same list of actions whenever it is called, up to the first that does
not end well. -/

def Reaction.ofActions {Listener : Type} : List (BusAction Listener) → Reaction Listener
  | [] => .ended .done
  | action :: rest => .doing action fun
      | .done => ofActions rest
      | outcome => .ended outcome

/-- Does an action while all listeners are scripted. -/
def perform {Listener : Type} [DecidableEq Listener]
    (script : Listener → List (BusAction Listener)) :
    Nat → BusAction Listener → BusRun Listener → BusRun Listener × BusOutcome :=
  performWith fun _ listener _ => .ofActions (script listener)

end StyleUsage
