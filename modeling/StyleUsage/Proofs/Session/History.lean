import StyleUsage.Proofs.Session.Transition

/-!
# What happens to each ticket

A run of a session leaves a history of what happens to its tickets: an analysis is begun or the
ticket gets its outcome, as the ticket shows before and after a step, and an event of an analysis
is put on record by whoever carries the analysis on.
-/

namespace StyleUsage.Session

/-- Whether an event tells of the analysis of a stylesheet. -/
def isOfAnalysis : Event → Bool
  | .documentAnalyzing _ | .documentResolved .. | .documentFailed .. => true
  | _ => false

theorem isOfAnalysis_event (v : Verdict) : isOfAnalysis v.event = true := by
  unfold Verdict.event
  split <;> rfl

/-- Something that happens to a ticket. -/
inductive Mark where
  /-- It is running from now on, or at least has been before it gets an outcome. -/
  | begun
  | event (e : Event)
  | settled

namespace TicketState

/-- Whether a ticket is set running by a step. -/
def begins : TicketState → TicketState → Bool
  | pending, running | pending, finished _ => true
  | _, _ => false

/-- Whether a ticket gets an outcome by a step. -/
def settles : TicketState → TicketState → Bool
  | pending, finished _ | running, finished _ => true
  | _, _ => false

end TicketState

namespace State

/-- The events of analyses in the record, in order. -/
def analysisEvents (s : State) : List Event :=
  (eventsOf s.log).filter isOfAnalysis

/-- The ticket whose analysis a move carries on. -/
def subject? (s : State) : Move → Option Nat
  | .worker =>
      match s.worker with
      | .analysing _ id _ => some id
      | _ => none
  | .client c =>
      match s.clients c with
      | .analysing id _ _ => some id
      | _ => none
  | _ => none

/-- The events of analyses that a step adds to the record. -/
def news (s t : State) : List Event :=
  t.analysisEvents.drop s.analysisEvents.length

/-- What a step does to a ticket. -/
def marksOn (s : State) (m : Move) (t : State) (id : Nat) : List Mark :=
  match s.tickets[id]?, t.tickets[id]? with
  | some old, some new =>
      (if old.state.begins new.state then [.begun] else []) ++
        (if s.subject? m = some id then (s.news t).map .event else []) ++
        (if old.state.settles new.state then [.settled] else [])
  | _, _ => []

/-- What a step does to all tickets, with their numbers. -/
def marks (s : State) (m : Move) (t : State) : List (Nat × Mark) :=
  (List.range s.tickets.length).flatMap fun id => (s.marksOn m t id).map fun mark => (id, mark)

end State

/-- What happens to a ticket in a history. -/
def trail (history : List (Nat × Mark)) (id : Nat) : List Mark :=
  history.filterMap fun (i, mark) => if i = id then some mark else none

/-- The events in a history. -/
def announced (history : List (Nat × Mark)) : List Event :=
  history.filterMap fun
    | (_, .event e) => some e
    | _ => none

/-- The runs of a session, with the history of what happens to its tickets. -/
inductive Run (setup : Setup) : List (Nat × Mark) → State → Prop where
  | initial : Run setup [] (.initial setup)
  | step {history : List (Nat × Mark)} {s t : State} (m : Move) (h : Run setup history s)
      (hm : s.step? setup m = some t) : Run setup (history ++ s.marks m t) t

theorem Run.reachable {setup : Setup} {history : List (Nat × Mark)} {s : State}
    (h : Run setup history s) : Reachable setup s := by
  induction h with
  | initial => exact .initial
  | step m h hm ih => exact .step m ih hm

/-- Every state that a session comes to has a history. -/
theorem Reachable.exists_run {setup : Setup} {s : State} (h : Reachable setup s) :
    ∃ history, Run setup history s := by
  induction h with
  | initial => exact ⟨[], .initial⟩
  | step m h hm ih =>
      obtain ⟨history, hrun⟩ := ih
      exact ⟨_, hrun.step m hm⟩

/-! ## Histories -/

@[simp] theorem trail_nil (id : Nat) : trail [] id = [] := rfl

@[simp] theorem trail_append (history more : List (Nat × Mark)) (id : Nat) :
    trail (history ++ more) id = trail history id ++ trail more id :=
  List.filterMap_append

@[simp] theorem announced_append (history more : List (Nat × Mark)) :
    announced (history ++ more) = announced history ++ announced more :=
  List.filterMap_append

/-- Of the items of a range, a selection that takes something of one only finds that. -/
theorem flatMap_range_ite {α : Type} (f : Nat → List α) (id n : Nat) :
    ((List.range n).flatMap fun i => if i = id then f i else []) =
      if id < n then f id else [] := by
  induction n with
  | zero => rfl
  | succ n ih =>
      rw [List.range_succ, List.flatMap_append, ih, List.flatMap_singleton]
      by_cases hn : n = id
      · simp [hn]
      · have hlt : id < n + 1 ↔ id < n := by omega
        simp [hn, hlt]

section
variable {s t : State} {m : Move} {id : Nat}

theorem marksOn_eq_nil_of_le (h : s.tickets.length ≤ id) : s.marksOn m t id = [] := by
  simp [State.marksOn, List.getElem?_eq_none h]

theorem trail_map (marks : List Mark) (i id : Nat) :
    trail (marks.map fun mark => (i, mark)) id = if i = id then marks else [] := by
  simp only [trail, List.filterMap_map, Function.comp_def]
  by_cases h : i = id
  · simp only [h, if_true]
    exact List.filterMap_some
  · simp [h]

/-- The history tells of each ticket what the step does to it. -/
theorem trail_marks : trail (s.marks m t) id = s.marksOn m t id := by
  have hflat : trail (s.marks m t) id = (List.range s.tickets.length).flatMap fun i =>
      if i = id then s.marksOn m t i else [] := by
    rw [State.marks, trail, List.filterMap_flatMap]
    congr 1
    funext i
    exact trail_map (s.marksOn m t i) i id
  rw [hflat, flatMap_range_ite]
  split
  · rfl
  · rw [marksOn_eq_nil_of_le (by omega)]

theorem announced_map_event (events : List Event) (id : Nat) :
    announced ((events.map Mark.event).map fun mark => (id, mark)) = events := by
  induction events with
  | nil => rfl
  | cons e rest ih =>
      simp only [announced, List.map_cons, List.filterMap_cons] at ih ⊢
      rw [ih]

/-- The events on a ticket are those of the step if its analysis is carried on, and none if not. -/
theorem announced_marksOn (hs : id < s.tickets.length) (ht : id < t.tickets.length) :
    announced ((s.marksOn m t id).map fun mark => (id, mark)) =
      if s.subject? m = some id then s.news t else [] := by
  simp only [State.marksOn, List.getElem?_eq_getElem hs, List.getElem?_eq_getElem ht,
    List.map_append, announced_append]
  have hfirst (b : Bool) :
      announced ((if b then [Mark.begun] else []).map fun mark => (id, mark)) = [] := by
    cases b <;> rfl
  have hlast (b : Bool) :
      announced ((if b then [Mark.settled] else []).map fun mark => (id, mark)) = [] := by
    cases b <;> rfl
  rw [hfirst, hlast, List.nil_append, List.append_nil]
  split
  · exact announced_map_event _ _
  · rfl

/-- The history tells of every event that a step puts on record, if only the step of an analysis
does so. -/
theorem announced_marks (hkept : s.tickets.length ≤ t.tickets.length)
    (hnews : s.news t = [] ∨ ∃ id, s.subject? m = some id ∧ id < s.tickets.length) :
    announced (s.marks m t) = s.news t := by
  have hflat : announced (s.marks m t) = (List.range s.tickets.length).flatMap fun i =>
      if s.subject? m = some i then s.news t else [] := by
    rw [State.marks, announced, List.filterMap_flatMap, List.flatMap_def, List.flatMap_def]
    congr 1
    apply List.map_congr_left
    intro i hi
    have hlt := List.mem_range.1 hi
    exact announced_marksOn hlt (by omega)
  rw [hflat]
  rcases hnews with hnone | ⟨id, hid, hlt⟩
  · simp [hnone]
  · have hsame : (fun i => if s.subject? m = some i then s.news t else []) =
        fun i => if i = id then s.news t else [] := by
      funext i
      simp [hid, eq_comm]
    rw [hsame, flatMap_range_ite (fun _ => s.news t), if_pos hlt]

end

end StyleUsage.Session
