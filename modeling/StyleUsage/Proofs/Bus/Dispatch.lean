import StyleUsage.Proofs.Bus.Registrations

/-!
# Dispatch of events

What comes of some actions is a tree: an emission holds the calls that it makes, and a call holds
what its listener does, further emissions among it. Read from the left to the right, the tree tells
everything that happens to the bus in the order of time. Every emission calls the listeners that are
registered by then, up to the first that raises.
-/

namespace StyleUsage.Bus

/-! ## What happens on a bus -/

mutual

/-- An action with everything that happens within it. -/
inductive Deed (Listener : Type) where
  | change (change : Change Listener)
  | raise (message : String)
  /-- An event that would be emitted too deeply within others. -/
  | refusal (event : Event)
  | emission (event : Event) (calls : List (Call Listener)) (outcome : BusOutcome)

/-- A call of a listener with everything that the listener does. -/
inductive Call (Listener : Type) where
  | call (listener : Listener) (deeds : List (Deed Listener)) (outcome : BusOutcome)

end

/-- What is noted down of a moment. What begins is noted with all that directly comes of it. -/
inductive Mark (Listener : Type) where
  | changed (change : Change Listener)
  | refused (event : Event)
  /-- An emission begins; it is going to make the given calls. -/
  | emitted (event : Event) (calls : List (Listener × BusOutcome)) (outcome : BusOutcome)
  /-- A call begins; the listener is going to do the given actions. -/
  | called (event : Event) (listener : Listener) (actions : List (BusAction Listener × BusOutcome))
      (outcome : BusOutcome)

section
variable {Listener : Type}

namespace Deed

def action : Deed Listener → BusAction Listener
  | change c => c.action
  | raise message => .raise message
  | refusal event | emission event _ _ => .emit event

def outcome : Deed Listener → BusOutcome
  | change _ => .done
  | raise message => .raised message
  | refusal _ => .tooDeep
  | emission _ _ outcome => outcome

def result (deed : Deed Listener) : BusAction Listener × BusOutcome :=
  (deed.action, deed.outcome)

end Deed

namespace Call

def deeds : Call Listener → List (Deed Listener)
  | call _ deeds _ => deeds

def result : Call Listener → Listener × BusOutcome
  | call listener _ outcome => (listener, outcome)

end Call

/-- Events are emitted at most `depth` deep within each other, and refused only where one more would
be too deep. -/
inductive Deed.Fits : Nat → Deed Listener → Prop where
  | change {depth : Nat} (c : Change Listener) : Fits depth (.change c)
  | raise {depth : Nat} (message : String) : Fits depth (.raise message)
  | refusal (event : Event) : Fits 0 (.refusal event)
  | emission {depth : Nat} {event : Event} {calls : List (Call Listener)} {outcome : BusOutcome}
      (h : ∀ call ∈ calls, ∀ deed ∈ call.deeds, Fits depth deed) :
      Fits (depth + 1) (.emission event calls outcome)

/-! ### In the order of time -/

mutual

def Deed.marks : Deed Listener → List (Mark Listener)
  | .change c => [.changed c]
  | .raise _ => []
  | .refusal event => [.refused event]
  | .emission event calls outcome =>
      .emitted event (calls.map Call.result) outcome :: Call.marksOf event calls

/-- What happens in some actions, one after the other. -/
def Deed.marksOf : List (Deed Listener) → List (Mark Listener)
  | [] => []
  | deed :: rest => deed.marks ++ Deed.marksOf rest

def Call.marks (event : Event) : Call Listener → List (Mark Listener)
  | .call listener deeds outcome =>
      .called event listener (deeds.map Deed.result) outcome :: Deed.marksOf deeds

/-- What happens in some calls with an event, one after the other. -/
def Call.marksOf (event : Event) : List (Call Listener) → List (Mark Listener)
  | [] => []
  | call :: rest => call.marks event ++ Call.marksOf event rest

end

def Mark.change? : Mark Listener → Option (Change Listener)
  | changed c => some c
  | _ => none

def Mark.call? : Mark Listener → Option (Listener × EventKind)
  | called event listener _ _ => some (listener, event.kind)
  | _ => none

def changesIn (marks : List (Mark Listener)) : List (Change Listener) :=
  marks.filterMap Mark.change?

def callsIn (marks : List (Mark Listener)) : List (Listener × EventKind) :=
  marks.filterMap Mark.call?

/-- The changes and the calls that were made so far. -/
structure Past (Listener : Type) where
  changes : List (Change Listener)
  calls : List (Listener × EventKind)

def Past.after (p : Past Listener) (marks : List (Mark Listener)) : Past Listener :=
  ⟨p.changes ++ changesIn marks, p.calls ++ callsIn marks⟩

theorem Past.after_nil (p : Past Listener) : p.after [] = p := by
  simp [after, changesIn, callsIn]

theorem Past.after_append (p : Past Listener) (marks more : List (Mark Listener)) :
    p.after (marks ++ more) = (p.after marks).after more := by
  simp [after, changesIn, callsIn]

theorem Past.after_changed (p : Past Listener) (c : Change Listener) :
    p.after [.changed c] = ⟨p.changes ++ [c], p.calls⟩ := by
  simp [after, changesIn, callsIn, List.filterMap_cons, Mark.change?, Mark.call?]

theorem Past.after_refused (p : Past Listener) (event : Event) : p.after [.refused event] = p := by
  simp [after, changesIn, callsIn, List.filterMap_cons, Mark.change?, Mark.call?]

theorem Past.after_emitted (p : Past Listener) (event : Event)
    (calls : List (Listener × BusOutcome)) (outcome : BusOutcome) :
    p.after [.emitted event calls outcome] = p := by
  simp [after, changesIn, callsIn, List.filterMap_cons, Mark.change?, Mark.call?]

theorem Past.after_called (p : Past Listener) (event : Event) (listener : Listener)
    (actions : List (BusAction Listener × BusOutcome)) (outcome : BusOutcome) :
    p.after [.called event listener actions outcome] =
      ⟨p.changes, p.calls ++ [(listener, event.kind)]⟩ := by
  simp [after, changesIn, callsIn, List.filterMap_cons, Mark.change?, Mark.call?]

/-! ## What has to happen -/

/-- Of the listeners that an event is due to, those before the first that raises are called in
order, and then this one, with whose outcome the emission ends. -/
inductive Covers : List Listener → List (Listener × BusOutcome) → BusOutcome → Prop where
  | nil : Covers [] [] .done
  | cons {listener : Listener} {due : List Listener} {calls : List (Listener × BusOutcome)}
      {outcome : BusOutcome} (h : Covers due calls outcome) :
      Covers (listener :: due) ((listener, .done) :: calls) outcome
  | stop {listener : Listener} {due : List Listener} {outcome : BusOutcome} (h : outcome ≠ .done) :
      Covers (listener :: due) [(listener, outcome)] outcome

theorem Covers.isPrefix {due : List Listener} {calls : List (Listener × BusOutcome)}
    {outcome : BusOutcome} (h : Covers due calls outcome) : calls.map Prod.fst <+: due := by
  induction h with
  | nil => exact List.prefix_refl _
  | cons _ ih => exact List.cons_prefix_cons.2 ⟨rfl, ih⟩
  | stop _ => exact List.cons_prefix_cons.2 ⟨rfl, List.nil_prefix⟩

/-- Actions are those in which a reaction consists, as they end. -/
inductive Carries :
    Reaction Listener → List (BusAction Listener × BusOutcome) → BusOutcome → Prop where
  | ended (outcome : BusOutcome) : Carries (.ended outcome) [] outcome
  | doing {action : BusAction Listener} {next : BusOutcome → Reaction Listener}
      {result outcome : BusOutcome} {actions : List (BusAction Listener × BusOutcome)}
      (h : Carries (next result) actions outcome) :
      Carries (.doing action next) ((action, result) :: actions) outcome

end

section
variable {Listener : Type} [DecidableEq Listener] {behavior : Behavior Listener} {p : Past Listener}
  {mark : Mark Listener} {marks more earlier later : List (Mark Listener)}
  {outcome last : BusOutcome} {depth : Nat}

/-- What happens at a moment follows from the past. -/
def Sound (behavior : Behavior Listener) (p : Past Listener) : Mark Listener → Prop
  | .emitted event calls outcome => Covers ((live p.changes).targets event.kind) calls outcome
  | .called event listener actions outcome =>
      Carries (behavior p.calls.length listener event) actions outcome
  | .changed _ | .refused _ => True

/-- What happens at each moment follows from the past by then. -/
def IsFaithful (behavior : Behavior Listener) (p : Past Listener) : List (Mark Listener) → Prop
  | [] => True
  | mark :: rest => Sound behavior p mark ∧ IsFaithful behavior (p.after [mark]) rest

theorem isFaithful_append : IsFaithful behavior p (marks ++ more) ↔
    IsFaithful behavior p marks ∧ IsFaithful behavior (p.after marks) more := by
  induction marks generalizing p with
  | nil => simp [IsFaithful, Past.after_nil]
  | cons mark rest ih =>
      have hafter : p.after (mark :: rest) = (p.after [mark]).after rest :=
        p.after_append [mark] rest
      rw [List.cons_append, IsFaithful, IsFaithful, ih, hafter, and_assoc]

theorem IsFaithful.sound (h : IsFaithful behavior p marks)
    (hmarks : marks = earlier ++ mark :: later) : Sound behavior (p.after earlier) mark := by
  rw [hmarks, isFaithful_append] at h
  exact h.2.1

/-! ## What does happen -/

/-- The run of a bus with a past. -/
def Past.run (p : Past Listener) : BusRun Listener :=
  ⟨live p.changes, p.calls.reverse⟩

/-- What happens is the same if events may be emitted `n` deeper than otherwise, as nothing is
refused or `n` is zero. -/
def Allows (n : Nat) (marks : List (Mark Listener)) : Prop :=
  n = 0 ∨ ∀ event, .refused event ∉ marks

omit [DecidableEq Listener] in
theorem Allows.of_subset {n : Nat} (h : Allows n marks) (hsubset : more ⊆ marks) : Allows n more :=
  h.imp_right fun h event hmem => h event (hsubset hmem)

/-- A step of a run comes to some marks, and ends in some way, however much deeper than otherwise it
may emit events. -/
structure Comes (behavior : Behavior Listener)
    (step : Nat → BusRun Listener → BusRun Listener × BusOutcome) (p : Past Listener)
    (marks : List (Mark Listener)) (outcome : BusOutcome) : Prop where
  result : ∀ n, Allows n marks → step n p.run = ((p.after marks).run, outcome)
  faithful : IsFaithful behavior p marks

theorem comes_nil (outcome : BusOutcome) :
    Comes behavior (fun _ run => (run, outcome)) p [] outcome where
  result _ _ := by rw [Past.after_nil]
  faithful := trivial

/-- A step is followed by what is next after its outcome. -/
theorem Comes.andThen {step : Nat → BusRun Listener → BusRun Listener × BusOutcome}
    (next : BusOutcome → Nat → BusRun Listener → BusRun Listener × BusOutcome)
    (h : Comes behavior step p marks outcome)
    (hnext : Comes behavior (next outcome) (p.after marks) more last) :
    Comes behavior (fun n run => next (step n run).2 n (step n run).1) p (marks ++ more) last where
  result n hn := by
    have hfirst : Allows n marks := hn.of_subset (List.subset_append_left ..)
    have hsecond : Allows n more := hn.of_subset (List.subset_append_right ..)
    rw [h.result n hfirst, hnext.result n hsecond, Past.after_append]
  faithful := isFaithful_append.2 ⟨h.faithful, hnext.faithful⟩

/-- A step may begin with a mark, and then be another one. -/
theorem Comes.begin {step begun : Nat → BusRun Listener → BusRun Listener × BusOutcome}
    (hbegin : ∀ n, step n p.run = begun n (p.after [mark]).run) (hmark : Sound behavior p mark)
    (h : Comes behavior begun (p.after [mark]) marks outcome) :
    Comes behavior step p (mark :: marks) outcome where
  result n hn := by
    have hrest : Allows n marks := hn.of_subset (List.subset_cons_self ..)
    rw [hbegin, h.result n hrest, ← Past.after_append, List.singleton_append]
  faithful := ⟨hmark, h.faithful⟩

/-- Whatever the past, every action comes to a deed. -/
def Acts (behavior : Behavior Listener) (depth : Nat)
    (act : Nat → BusAction Listener → BusRun Listener → BusRun Listener × BusOutcome) : Prop :=
  ∀ action p, ∃ deed : Deed Listener, deed.action = action ∧ deed.Fits depth ∧
    Comes behavior (act · action) p deed.marks deed.outcome

variable {act : Nat → BusAction Listener → BusRun Listener → BusRun Listener × BusOutcome}

theorem Acts.exists_reaction (hact : Acts behavior depth act) (reaction : Reaction Listener)
    (p : Past Listener) :
    ∃ deeds outcome, Carries reaction (deeds.map Deed.result) outcome ∧
      (∀ deed ∈ deeds, deed.Fits depth) ∧
      Comes behavior (fun n => reaction.perform (act n)) p (Deed.marksOf deeds) outcome := by
  induction reaction generalizing p with
  | ended outcome => exact ⟨[], outcome, .ended outcome, by simp, comes_nil outcome⟩
  | doing action next ih =>
      obtain ⟨deed, rfl, hfits, hdeed⟩ := hact action p
      obtain ⟨deeds, outcome, hcarries, hall, hdeeds⟩ := ih deed.outcome (p.after deed.marks)
      refine ⟨deed :: deeds, outcome, .doing hcarries, List.forall_mem_cons.2 ⟨hfits, hall⟩, ?_⟩
      exact hdeed.andThen (fun outcome n => (next outcome).perform (act n)) hdeeds

theorem Acts.exists_call (hact : Acts behavior depth act) (event : Event) (listener : Listener)
    (p : Past Listener) :
    ∃ deeds outcome, (∀ deed ∈ deeds, deed.Fits depth) ∧
      Comes behavior (fun n => BusRun.call behavior (act n) event listener) p
        ((Call.call listener deeds outcome).marks event) outcome := by
  obtain ⟨deeds, outcome, hcarries, hall, hdeeds⟩ := hact.exists_reaction
    (behavior p.calls.length listener event) ⟨p.changes, p.calls ++ [(listener, event.kind)]⟩
  rw [← p.after_called event listener (deeds.map Deed.result) outcome] at hdeeds
  refine ⟨deeds, outcome, hall, hdeeds.begin (fun n => ?_) hcarries⟩
  rw [Past.after_called, BusRun.call, Past.run, Past.run, List.length_reverse, List.reverse_concat]

/-- Goes on with a further step if the one before has ended well. -/
def sequel {β : Type} (rest : β → β × BusOutcome) : BusOutcome → β → β × BusOutcome
  | .done, s => rest s
  | outcome, s => (s, outcome)

theorem sequel_of_ne {β : Type} {rest : β → β × BusOutcome} (h : outcome ≠ .done) :
    sequel rest outcome = fun s => (s, outcome) := by
  cases outcome with
  | done => exact absurd rfl h
  | raised message => rfl
  | tooDeep => rfl

theorem sequenceSteps_cons {α β : Type} (step : α → β → β × BusOutcome) (a : α) (rest : List α)
    (s : β) : sequenceSteps step (a :: rest) s =
      sequel (sequenceSteps step rest) (step a s).2 (step a s).1 := by
  rw [sequenceSteps]
  rcases step a s with ⟨s', _ | message | _⟩ <;> rfl

theorem Comes.sequence {α : Type}
    {step : Nat → α → BusRun Listener → BusRun Listener × BusOutcome} {a : α} {rest : List α}
    (h : Comes behavior (fun n => step n a) p marks outcome)
    (hrest : Comes behavior (fun n => sequel (sequenceSteps (step n) rest) outcome)
      (p.after marks) more last) :
    Comes behavior (fun n => sequenceSteps (step n) (a :: rest)) p (marks ++ more) last := by
  have hstep : (fun n => sequenceSteps (step n) (a :: rest)) = fun n run =>
      sequel (sequenceSteps (step n) rest) (step n a run).2 (step n a run).1 := by
    funext n run
    exact sequenceSteps_cons (step n) a rest run
  rw [hstep]
  exact h.andThen (fun outcome n => sequel (sequenceSteps (step n) rest) outcome) hrest

/-- An event comes to calls of the listeners that it is due to. The induction is on these; the first
that raises ends it. -/
theorem Acts.exists_calls (hact : Acts behavior depth act) (event : Event) (due : List Listener)
    (p : Past Listener) :
    ∃ calls outcome, Covers due (calls.map Call.result) outcome ∧
      (∀ call ∈ calls, ∀ deed ∈ call.deeds, deed.Fits depth) ∧
      Comes behavior (fun n => sequenceSteps (BusRun.call behavior (act n) event) due) p
        (Call.marksOf event calls) outcome := by
  induction due generalizing p with
  | nil => exact ⟨[], .done, .nil, by simp, comes_nil .done⟩
  | cons listener rest ih =>
      obtain ⟨deeds, outcome, hfits, hcall⟩ := hact.exists_call event listener p
      by_cases hdone : outcome = .done
      · cases hdone
        obtain ⟨calls, last, hcovers, hall, hcalls⟩ :=
          ih (p.after ((Call.call listener deeds .done).marks event))
        exact ⟨.call listener deeds .done :: calls, last, .cons hcovers,
          List.forall_mem_cons.2 ⟨hfits, hall⟩, hcall.sequence hcalls⟩
      · refine ⟨[.call listener deeds outcome], outcome, .stop hdone,
          List.forall_mem_singleton.2 hfits, hcall.sequence ?_⟩
        simp only [sequel_of_ne hdone]
        exact comes_nil outcome

theorem comes_change (behavior : Behavior Listener) (depth : Nat) (c : Change Listener)
    (p : Past Listener) :
    Comes behavior (fun n => performWith behavior (depth + n) c.action) p [.changed c] .done where
  result n _ := by rw [Past.after_changed, Past.run, performWith_change, Past.run]
  faithful := ⟨trivial, trivial⟩

theorem comes_raise (behavior : Behavior Listener) (depth : Nat) (message : String)
    (p : Past Listener) :
    Comes behavior (fun n => performWith behavior (depth + n) (.raise message)) p []
      (.raised message) where
  result n _ := by rw [performWith, Past.after_nil]
  faithful := trivial

theorem comes_refusal (behavior : Behavior Listener) (event : Event) (p : Past Listener) :
    Comes behavior (fun n => performWith behavior (0 + n) (.emit event)) p [.refused event]
      .tooDeep where
  result n hn := by
    rcases hn with rfl | hn
    · rw [Past.after_refused, performWith]
    · exact absurd List.mem_cons_self (hn event)
  faithful := ⟨trivial, trivial⟩

/-- Only emissions depend on how deep events may be emitted. -/
theorem acts_of_emit (hemit : ∀ event p, ∃ deed : Deed Listener, deed.action = .emit event ∧
      deed.Fits depth ∧
      Comes behavior (fun n => performWith behavior (depth + n) (.emit event)) p deed.marks
        deed.outcome) :
    Acts behavior depth fun n => performWith behavior (depth + n) := by
  intro action p
  have hchange (c : Change Listener) : ∃ deed : Deed Listener, deed.action = c.action ∧
      deed.Fits depth ∧ Comes behavior (fun n => performWith behavior (depth + n) c.action) p
        deed.marks deed.outcome :=
    ⟨.change c, rfl, .change c, comes_change behavior depth c p⟩
  cases action with
  | subscribe kind listener => exact hchange (.registered ⟨listener, some kind⟩)
  | onAll listener => exact hchange (.registered ⟨listener, none⟩)
  | unsubscribe listener => exact hchange (.unsubscribed listener)
  | raise message =>
      exact ⟨.raise message, rfl, .raise message, comes_raise behavior depth message p⟩
  | emit event => exact hemit event p

/-- Every action comes to a deed. The induction is on how deep events may be emitted: what listeners
do within a call may go less deep by one. -/
theorem acts_performWith (behavior : Behavior Listener) (depth : Nat) :
    Acts behavior depth fun n => performWith behavior (depth + n) := by
  induction depth with
  | zero =>
      exact acts_of_emit fun event p =>
        ⟨.refusal event, rfl, .refusal event, comes_refusal behavior event p⟩
  | succ depth ih =>
      refine acts_of_emit fun event p => ?_
      obtain ⟨calls, outcome, hcovers, hfits, hcalls⟩ :=
        ih.exists_calls event ((live p.changes).targets event.kind) p
      refine ⟨.emission event calls outcome, rfl, .emission hfits, ?_⟩
      rw [← p.after_emitted event (calls.map Call.result) outcome] at hcalls
      refine hcalls.begin (fun n => ?_) hcovers
      rw [Past.after_emitted, Nat.add_right_comm, performWith]
      rfl

theorem exists_deeds (behavior : Behavior Listener) (depth : Nat)
    (actions : List (BusAction Listener)) (p : Past Listener) :
    ∃ deeds : List (Deed Listener), deeds.map Deed.action = actions ∧
      (∀ deed ∈ deeds, deed.Fits depth) ∧ IsFaithful behavior p (Deed.marksOf deeds) ∧
      ∀ n, Allows n (Deed.marksOf deeds) →
        performAll behavior (depth + n) actions p.run =
          ((p.after (Deed.marksOf deeds)).run, deeds.map Deed.outcome) := by
  induction actions generalizing p with
  | nil => exact ⟨[], rfl, by simp, trivial, fun n _ => by rw [Deed.marksOf, Past.after_nil]; rfl⟩
  | cons action rest ih =>
      obtain ⟨deed, rfl, hfits, hdeed⟩ := acts_performWith behavior depth action p
      obtain ⟨deeds, rfl, hall, hfaithful, hrest⟩ := ih (p.after deed.marks)
      refine ⟨deed :: deeds, rfl, List.forall_mem_cons.2 ⟨hfits, hall⟩,
        isFaithful_append.2 ⟨hdeed.faithful, hfaithful⟩, fun n hn => ?_⟩
      have hfirst : Allows n deed.marks := hn.of_subset (List.subset_append_left ..)
      have hsecond : Allows n (Deed.marksOf deeds) := hn.of_subset (List.subset_append_right ..)
      have hnext : performWith behavior (depth + n) deed.action p.run =
          ((p.after deed.marks).run, deed.outcome) := hdeed.result n hfirst
      simp only [List.map_cons, performAll, hnext, hrest n hsecond, Deed.marksOf,
        Past.after_append]

/-- All that happens on a bus is a tree of the actions that are done with it. In this tree, every
emission, be it within others or not, calls the listeners that are registered when it begins: those
for every event, then those for its kind, each in the order of registration and once for each, up to
and including the first that raises, with whose outcome it ends. Every call does what its listener
reacts with. A listener that was unsubscribed and not registered again is not called, and the other
registrations keep their order. How deep events may be emitted within each other matters for
nothing else than which emissions are refused; if none is, a greater depth changes nothing. -/
theorem dispatch_is_a_snapshot (behavior : Behavior Listener) (depth : Nat)
    (actions : List (BusAction Listener)) :
    (∃ deeds : List (Deed Listener), deeds.map Deed.action = actions ∧
      (∀ deed ∈ deeds, deed.Fits depth) ∧
      performAll behavior depth actions ⟨[], []⟩ =
        (⟨live (changesIn (Deed.marksOf deeds)), (callsIn (Deed.marksOf deeds)).reverse⟩,
          deeds.map Deed.outcome) ∧
      (∀ earlier event calls outcome later,
        Deed.marksOf deeds = earlier ++ .emitted event calls outcome :: later →
        Covers (((live (changesIn earlier)).filter (·.kind = none) ++
          (live (changesIn earlier)).filter (·.kind = some event.kind)).map (·.listener))
            calls outcome ∧
        ∀ listener before since, changesIn earlier = before ++ .unsubscribed listener :: since →
          (∀ kind, .registered ⟨listener, kind⟩ ∉ since) → listener ∉ calls.map Prod.fst) ∧
      (∀ earlier event listener actions outcome later,
        Deed.marksOf deeds = earlier ++ .called event listener actions outcome :: later →
        Carries (behavior (callsIn earlier).length listener event) actions outcome) ∧
      ((∀ event, .refused event ∉ Deed.marksOf deeds) → ∀ n,
        performAll behavior (depth + n) actions ⟨[], []⟩ =
          performAll behavior depth actions ⟨[], []⟩)) ∧
    ∀ (changes : List (Change Listener)) (listener : Listener),
      live (changes ++ [.unsubscribed listener]) =
        (live changes).filter (·.listener ≠ listener) := by
  obtain ⟨deeds, hactions, hfits, hfaithful, hresult⟩ :=
    exists_deeds behavior depth actions ⟨[], []⟩
  refine ⟨⟨deeds, hactions, hfits, hresult 0 (.inl rfl), ?_, ?_, ?_⟩, live_concat_unsubscribed⟩
  · intro earlier event calls outcome later hmarks
    have hcovers : Covers ((live (changesIn earlier)).targets event.kind) calls outcome :=
      hfaithful.sound hmarks
    refine ⟨hcovers, fun listener before since hchanges hsince hmem => ?_⟩
    rw [hchanges] at hcovers
    exact notMem_targets_of_unsubscribed event.kind hsince (hcovers.isPrefix.subset hmem)
  · intro earlier event listener actions outcome later hmarks
    exact hfaithful.sound hmarks
  · intro hnone n
    exact (hresult n (.inr hnone)).trans (hresult 0 (.inl rfl)).symm

end

/-- The event that is emitted within the dispatch goes to the late listener and no longer to the
first one; the outer event goes on as it began. -/
example :
    let script (listener : String) : List (BusAction String) :=
      if listener = "first" then
        [.unsubscribe "first", .onAll "late", .emit (.documentQueued "b.css")]
      else []
    let actions := [.onAll "first", .subscribe .documentQueued "last",
      .emit (.documentQueued "a.css")]
    (performAll (fun _ listener _ => .ofActions (script listener)) 2 actions ⟨[], []⟩).1.calls =
      [("last", .documentQueued), ("last", .documentQueued), ("late", .documentQueued),
        ("first", .documentQueued)] := by
  decide

end StyleUsage.Bus
