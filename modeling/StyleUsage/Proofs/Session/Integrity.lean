import StyleUsage.Proofs.Session.Phases

/-!
# The integrity of a session

Listeners may raise something at any event, and a step that is broken off by one leaves no mark that
belies another: whoever waits is waited for, the phase and the outcome of the collection agree, and
both are settled once. However often a session is asked to start, its sources are opened at most
once, and the start is announced at most once.
-/

namespace StyleUsage.Session

/-! ## What every state satisfies -/

/-- The marks of a session agree with each other. -/
structure State.IsConsistent (s : State) : Prop where
  waiting : s.queue ≠ [] → s.phase = .collecting ∨ s.draining = true
  draining : s.draining = true → s.phase = .ready
  failed : s.phase = .failed → s.queue = []
  value : ∀ used, s.collected = some (.ok used) → s.phase = .ready
  failure : ∀ failure, s.collected = some (.error failure) → s.phase = .failed

/-- Stylesheets wait only for a collection that goes on, or for a worker that takes them. -/
structure State.IsAttended (s : State) : Prop where
  waiting : s.queue ≠ [] → s.phase = .collecting ∨ s.draining = true
  draining : s.draining = true → s.phase = .ready

section
variable {setup : Setup} {s t : State} {m : Move} {moves : List Move}

theorem isAttended_initial (setup : Setup) : (State.initial setup).IsAttended where
  waiting h := absurd rfl h
  draining h := by cases h

theorem State.IsAttended.of_eq (hs : s.IsAttended) (hphase : t.phase = s.phase)
    (hdraining : t.draining = s.draining)
    (hqueue : t.queue = s.queue ∨ s.phase = .collecting ∨ s.draining = true) :
    t.IsAttended := by
  constructor
  · intro hne
    rw [hphase, hdraining]
    rcases hqueue with hsame | hopen
    · exact hs.waiting (hsame ▸ hne)
    · exact hopen
  · intro hd
    rw [hphase]
    exact hs.draining (hdraining ▸ hd)

theorem WorkerStep.isAttended (hs : s.IsAttended) (hstep : s.AgreesWith s.worker)
    (h : WorkerStep setup s t) : t.IsAttended := by
  cases h with
  | published => exact ⟨fun _ => .inr rfl, fun _ => rfl⟩
  | drained => exact ⟨fun hne => absurd rfl hne, fun hd => by cases hd⟩
  | popped hw hq =>
      refine hs.of_eq rfl rfl (.inr (hs.waiting ?_))
      simp [hq]
  | failed hw =>
      rw [hw] at hstep
      refine ⟨fun hne => absurd rfl hne, fun hd => ?_⟩
      rw [hstep.2.1] at hd
      cases hd
  | analysed hw ha | finished hw ha | broke hw ha =>
      obtain ⟨tickets, log, rfl⟩ := ha.frame
      exact hs.of_eq rfl rfl (.inl rfl)
  | swept hw hr =>
      obtain ⟨tickets, rfl⟩ := frame_of_reject hr
      exact hs.of_eq rfl rfl (.inl rfl)
  | _ => exact hs.of_eq rfl rfl (.inl rfl)

theorem Step.isAttended (hs : s.IsAttended) (hstep : s.InStep) (h : Step setup s m t) :
    t.IsAttended := by
  cases h with
  | worker h => exact h.isAttended hs hstep.worker
  | client h =>
      obtain ⟨hphase, hdraining, -, -⟩ := h.frame
      exact hs.of_eq hphase hdraining h.queue_eq
  | called | cancelled => exact hs.of_eq rfl rfl (.inl rfl)
  | spared => exact hs

theorem Reachable.isAttended (h : Reachable setup s) : s.IsAttended :=
  h.invariant (isAttended_initial setup) fun hr hs hstep => hstep.isAttended hs hr.inStep

/-- Once the outcome of the collection is there, the phase goes with it. -/
theorem State.InStep.hasConcluded (hs : s.InStep) (hc : s.collected ≠ none) : s.HasConcluded := by
  have hworker := hs.worker
  cases hw : s.worker <;> rw [hw] at hworker
  case absent | opening | taking | parsed | publishing | failing => exact absurd hworker.2.2 hc
  case handing => exact absurd hworker.2.2 hc
  case rejecting => exact absurd hworker.2.2.1 hc
  case announcing | draining | analysing => exact .inl ⟨hworker.1, _, hworker.2.2⟩
  case reporting | sweeping => exact .inr ⟨hworker.1, _, hworker.2.2.1⟩
  case ended => exact hworker.1
  case died => exact hworker

theorem Reachable.isConsistent (h : Reachable setup s) : s.IsConsistent := by
  have hattended := h.isAttended
  have hconcluded := h.inStep.hasConcluded
  constructor
  case waiting => exact hattended.waiting
  case draining => exact hattended.draining
  case failed =>
    intro hfailed
    apply Classical.byContradiction
    intro hne
    rcases hattended.waiting hne with hphase | hdraining
    · rw [hfailed] at hphase
      cases hphase
    · have hready := hattended.draining hdraining
      rw [hfailed] at hready
      cases hready
  case value =>
    intro used hused
    rcases hconcluded (by simp [hused]) with ⟨hready, -⟩ | ⟨-, failure, hfailure⟩
    · exact hready
    · rw [hused] at hfailure
      cases hfailure
  case failure =>
    intro failure hfailure
    rcases hconcluded (by simp [hfailure]) with ⟨-, used, hused⟩ | ⟨hfailed, -⟩
    · rw [hfailure] at hused
      cases hused
    · exact hfailed

/-! ## What stays as it is -/

/-- The phase after the collection and its outcome stand. -/
structure State.Keeps (s t : State) : Prop where
  phase : s.phase ≠ .collecting → t.phase = s.phase
  failed : s.phase = .failed → t.phase = .failed ∧ t.queue = []
  collected : ∀ outcome, s.collected = some outcome → t.collected = some outcome

theorem Reachable.keeps (h : Reachable setup s) (ht : s.after? setup moves = some t) :
    s.Keeps t := by
  have hkept : (s.phase ≠ .collecting → t.phase = s.phase) ∧
      ∀ outcome, s.collected = some outcome → t.collected = some outcome := by
    induction moves generalizing s with
    | nil =>
        cases ht
        exact ⟨fun _ => rfl, fun _ ho => ho⟩
    | cons m rest ih =>
        simp only [State.after?] at ht
        cases hm : s.step? setup m with
        | none => simp [hm] at ht
        | some u =>
            simp only [hm] at ht
            obtain ⟨hphase, hcollected⟩ := ih (.step m h hm) ht
            have hstep := step_of_step? hm
            constructor
            · intro hp
              have hu := hstep.phase_eq h.inStep hp
              rw [hphase (hu ▸ hp), hu]
            · intro outcome ho
              exact hcollected outcome (hstep.collected_eq h.inStep ho)
  refine ⟨hkept.1, fun hfailed => ?_, hkept.2⟩
  have hphase : t.phase = .failed := (hkept.1 (by simp [hfailed])).trans hfailed
  exact ⟨hphase, (h.after ht).isConsistent.failed hphase⟩

/-! ## What happens once -/

/-- How many of some steps, one after the other, are of a certain kind. -/
def State.tally (setup : Setup) (p : State → Move → State → Bool) (s : State) : List Move → Nat
  | [] => 0
  | m :: rest =>
      match s.step? setup m with
      | some t => (p s m t).toNat + t.tally setup p rest
      | none => 0

/-- A kind of step that leads to states in which it does not occur, and which are never left again,
occurs at most once. -/
theorem State.tally_le_one {p : State → Move → State → Bool} (Done : State → Prop)
    (hdone : ∀ {s t : State} {m : Move}, Reachable setup s → Step setup s m t →
      (p s m t = true → Done t) ∧ (Done s → Done t ∧ p s m t = false))
    (h : Reachable setup s) (moves : List Move) :
    s.tally setup p moves ≤ 1 ∧ (Done s → s.tally setup p moves = 0) := by
  induction moves generalizing s with
  | nil => simp [tally]
  | cons m rest ih =>
      simp only [tally]
      cases hm : s.step? setup m with
      | none => simp
      | some t =>
          obtain ⟨hfirst, hagain⟩ := hdone h (step_of_step? hm)
          obtain ⟨hle, hnone⟩ := ih (.step m h hm)
          simp only
          constructor
          · cases hp : p s m t with
            | true => simp [hnone (hfirst hp)]
            | false => simpa using hle
          · intro hs
            obtain ⟨ht, hp⟩ := hagain hs
            simp [hp, hnone ht]

/-- The phase changes. -/
def changesPhase (s : State) (_ : Move) (t : State) : Bool :=
  s.phase ≠ t.phase

/-- The worker sets the outcome of the collection. -/
def setsOutcome (s : State) (m : Move) (_ : State) : Bool :=
  match m, s.worker with
  | .worker, .handing .. | .worker, .rejecting .. => true
  | _, _ => false

/-- The worker calls the loader for the sources. -/
def opensSources (s : State) (m : Move) (_ : State) : Bool :=
  match m, s.worker with
  | .worker, .opening => true
  | _, _ => false

theorem tally_changesPhase (h : Reachable setup s) (moves : List Move) :
    s.tally setup changesPhase moves ≤ 1 := by
  refine (State.tally_le_one (fun s => s.phase ≠ .collecting) ?_ h moves).1
  intro s t m hr hstep
  have hkept := hstep.phase_eq hr.inStep
  constructor
  · intro hp hcollecting
    simp only [changesPhase, ne_eq, decide_not, Bool.not_eq_true', decide_eq_false_iff_not] at hp
    by_cases hs : s.phase = .collecting
    · exact hp (hs.trans hcollecting.symm)
    · exact hs ((hkept hs).symm.trans hcollecting)
  · intro hs
    have hsame := hkept hs
    exact ⟨hsame ▸ hs, by simp [changesPhase, hsame]⟩

theorem WorkerStep.collected_of_setsOutcome (hs : s.AgreesWith s.worker)
    (h : WorkerStep setup s t) (hp : setsOutcome s .worker t = true) :
    s.collected = none ∧ t.collected ≠ none := by
  have hnone : s.collected = none := by
    cases hw : s.worker <;> simp only [setsOutcome, hw, Bool.false_eq_true] at hp <;>
      rw [hw] at hs
    case handing => exact hs.2.2
    case rejecting => exact hs.2.2.1
  refine ⟨hnone, ?_⟩
  cases h with
  | handed | rejected => simp
  | concludedTwice hw hc =>
      rw [hnone] at hc
      cases hc
  | _ hw => simp [setsOutcome, hw] at hp

theorem tally_setsOutcome (h : Reachable setup s) (moves : List Move) :
    s.tally setup setsOutcome moves ≤ 1 := by
  refine (State.tally_le_one (fun s => s.collected ≠ none) ?_ h moves).1
  intro s t m hr hstep
  have honly (hp : setsOutcome s m t = true) : s.collected = none ∧ t.collected ≠ none := by
    cases hstep with
    | worker h => exact h.collected_of_setsOutcome hr.inStep.worker hp
    | client | called | cancelled | spared => cases hp
  constructor
  · intro hp
    exact (honly hp).2
  · intro hs
    obtain ⟨outcome, ho⟩ := Option.ne_none_iff_exists'.1 hs
    have ht := hstep.collected_eq hr.inStep ho
    refine ⟨by simp [ht], Bool.eq_false_iff.2 fun hp => hs (honly hp).1⟩

/-- The worker has opened the sources. -/
def Worker.IsOpened : Worker → Prop
  | .absent | .opening => False
  | _ => True

theorem WorkerStep.isOpened (h : WorkerStep setup s t) : t.worker.IsOpened := by
  cases h with
  | analysed hw ha | finished hw ha | broke hw ha => trivial
  | swept hw hr => trivial
  | _ => trivial

theorem tally_opensSources (h : Reachable setup s) (moves : List Move) :
    s.tally setup opensSources moves ≤ 1 := by
  refine (State.tally_le_one (fun s => s.worker.IsOpened) ?_ h moves).1
  intro s t m hr hstep
  have hnone (hs : s.worker.IsOpened) : opensSources s m t = false := by
    cases m <;> cases hw : s.worker <;> simp_all [opensSources, Worker.IsOpened]
  cases hstep with
  | worker h => exact ⟨fun _ => h.isOpened, fun hs => ⟨h.isOpened, hnone hs⟩⟩
  | client h =>
      constructor
      · intro hp
        cases hp
      · intro hs
        refine ⟨?_, rfl⟩
        rcases h.launches hr.launch with hworker | ⟨habsent, -⟩
        · exact hworker ▸ hs
        · rw [habsent] at hs
          exact hs.elim
  | called | cancelled | spared =>
      constructor
      · intro hp
        cases hp
      · intro hs
        exact ⟨hs, rfl⟩

/-! ## The announcement of the start -/

/-- How often the start of the collection has been announced. -/
def State.starts (s : State) : Nat :=
  (eventsOf s.log).countP fun e => e.kind = .collectionStarted

theorem starts_of_events (events : List Event) (hlog : eventsOf t.log = eventsOf s.log ++ events)
    (hevents : ∀ e ∈ events, e.kind ≠ .collectionStarted) : t.starts = s.starts := by
  have hnone : events.countP (fun e => e.kind = .collectionStarted) = 0 := by
    rw [List.countP_eq_zero]
    simpa using hevents
  rw [State.starts, State.starts, hlog, List.countP_append, hnone, Nat.add_zero]

theorem starts_record {e : Event} (he : e.kind ≠ .collectionStarted) :
    (s.record e).starts = s.starts :=
  starts_of_events [e] (by simp [State.record]) (by simpa using he)

theorem AnalysisStep.starts_eq {id : Nat} {used : List String} {step : Analysis}
    {advance : Advance} (h : AnalysisStep setup s id used step t advance) :
    t.starts = s.starts := by
  cases h with
  | announced | raised => exact starts_record (by simp [Event.kind])
  | judged ht hlog | overruled ht hlog =>
      exact starts_of_events _ hlog (by simpa using kind_verdict _ (by decide) (by decide))
  | _ => rfl

theorem WorkerStep.starts_eq (h : WorkerStep setup s t) : t.starts = s.starts := by
  cases h with
  | opened hw hlog | froze hw hf hlog | failed hw hlog =>
      exact starts_of_events [] (by simpa using hlog) (by simp)
  | told | toldInVain | completed | completedInVain | reported | reportedInVain =>
      exact starts_record (by simp [Event.kind])
  | analysed hw ha | finished hw ha | broke hw ha => exact ha.starts_eq
  | swept hw hr =>
      obtain ⟨tickets, rfl⟩ := frame_of_reject hr
      rfl
  | _ => rfl

/-- A client announces the start only at the stage where it launches the session. -/
theorem ClientStep.starts_eq {c : Nat} (h : ClientStep setup s c t) :
    t.starts = s.starts ∨ (∃ request, s.clients c = .launching request) ∧
      t.starts = s.starts + 1 ∧ ∀ request, t.clients c ≠ .launching request := by
  cases h with
  | told hc | toldInVain hc =>
      refine .inr ⟨⟨_, hc⟩, ?_, ?_⟩
      · simp [giveBack_eq, State.setClient, State.record, State.starts, Event.kind]
      · simp [giveBack_eq, State.setClient]
  | noticed | noticedInVain =>
      refine .inl ?_
      rw [giveBack_eq]
      exact starts_record (by simp [Event.kind])
  | analysed hc ha => exact .inl ha.starts_eq
  | finished hc ha | broke hc ha =>
      refine .inl ?_
      rw [giveBack_eq]
      exact ha.starts_eq
  | rejected hc hf hr =>
      obtain ⟨tickets, rfl⟩ := frame_of_reject hr
      exact .inl (by rw [giveBack_eq]; rfl)
  | rejectedAmiss | admittedInVain | waited => exact .inl (by rw [giveBack_eq]; rfl)
  | _ => exact .inl rfl

/-- Who launches a session has done so before, or finds it not started. -/
theorem ClientStep.launching_of {c d : Nat} {request : Request} (h : ClientStep setup s c t)
    (hd : t.clients d = .launching request) :
    s.clients d = .launching request ∨ s.started = false := by
  by_cases hdc : d = c
  · subst hdc
    cases h with
    | launched hc hs => exact .inr hs
    | @joined request' hc | @spawned request' hc =>
        cases request' <;> simp [State.setClient, Request.onward] at hd
    | _ => simp [giveBack_eq, State.setClient] at hd
  · rw [h.clients_of_ne hdc] at hd
    exact .inl hd

theorem ClientStep.started_of {c : Nat} (h : ClientStep setup s c t) (ht : t.started = false) :
    s.started = false := by
  cases h with
  | launched => cases ht
  | analysed hc ha | finished hc ha | broke hc ha =>
      obtain ⟨tickets, log, rfl⟩ := ha.frame
      simpa [giveBack_eq, State.setClient] using ht
  | rejected hc hf hr =>
      obtain ⟨tickets, rfl⟩ := frame_of_reject hr
      simpa [giveBack_eq, State.setClient] using ht
  | _ => simpa [giveBack_eq, State.setClient, State.record, State.write] using ht

/-- The start is announced at most once, and not before a client launches the session. -/
structure StartsOnce (s : State) : Prop where
  not_started : s.started = false → s.starts = 0
  launching : ∀ {c : Nat} {request : Request}, s.clients c = .launching request → s.starts = 0
  le_one : s.starts ≤ 1

theorem startsOnce_initial (setup : Setup) : StartsOnce (.initial setup) where
  not_started _ := rfl
  launching h := by cases h
  le_one := Nat.zero_le 1

theorem StartsOnce.of_starts (hs : StartsOnce s) (hstarts : t.starts = s.starts)
    (hstarted : t.started = false → s.started = false)
    (hlaunching : ∀ {c : Nat} {request : Request}, t.clients c = .launching request →
      s.clients c = .launching request ∨ s.started = false) : StartsOnce t := by
  constructor
  case not_started =>
    intro hn
    rw [hstarts]
    exact hs.not_started (hstarted hn)
  case launching =>
    intro c request hc
    rw [hstarts]
    rcases hlaunching hc with hbefore | hn
    · exact hs.launching hbefore
    · exact hs.not_started hn
  case le_one => exact hstarts ▸ hs.le_one

theorem ClientStep.startsOnce {c : Nat} (hs : StartsOnce s) (hlaunch : Launch s)
    (h : ClientStep setup s c t) : StartsOnce t := by
  rcases h.starts_eq with hsame | ⟨⟨request, hc⟩, hstarts, hleft⟩
  · exact hs.of_starts hsame h.started_of h.launching_of
  · have hzero := hs.launching hc
    have hlaunching : (s.clients c).IsLaunching := by simp [hc, Client.IsLaunching]
    constructor
    case not_started =>
      intro hn
      exact absurd hlaunching (hlaunch.not_launching (h.started_of hn) c)
    case launching =>
      -- nobody else is launching the session
      intro d request' hd
      by_cases hdc : d = c
      · exact absurd (hdc ▸ hd) (hleft request')
      · rw [h.clients_of_ne hdc] at hd
        exact absurd (hlaunch.unique (by simp [hd, Client.IsLaunching]) hlaunching) hdc
    case le_one => omega

theorem Step.startsOnce (hs : StartsOnce s) (hlaunch : Launch s) (h : Step setup s m t) :
    StartsOnce t := by
  cases h with
  | worker h =>
      obtain ⟨-, hclients, hstarted, -⟩ := h.frame
      refine hs.of_starts h.starts_eq (fun hn => hstarted ▸ hn) fun hc => ?_
      rw [hclients] at hc
      exact .inl hc
  | client h => exact h.startsOnce hs hlaunch
  | @called c request hc =>
      refine hs.of_starts rfl (fun hn => hn) fun {d request'} hd => ?_
      by_cases hdc : d = c
      · simp [State.setClient, hdc] at hd
      · simp only [State.setClient, hdc, if_false] at hd
        exact .inl hd
  | cancelled => exact hs.of_starts rfl (fun hn => hn) fun hc => .inl hc
  | spared => exact hs

theorem Reachable.startsOnce (h : Reachable setup s) : StartsOnce s :=
  h.invariant (startsOnce_initial setup) fun hr hs hstep => hstep.startsOnce hs hr.launch

/-! ## The whole -/

/-- Whatever the listeners raise and in whatever order the worker and the clients move, the marks of
a session agree with each other, and what has been settled stands. In all, the phase changes at most
once, the outcome of the collection is set at most once, the sources are opened at most once, and
the start is announced at most once. -/
theorem sound_whatever_listeners_raise
    (h : (State.initial setup).after? setup moves = some s) :
    s.IsConsistent ∧ (∀ more t, s.after? setup more = some t → s.Keeps t) ∧
    (State.initial setup).tally setup changesPhase moves ≤ 1 ∧
    (State.initial setup).tally setup setsOutcome moves ≤ 1 ∧
    (State.initial setup).tally setup opensSources moves ≤ 1 ∧ s.starts ≤ 1 := by
  have hr : Reachable setup s := Reachable.initial.after h
  refine ⟨hr.isConsistent, fun more t ht => hr.keeps ht, ?_, ?_, ?_, hr.startsOnce.le_one⟩
  · exact tally_changesPhase .initial moves
  · exact tally_setsOutcome .initial moves
  · exact tally_opensSources .initial moves

end

/-- A session in which a listener raises something when the collection is complete. -/
def obstructedSetup : Setup where
  patterns := []
  directives := true
  exemptions := []
  load := ⟨[], [⟨"page.html", "<p class='used'>"⟩], none⟩
  listener := fun _ e =>
    if e.kind = .collectionCompleted then some (.raised "ValueError" "no") else none

/-- A stylesheet waits for the collection, and a second one joins it after the worker has broken
off; both clients ask the session to start again. -/
def obstructedMoves : List Move :=
  List.flatten [
    [.call 0 (.submit "a.css" ".a \x7b\x7d")], List.replicate 5 (.client 0),
    List.replicate 7 .worker,
    [.call 1 (.submit "b.css" "")], List.replicate 3 (.client 1),
    [.call 0 .start, .client 0, .call 1 .waitReady, .client 1, .client 1]]

theorem sound_whatever_listeners_raise_obstructed : ∃ s,
    (State.initial obstructedSetup).after? obstructedSetup obstructedMoves = some s ∧
    s.worker = .died (.raised "ValueError" "no") ∧ s.queue = [0, 1] ∧ s.draining = true ∧
    s.IsConsistent ∧ (∀ more t, s.after? obstructedSetup more = some t → s.Keeps t) ∧
    (State.initial obstructedSetup).tally obstructedSetup changesPhase obstructedMoves ≤ 1 ∧
    (State.initial obstructedSetup).tally obstructedSetup setsOutcome obstructedMoves ≤ 1 ∧
    (State.initial obstructedSetup).tally obstructedSetup opensSources obstructedMoves ≤ 1 ∧
    s.starts ≤ 1 := by
  have hrun : ((State.initial obstructedSetup).after? obstructedSetup obstructedMoves).map
      (fun s => (s.worker matches .died (.raised "ValueError" "no"), s.queue, s.draining)) =
      some (true, [0, 1], true) := by
    decide +kernel
  obtain ⟨s, hs, hmarks⟩ := Option.map_eq_some_iff.1 hrun
  simp only [Prod.mk.injEq] at hmarks
  obtain ⟨hworker, hqueue, hdraining⟩ := hmarks
  refine ⟨s, hs, ?_, hqueue, hdraining, sound_whatever_listeners_raise hs⟩
  split at hworker
  case h_1 hdied => exact hdied
  case h_2 => cases hworker

end StyleUsage.Session
