import StyleUsage.Proofs.Session.Phases
import StyleUsage.Proofs.Usage.Feeding

/-!
# The collection of the used classes

What the accumulator of a session holds follows from how far the worker has come: the sources are
fed to it in order, and only after the last one is it frozen. From then on it changes no more, and
the used set that the worker and the clients go by is the one it holds.
-/

namespace StyleUsage.Session

open StyleUsage.Usage

/-- The accumulator that a session starts with. -/
def Setup.accumulator (setup : Setup) : Accumulator :=
  .start (collectors setup.directives)

namespace State

/-- Every source has been fed to the accumulator, and then it has been frozen. -/
def IsComplete (s : State) (setup : Setup) : Prop :=
  ∃ a, setup.accumulator.feedAll (setup.load.sources.map (·.text)) = .ok a ∧
    s.accumulator = a.freeze

/-- The sources before the remaining ones have been fed to the accumulator. -/
def IsFedUpTo (s : State) (setup : Setup) (rest : List MarkupSource) : Prop :=
  ∃ done, done ++ rest = setup.load.sources ∧
    setup.accumulator.feedAll (done.map (·.text)) = .ok s.accumulator

/-- What the stage of the worker says about the accumulator. -/
def HasGathered (s : State) (setup : Setup) : Worker → Prop
  | .absent | .opening => s.accumulator = setup.accumulator
  | .taking rest _ | .parsed _ _ rest _ => s.IsFedUpTo setup rest
  | .publishing used _ | .handing used _ => s.IsComplete setup ∧ used = s.accumulator.used
  | _ => True

/-- The accumulator holds what has been fed to it so far, and the outcome of the collection is
what it holds in the end. -/
structure Gathered (s : State) (setup : Setup) : Prop where
  worker : s.HasGathered setup s.worker
  collected : ∀ used, s.collected = some (.ok used) →
    s.IsComplete setup ∧ used = s.accumulator.used

end State

section
variable {setup : Setup} {s t : State}

theorem State.IsComplete.isFrozen (h : s.IsComplete setup) : s.accumulator.isFrozen = true := by
  obtain ⟨a, -, ha⟩ := h
  rw [ha]
  rfl

theorem State.IsComplete.of_accumulator (h : s.IsComplete setup)
    (ht : t.accumulator = s.accumulator) : t.IsComplete setup := by
  obtain ⟨a, hfed, ha⟩ := h
  exact ⟨a, hfed, ht.trans ha⟩

theorem State.HasGathered.of_accumulator {worker : Worker} (h : s.HasGathered setup worker)
    (ht : t.accumulator = s.accumulator) : t.HasGathered setup worker := by
  simp only [State.HasGathered, State.IsFedUpTo, State.IsComplete, ht] at h ⊢
  exact h

/-- The used set of a complete collection consists of what some source uses. -/
theorem State.IsComplete.mem_used (h : s.IsComplete setup) (name : String) :
    name ∈ s.accumulator.used ↔ ∃ source ∈ setup.load.sources,
      Uses (collectors setup.directives) source.text name := by
  obtain ⟨a, hfed, ha⟩ := h
  obtain ⟨-, -, hused⟩ := Accumulator.feedAll_eq_ok hfed
  have hfreeze : s.accumulator.used = a.used := by rw [ha]; rfl
  rw [hfreeze, hused]
  constructor
  · rintro (hname | ⟨text, htext, hname⟩)
    · cases hname
    · obtain ⟨source, hsource, rfl⟩ := List.mem_map.1 htext
      exact ⟨source, hsource, hname⟩
  · rintro ⟨source, hsource, hname⟩
    exact .inr ⟨source.text, List.mem_map_of_mem hsource, hname⟩

/-- A frozen accumulator takes nothing more. -/
theorem Step.accumulator_eq {m : Move} (hs : s.accumulator.isFrozen = true)
    (h : Step setup s m t) : t.accumulator = s.accumulator := by
  cases h with
  | worker h =>
      cases h with
      | froze => exact Accumulator.freeze_of_isFrozen hs
      | fed hw hf =>
          obtain ⟨hopen, -⟩ := Accumulator.feed_eq_ok hf
          rw [hs] at hopen
          cases hopen
      | analysed hw ha | finished hw ha | broke hw ha =>
          obtain ⟨tickets, log, rfl⟩ := ha.frame
          rfl
      | swept hw hr =>
          obtain ⟨tickets, rfl⟩ := frame_of_reject hr
          rfl
      | _ => rfl
  | client h => exact h.frame.2.2.2
  | called | cancelled | spared => rfl

theorem State.IsComplete.step {m : Move} (hs : s.IsComplete setup) (h : Step setup s m t) :
    t.IsComplete setup :=
  hs.of_accumulator (h.accumulator_eq hs.isFrozen)

theorem gathered_initial (setup : Setup) : (State.initial setup).Gathered setup where
  worker := rfl
  collected := by simp [State.initial]

/-- While the collection goes on, nothing is known of its outcome. -/
theorem State.Gathered.of_collecting (hworker : t.HasGathered setup t.worker)
    (hcollected : t.collected = none) : t.Gathered setup := by
  refine ⟨hworker, fun used hused => ?_⟩
  rw [hcollected] at hused
  cases hused

theorem WorkerStep.gathered (hs : s.Gathered setup) (hstep : s.AgreesWith s.worker)
    (h : WorkerStep setup s t) : t.Gathered setup := by
  have hworker := hs.worker
  have hcollected := hs.collected
  cases h with
  | opened hw =>
      rw [hw] at hworker hstep
      refine .of_collecting ⟨[], rfl, ?_⟩ hstep.2.2
      exact congrArg Except.ok hworker.symm
  | froze hw =>
      rw [hw] at hworker hstep
      obtain ⟨done, hdone, hfed⟩ := hworker
      rw [List.append_nil] at hdone
      subst hdone
      exact .of_collecting ⟨⟨_, hfed, rfl⟩, rfl⟩ hstep.2.2
  | fed hw hf =>
      rw [hw] at hworker hstep
      obtain ⟨done, hdone, hfed⟩ := hworker
      refine .of_collecting ⟨done ++ [_], (List.append_cons ..).symm.trans hdone, ?_⟩ hstep.2.2
      rw [List.map_append]
      exact Accumulator.feedAll_append hfed hf
  | told hw =>
      rw [hw] at hworker
      exact ⟨hworker, hcollected⟩
  | published hw =>
      rw [hw] at hworker
      exact ⟨hworker, hcollected⟩
  | handed hw =>
      rw [hw] at hworker
      refine ⟨trivial, fun used hused => ?_⟩
      cases hused
      exact hworker
  | rejected hw =>
      refine ⟨trivial, fun used hused => ?_⟩
      cases hused
  | analysed hw ha | finished hw ha | broke hw ha =>
      obtain ⟨tickets, log, rfl⟩ := ha.frame
      exact ⟨trivial, hcollected⟩
  | swept hw hr =>
      obtain ⟨tickets, rfl⟩ := frame_of_reject hr
      exact ⟨trivial, hcollected⟩
  | _ => exact ⟨trivial, hcollected⟩

theorem Step.gathered {m : Move} (hs : s.Gathered setup) (hstep : s.InStep) (hlaunch : Launch s)
    (h : Step setup s m t) : t.Gathered setup := by
  cases h with
  | worker h => exact h.gathered hs hstep.worker
  | @client c t h =>
      obtain ⟨-, -, hcollected, haccumulator⟩ := h.frame
      refine ⟨?_, fun used hused => ?_⟩
      · have hworker := hs.worker
        rcases h.launches hlaunch with hsame | ⟨habsent, hopening⟩
        · exact hsame ▸ hworker.of_accumulator haccumulator
        · rw [habsent] at hworker
          rw [hopening]
          exact haccumulator.trans hworker
      · obtain ⟨hcomplete, hset⟩ := hs.collected used (hcollected ▸ hused)
        exact ⟨hcomplete.of_accumulator haccumulator, haccumulator ▸ hset⟩
  | called | cancelled => exact ⟨hs.worker, hs.collected⟩
  | spared => exact hs

end

theorem Reachable.gathered {setup : Setup} {s : State} (h : Reachable setup s) :
    s.Gathered setup :=
  h.invariant (gathered_initial setup) fun hr hs hstep => hstep.gathered hs hr.inStep hr.launch

end StyleUsage.Session
