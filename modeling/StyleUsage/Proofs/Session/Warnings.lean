import StyleUsage.Proofs.Session.Custody

/-!
# Warnings

A session passes the warnings of its loader on when the worker begins, and gives no others itself.
What its user adds after that stays behind them.
-/

namespace StyleUsage.Session

/-- The warnings of a session, in order. -/
def State.warnings (s : State) : List String :=
  warningsOf s.log

/-- The worker has passed on the warnings of the loader. -/
def Worker.HasOpened : Worker → Prop
  | .absent | .opening => False
  | _ => True

/-- The warnings of the loader have been passed on if the worker has begun, and then some more have
been given. -/
structure Warned (setup : Setup) (more : List String) (s : State) : Prop where
  unopened : ¬ s.worker.HasOpened → s.warnings = [] ∧ more = []
  opened : s.worker.HasOpened → s.warnings = setup.load.notices ++ more

section
variable {setup : Setup} {s t : State} {m : Move} {more : List String}

theorem warned_initial (setup : Setup) : Warned setup [] (.initial setup) where
  unopened _ := ⟨rfl, rfl⟩
  opened h := h.elim

theorem Warned.of_opened (hs : Warned setup more s) (hbefore : s.worker.HasOpened)
    (hafter : t.worker.HasOpened) (hwarnings : t.warnings = s.warnings) : Warned setup more t where
  unopened h := absurd hafter h
  opened _ := hwarnings.trans (hs.opened hbefore)

theorem Warned.of_unopened (hs : Warned setup more s) (hbefore : ¬ s.worker.HasOpened)
    (hafter : ¬ t.worker.HasOpened) (hwarnings : t.warnings = s.warnings) :
    Warned setup more t where
  unopened _ := hwarnings ▸ hs.unopened hbefore
  opened h := absurd h hafter

/-- One more warning comes after the others. -/
theorem Warned.note (hs : Warned setup [] s) (h : s.worker.HasOpened) (message : String) :
    Warned setup [message] (s.note .warning message) where
  unopened hn := absurd h hn
  opened _ := by
    have hwarnings := hs.opened h
    rw [List.append_nil] at hwarnings
    rw [← hwarnings]
    simp [State.warnings, State.note]

theorem AnalysisStep.warnings_eq {id : Nat} {used : List String} {step : Analysis}
    {advance : Advance} (h : AnalysisStep setup s id used step t advance) :
    t.warnings = s.warnings := by
  cases h with
  | judged ht hlog hwarnings => exact hwarnings
  | overruled ht hlog hl hwarnings => exact hwarnings
  | announced | raised => simp [State.warnings, State.record]
  | begun | dropped | foundered | settled | amiss => rfl

theorem WorkerStep.warned (hs : Warned setup more s) (h : WorkerStep setup s t) :
    Warned setup more t := by
  have hkept (hbefore : s.worker.HasOpened) := hs.of_opened (t := t) hbefore
  cases h with
  | opened hw hlog hwarnings =>
      obtain ⟨hnone, rfl⟩ := hs.unopened (by simp [hw, Worker.HasOpened])
      refine ⟨fun hn => absurd trivial hn, fun _ => ?_⟩
      have hall : warningsOf s.log = [] := hnone
      rw [State.warnings, hwarnings, hall]
      simp
  | froze hw hf hlog hwarnings | failed hw hlog hwarnings =>
      exact hkept (by simp [hw, Worker.HasOpened]) trivial hwarnings
  | analysed hw ha | finished hw ha | broke hw ha =>
      exact hkept (by simp [hw, Worker.HasOpened]) trivial ha.warnings_eq
  | swept hw hr =>
      obtain ⟨tickets, rfl⟩ := frame_of_reject hr
      exact hkept (by simp [hw, Worker.HasOpened]) trivial rfl
  | concludedTwice hw =>
      refine hkept ?_ trivial rfl
      rcases hw with ⟨used, count, hw⟩ | ⟨e, swept, hw⟩ <;> simp [hw, Worker.HasOpened]
  | _ hw =>
      exact hkept (by simp [hw, Worker.HasOpened]) trivial (by simp [State.warnings, State.record])

theorem ClientStep.warnings_eq {c : Nat} (h : ClientStep setup s c t) :
    t.warnings = s.warnings := by
  cases h with
  | analysed hc ha | finished hc ha | broke hc ha =>
      have hwarnings := ha.warnings_eq
      simpa [State.warnings, giveBack_eq, State.setClient] using hwarnings
  | rejected hc hf hr =>
      obtain ⟨tickets, rfl⟩ := frame_of_reject hr
      simp [State.warnings, giveBack_eq, State.setClient]
  | _ => simp [State.warnings, giveBack_eq, State.setClient, State.record, State.write]

theorem ClientStep.warned {c : Nat} (hlaunch : Launch s) (hs : Warned setup more s)
    (h : ClientStep setup s c t) : Warned setup more t := by
  rcases h.launches hlaunch with hworker | ⟨hbefore, hafter⟩
  · by_cases hopened : s.worker.HasOpened
    · exact hs.of_opened hopened (hworker ▸ hopened) h.warnings_eq
    · exact hs.of_unopened hopened (hworker ▸ hopened) h.warnings_eq
  · exact hs.of_unopened (by simp [hbefore, Worker.HasOpened]) (by simp [hafter, Worker.HasOpened])
      h.warnings_eq

theorem Step.warned (hlaunch : Launch s) (hs : Warned setup more s) (h : Step setup s m t) :
    Warned setup more t := by
  cases h with
  | worker h => exact h.warned hs
  | client h => exact h.warned hlaunch hs
  | called | cancelled | spared => exact ⟨hs.unopened, hs.opened⟩

/-- A session gives no warnings but those of its loader. -/
theorem Reachable.warned (h : Reachable setup s) : Warned setup [] s :=
  h.invariant (warned_initial setup) fun hr hs => Step.warned hr.launch hs

end

end StyleUsage.Session
