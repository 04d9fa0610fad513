import StyleUsage.Proofs.Session.Transition

/-!
# The launch of a session

However many clients ask for it, one of them launches the session, and the worker gets its task
once. Until then the worker is absent.
-/

namespace StyleUsage.Session

/-- A client that is about to give the worker its task. -/
def Client.IsLaunching : Client → Prop
  | .launching _ | .spawning _ => True
  | _ => False

/-- At most one client launches a session, and only before the worker has its task. -/
structure Launch (s : State) : Prop where
  absent_of_not_started : s.started = false → s.worker = .absent
  not_launching : s.started = false → ∀ c, ¬ (s.clients c).IsLaunching
  absent_of_launching : ∀ {c}, (s.clients c).IsLaunching → s.worker = .absent
  unique : ∀ {c d}, (s.clients c).IsLaunching → (s.clients d).IsLaunching → c = d

theorem launch_initial (setup : Setup) : Launch (.initial setup) where
  absent_of_not_started _ := rfl
  not_launching _ c := by simp [State.initial, Client.IsLaunching]
  absent_of_launching := by simp [State.initial, Client.IsLaunching]
  unique := by simp [State.initial, Client.IsLaunching]

section
variable {setup : Setup} {s t : State}

/-- A step that brings no client nearer to a launch keeps the launch unique. -/
theorem Launch.of_clients (hs : Launch s) (hworker : t.worker = s.worker)
    (hstarted : t.started = s.started)
    (hclients : ∀ d, (t.clients d).IsLaunching → (s.clients d).IsLaunching) : Launch t where
  absent_of_not_started h := hworker ▸ hs.absent_of_not_started (hstarted ▸ h)
  not_launching h c hc := hs.not_launching (hstarted ▸ h) c (hclients c hc)
  absent_of_launching hc := hworker ▸ hs.absent_of_launching (hclients _ hc)
  unique hc hd := hs.unique (hclients _ hc) (hclients _ hd)

theorem Launch.worker (hs : Launch s) (h : WorkerStep setup s t) : Launch t := by
  obtain ⟨hpresent, hclients, hstarted, -⟩ := h.frame
  have hnone (c : Nat) : ¬ (t.clients c).IsLaunching := by
    intro hc
    rw [hclients] at hc
    exact hpresent (hs.absent_of_launching hc)
  refine ⟨?_, fun _ => hnone, fun hc => absurd hc (hnone _), fun hc => absurd hc (hnone _)⟩
  intro hn
  exact absurd (hs.absent_of_not_started (hstarted ▸ hn)) hpresent

/-- A client that goes over to a stage before which it was no launcher, or is one no more. -/
theorem isLaunching_of_setClient {c d : Nat} {stage : Client}
    (hstage : stage.IsLaunching → (s.clients c).IsLaunching)
    (hd : ((s.setClient c stage).clients d).IsLaunching) : (s.clients d).IsLaunching := by
  by_cases hdc : d = c
  · subst hdc
    simp only [State.setClient, if_true] at hd
    exact hstage hd
  · simpa [State.setClient, hdc] using hd

theorem not_isLaunching_onward (request : Request) : ¬ request.onward.IsLaunching := by
  cases request <;> simp [Request.onward, Client.IsLaunching]

theorem Launch.client {c : Nat} (hs : Launch s) (h : ClientStep setup s c t) : Launch t := by
  cases h with
  | joined hc =>
      exact hs.of_clients rfl rfl fun d =>
        isLaunching_of_setClient fun h => absurd h (not_isLaunching_onward _)
  | @launched request hc hn =>
      have hnone := hs.not_launching hn
      have hd {d : Nat} (h : ((s.setClient c (.launching request)).clients d).IsLaunching) :
          d = c := by
        by_cases hdc : d = c
        · exact hdc
        · simp only [State.setClient, hdc, if_false] at h
          exact absurd h (hnone d)
      refine ⟨by simp, by simp, fun _ => hs.absent_of_not_started hn, ?_⟩
      intro a b ha hb
      rw [hd ha, hd hb]
  | @spawned request hc =>
      have hlaunching : (s.clients c).IsLaunching := by simp [hc, Client.IsLaunching]
      have hnone (d : Nat) : ¬ ((s.setClient c request.onward).clients d).IsLaunching := by
        intro hd
        by_cases hdc : d = c
        · subst hdc
          simp only [State.setClient, if_true] at hd
          exact not_isLaunching_onward _ hd
        · simp only [State.setClient, hdc, if_false] at hd
          exact hdc (hs.unique hd hlaunching)
      refine ⟨?_, fun _ => hnone, fun hd => absurd hd (hnone _), fun hd => absurd hd (hnone _)⟩
      intro hn
      exact absurd hlaunching (hs.not_launching hn c)
  | told hc =>
      exact hs.of_clients rfl rfl fun d =>
        isLaunching_of_setClient fun _ => by simp [State.record, hc, Client.IsLaunching]
  | analysed hc ha =>
      obtain ⟨tickets, log, rfl⟩ := ha.frame
      exact hs.of_clients rfl rfl fun d => isLaunching_of_setClient (by simp [Client.IsLaunching])
  | finished hc ha | broke hc ha =>
      obtain ⟨tickets, log, rfl⟩ := ha.frame
      rw [giveBack_eq]
      exact hs.of_clients rfl rfl fun d => isLaunching_of_setClient (by simp [Client.IsLaunching])
  | rejected hc hf hr =>
      obtain ⟨tickets, rfl⟩ := frame_of_reject hr
      rw [giveBack_eq]
      exact hs.of_clients rfl rfl fun d => isLaunching_of_setClient (by simp [Client.IsLaunching])
  | queued | refused | admitted | began =>
      exact hs.of_clients rfl rfl fun d => isLaunching_of_setClient (by simp [Client.IsLaunching])
  | _ =>
      rw [giveBack_eq]
      exact hs.of_clients rfl rfl fun d => isLaunching_of_setClient (by simp [Client.IsLaunching])

/-- A client moves the worker only when it gives it its task. -/
theorem ClientStep.launches {c : Nat} (h : ClientStep setup s c t) (hs : Launch s) :
    t.worker = s.worker ∨ s.worker = .absent ∧ t.worker = .opening := by
  rcases h.worker_eq with hworker | ⟨⟨request, hc⟩, hworker⟩
  · exact .inl hworker
  · have hlaunching : (s.clients c).IsLaunching := by simp [hc, Client.IsLaunching]
    exact .inr ⟨hs.absent_of_launching hlaunching, hworker⟩

theorem Launch.step {m : Move} (hs : Launch s) (h : Step setup s m t) : Launch t := by
  cases h with
  | worker h => exact hs.worker h
  | client h => exact hs.client h
  | called =>
      exact hs.of_clients rfl rfl fun d => isLaunching_of_setClient (by simp [Client.IsLaunching])
  | cancelled => exact hs.of_clients rfl rfl fun _ h => h
  | spared => exact hs

end

theorem Reachable.launch {setup : Setup} {s : State} (h : Reachable setup s) : Launch s :=
  h.invariant (launch_initial setup) fun _ hs => hs.step

end StyleUsage.Session
