import Mathlib.Data.List.Basic
import StyleUsage.Bus

/-!
# Registrations in force

Which registrations are in force follows from the changes of the past: a registration is in force as
long as its listener has not been unsubscribed since.
-/

namespace StyleUsage.Bus

/-- What changes the registrations of a bus. -/
inductive Change (Listener : Type) where
  | registered (registration : Registration Listener)
  | unsubscribed (listener : Listener)
  deriving DecidableEq

variable {Listener : Type}

/-- The action that a change comes from. -/
def Change.action : Change Listener → BusAction Listener
  | registered ⟨listener, some kind⟩ => .subscribe kind listener
  | registered ⟨listener, none⟩ => .onAll listener
  | unsubscribed listener => .unsubscribe listener

variable [DecidableEq Listener] {earlier later : List (Change Listener)} {change : Change Listener}
  {r : Registration Listener} {listener : Listener}

/-- The registrations that some changes leave in force, the oldest first. -/
def live : List (Change Listener) → Bus Listener
  | [] => []
  | .registered r :: later =>
      if .unsubscribed r.listener ∈ later then live later else r :: live later
  | .unsubscribed _ :: later => live later

/-- Later changes end registrations and add others behind them. -/
theorem live_append (earlier later : List (Change Listener)) :
    live (earlier ++ later) =
      (live earlier).filter (fun r => .unsubscribed r.listener ∉ later) ++ live later := by
  induction earlier with
  | nil => rfl
  | cons change rest ih =>
      cases change with
      | unsubscribed listener => exact ih
      | registered r =>
          rw [List.cons_append, live, live, ih]
          by_cases hrest : .unsubscribed r.listener ∈ rest
          · rw [if_pos hrest, if_pos (List.mem_append_left _ hrest)]
          · rw [if_neg hrest]
            by_cases hlater : .unsubscribed r.listener ∈ later
            · rw [if_pos (List.mem_append_right _ hlater), List.filter_cons_of_neg (by simpa)]
            · rw [if_neg (by simp [hrest, hlater]), List.filter_cons_of_pos (by simpa),
                List.cons_append]

theorem live_concat_registered (earlier : List (Change Listener)) (r : Registration Listener) :
    live (earlier ++ [.registered r]) = live earlier ++ [r] := by
  rw [live_append]
  simp [live]

/-- The other registrations stay, in the order in which they were made. -/
theorem live_concat_unsubscribed (earlier : List (Change Listener)) (listener : Listener) :
    live (earlier ++ [.unsubscribed listener]) =
      (live earlier).filter (·.listener ≠ listener) := by
  rw [live_append]
  simp [live]

theorem registered_of_mem_live (h : r ∈ live later) : .registered r ∈ later := by
  induction later with
  | nil => cases h
  | cons change rest ih =>
      cases change with
      | unsubscribed listener => exact List.mem_cons_of_mem _ (ih h)
      | registered other =>
          rw [live] at h
          split at h
          case isTrue => exact List.mem_cons_of_mem _ (ih h)
          case isFalse =>
              rcases List.mem_cons.1 h with rfl | h
              · exact List.mem_cons_self
              · exact List.mem_cons_of_mem _ (ih h)

/-- Once unsubscribed, a listener has no registration in force until it is registered again. -/
theorem ne_listener_of_mem_live (hlater : ∀ kind, .registered ⟨listener, kind⟩ ∉ later)
    (h : r ∈ live (earlier ++ .unsubscribed listener :: later)) : r.listener ≠ listener := by
  rintro rfl
  rw [live_append] at h
  rcases List.mem_append.1 h with h | h
  · simp at h
  · exact hlater r.kind (registered_of_mem_live h)

omit [DecidableEq Listener] in
theorem exists_of_mem_targets {bus : Bus Listener} {kind : EventKind}
    (h : listener ∈ bus.targets kind) : ∃ r ∈ bus, r.listener = listener := by
  obtain ⟨r, hr, rfl⟩ := List.mem_map.1 h
  rcases List.mem_append.1 hr with hr | hr
  · exact ⟨r, List.mem_of_mem_filter hr, rfl⟩
  · exact ⟨r, List.mem_of_mem_filter hr, rfl⟩

/-- Once unsubscribed, a listener is due to no event until it is registered again. -/
theorem notMem_targets_of_unsubscribed (kind : EventKind)
    (hlater : ∀ kind, .registered ⟨listener, kind⟩ ∉ later) :
    listener ∉ (live (earlier ++ .unsubscribed listener :: later)).targets kind := by
  intro h
  obtain ⟨r, hr, hlistener⟩ := exists_of_mem_targets h
  exact ne_listener_of_mem_live hlater hr hlistener

theorem performWith_change (behavior : Behavior Listener) (depth : Nat) (change : Change Listener)
    (earlier : List (Change Listener)) (calls : List (Listener × EventKind)) :
    performWith behavior depth change.action ⟨live earlier, calls⟩ =
      (⟨live (earlier ++ [change]), calls⟩, .done) := by
  cases change with
  | unsubscribed listener =>
      rw [Change.action, performWith, live_concat_unsubscribed]
      rfl
  | registered r =>
      obtain ⟨listener, _ | kind⟩ := r
      · rw [Change.action, performWith, live_concat_registered]
        rfl
      · rw [Change.action, performWith, live_concat_registered]
        rfl

end StyleUsage.Bus
