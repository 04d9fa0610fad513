import Mathlib.Data.List.Forall2

/-!
# Attempts that may fail

What several attempts come to, made one after the other: all of them succeed, or the first that
fails decides.
-/

namespace StyleUsage

variable {ε ε' α β : Type} {items : List α} {made : List β} {f : α → Except ε β} {b : β} {e : ε}

theorem bind_eq_ok_iff {x : Except ε α} : (x >>= f) = .ok b ↔ ∃ a, x = .ok a ∧ f a = .ok b := by
  cases x with
  | error e => simp [bind, Except.bind]
  | ok a => simp [bind, Except.bind]

theorem bind_isOk_iff {x : Except ε α} :
    (∃ b, (x >>= f) = .ok b) ↔ ∃ a, x = .ok a ∧ ∃ b, f a = .ok b := by
  cases x with
  | error e => simp [bind, Except.bind]
  | ok a => simp [bind, Except.bind]

/-- What is made of some items is made of each of them, in order. -/
theorem mapM_eq_ok_iff :
    items.mapM f = .ok made ↔ List.Forall₂ (fun a b => f a = .ok b) items made := by
  induction items generalizing made with
  | nil => simp [pure, Except.pure, eq_comm]
  | cons a rest ih =>
      rw [List.mapM_cons, List.forall₂_cons_left_iff, bind_eq_ok_iff]
      simp only [bind_eq_ok_iff, ih]
      constructor
      · rintro ⟨first, hfirst, others, hothers, h⟩
        cases h
        exact ⟨first, others, hfirst, hothers, rfl⟩
      · rintro ⟨first, others, hfirst, hothers, rfl⟩
        exact ⟨first, hfirst, others, hothers, rfl⟩

theorem exists_of_mem_forall₂ {R : α → β → Prop} (h : List.Forall₂ R items made) (hb : b ∈ made) :
    ∃ a ∈ items, R a b := by
  induction h with
  | nil => cases hb
  | @cons a _ _ _ hfirst _ ih =>
      rcases List.mem_cons.1 hb with rfl | hb
      · exact ⟨a, List.mem_cons_self, hfirst⟩
      · obtain ⟨a', ha', hrelated⟩ := ih hb
        exact ⟨a', List.mem_cons_of_mem a ha', hrelated⟩

theorem mem_of_mapM (h : items.mapM f = .ok made) : b ∈ made ↔ ∃ a ∈ items, f a = .ok b := by
  constructor
  · exact exists_of_mem_forall₂ (mapM_eq_ok_iff.1 h)
  · rintro ⟨a, ha, hb⟩
    obtain ⟨b', hb', hmade⟩ := exists_of_mem_forall₂ (mapM_eq_ok_iff.1 h).flip ha
    rw [hb] at hmade
    cases hmade
    exact hb'

theorem mapM_isOk_iff : (∃ made, items.mapM f = .ok made) ↔ ∀ a ∈ items, ∃ b, f a = .ok b := by
  induction items with
  | nil => simp [pure, Except.pure]
  | cons a rest ih =>
      rw [List.mapM_cons, List.forall_mem_cons, ← ih, bind_isOk_iff]
      simp only [bind_isOk_iff]
      constructor
      · rintro ⟨first, hfirst, others, hothers, -⟩
        exact ⟨⟨first, hfirst⟩, others, hothers⟩
      · rintro ⟨⟨first, hfirst⟩, others, hothers⟩
        exact ⟨first, hfirst, others, hothers, _, rfl⟩

/-- Whether the items are dealt with one by one or all at once, their errors are translated. -/
theorem mapM_mapError (f : α → Except ε β) (g : ε → ε') (items : List α) :
    (items.mapM fun a => (f a).mapError g) = (items.mapM f).mapError g := by
  induction items with
  | nil => rfl
  | cons a rest ih =>
      rw [List.mapM_cons, List.mapM_cons, ih]
      cases f a with
      | error e => rfl
      | ok b => cases rest.mapM f <;> rfl

end StyleUsage
