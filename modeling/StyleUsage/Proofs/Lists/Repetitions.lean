import Mathlib.Data.List.Induction
import Mathlib.Data.List.Nodup

/-!
# Repetitions

A list without its repetitions keeps every element where it comes first. It is put together out of
the parts of the list, of which each adds what those before it do not have.
-/

namespace StyleUsage

variable {α : Type} [BEq α] [LawfulBEq α]

/-- One more element counts unless it is there already. -/
theorem eraseDups_concat (l : List α) (x : α) :
    (l ++ [x]).eraseDups = if x ∈ l then l.eraseDups else l.eraseDups ++ [x] := by
  rw [List.eraseDups_append]
  by_cases hx : x ∈ l
  · simp [List.removeAll, hx]
  · simp [List.removeAll, hx, List.eraseDups_cons]

theorem nodup_eraseDups (l : List α) : l.eraseDups.Nodup := by
  induction l using List.reverseRecOn with
  | nil => exact List.nodup_nil
  | append_singleton l x ih =>
      rw [eraseDups_concat]
      split
      case isTrue => exact ih
      case isFalse hx =>
        refine List.nodup_append.2 ⟨ih, List.nodup_singleton x, fun y hy z hz heq => hx ?_⟩
        rw [← List.mem_singleton.1 hz, ← heq]
        exact List.mem_eraseDups.1 hy

/-- The second part adds what the first one does not have. The induction goes on at the end of the
second part. -/
theorem eraseDups_append_filter (l more : List α) :
    (l ++ more).eraseDups = l.eraseDups ++ more.eraseDups.filter (· ∉ l) := by
  induction more using List.reverseRecOn with
  | nil => simp
  | append_singleton more x ih =>
      rw [← List.append_assoc, eraseDups_concat, ih, eraseDups_concat]
      by_cases hx : x ∈ l <;> by_cases hmore : x ∈ more <;> simp [hx, hmore]

end StyleUsage
