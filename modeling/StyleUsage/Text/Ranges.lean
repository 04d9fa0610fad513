/-! # Sets of code points

A class of characters is a list of closed ranges of code points in ascending order. -/

namespace StyleUsage.Text

/-- Whether a code point lies in one of the ranges. They ascend, so the walk stops at the first
range that starts above it. -/
def inRanges (n : Nat) : List (Nat × Nat) → Bool
  | [] => false
  | (first, last) :: rest =>
      if n < first then false
      else if n ≤ last then true
      else inRanges n rest

theorem exists_of_inRanges {n : Nat} {ranges : List (Nat × Nat)} (h : inRanges n ranges) :
    ∃ r ∈ ranges, r.1 ≤ n ∧ n ≤ r.2 := by
  induction ranges with
  | nil => simp [inRanges] at h
  | cons r rest ih =>
      obtain ⟨first, last⟩ := r
      simp only [inRanges] at h
      split at h
      · simp at h
      · split at h
        · exact ⟨(first, last), by simp, by omega, by assumption⟩
        · obtain ⟨r, hr, hn⟩ := ih h
          exact ⟨r, by simp [hr], hn⟩

end StyleUsage.Text
