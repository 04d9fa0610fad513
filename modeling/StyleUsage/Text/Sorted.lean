/-! # Sorted texts

Texts are sorted by their code points, from left to right. -/

namespace StyleUsage.Text

/-- The texts in ascending order. -/
def sorted (texts : List String) : List String :=
  texts.mergeSort fun a b => decide (a ≤ b)

theorem perm_sorted (texts : List String) : (sorted texts).Perm texts :=
  List.mergeSort_perm texts _

theorem mem_sorted {texts : List String} {t : String} : t ∈ sorted texts ↔ t ∈ texts :=
  (perm_sorted texts).mem_iff

end StyleUsage.Text
