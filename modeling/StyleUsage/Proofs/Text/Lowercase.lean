import StyleUsage.Proofs.Text.Spans
import StyleUsage.Text.Lowercase

/-!
# Texts in lowercase

A text of ASCII without capital letters is its own lowercase form.
-/

namespace StyleUsage.Text

/-- A character of ASCII that is no capital letter. -/
def isSmallAscii (c : Char) : Bool :=
  c.toNat < 128 && !c.isUpper

/-- Among the characters of ASCII, only the capital letters have another lowercase form. -/
theorem lower?_of_isSmallAscii {c : Char} {run : CaseRun} (h : isSmallAscii c = true)
    (hrun : run ∈ caseRuns) : run.lower? c.toNat = none := by
  have hall : ∀ run ∈ caseRuns, 128 ≤ run.first ∨ 65 ≤ run.first ∧ run.last ≤ 90 := by
    decide +kernel
  rw [isSmallAscii, Bool.and_eq_true, decide_eq_true_eq, Bool.not_eq_true'] at h
  obtain ⟨hascii, hupper⟩ := h
  rw [CaseRun.lower?, if_neg]
  rintro ⟨hfirst, hlast, -⟩
  rcases hall run hrun with hhigh | ⟨hlow, hhigh⟩
  · omega
  · have hcapital : c.isUpper = true :=
      isUpper_iff.2 ⟨Nat.le_trans hlow hfirst, Nat.le_trans hlast hhigh⟩
    rw [hcapital] at hupper
    cases hupper

theorem lowercaseChar_of_isSmallAscii {c : Char} (h : isSmallAscii c = true) :
    lowercaseChar c = [c] := by
  have hdotted : c ≠ 'İ' := ne_of_test h (by decide)
  have hnone : caseRuns.findSome? (·.lower? c.toNat) = none :=
    List.findSome?_eq_none_iff.2 fun run hrun => lower?_of_isSmallAscii h hrun
  rw [lowercaseChar, if_neg hdotted, hnone]

/-- What is in lowercase already is kept, whatever stands around it. -/
theorem mem_lowercaseAfter {s before : List Char} {c : Char} (h : isSmallAscii c = true)
    (hc : c ∈ s) : c ∈ lowercaseAfter before s := by
  induction s generalizing before with
  | nil => cases hc
  | cons d rest ih =>
      rw [lowercaseAfter, List.mem_append]
      rcases List.mem_cons.1 hc with rfl | hc
      · left
        have hsigma : c ≠ 'Σ' := ne_of_test h (by decide)
        rw [if_neg hsigma, lowercaseChar_of_isSmallAscii h]
        exact List.mem_singleton_self c
      · exact .inr (ih hc)

theorem lowercaseAfter_of_isSmallAscii {s before : List Char}
    (h : ∀ c ∈ s, isSmallAscii c = true) : lowercaseAfter before s = s := by
  induction s generalizing before with
  | nil => rfl
  | cons c rest ih =>
      have hc := h c List.mem_cons_self
      have hsigma : c ≠ 'Σ' := ne_of_test hc (by decide)
      rw [lowercaseAfter, if_neg hsigma, lowercaseChar_of_isSmallAscii hc,
        ih fun d hd => h d (List.mem_cons_of_mem c hd)]
      rfl

theorem lowercaseText_of_isSmallAscii {s : String} (h : ∀ c ∈ s.toList, isSmallAscii c = true) :
    lowercaseText s = s := by
  rw [lowercaseText, lowercase, lowercaseAfter_of_isSmallAscii h, String.ofList_toList]

end StyleUsage.Text
