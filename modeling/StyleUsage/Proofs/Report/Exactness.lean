import StyleUsage.Exemption
import StyleUsage.Proofs.Stylesheet.ClassNames
import StyleUsage.Report

/-!
# What a report says

A report lists the declared classes, each once and in the order of their first places, and among
them exactly those that are neither used nor exempt. It goes by the selectors of the outermost style
rules and by nothing else in a stylesheet.
-/

namespace StyleUsage

/-- No exemption gives the name literally, and no pattern among them is found in it. -/
def IsReportable (exemptions : List Exemption) (name : String) : Prop :=
  (∀ literal, .name literal ∈ exemptions → name ≠ literal) ∧
    ∀ p, .pattern p ∈ exemptions → p.foundIn name = false

theorem isExempt_eq_false_iff (exemptions : List Exemption) (name : String) :
    isExempt exemptions name = false ↔ IsReportable exemptions name := by
  rw [isExempt, List.any_eq_false]
  constructor
  · intro h
    constructor
    · intro literal hliteral heq
      exact h _ hliteral (by simp [Exemption.covers, heq])
    · intro p hp
      exact Bool.eq_false_iff.2 (h _ hp)
  · rintro ⟨hliterals, hpatterns⟩ e he
    cases e with
    | name literal => simpa [Exemption.covers, eq_comm] using hliterals literal he
    | pattern p => simpa [Exemption.covers] using hpatterns p he

/-- What a report on a stylesheet has to say. -/
structure IsReportOn (sheet : Stylesheet) (used : String → Bool) (exemptions : List Exemption)
    (r : Report) : Prop where
  mem_declared : ∀ name, name ∈ r.declared ↔ ∃ p, sheet.Declares p name
  nodup : r.declared.Nodup
  ordered : r.declared.Pairwise fun a b =>
    ∃ p, sheet.Declares p a ∧ ∀ q, sheet.Declares q b → p.Precedes q
  mem_unused : ∀ name, name ∈ r.unused ↔
    name ∈ r.declared ∧ used name = false ∧ IsReportable exemptions name
  sublist : r.unused.Sublist r.declared
  isClean : r.isClean = true ↔ r.unused = []

namespace Report

variable {sheet : Stylesheet} {used exempt : String → Bool} {exemptions : List Exemption}

theorem isClean_of (sheet : Stylesheet) (used exempt : String → Bool) :
    (Report.of sheet used exempt).isClean = (Report.of sheet used exempt).unused.isEmpty := by
  unfold Report.isClean Report.of
  cases sheet.declared <;> rfl

theorem mem_unused_of {name : String} : name ∈ (Report.of sheet used exempt).unused ↔
    name ∈ sheet.declared ∧ used name = false ∧ exempt name = false := by
  simp only [Report.of, List.mem_filter, Bool.and_eq_true, Bool.not_eq_true']
  tauto

/-- A report says what it has to, and two stylesheets whose outermost style rules have the same
selectors in the same order get the same one. -/
theorem of_isReportOn (sheet : Stylesheet) (used : String → Bool) (exemptions : List Exemption) :
    IsReportOn sheet used exemptions (.of sheet used (isExempt exemptions)) ∧
    ∀ other : Stylesheet,
      other.rules.flatMap Rule.selectors = sheet.rules.flatMap Rule.selectors →
      Report.of other used (isExempt exemptions) = .of sheet used (isExempt exemptions) := by
  constructor
  · constructor
    case mem_declared => exact sheet.mem_declared
    case nodup => exact sheet.nodup_declared
    case ordered => exact sheet.pairwise_declared
    case mem_unused =>
      intro name
      rw [mem_unused_of, isExempt_eq_false_iff]
      rfl
    case sublist => exact List.filter_sublist
    case isClean => rw [isClean_of, List.isEmpty_iff]
  · intro other h
    have hsame := Stylesheet.declared_of_selectors h
    simp only [Report.of, hsame]

/-- A class that two rules name, one that is used and one that is exempt; the classes of a nested
rule and of an at-rule do not count. -/
example : Report.of ⟨[.style ["a.b.c-1", ".d.e:not(.b)"] [] [.style [".f"] [] [] 1] 1,
      .atRule "media" "" [] [.style [".g"] [] [] 2] 2]⟩
    (· = "c-1") (isExempt [.name "d"]) = ⟨["b", "c-1", "d", "e"], ["b", "e"]⟩ := by
  decide +kernel

end Report

end StyleUsage
