import StyleUsage.Proofs.Markup.Writing
import StyleUsage.Proofs.Text.Spans

/-!
# Escapes

A value is read back from its written form, whatever characters it holds.
-/

namespace StyleUsage.Markup

open StyleUsage.Text

/-! ## References by name -/

/-- A short name of letters that stands for one character. -/
structure IsEntity (name : String) (c : Char) : Prop where
  letters : name.toList.all Char.isAlpha = true
  name_ne : name.toList ≠ []
  length_le : name.toList.length ≤ longestName
  stands : namedText? (name.toList ++ [';']) = some [c]

theorem IsEntity.isAlpha_of_mem {name : String} {c d : Char} (h : IsEntity name c)
    (hd : d ∈ name.toList) : d.isAlpha = true :=
  List.all_eq_true.1 h.letters d hd

theorem IsEntity.exists_name {name : String} {c : Char} (h : IsEntity name c) :
    ∃ first more, name.toList = first :: more ∧ first.isAlpha = true ∧
      ∀ d ∈ more, d.isAlpha = true := by
  obtain ⟨first, more, hname⟩ := List.exists_cons_of_ne_nil h.name_ne
  have hletters (d : Char) (hd : d ∈ name.toList) : d.isAlpha = true := h.isAlpha_of_mem hd
  rw [hname, List.forall_mem_cons] at hletters
  exact ⟨first, more, hname, hletters⟩

theorem isEntity_amp : IsEntity "amp" '&' :=
  ⟨by decide, by decide, by decide, by decide +kernel⟩

theorem isEntity_lt : IsEntity "lt" '<' :=
  ⟨by decide, by decide, by decide, by decide +kernel⟩

theorem isEntity_quot : IsEntity "quot" '"' :=
  ⟨by decide, by decide, by decide, by decide +kernel⟩

theorem inReferenceName_of_isAlpha {c : Char} (h : c.isAlpha = true) :
    inReferenceName c = true := by
  have hne {d : Char} (hd : d.isAlpha = false) : c ≠ d := ne_of_test h hd
  simp [inReferenceName, hne (d := '\t') rfl, hne (d := '\n') rfl, hne (d := '\x0c') rfl,
    hne (d := ' ') rfl, hne (d := '<') rfl, hne (d := '&') rfl, hne (d := '#') rfl,
    hne (d := ';') rfl]

section
variable {name : String} {c : Char} {rest : List Char}

theorem named?_of_isEntity (h : IsEntity name c) (rest : List Char) :
    named? (name.toList ++ ';' :: rest) = some ([c], rest) := by
  have hall (d : Char) (hd : d ∈ name.toList) : inReferenceName d = true :=
    inReferenceName_of_isAlpha (h.isAlpha_of_mem hd)
  have hbare : ((name.toList ++ ';' :: rest).takeWhile inReferenceName).take longestName =
      name.toList := by
    rw [(span_append _ hall rfl).1]
    exact List.take_of_length_le h.length_le
  simp only [named?, hbare, List.drop_left, List.head?_cons, if_true, h.name_ne, if_false,
    h.stands, Option.some_or, dropSemicolon]

theorem reference?_of_isEntity (h : IsEntity name c) (rest : List Char) :
    reference? (name.toList ++ ';' :: rest) = some ([c], rest) := by
  have hnamed := named?_of_isEntity h rest
  obtain ⟨first, more, hname, hfirst, -⟩ := h.exists_name
  have hne : first ≠ '#' := ne_of_test hfirst rfl
  rw [hname] at hnamed ⊢
  rw [← hnamed, List.cons_append]
  exact reference?.eq_2 _ (fun _ heq => hne (List.cons.inj heq).1)

theorem resolveReferences_namedReference (h : IsEntity name c) :
    resolveReferences (namedReference name ++ rest) = c :: resolveReferences rest := by
  have hreference := reference?_of_isEntity h rest
  simp only [namedReference, List.cons_append, List.append_assoc, List.nil_append]
  rw [resolveReferences]
  split
  · rename_i text after hfound
    rw [hreference] at hfound
    cases hfound
    rfl
  · rename_i hnone
    rw [hreference] at hnone
    cases hnone

theorem resolveReferences_cons (h : c ≠ '&') :
    resolveReferences (c :: rest) = c :: resolveReferences rest := by
  rw [resolveReferences.eq_3 _ _ (fun heq => h heq)]

/-- Without an ampersand, a value stands for itself. -/
theorem resolveReferences_of_notMem {s : List Char} (h : '&' ∉ s) : resolveReferences s = s := by
  induction s with
  | nil => rw [resolveReferences]
  | cons c rest ih =>
      rw [List.mem_cons, not_or] at h
      rw [resolveReferences_cons (Ne.symm h.1), ih h.2]

end

/-! ## Values -/

section
variable {special : Char} {name : String}

theorem escaped_cons (c : Char) (s : List Char) : escaped special name (c :: s) =
    (if c = '&' then namedReference "amp" else if c = special then namedReference name else [c]) ++
      escaped special name s :=
  rfl

/-- Escaping is undone by the references it makes. -/
theorem resolveReferences_escaped (h : IsEntity name special) (s : List Char) :
    resolveReferences (escaped special name s) = s := by
  induction s with
  | nil => simp [escaped, resolveReferences]
  | cons c s ih =>
      rw [escaped_cons]
      split
      case isTrue hamp => rw [resolveReferences_namedReference isEntity_amp, ih, hamp]
      case isFalse hamp =>
          split
          case isTrue hspecial => rw [resolveReferences_namedReference h, ih, hspecial]
          case isFalse => rw [List.singleton_append, resolveReferences_cons hamp, ih]

/-- A character of an escaped text is one of the text, or belongs to a reference. -/
theorem not_mem_escaped {d : Char} (hreference : ∀ n ∈ ["amp", name], d ∉ namedReference n)
    (hd : d = special) (s : List Char) : d ∉ escaped special name s := by
  rw [escaped, List.mem_flatMap]
  rintro ⟨c, -, hc⟩
  split at hc
  case isTrue => exact hreference "amp" (by simp) hc
  case isFalse =>
      split at hc
      case isTrue => exact hreference name (by simp) hc
      case isFalse hne => exact hne ((List.mem_singleton.1 hc).symm.trans hd)

end

theorem resolveReferences_writtenValue (s : String) :
    resolveReferences (writtenValue s) = s.toList :=
  resolveReferences_escaped isEntity_quot s.toList

theorem quote_not_mem_writtenValue (s : String) : '"' ∉ writtenValue s :=
  not_mem_escaped (by decide) rfl s.toList

/-- A written value holds no number at all. -/
theorem tooLongNumber?_writtenValue (s : String) : tooLongNumber? (writtenValue s) = none := by
  unfold writtenValue
  induction s.toList with
  | nil => rfl
  | cons c s ih =>
      rw [escaped_cons]
      split
      case isTrue => simpa [namedReference, tooLongNumber?] using ih
      case isFalse hamp =>
          split
          case isTrue => simpa [namedReference, tooLongNumber?] using ih
          case isFalse =>
              rw [List.singleton_append, tooLongNumber?.eq_3 _ _ (fun _ heq => absurd heq hamp), ih]

end StyleUsage.Markup
