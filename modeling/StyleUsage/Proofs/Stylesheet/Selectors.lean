import StyleUsage.Proofs.Text.Spans
import StyleUsage.Proofs.Text.Trim
import StyleUsage.Stylesheet.Quotation
import StyleUsage.Stylesheet.Selector

/-!
# Selector lists and blanks

A scan that meets no separating comma leaves its text to one selector. The blanks around a list
belong to its first and its last selector, where they are trimmed off: a list has the same
selectors with and without them.
-/

namespace StyleUsage.Stylesheet

open StyleUsage.Text

/-! ## Scanning -/

/-- A character that opens and closes nothing. -/
def isBracketless (c : Char) : Bool :=
  !isQuote c && c ∉ ['\\', '(', ')', '[', ']']

/-- A scan of the text gets from one state to the other and meets no separating comma. -/
inductive Passes : SelectorScan → List Char → SelectorScan → Prop where
  | nil {state : SelectorScan} : Passes state [] state
  | cons {state next final : SelectorScan} {c : Char} {rest : List Char}
      (hc : state.separates c = false) (hnext : state.next c = next)
      (hrest : Passes next rest final) : Passes state (c :: rest) final

/-- Outside of quotations, in so many brackets. -/
abbrev SelectorScan.inside (depth : Nat) : SelectorScan :=
  ⟨depth, none, false⟩

variable {state middle final : SelectorScan} {s rest : List Char} {c : Char} {depth : Nat}

theorem Passes.append (h : Passes state s middle) (hrest : Passes middle rest final) :
    Passes state (s ++ rest) final := by
  induction h with
  | nil => exact hrest
  | cons hc hnext _ ih => exact .cons hc hnext (ih hrest)

theorem separates_of_ne (h : c ≠ ',') (state : SelectorScan) : state.separates c = false := by
  simp [SelectorScan.separates, h]

theorem separates_of_isBlank (h : isBlank c = true) (state : SelectorScan) :
    state.separates c = false :=
  separates_of_ne (ne_of_test h (by decide)) state

theorem next_bracketless (hc : isBracketless c = true) :
    (SelectorScan.inside depth).next c = .inside depth := by
  simp only [isBracketless, isQuote, Bool.and_eq_true, Bool.not_eq_true', Bool.or_eq_false_iff,
    decide_eq_false_iff_not, List.mem_cons, List.not_mem_nil, or_false, not_or,
    decide_eq_true_eq] at hc
  simp [SelectorScan.next, hc]

theorem isBracketless_of_isBlank (h : isBlank c = true) : isBracketless c = true := by
  have hne {d : Char} (hd : isBlank d = false) : c ≠ d := ne_of_test h hd
  have hquotes : c ≠ '"' ∧ c ≠ '\'' := ⟨hne (by decide), hne (by decide)⟩
  have hopening : c ≠ '(' ∧ c ≠ '[' := ⟨hne (by decide), hne (by decide)⟩
  have hclosing : c ≠ ')' ∧ c ≠ ']' := ⟨hne (by decide), hne (by decide)⟩
  have hslash : c ≠ '\\' := hne (by decide)
  simp [isBracketless, isQuote, hquotes, hopening, hclosing, hslash]

theorem passes_blanks (h : AllBlank s) : Passes (.inside depth) s (.inside depth) := by
  induction s with
  | nil => exact .nil
  | cons c rest ih =>
      have hc := h c List.mem_cons_self
      exact .cons (separates_of_isBlank hc _) (next_bracketless (isBracketless_of_isBlank hc))
        (ih fun d hd => h d (List.mem_cons_of_mem c hd))

/-! ## Splitting -/

theorem splitAtCommas_ne_nil (state : SelectorScan) (s : List Char) :
    splitAtCommas state s ≠ [] := by
  fun_cases splitAtCommas state s <;> simp

/-- What a scan passes belongs to the part that comes next. -/
theorem splitAtCommas_append (h : Passes state s final) (rest : List Char) : ∃ first more,
    splitAtCommas final rest = first :: more ∧
      splitAtCommas state (s ++ rest) = (s ++ first) :: more := by
  induction h with
  | @nil state =>
      cases hrest : splitAtCommas state rest with
      | nil => exact absurd hrest (splitAtCommas_ne_nil state rest)
      | cons first more => exact ⟨first, more, rfl, hrest⟩
  | cons hc hnext _ ih =>
      obtain ⟨first, more, hfirst, hmore⟩ := ih
      refine ⟨first, more, hfirst, ?_⟩
      simp [splitAtCommas, hc, hnext, hmore]

/-- Blanks after a list belong to its last part. -/
theorem splitAtCommas_append_blanks {post : List Char} (hpost : AllBlank post)
    (state : SelectorScan) (s : List Char) : ∃ init last,
      splitAtCommas state s = init ++ [last] ∧
      splitAtCommas state (s ++ post) = init ++ [last ++ post] := by
  induction s generalizing state with
  | nil =>
      refine ⟨[], [], rfl, ?_⟩
      simp only [List.nil_append]
      induction post generalizing state with
      | nil => rfl
      | cons c rest ih =>
          have hrest : AllBlank rest := fun d hd => hpost d (List.mem_cons_of_mem c hd)
          have hc := separates_of_isBlank (hpost c List.mem_cons_self) state
          simp [splitAtCommas, hc, ih hrest]
  | cons c rest ih =>
      simp only [List.cons_append, splitAtCommas]
      split
      case isTrue =>
          obtain ⟨init, last, hs, hmore⟩ := ih state
          exact ⟨[] :: init, last, by rw [hs]; rfl, by rw [hmore]; rfl⟩
      case isFalse =>
          obtain ⟨init, last, hs, hmore⟩ := ih (state.next c)
          rw [hs, hmore]
          cases init with
          | nil => exact ⟨[], c :: last, rfl, rfl⟩
          | cons first more => exact ⟨(c :: first) :: more, last, rfl, rfl⟩

/-- The blanks around a list make no difference to its selectors. -/
theorem splitSelectors_trim (s : List Char) : splitSelectors (trim s) = splitSelectors s := by
  obtain ⟨pre, post, hpre, hpost, hs⟩ := exists_eq_trim s
  have hright : (splitAtCommas .start (trim s ++ post)).map trim =
      (splitAtCommas .start (trim s)).map trim := by
    obtain ⟨init, last, hinit, hmore⟩ := splitAtCommas_append_blanks hpost .start (trim s)
    rw [hinit, hmore]
    simp [trim_append_right hpost]
  -- the start of a scan is inside of no brackets
  have hleft : (splitAtCommas (.inside 0) (pre ++ (trim s ++ post))).map trim =
      (splitAtCommas (.inside 0) (trim s ++ post)).map trim := by
    obtain ⟨first, more, hfirst, hmore⟩ :=
      splitAtCommas_append (passes_blanks hpre) (trim s ++ post)
    rw [hfirst, hmore]
    simp [trim_append_left hpre]
  calc splitSelectors (trim s)
      = ((splitAtCommas .start (trim s)).map trim).filter (· ≠ []) := rfl
    _ = ((splitAtCommas (.inside 0) (pre ++ (trim s ++ post))).map trim).filter (· ≠ []) := by
        rw [hleft, ← hright]
        rfl
    _ = splitSelectors s := by rw [← List.append_assoc, ← hs]; rfl

end StyleUsage.Stylesheet
