import StyleUsage.Proofs.Text.Spans
import StyleUsage.Usage.Collector

/-!
# Names in an expression

A class expression gives the words of its quotations and the names in it. None of them is empty, and
without a backslash each of them stands in the expression as it is.
-/

namespace StyleUsage.Usage

open StyleUsage.Text Stylesheet

variable {s name : List Char}

/-! ## Where the parts of an expression stand -/

/-- What the part shows stands in the text as it is. -/
def Lexeme.IsFrom (s : List Char) : Lexeme → Prop
  | .quotation content => content <:+: s
  | .name name => name ≠ [] ∧ name <:+: s
  | _ => True

theorem Lexeme.IsFrom.trans {part : Lexeme} {t : List Char} (h : part.IsFrom t) (ht : t <:+: s) :
    part.IsFrom s := by
  cases part with
  | quotation content => exact List.IsInfix.trans h ht
  | name name => exact ⟨h.1, h.2.trans ht⟩
  | _ => trivial

theorem Lexeme.isFrom_of_mark? {c : Char} {part : Lexeme} (h : part ∈ (mark? c).toList) :
    part.IsFrom s := by
  rw [Option.mem_toList, mark?.eq_def] at h
  split at h
  all_goals
    cases h
    try trivial

theorem Lexeme.isFrom_of_mem {part : Lexeme} (h : part ∈ lexemes s) : part.IsFrom s := by
  fun_induction lexemes s with
  | case1 => cases h
  | case2 c rest inner after hq hlt ih =>
      have hclose : closeQuote? true c rest = some (inner, after) := by
        rw [quotation?] at hq
        split at hq
        case isTrue => exact hq
        case isFalse => cases hq
      have hrest := append_of_closeQuote? hclose
      rcases List.mem_cons.1 h with rfl | h
      · have hinner : inner <:+: c :: rest := ⟨[c], after, by simp [← hrest]⟩
        exact (List.dropLast_prefix inner).isInfix.trans hinner
      · have hafter : after <:+ c :: rest :=
          (hrest ▸ List.suffix_append inner after).trans (List.suffix_cons c rest)
        exact (ih h).trans hafter.isInfix
  | case3 c rest hq hc hle ih =>
      rcases List.mem_cons.1 h with rfl | h
      · refine ⟨List.cons_ne_nil _ _, ?_⟩
        exact (List.prefix_cons_inj c).2 (List.takeWhile_prefix continuesName) |>.isInfix
      · exact (ih h).trans ((List.dropWhile_suffix _).trans (List.suffix_cons c rest)).isInfix
  | case4 c rest hq hc ih =>
      rcases List.mem_append.1 h with hmark | h
      · exact Lexeme.isFrom_of_mark? hmark
      · exact (ih h).trans (List.suffix_cons c rest).isInfix

/-! ## Where names come from -/

/-- Without a backslash, a quotation's content stands for itself. -/
theorem unescape_of_notMem (h : '\\' ∉ s) : unescape s = s := by
  fun_induction unescape s with
  | case1 => simp at h
  | case2 c rest _ ih =>
      rw [List.mem_cons, not_or] at h
      rw [ih h.2]
  | case3 => rfl

/-- What the parts of an expression give is a word of a quotation, or one of the names. -/
theorem exists_of_mem_namesFrom {brackets : List Bracket} {parts : List Lexeme}
    (h : name ∈ namesFrom brackets parts) : .name name ∈ parts ∨
      ∃ content, .quotation content ∈ parts ∧ name ∈ words (unescape content) := by
  induction parts generalizing brackets with
  | nil => cases h
  | cons part rest ih =>
      rcases List.mem_append.1 h with hpart | hrest
      · cases part with
        | quotation content =>
            rw [namesIn] at hpart
            split at hpart
            · cases hpart
            · exact .inr ⟨content, List.mem_cons_self, hpart⟩
        | name n =>
            rw [namesIn] at hpart
            split at hpart
            · rw [List.mem_singleton.1 hpart]
              exact .inl List.mem_cons_self
            · cases hpart
        | _ => cases hpart
      · rcases ih hrest with hname | ⟨content, hcontent, hword⟩
        · exact .inl (List.mem_cons_of_mem part hname)
        · exact .inr ⟨content, List.mem_cons_of_mem part hcontent, hword⟩

theorem ne_empty_of_mem_expressionClasses {s name : String} (h : name ∈ expressionClasses s) :
    name ≠ "" := by
  obtain ⟨n, hn, rfl⟩ := List.mem_map.1 h
  apply ofList_ne_empty
  rcases exists_of_mem_namesFrom hn with hname | ⟨content, -, hword⟩
  · exact (Lexeme.isFrom_of_mem hname).1
  · exact ne_nil_of_mem_words hword

theorem infix_of_mem_expressionClasses {s name : String} (hs : '\\' ∉ s.toList)
    (h : name ∈ expressionClasses s) : name.toList <:+: s.toList := by
  obtain ⟨n, hn, rfl⟩ := List.mem_map.1 h
  rw [String.toList_ofList]
  rcases exists_of_mem_namesFrom hn with hname | ⟨content, hcontent, hword⟩
  · exact (Lexeme.isFrom_of_mem hname).2
  · have hstands : content <:+: s.toList := Lexeme.isFrom_of_mem hcontent
    rw [unescape_of_notMem fun hmem => hs (hstands.subset hmem)] at hword
    exact (infix_of_mem_words hword).trans hstands

end StyleUsage.Usage
