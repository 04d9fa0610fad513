import StyleUsage.Text.Blank
import StyleUsage.Text.WordChar

/-!
# Spans

A text is read up to the first character of another kind; words are such spans, and no word is
empty. Letters of ASCII are word characters, and blanks are none.
-/

namespace StyleUsage.Text

section
variable {p : Char → Bool}

theorem ne_of_test {c d : Char} (hc : p c = true) (hd : p d = false) : c ≠ d := by
  rintro rfl
  rw [hc] at hd
  cases hd

/-- Characters of one kind are read up to the first one of another kind. -/
theorem span_append {s : List Char} (after : List Char) (hs : ∀ c ∈ s, p c = true)
    (hafter : after.head?.all (fun c => !p c) = true) :
    (s ++ after).takeWhile p = s ∧ (s ++ after).dropWhile p = after := by
  rw [List.takeWhile_append_of_pos hs, List.dropWhile_append_of_pos hs]
  cases after with
  | nil => exact ⟨List.append_nil s, rfl⟩
  | cons c rest =>
      have hc : ¬ p c = true := by simpa using hafter
      rw [List.takeWhile_cons_of_neg hc, List.dropWhile_cons_of_neg hc, List.append_nil]
      exact ⟨rfl, rfl⟩

end

/-! ## Kinds of characters -/

theorem isUpper_iff {c : Char} : c.isUpper = true ↔ 65 ≤ c.toNat ∧ c.toNat ≤ 90 :=
  decide_eq_true_iff

theorem isLower_iff {c : Char} : c.isLower = true ↔ 97 ≤ c.toNat ∧ c.toNat ≤ 122 :=
  Bool.and_eq_true_iff.trans (and_congr decide_eq_true_iff decide_eq_true_iff)

theorem isDigit_iff {c : Char} : c.isDigit = true ↔ 48 ≤ c.toNat ∧ c.toNat ≤ 57 :=
  Bool.and_eq_true_iff.trans (and_congr decide_eq_true_iff decide_eq_true_iff)

theorem isAlpha_iff {c : Char} : c.isAlpha = true ↔ c.isUpper = true ∨ c.isLower = true :=
  Bool.or_eq_true_iff

/-- No blank is a letter, a number or the underscore. -/
theorem isWordChar_of_isBlank {c : Char} (h : isBlank c = true) : isWordChar c = false := by
  have hword : blankRanges.all (fun r =>
      (List.range' r.1 (r.2 + 1 - r.1)).all fun n => !inRanges n wordRanges) = true := by
    decide +kernel
  obtain ⟨r, hr, hlow, hhigh⟩ := exists_of_inRanges h
  have hrange := List.all_eq_true.1 (List.all_eq_true.1 hword r hr) c.toNat
    (List.mem_range'_1.2 ⟨hlow, by omega⟩)
  simpa [isWordChar] using hrange

/-- Every letter of ASCII is a word character. -/
theorem isWordChar_of_isAlpha {c : Char} (h : c.isAlpha = true) : isWordChar c = true := by
  have hletters : (List.range' 65 26 ++ List.range' 97 26).all (inRanges · wordRanges) = true := by
    decide +kernel
  refine List.all_eq_true.1 hletters c.toNat ?_
  rw [isAlpha_iff, isUpper_iff, isLower_iff] at h
  rw [List.mem_append, List.mem_range'_1, List.mem_range'_1]
  omega

/-! ## Words -/

theorem ofList_ne_empty {s : List Char} (h : s ≠ []) : String.ofList s ≠ "" := by
  intro heq
  exact h (String.ofList_inj.1 heq)

theorem ne_nil_of_mem_words {s word : List Char} (h : word ∈ words s) : word ≠ [] := by
  fun_induction words s with
  | case1 => cases h
  | case2 s c rest hs hlt ih =>
      rcases List.mem_cons.1 h with rfl | h
      · exact List.cons_ne_nil _ _
      · exact ih h

theorem isBlank_of_mem_words {s word : List Char} {c : Char} (h : word ∈ words s) (hc : c ∈ word) :
    isBlank c = false := by
  fun_induction words s with
  | case1 => cases h
  | case2 s d rest hs hlt ih =>
      rcases List.mem_cons.1 h with rfl | h
      · rcases List.mem_cons.1 hc with rfl | hc
        · have hhead := List.head?_dropWhile_not isBlank s
          rw [hs] at hhead
          simpa using hhead
        · simpa using List.all_eq_true.1 List.all_takeWhile c hc
      · exact ih h

theorem infix_of_mem_words {s word : List Char} (h : word ∈ words s) : word <:+: s := by
  fun_induction words s with
  | case1 => cases h
  | case2 s c rest hs hlt ih =>
      have hrest : c :: rest <:+ s := hs ▸ List.dropWhile_suffix isBlank
      rcases List.mem_cons.1 h with rfl | h
      · have hword : c :: rest.takeWhile (!isBlank ·) <+: c :: rest :=
          (List.prefix_cons_inj c).2 (List.takeWhile_prefix _)
        exact hword.isInfix.trans hrest.isInfix
      · have hbehind : rest.dropWhile (!isBlank ·) <:+ c :: rest :=
          (List.dropWhile_suffix _).trans (List.suffix_cons c rest)
        exact (ih h).trans (hbehind.trans hrest).isInfix

theorem ne_empty_of_mem_wordsOf {s name : String} (h : name ∈ wordsOf s) : name ≠ "" := by
  obtain ⟨word, hword, rfl⟩ := List.mem_map.1 h
  exact ofList_ne_empty (ne_nil_of_mem_words hword)

end StyleUsage.Text
