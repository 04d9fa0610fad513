import StyleUsage.Stylesheet.Error

/-!
# Splitting into tokens

The reader of tokens by cases of what comes first: a gap, a delimiter, a head, or a character that
no token starts with.
-/

namespace StyleUsage.Stylesheet

open StyleUsage.Text

/-- A text that starts with a character other than a blank. -/
def StartsInk (text : List Char) : Prop :=
  ∃ c rest, text = c :: rest ∧ isBlank c = false

theorem startsInk_of_head? {s text after : List Char} (h : head? s = some (text, after)) :
    StartsInk text := by
  have happend := append_of_head? h
  unfold head? at h
  split at h
  case h_1 => cases h
  case h_2 c rest =>
      split at h
      case isTrue => cases h
      case isFalse hink =>
          obtain ⟨⟨piece, behind⟩, hpiece, heq⟩ := Option.map_eq_some_iff.1 h
          have hne : text ≠ [] := by
            have hsome := (append_of_piece? hpiece).2
            simp only [Prod.mk.injEq] at heq
            rw [← heq.1]
            simp [hsome]
          cases text with
          | nil => exact absurd rfl hne
          | cons d more =>
              obtain ⟨rfl, -⟩ := List.cons.inj happend
              exact ⟨d, more, rfl, by simpa using hink⟩

section
variable {p : Position} {c : Char} {rest : List Char}

@[simp] theorem tokenize_nil (p : Position) : tokenize p [] = ([], none) := by
  rw [tokenize]

theorem tokenize_gap (h : isGap c = true) : tokenize p (c :: rest) = tokenize (p.next c) rest := by
  rw [tokenize, if_pos h]

theorem tokenize_delimiter {t : Token} (hgap : isGap c = false) (h : delimiter? c = some t) :
    tokenize p (c :: rest) =
      (⟨t, p⟩ :: (tokenize (p.next c) rest).1, (tokenize (p.next c) rest).2) := by
  rw [tokenize]
  simp [hgap, h]

theorem tokenize_head {text after : List Char} (hgap : isGap c = false)
    (hdelimiter : delimiter? c = none) (h : head? (c :: rest) = some (text, after)) :
    tokenize p (c :: rest) =
      (⟨.head text, p⟩ :: (tokenize (p.after text) after).1,
        (tokenize (p.after text) after).2) := by
  rw [tokenize]
  simp only [hgap, hdelimiter, Bool.false_eq_true, if_false]
  split
  case h_1 text' after' h' =>
      rw [h] at h'
      cases h'
      rfl
  case h_2 h' =>
      rw [h] at h'
      cases h'

theorem tokenize_stray (hgap : isGap c = false) (hdelimiter : delimiter? c = none)
    (h : head? (c :: rest) = none) : tokenize p (c :: rest) = ([], some ⟨c, p⟩) := by
  rw [tokenize]
  simp only [hgap, hdelimiter, Bool.false_eq_true, if_false]
  split
  case h_1 h' =>
      rw [h] at h'
      cases h'
  case h_2 => rfl

end

theorem delimiter?_ne_head (c : Char) (text : List Char) :
    delimiter? c ≠ some (.head text) := by
  unfold delimiter?
  split <;> simp

theorem text_of_delimiter? {c : Char} {t : Token} (h : delimiter? c = some t) : t.text = [c] := by
  unfold delimiter? at h
  split at h <;> cases h <;> rfl

theorem Position.after_append (p : Position) (s t : List Char) :
    p.after (s ++ t) = (p.after s).after t :=
  List.foldl_append

/-- Every token is read at its place in the text. -/
theorem exists_place_of_mem_tokenize {t : Placed} {p : Position} {s : List Char}
    (ht : t ∈ (tokenize p s).1) : ∃ before after, s = before ++ (t.token.text ++ after) ∧
      t.position = p.after before ∧
        ∀ text, t.token = .head text → head? (text ++ after) = some (text, after) := by
  induction p, s using tokenize.induct with
  | case1 p => simp at ht
  | case2 p c rest hgap ih =>
      rw [tokenize_gap hgap] at ht
      obtain ⟨before, after, rfl, hposition, hhead⟩ := ih ht
      exact ⟨c :: before, after, rfl, hposition, hhead⟩
  | case3 p c rest hgap other hdelimiter _ _ _ ih =>
      rw [tokenize_delimiter (by simpa using hgap) hdelimiter] at ht
      rcases List.mem_cons.1 ht with rfl | ht
      · refine ⟨[], rest, by rw [text_of_delimiter? hdelimiter]; rfl, rfl, fun text htext => ?_⟩
        exact absurd (htext ▸ hdelimiter) (delimiter?_ne_head c text)
      · obtain ⟨before, after, rfl, hposition, hhead⟩ := ih ht
        exact ⟨c :: before, after, rfl, hposition, hhead⟩
  | case4 p c rest hgap hdelimiter first behind _ _ _ hfirst _ ih =>
      have happend := append_of_head? hfirst
      rw [tokenize_head (by simpa using hgap) hdelimiter hfirst] at ht
      rcases List.mem_cons.1 ht with rfl | ht
      · refine ⟨[], behind, happend.symm, rfl, ?_⟩
        rintro text ⟨⟩
        rw [happend, hfirst]
      · obtain ⟨before, after, hbehind, hposition, hhead⟩ := ih ht
        refine ⟨first ++ before, after, ?_, ?_, hhead⟩
        · rw [← happend, hbehind, List.append_assoc]
        · rw [hposition, Position.after_append]
  | case5 p c rest hgap hdelimiter hhead =>
      rw [tokenize_stray (by simpa using hgap) hdelimiter hhead] at ht
      simp at ht

theorem exists_place_of_stray {found : Stray} {p : Position} {s : List Char}
    (h : (tokenize p s).2 = some found) :
    ∃ before after, s = before ++ found.char :: after ∧ found.position = p.after before := by
  induction p, s using tokenize.induct with
  | case1 p => simp at h
  | case2 p c rest hgap ih =>
      rw [tokenize_gap hgap] at h
      obtain ⟨before, after, rfl, hposition⟩ := ih h
      exact ⟨c :: before, after, rfl, hposition⟩
  | case3 p c rest hgap other hdelimiter _ _ _ ih =>
      rw [tokenize_delimiter (by simpa using hgap) hdelimiter] at h
      obtain ⟨before, after, rfl, hposition⟩ := ih h
      exact ⟨c :: before, after, rfl, hposition⟩
  | case4 p c rest hgap hdelimiter first behind _ _ _ hfirst _ ih =>
      rw [tokenize_head (by simpa using hgap) hdelimiter hfirst] at h
      obtain ⟨before, after, hbehind, hposition⟩ := ih h
      refine ⟨first ++ before, after, ?_, ?_⟩
      · rw [← append_of_head? hfirst, hbehind, List.append_assoc]
      · rw [hposition, Position.after_append]
  | case5 p c rest hgap hdelimiter hhead =>
      rw [tokenize_stray (by simpa using hgap) hdelimiter hhead] at h
      cases h
      exact ⟨[], rest, rfl, rfl⟩

/-- Every head among the tokens is read where some rest of the text starts. -/
theorem exists_of_mem_tokenize {text : List Char} {t : Placed} {p : Position} {s : List Char}
    (ht : t ∈ (tokenize p s).1) (htext : t.token = .head text) :
    ∃ rest after, rest <:+ s ∧ head? rest = some (text, after) := by
  obtain ⟨before, after, rfl, -, hhead⟩ := exists_place_of_mem_tokenize ht
  rw [htext]
  exact ⟨text ++ after, after, List.suffix_append before _, hhead text htext⟩

/-- No head starts with a blank. -/
theorem startsInk_of_mem_tokenize (p : Position) (s : List Char) :
    ∀ t ∈ (tokenize p s).1, ∀ text, t.token = .head text → StartsInk text := by
  intro t ht text htext
  obtain ⟨rest, after, -, hhead⟩ := exists_of_mem_tokenize ht htext
  exact startsInk_of_head? hhead

end StyleUsage.Stylesheet
