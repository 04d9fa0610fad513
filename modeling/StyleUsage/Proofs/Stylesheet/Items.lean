import StyleUsage.Proofs.Lists.Attempts
import StyleUsage.Proofs.Stylesheet.Language
import StyleUsage.Proofs.Stylesheet.Selectors
import StyleUsage.Proofs.Stylesheet.Tokens

/-!
# What items make rules

An item makes a rule or a declaration exactly if its texts are what its place asks for. The reader
trims every text first, which makes no difference to that.
-/

namespace StyleUsage.Stylesheet

open StyleUsage.Text

/-! ## Heads and their trimmed texts -/

/-- No blank is a character of a name. -/
theorem isBlank_of_isNameChar {c : Char} (h : isNameChar c = true) : isBlank c = false := by
  cases hc : isBlank c with
  | false => rfl
  | true =>
      have hhyphen : c ≠ '-' := ne_of_test hc (by decide)
      simp [isNameChar, isWordChar_of_isBlank hc, hhyphen] at h

/-- Of a text that does not start with a blank, trimming takes off blanks at the end alone. -/
theorem exists_trim_eq {c : Char} {rest : List Char} (hc : isBlank c = false) :
    ∃ kept post, trim (c :: rest) = c :: kept ∧ rest = kept ++ post ∧ AllBlank post := by
  obtain ⟨pre, post, hpre, hpost, hs⟩ := exists_eq_trim (c :: rest)
  have hnil : pre = [] := by
    cases pre with
    | nil => rfl
    | cons d more =>
        have hd : c = d := (List.cons.inj hs).1
        rw [hd, hpre d List.mem_cons_self] at hc
        cases hc
  cases htrim : trim (c :: rest) with
  | nil =>
      rw [trim_eq_nil_iff.1 htrim c List.mem_cons_self] at hc
      cases hc
  | cons d kept =>
      rw [hnil, htrim] at hs
      obtain ⟨rfl, hrest⟩ := List.cons.inj hs
      exact ⟨kept, post, rfl, hrest, hpost⟩

theorem head?_trim {text : List Char} (h : StartsInk text) : (trim text).head? = text.head? := by
  obtain ⟨c, rest, rfl, hc⟩ := h
  obtain ⟨kept, post, htrim, -, -⟩ := exists_trim_eq hc
  rw [htrim]
  rfl

theorem isAtRule_trim {text : List Char} (h : StartsInk text) :
    IsAtRule (trim text) ↔ IsAtRule text := by
  obtain ⟨c, rest, rfl, hc⟩ := h
  have hends : ∃ kept post, trim (c :: rest) = c :: kept ∧ rest = kept ++ post ∧ AllBlank post :=
    exists_trim_eq hc
  obtain ⟨kept, post, htrim, rfl, hpost⟩ := hends
  rw [htrim]
  constructor
  · rintro ⟨d, more, heq, hd⟩
    obtain ⟨rfl, rfl⟩ := List.cons.inj heq
    exact ⟨d, more ++ post, rfl, hd⟩
  · rintro ⟨d, more, heq, hd⟩
    obtain ⟨rfl, hkept⟩ := List.cons.inj heq
    cases kept with
    | nil =>
        have hblank : isBlank d = true := by
          apply hpost
          rw [List.nil_append] at hkept
          exact hkept ▸ List.mem_cons_self
        rw [isBlank_of_isNameChar hd] at hblank
        cases hblank
    | cons e kept =>
        obtain ⟨rfl, -⟩ := List.cons.inj hkept
        exact ⟨e, kept, rfl, hd⟩

theorem atRule?_isSome_iff {text : List Char} :
    (∃ found, atRule? text = some found) ↔ IsAtRule text := by
  unfold atRule?
  split
  case h_1 rest =>
      cases rest with
      | nil => simp [IsAtRule]
      | cons c more =>
          cases hc : isNameChar c <;> simp [IsAtRule, hc]
  case h_2 hne =>
      constructor
      · rintro ⟨found, h⟩
        cases h
      · rintro ⟨c, rest, rfl, -⟩
        exact absurd rfl (hne _)

theorem statementRule_isOk_iff {text : List Char} {line : Nat} (h : StartsInk text) :
    (∃ rule, statementRule text line = .ok rule) ↔ IsAtRule text := by
  rw [← isAtRule_trim h, ← atRule?_isSome_iff]
  unfold statementRule
  cases atRule? (trim text) <;> simp

theorem blockRule_isOk_iff {head : List Char} {line : Nat} {declarations : List Declaration}
    {rules : List Rule} (h : StartsInk head) :
    (∃ rule, blockRule head line declarations rules = .ok rule) ↔ HeadsBlock head := by
  simp only [blockRule, HeadsBlock, head?_trim h]
  by_cases hat : head.head? = some '@'
  · rw [if_pos hat, ← isAtRule_trim h, ← atRule?_isSome_iff]
    cases atRule? (trim head) <;> simp [hat]
  · have hno : ¬ IsAtRule head := by
      rintro ⟨c, rest, rfl, -⟩
      exact hat rfl
    rw [if_neg hat, splitSelectors_trim]
    cases splitSelectors head <;> simp [hat, hno]

theorem forall_ne_colon {s : List Char} (h : ':' ∉ s) : ∀ c ∈ s, decide (c ≠ ':') = true := by
  intro c hc
  simp only [decide_eq_true_eq]
  rintro rfl
  exact h hc

theorem takeWhile_colon {property value : List Char} (h : ':' ∉ property) :
    (property ++ ':' :: value).takeWhile (· ≠ ':') = property := by
  rw [List.takeWhile_append_of_pos (forall_ne_colon h)]
  simp

theorem dropWhile_colon {property value : List Char} (h : ':' ∉ property) :
    (property ++ ':' :: value).dropWhile (· ≠ ':') = ':' :: value := by
  rw [List.dropWhile_append_of_pos (forall_ne_colon h)]
  simp

/-- Two ways of taking a text apart at its first colon are the same. -/
theorem eq_of_first_colon {p q v w : List Char} (hp : ':' ∉ p) (hq : ':' ∉ q)
    (h : p ++ ':' :: v = q ++ ':' :: w) : p = q := by
  rw [← takeWhile_colon hp, h, takeWhile_colon hq]

theorem not_mem_of_allBlank {s : List Char} (h : AllBlank s) : ':' ∉ s := by
  intro hc
  have hcolon : isBlank ':' = true := h ':' hc
  exact absurd hcolon (by decide)

/-- Trimming keeps the first colon of a text, with the same on either side of it up to blanks. -/
theorem exists_trim_colon {property : List Char} (hcolon : ':' ∉ property) (value : List Char) :
    ∃ kept behind, trim (property ++ ':' :: value) = kept ++ ':' :: behind ∧ ':' ∉ kept ∧
      trim kept = trim property ∧ trim behind = trim value := by
  obtain ⟨pre, post, hpre, hpost, htext⟩ := exists_eq_trim (property ++ ':' :: value)
  have hmem : ':' ∈ trim (property ++ ':' :: value) := by
    have hin : ':' ∈ pre ++ trim (property ++ ':' :: value) ++ post := by
      rw [← htext]
      simp
    rcases List.mem_append.1 hin with hin | hin
    · exact (List.mem_append.1 hin).resolve_left (not_mem_of_allBlank hpre)
    · exact absurd hin (not_mem_of_allBlank hpost)
  obtain ⟨kept, behind, htrim, hkept⟩ := List.eq_append_cons_of_mem hmem
  have hsplit : property ++ ':' :: value = (pre ++ kept) ++ ':' :: (behind ++ post) := by
    rw [htrim] at htext
    simpa using htext
  have hnone : ':' ∉ pre ++ kept := by
    intro h
    exact (List.mem_append.1 h).elim (not_mem_of_allBlank hpre) hkept
  have hproperty := eq_of_first_colon hcolon hnone hsplit
  have hvalue : value = behind ++ post := by
    rw [← hproperty] at hsplit
    exact (List.cons.inj (List.append_cancel_left hsplit)).2
  refine ⟨kept, behind, htrim, hkept, ?_, ?_⟩
  · rw [hproperty, trim_append_left hpre]
  · rw [hvalue, trim_append_right hpost]

theorem isDeclaration_iff_trim {text : List Char} : IsDeclaration text ↔
    ∃ property value, text = property ++ ':' :: value ∧ ':' ∉ property ∧ trim property ≠ [] := by
  simp only [IsDeclaration, ne_eq, trim_eq_nil_iff, AllBlank, Classical.not_forall,
    Bool.not_eq_true, exists_prop]

theorem isDeclaration_trim {text : List Char} : IsDeclaration (trim text) ↔ IsDeclaration text := by
  rw [isDeclaration_iff_trim, isDeclaration_iff_trim]
  constructor
  · rintro ⟨property, value, htrim, hcolon, hink⟩
    obtain ⟨pre, post, hpre, hpost, htext⟩ := exists_eq_trim text
    refine ⟨pre ++ property, value ++ post, ?_, ?_, ?_⟩
    · rw [htext, htrim]
      simp
    · intro hmem
      exact (List.mem_append.1 hmem).elim (not_mem_of_allBlank hpre) hcolon
    · rwa [trim_append_left hpre]
  · rintro ⟨property, value, rfl, hcolon, hink⟩
    obtain ⟨kept, behind, htrim, hkept, hsame, -⟩ := exists_trim_colon hcolon value
    exact ⟨kept, behind, htrim, hkept, hsame ▸ hink⟩

theorem isDeclaration_iff {text : List Char} :
    IsDeclaration text ↔ ':' ∈ text ∧ trim (text.takeWhile (· ≠ ':')) ≠ [] := by
  rw [isDeclaration_iff_trim]
  constructor
  · rintro ⟨property, value, rfl, hcolon, hink⟩
    rw [takeWhile_colon hcolon]
    exact ⟨by simp, hink⟩
  · rintro ⟨hmem, hink⟩
    obtain ⟨property, value, rfl, hcolon⟩ := List.eq_append_cons_of_mem hmem
    rw [takeWhile_colon hcolon] at hink
    exact ⟨property, value, rfl, hcolon, hink⟩

theorem declaration_isOk_iff {text : List Char} {line : Nat} :
    (∃ found, declaration text line = .ok found) ↔ IsDeclaration text := by
  rw [← isDeclaration_trim, isDeclaration_iff]
  simp only [declaration]
  split
  case isTrue h =>
      constructor
      · rintro ⟨found, hfound⟩
        cases hfound
      · rintro ⟨hmem, hink⟩
        exact absurd h (not_or.2 ⟨not_not_intro hmem, hink⟩)
  case isFalse h =>
      rw [not_or, Classical.not_not] at h
      exact ⟨fun _ => h, fun _ => ⟨_, rfl⟩⟩

/-! ## Items -/

/-- An item that a rule or a declaration can be made of, outside of blocks or in one. -/
def Item.Passes (item : Item) (isOutermost : Bool) : Prop :=
  if isOutermost then ∃ rule, topRule item = .ok rule else ∃ found, content item = .ok found

theorem contents_isOk_iff {items : List Item} :
    (∃ found, contents items = .ok found) ↔ ∀ item ∈ items, item.Passes false := by
  induction items with
  | nil => simp [contents]
  | cons item rest ih =>
      rw [List.forall_mem_cons, ← ih, contents, bind_isOk_iff]
      constructor
      · rintro ⟨found, hfound, hrest⟩
        obtain ⟨more, hmore, -⟩ := bind_isOk_iff.1 hrest
        exact ⟨⟨found, hfound⟩, more, hmore⟩
      · rintro ⟨⟨found, hfound⟩, more, hmore⟩
        refine ⟨found, hfound, bind_isOk_iff.2 ⟨more, hmore, ?_⟩⟩
        cases found <;> exact ⟨_, rfl⟩

theorem passes_text {text : List Char} {position : Position} (isOutermost : Bool)
    (h : StartsInk text) : (Item.text text position).Passes isOutermost ↔
      if isOutermost then IsAtRule text else IsDeclaration text := by
  cases isOutermost with
  | true =>
      simp only [Item.Passes, if_true, topRule]
      exact statementRule_isOk_iff h
  | false =>
      have hdeclaration : (∃ found, declaration text position.line = .ok found) ↔
          IsDeclaration text := declaration_isOk_iff
      simp only [Item.Passes, Bool.false_eq_true, if_false, content]
      rw [bind_isOk_iff, ← hdeclaration]
      constructor
      · rintro ⟨found, hfound, -⟩
        exact ⟨found, hfound⟩
      · rintro ⟨found, hfound⟩
        exact ⟨found, hfound, _, rfl⟩

theorem passes_block {head : List Char} {position : Position} {items : List Item}
    (isOutermost : Bool) (h : StartsInk head) :
    (Item.block head position items).Passes isOutermost ↔
      HeadsBlock head ∧ ∀ item ∈ items, item.Passes false := by
  have hhead (inner : List Declaration × List Rule) :
      (∃ rule, blockRule head position.line inner.1 inner.2 = .ok rule) ↔ HeadsBlock head :=
    blockRule_isOk_iff h
  rw [← contents_isOk_iff]
  cases isOutermost with
  | true =>
      simp only [Item.Passes, if_true, topRule]
      rw [bind_isOk_iff]
      constructor
      · rintro ⟨inner, hinner, hrule⟩
        exact ⟨(hhead inner).1 hrule, inner, hinner⟩
      · rintro ⟨hheads, inner, hinner⟩
        exact ⟨inner, hinner, (hhead inner).2 hheads⟩
  | false =>
      simp only [Item.Passes, Bool.false_eq_true, if_false, content]
      rw [bind_isOk_iff]
      constructor
      · rintro ⟨inner, hinner, hrule⟩
        obtain ⟨rule, hrule, -⟩ := bind_isOk_iff.1 hrule
        exact ⟨(hhead inner).1 ⟨rule, hrule⟩, inner, hinner⟩
      · rintro ⟨hheads, inner, hinner⟩
        obtain ⟨rule, hrule⟩ := (hhead inner).2 hheads
        exact ⟨inner, hinner, bind_isOk_iff.2 ⟨rule, hrule, _, rfl⟩⟩

theorem mapM_topRule_isOk_iff {items : List Item} :
    (∃ rules, items.mapM topRule = .ok rules) ↔ ∀ item ∈ items, item.Passes true :=
  mapM_isOk_iff

end StyleUsage.Stylesheet
