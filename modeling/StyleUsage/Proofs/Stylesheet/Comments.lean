import StyleUsage.Proofs.Stylesheet.SafeText
import StyleUsage.Stylesheet.Comment

/-!
# Texts with comments

A comment may stand in the place of a space, and a comment that spans line feeds in the place of
these. The reader takes every comment off again, whatever stands around it.
-/

namespace StyleUsage.Stylesheet

/-- The two characters that end a comment. -/
def commentEnd : List Char := ['*', '/']

/-- The text `source` is `plain` with comments in the place of spaces and line feeds. -/
inductive Annotates : (source plain : List Char) → Prop where
  | nil : Annotates [] []
  | plain {c : Char} {source plain : List Char} (hquote : isQuote c = false)
      (hcomment : ¬ commentOpening <+: c :: source) (hrest : Annotates source plain) :
      Annotates (c :: source) (c :: plain)
  | quotation {quote : Char} {inner source plain : List Char} (hquote : isQuote quote = true)
      (hinner : QuotationRest quote inner) (hrest : Annotates source plain) :
      Annotates (quote :: (inner ++ source)) (quote :: (inner ++ plain))
  | comment {body source plain : List Char} (hbody : ¬ commentEnd <:+: body)
      (hrest : Annotates source plain) :
      Annotates (commentOpening ++ (body ++ (commentEnd ++ source))) (commentGap body ++ plain)

variable {s source plain inner after text body : List Char} {c quote : Char} {line : Nat}

/-! ## Reading comments -/

/-- A comment ends where its end first stands. -/
theorem closeComment?_append (h : ¬ commentEnd <:+: body) (after : List Char) :
    closeComment? (body ++ (commentEnd ++ after)) = some (body ++ commentEnd, after) := by
  induction body with
  | nil => rfl
  | cons c rest ih =>
      have hrest : ¬ commentEnd <:+: rest := by
        intro hin
        exact h (hin.trans (List.suffix_cons c rest).isInfix)
      rw [List.cons_append]
      unfold closeComment?
      split
      case h_1 behind heq =>
          obtain ⟨rfl, hbehind⟩ := List.cons.inj heq
          cases rest with
          | nil => cases hbehind
          | cons d rest =>
              obtain ⟨rfl, -⟩ := List.cons.inj hbehind
              exact absurd ⟨[], rest, rfl⟩ h
      case h_2 heq =>
          obtain ⟨rfl, rfl⟩ := List.cons.inj heq
          rw [ih hrest]
          rfl
      case h_3 heq => cases heq

/-- The end of a comment holds no line feed. -/
theorem commentGap_append (body : List Char) :
    commentGap (body ++ commentEnd) = commentGap body := by
  simp [commentGap, commentEnd]

theorem stripComments_nil : stripComments line [] = .ok [] := by
  rw [stripComments]

theorem stripComments_comment (h : closeComment? s = some (inner, after)) :
    stripComments line (commentOpening ++ s) =
      (stripComments (line + inner.count '\n') after).map (commentGap inner ++ ·) := by
  rw [commentOpening, List.cons_append, List.cons_append, List.nil_append, stripComments]
  split
  case h_1 hnone =>
      rw [h] at hnone
      cases hnone
  case h_2 found behind hsome =>
      rw [h] at hsome
      cases hsome
      cases stripComments (line + inner.count '\n') after <;> rfl

theorem not_slash_star (h : ¬ commentOpening <+: c :: s) :
    ∀ rest, c = '/' → s = '*' :: rest → False := by
  rintro rest rfl rfl
  exact h ⟨rest, rfl⟩

theorem stripComments_quotation (hcomment : ¬ commentOpening <+: c :: s)
    (h : quotation? true (c :: s) = some (inner, after)) :
    stripComments line (c :: s) =
      (stripComments (line + inner.count '\n') after).map (c :: inner ++ ·) := by
  rw [stripComments]
  · split
    case h_1 found behind hsome =>
        rw [h] at hsome
        cases hsome
        cases stripComments (line + inner.count '\n') after <;> rfl
    case h_2 hnone =>
        rw [h] at hnone
        cases hnone
  · exact not_slash_star hcomment

theorem stripComments_plain (hcomment : ¬ commentOpening <+: c :: s)
    (h : quotation? true (c :: s) = none) :
    stripComments line (c :: s) =
      (stripComments (if c = '\n' then line + 1 else line) s).map (c :: ·) := by
  rw [stripComments]
  · split
    case h_1 found behind hsome =>
        rw [h] at hsome
        cases hsome
    case h_2 =>
        cases stripComments (if c = '\n' then line + 1 else line) s <;> rfl
  · exact not_slash_star hcomment

theorem quotation?_append (hquote : isQuote quote = true) (h : QuotationRest quote inner)
    (escapesBreak : Bool) (after : List Char) :
    quotation? escapesBreak (quote :: (inner ++ after)) = some (inner, after) := by
  simp [quotation?, hquote, closeQuote?_append hquote h]

theorem not_commentOpening_of_ne (h : c ≠ '/') : ¬ commentOpening <+: c :: s := by
  rintro ⟨rest, hrest⟩
  exact h (List.cons.inj hrest).1.symm

/-- What comments were put into is what is left without them. -/
theorem stripComments_of_annotates (h : Annotates source plain) (line : Nat) :
    stripComments line source = .ok plain := by
  induction h generalizing line with
  | nil => exact stripComments_nil
  | @plain c source plain hquote hcomment _ ih =>
      have hnone : quotation? true (c :: source) = none := by simp [quotation?, hquote]
      rw [stripComments_plain hcomment hnone, ih]
      rfl
  | @quotation quote inner source plain hquote hinner _ ih =>
      have hslash : quote ≠ '/' := (ne_of_isQuote hquote (by decide)).symm
      rw [stripComments_quotation (not_commentOpening_of_ne hslash)
        (quotation?_append hquote hinner true source), ih]
      rfl
  | @comment body source plain hbody _ ih =>
      rw [stripComments_comment (closeComment?_append hbody source), ih, commentGap_append]
      rfl

/-! ## Texts that hold no comments -/

/-- A character that starts neither a comment nor a quotation stays. -/
theorem Annotates.cons (hquote : isQuote c = false) (hslash : c ≠ '/')
    (h : Annotates source plain) : Annotates (c :: source) (c :: plain) :=
  .plain hquote (not_commentOpening_of_ne hslash) h

theorem Annotates.delimiter {t : Token} (hc : delimiter? c = some t) (h : Annotates source plain) :
    Annotates (c :: source) (c :: plain) := by
  refine h.cons (isQuote_of_delimiter hc) ?_
  rintro rfl
  cases hc

/-- The rest of a group stays: it always ends before what follows. -/
theorem Annotates.groupRest (hinner : GroupRest inner) (h : Annotates source plain) :
    Annotates (inner ++ source) (inner ++ plain) := by
  induction hinner with
  | close => exact h.cons rfl (by decide)
  | @plain c rest hclose hquote hescape hcomment hrest ih =>
      refine .plain hquote ?_ ih
      cases rest with
      | nil => exact absurd rfl hrest.ne_nil
      | cons d more => simpa [commentOpening, List.cons_prefix_cons] using hcomment
  | quotation hquote hinner _ ih =>
      rw [List.cons_append, List.cons_append, List.append_assoc, List.append_assoc]
      exact .quotation hquote hinner ih

/-- A safe text stays if no star follows it. -/
theorem Annotates.safeText (htext : SafeText text)
    (hstar : ∀ c, source.head? = some c → c ∉ commentOpening.tail) (h : Annotates source plain) :
    Annotates (text ++ source) (text ++ plain) := by
  induction htext with
  | nil => exact h
  | @plain c rest hc hcomment _ _ ih =>
      exact .plain (isQuote_of_isPlain hc)
        (not_isPrefix_append (List.cons_ne_nil c rest) hcomment hstar) ih
  | quotation hquote hinner _ ih =>
      rw [List.cons_append, List.cons_append, List.append_assoc, List.append_assoc]
      exact .quotation hquote hinner ih
  | group hinner _ ih =>
      rw [List.append_assoc, List.append_assoc, List.append_assoc, List.append_assoc]
      have hopening {c : Char} (hc : c ∈ urlOpening) : isQuote c = false ∧ c ≠ '/' := by
        simp only [urlOpening, List.mem_cons, List.not_mem_nil, or_false] at hc
        rcases hc with rfl | rfl | rfl | rfl <;> decide
      have hcons {c : Char} {source plain : List Char} (hc : c ∈ urlOpening)
          (h : Annotates source plain) : Annotates (c :: source) (c :: plain) :=
        h.cons (hopening hc).1 (hopening hc).2
      have hgroup := Annotates.groupRest hinner ih
      have hparenthesis := hcons (c := '(') (by decide) hgroup
      have hl := hcons (c := 'l') (by decide) hparenthesis
      have hr := hcons (c := 'r') (by decide) hl
      exact hcons (c := 'u') (by decide) hr

end StyleUsage.Stylesheet
