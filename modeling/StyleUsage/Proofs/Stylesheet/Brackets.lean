import StyleUsage.Proofs.Stylesheet.SafeText
import StyleUsage.Proofs.Stylesheet.Selectors

/-!
# Selectors with brackets

A selector may hold commas in its quotations and brackets. A scan of a selector ends as it starts,
outside of all of them, and separates nothing on the way.
-/

namespace StyleUsage.Stylesheet

open StyleUsage.Text

/-- A text whose brackets outside of quotations are nested, in brackets itself or not. There are no
commas outside of quotations and brackets. -/
inductive Bracketed : (isInner : Bool) → List Char → Prop where
  | nil {isInner : Bool} : Bracketed isInner []
  | plain {isInner : Bool} {c : Char} {rest : List Char} (hc : isBracketless c = true)
      (hcomma : c = ',' → isInner = true) (hrest : Bracketed isInner rest) :
      Bracketed isInner (c :: rest)
  | quotation {isInner : Bool} {quote : Char} {inner rest : List Char}
      (hquote : isQuote quote = true) (hinner : QuotationRest quote inner)
      (hrest : Bracketed isInner rest) : Bracketed isInner (quote :: (inner ++ rest))
  | round {isInner : Bool} {inner rest : List Char} (hinner : Bracketed true inner)
      (hrest : Bracketed isInner rest) : Bracketed isInner ('(' :: (inner ++ ')' :: rest))
  | square {isInner : Bool} {inner rest : List Char} (hinner : Bracketed true inner)
      (hrest : Bracketed isInner rest) : Bracketed isInner ('[' :: (inner ++ ']' :: rest))

variable {final : SelectorScan} {s text rest inner : List Char} {quote : Char} {depth : Nat}

/-! ## What a scan passes -/

theorem passes_quotationRest (hquote : isQuote quote = true) (h : QuotationRest quote inner) :
    Passes ⟨depth, some quote, false⟩ inner (.inside depth) := by
  have hslash : '\\' ≠ quote := ne_of_isQuote hquote (by decide)
  induction h with
  | close =>
      refine .cons (by simp [SelectorScan.separates]) ?_ .nil
      simp [SelectorScan.next, hslash.symm]
  | @plain c rest hc hescape _ ih =>
      refine .cons (by simp [SelectorScan.separates]) ?_ ih
      simp [SelectorScan.next, hc, hescape]
  | @escape c rest _ _ ih =>
      refine .cons (by simp [SelectorScan.separates]) rfl (.cons ?_ ?_ ih)
      · simp [SelectorScan.separates, SelectorScan.next]
      · simp [SelectorScan.next]

theorem passes_quotation (hquote : isQuote quote = true) (hinner : QuotationRest quote inner)
    (hrest : Passes (.inside depth) rest final) :
    Passes (.inside depth) (quote :: (inner ++ rest)) final := by
  have hcomma : quote ≠ ',' := (ne_of_isQuote hquote (by decide)).symm
  have hslash : quote ≠ '\\' := (ne_of_isQuote hquote (by decide)).symm
  have hquotes : quote = '"' ∨ quote = '\'' := by simpa [isQuote] using hquote
  refine .cons (separates_of_ne hcomma _) ?_ ((passes_quotationRest hquote hinner).append hrest)
  simp [SelectorScan.next, hslash, hquotes]

/-- What brackets enclose is passed one level deeper. -/
theorem passes_enclosed {opening closing : Char} (hopening : opening = '(' ∨ opening = '[')
    (hclosing : closing = ')' ∨ closing = ']')
    (hinner : Passes (.inside (depth + 1)) inner (.inside (depth + 1)))
    (hrest : Passes (.inside depth) rest final) :
    Passes (.inside depth) (opening :: (inner ++ closing :: rest)) final := by
  have hopened : Passes (.inside depth) [opening] (.inside (depth + 1)) := by
    refine .cons (separates_of_ne ?_ _) ?_ .nil <;>
      rcases hopening with rfl | rfl <;> simp [SelectorScan.next]
  have hclosed : Passes (.inside (depth + 1)) [closing] (.inside depth) := by
    refine .cons (separates_of_ne ?_ _) ?_ .nil <;>
      rcases hclosing with rfl | rfl <;> simp [SelectorScan.next]
  have hall := hopened.append (hinner.append (hclosed.append hrest))
  simpa using hall

/-- Brackets that are nested leave a scan where it was. -/
theorem passes_of_bracketed {isInner : Bool} (h : Bracketed isInner text)
    (hdepth : isInner = true → depth ≠ 0) : Passes (.inside depth) text (.inside depth) := by
  induction h generalizing depth with
  | nil => exact .nil
  | @plain isInner c rest hc hcomma _ ih =>
      refine .cons ?_ (next_bracketless hc) (ih hdepth)
      by_cases hcc : c = ','
      · simp [SelectorScan.separates, hdepth (hcomma hcc)]
      · exact separates_of_ne hcc _
  | quotation hquote hinner _ ih => exact passes_quotation hquote hinner (ih hdepth)
  | round _ _ ihinner ih =>
      exact passes_enclosed (.inl rfl) (.inl rfl) (ihinner fun _ => Nat.succ_ne_zero depth)
        (ih hdepth)
  | square _ _ ihinner ih =>
      exact passes_enclosed (.inr rfl) (.inr rfl) (ihinner fun _ => Nat.succ_ne_zero depth)
        (ih hdepth)

/-! ## Lists of selectors -/

/-- A selector: it is not blank, and its brackets are nested. -/
structure IsSelector (s : List Char) : Prop where
  trimmed : IsTrimmed s
  nonempty : s ≠ []
  bracketed : Bracketed false s

/-- The text lists the selectors, with commas between them and blanks anywhere around them. -/
inductive Enumerates : (selectors : List (List Char)) → (text : List Char) → Prop where
  | last {s text : List Char} (h : IsPadded s text) : Enumerates [s] text
  | more {s padded text : List Char} {selectors : List (List Char)} (h : IsPadded s padded)
      (hrest : Enumerates selectors text) : Enumerates (s :: selectors) (padded ++ ',' :: text)

/-- A text that is one selector to a scan: it separates nothing there and ends as it starts. -/
structure IsUndivided (s : List Char) : Prop where
  trimmed : IsTrimmed s
  nonempty : s ≠ []
  passes : Passes .start s .start

theorem IsSelector.isUndivided (h : IsSelector s) : IsUndivided s :=
  ⟨h.trimmed, h.nonempty, passes_of_bracketed h.bracketed (by simp)⟩

theorem IsUndivided.passes_padded (hs : IsUndivided s) (h : IsPadded s text) :
    Passes .start text .start := by
  obtain ⟨pre, post, hpre, hpost, rfl⟩ := h
  exact ((passes_blanks hpre).append hs.passes).append (passes_blanks hpost)

theorem splitAtCommas_of_passes {state : SelectorScan} (h : Passes state text final) :
    splitAtCommas state text = [text] := by
  obtain ⟨first, more, hnil, hmore⟩ := splitAtCommas_append h []
  cases hnil
  simpa using hmore

/-- A comma behind a text that a scan passes separates it from what follows. -/
theorem splitAtCommas_cons_of_passes (h : Passes .start s .start) :
    splitAtCommas .start (s ++ ',' :: text) = s :: splitAtCommas .start text := by
  have hcomma : splitAtCommas .start (',' :: text) = [] :: splitAtCommas .start text := by
    simp [splitAtCommas, SelectorScan.separates, SelectorScan.start]
  obtain ⟨first, more, hfirst, hmore⟩ := splitAtCommas_append h (',' :: text)
  rw [hcomma] at hfirst
  obtain ⟨rfl, rfl⟩ := List.cons.inj hfirst
  rw [hmore, List.append_nil]

/-- The selectors of a list are those that it lists. -/
theorem splitSelectors_of_enumerates {selectors : List (List Char)}
    (hselectors : ∀ s ∈ selectors, IsUndivided s) (h : Enumerates selectors text) :
    splitSelectors text = selectors := by
  induction h with
  | @last s text h =>
      have hs := hselectors s List.mem_cons_self
      simp [splitSelectors, splitAtCommas_of_passes (hs.passes_padded h),
        trim_of_isPadded hs.trimmed h, hs.nonempty]
  | @more s padded text selectors h _ ih =>
      have hs := hselectors s List.mem_cons_self
      have hrest := ih fun s' hs' => hselectors s' (List.mem_cons_of_mem s hs')
      rw [splitSelectors] at hrest
      rw [splitSelectors, splitAtCommas_cons_of_passes (hs.passes_padded h), List.map_cons,
        trim_of_isPadded hs.trimmed h, List.filter_cons, if_pos (decide_eq_true hs.nonempty), hrest]

end StyleUsage.Stylesheet
