import StyleUsage.Proofs.Stylesheet.Tokens
import StyleUsage.Proofs.Text.Spans

/-!
# Safe texts

A text is safe if it is made of plain characters, whole quotations and whole groups `url(...)`, and
no comment starts in it outside of quotations. A safe text in front of a brace or a semicolon is
read as one head, whatever braces and semicolons its quotations and groups hold.
-/

namespace StyleUsage.Stylesheet

open StyleUsage.Text

/-- A character other than a brace, a semicolon, a quote or a backslash. -/
def isPlain (c : Char) : Bool :=
  (delimiter? c).isNone && !isQuote c && c ≠ '\\'

/-- The two characters that start a comment. -/
def commentOpening : List Char := ['/', '*']

/-- The characters that start a group. -/
def urlOpening : List Char := ['u', 'r', 'l', '(']

/-- The rest of a quotation after its first quote. No backslash stands before a line feed. -/
inductive QuotationRest (quote : Char) : List Char → Prop where
  | close : QuotationRest quote [quote]
  | plain {c : Char} {rest : List Char} (hquote : c ≠ quote) (hescape : c ≠ '\\')
      (hrest : QuotationRest quote rest) : QuotationRest quote (c :: rest)
  | escape {c : Char} {rest : List Char} (hbreak : c ≠ '\n')
      (hrest : QuotationRest quote rest) : QuotationRest quote ('\\' :: c :: rest)

/-- The rest of a group after its opening. Backslashes stand in its quotations alone. -/
inductive GroupRest : List Char → Prop where
  | close : GroupRest [')']
  | plain {c : Char} {rest : List Char} (hclose : c ≠ ')') (hquote : isQuote c = false)
      (hescape : c ≠ '\\') (hcomment : ¬ commentOpening <+: c :: rest) (hrest : GroupRest rest) :
      GroupRest (c :: rest)
  | quotation {quote : Char} {inner rest : List Char} (hquote : isQuote quote = true)
      (hinner : QuotationRest quote inner) (hrest : GroupRest rest) :
      GroupRest (quote :: (inner ++ rest))

/-- Plain characters, quotations and groups, with no comment outside of quotations. -/
inductive SafeText : List Char → Prop where
  | nil : SafeText []
  | plain {c : Char} {rest : List Char} (hc : isPlain c = true)
      (hcomment : ¬ commentOpening <+: c :: rest) (hurl : ¬ urlOpening <+: c :: rest)
      (hrest : SafeText rest) : SafeText (c :: rest)
  | quotation {quote : Char} {inner rest : List Char} (hquote : isQuote quote = true)
      (hinner : QuotationRest quote inner) (hrest : SafeText rest) :
      SafeText (quote :: (inner ++ rest))
  | group {inner rest : List Char} (hinner : GroupRest inner) (hrest : SafeText rest) :
      SafeText (urlOpening ++ (inner ++ rest))

/-- A text that goes on with no opening of a comment or of a group begun before it. -/
def Severs (after : List Char) : Prop :=
  ∀ c, after.head? = some c → c ∉ commentOpening.tail ∧ c ∉ urlOpening.tail

variable {s a b text after inner : List Char} {c quote : Char}

theorem severs_cons (hcomment : c ∉ commentOpening.tail) (hurl : c ∉ urlOpening.tail) :
    Severs (c :: s) := by
  rintro d ⟨⟩
  exact ⟨hcomment, hurl⟩

theorem not_isPrefix_append {opening : List Char} (htext : text ≠ []) (h : ¬ opening <+: text)
    (hafter : ∀ c, after.head? = some c → c ∉ opening.tail) : ¬ opening <+: text ++ after := by
  rintro ⟨rest, hrest⟩
  rcases List.append_eq_append_iff.1 hrest with ⟨kept, hkept, -⟩ | ⟨more, hmore, hbehind⟩
  · exact h ⟨kept, hkept.symm⟩
  · cases more with
    | nil => exact h ⟨[], by simpa using hmore⟩
    | cons d more =>
        have hd : after.head? = some d := by
          rw [hbehind]
          rfl
        apply hafter d hd
        rw [hmore, List.tail_append_of_ne_nil htext]
        simp

/-! ## Texts made of safe texts -/

theorem SafeText.append (ha : SafeText a) (hb : SafeText b) (hsevers : Severs b) :
    SafeText (a ++ b) := by
  induction ha with
  | nil => exact hb
  | @plain c rest hc hcomment hurl _ ih =>
      have hne : c :: rest ≠ [] := List.cons_ne_nil c rest
      exact .plain hc (not_isPrefix_append hne hcomment fun d hd => (hsevers d hd).1)
        (not_isPrefix_append hne hurl fun d hd => (hsevers d hd).2) ih
  | quotation hquote hinner _ ih =>
      rw [List.cons_append, List.append_assoc]
      exact .quotation hquote hinner ih
  | group hinner _ ih =>
      rw [List.append_assoc, List.append_assoc]
      exact .group hinner ih

/-- A plain character that starts no opening may stand before any safe text. -/
theorem SafeText.cons (hc : isPlain c = true) (hslash : c ≠ '/') (hu : c ≠ 'u') (h : SafeText s) :
    SafeText (c :: s) := by
  refine .plain hc ?_ ?_ h
  · rintro ⟨rest, hrest⟩
    exact hslash (List.cons.inj hrest).1.symm
  · rintro ⟨rest, hrest⟩
    exact hu (List.cons.inj hrest).1.symm

/-- A plain character that ends no opening. -/
def isInert (c : Char) : Bool :=
  isPlain c && c ≠ '*' && c ≠ '('

/-- Where no opening ends, plain characters are safe. -/
theorem safeText_of_all (h : s.all isInert = true) : SafeText s := by
  induction s with
  | nil => exact .nil
  | cons c rest ih =>
      have hinert (d : Char) (hd : d ∈ c :: rest) : isPlain d = true ∧ d ≠ '*' ∧ d ≠ '(' := by
        simpa [isInert, and_assoc] using List.all_eq_true.1 h d hd
      rw [List.all_cons, Bool.and_eq_true] at h
      refine .plain (hinert c List.mem_cons_self).1 ?_ ?_ (ih h.2)
      · intro hopening
        exact (hinert '*' (hopening.subset (by decide))).2.1 rfl
      · intro hopening
        exact (hinert '(' (hopening.subset (by decide))).2.2 rfl

/-! ## Reading quotations and groups -/

theorem QuotationRest.ne_nil (h : QuotationRest quote inner) : inner ≠ [] := by
  cases h <;> simp

theorem GroupRest.ne_nil (h : GroupRest inner) : inner ≠ [] := by
  cases h <;> simp

theorem ne_of_isQuote (hquote : isQuote quote = true) (hc : isQuote c = false) : c ≠ quote :=
  (Text.ne_of_test hquote hc).symm

theorem closeQuote?_append (hquote : isQuote quote = true) (h : QuotationRest quote inner)
    (escapesBreak : Bool) (after : List Char) :
    closeQuote? escapesBreak quote (inner ++ after) = some (inner, after) := by
  induction h with
  | close => cases after <;> simp [closeQuote?]
  | @plain c rest hc hescape hrest ih =>
      cases rest with
      | nil => exact absurd rfl hrest.ne_nil
      | cons d more =>
          rw [List.cons_append] at ih
          simp [closeQuote?, hc, hescape, ih]
  | @escape c rest hbreak _ ih =>
      have hslash : '\\' ≠ quote := ne_of_isQuote hquote (by decide)
      simp [closeQuote?, hslash, hbreak, ih]

theorem closeUrl?_append (h : GroupRest inner) (after : List Char) :
    closeUrl? (inner ++ after) = some (inner, after) := by
  induction h with
  | close => simp [closeUrl?]
  | @plain c rest hclose hquote _ _ _ ih =>
      rw [List.cons_append, closeUrl?]
      · simp [hquote, ih]
      · exact hclose
  | @quotation quote inner rest hquote hinner _ ih =>
      have hclose : quote ≠ ')' := (ne_of_isQuote hquote (by decide)).symm
      rw [List.cons_append, closeUrl?]
      · simp only [hquote, if_true]
        split
        case h_1 hnone =>
            rw [List.append_assoc, closeQuote?_append hquote hinner] at hnone
            cases hnone
        case h_2 found behind hsome =>
            rw [List.append_assoc, closeQuote?_append hquote hinner] at hsome
            cases hsome
            simp [ih]
      · exact hclose

/-! ## Reading heads -/

theorem urlGroup?_eq_none (h : ¬ urlOpening <+: s) : urlGroup? s = none := by
  unfold urlGroup?
  split
  case h_1 rest => exact absurd ⟨rest, rfl⟩ h
  case h_2 => rfl

theorem isQuote_of_isPlain (h : isPlain c = true) : isQuote c = false := by
  simp only [isPlain, Bool.and_eq_true, Bool.not_eq_true'] at h
  exact h.1.2

theorem delimiter?_of_isPlain (h : isPlain c = true) : delimiter? c = none := by
  simp only [isPlain, Bool.and_eq_true, Option.isNone_iff_eq_none] at h
  exact h.1.1

theorem not_urlOpening_of_ne (h : c ≠ 'u') : ¬ urlOpening <+: c :: s := by
  rintro ⟨rest, hrest⟩
  exact h (List.cons.inj hrest).1.symm

theorem cases_of_delimiter {t : Token} (h : delimiter? c = some t) :
    c = '{' ∨ c = '}' ∨ c = ';' := by
  unfold delimiter? at h
  split at h
  case h_1 => exact .inl rfl
  case h_2 => exact .inr (.inl rfl)
  case h_3 => exact .inr (.inr rfl)
  case h_4 => cases h

theorem isQuote_of_delimiter {t : Token} (h : delimiter? c = some t) : isQuote c = false := by
  rcases cases_of_delimiter h with rfl | rfl | rfl <;> rfl

/-- Any character that is no delimiter and starts no quotation and no group is a piece. -/
theorem piece?_char (hquote : isQuote c = false) (hdelimiter : delimiter? c = none)
    (hurl : ¬ urlOpening <+: c :: s) : piece? (c :: s) = some ([c], s) := by
  simp [piece?, urlGroup?_eq_none hurl, simplePiece?, hquote, hdelimiter]

theorem piece?_plain (hc : isPlain c = true) (hurl : ¬ urlOpening <+: c :: s) :
    piece? (c :: s) = some ([c], s) :=
  piece?_char (isQuote_of_isPlain hc) (delimiter?_of_isPlain hc) hurl

theorem piece?_quotation (hquote : isQuote quote = true) (hinner : QuotationRest quote inner)
    (after : List Char) :
    piece? (quote :: (inner ++ after)) = some (quote :: inner, after) := by
  have hu : quote ≠ 'u' := (ne_of_isQuote hquote (by decide)).symm
  simp [piece?, urlGroup?_eq_none (not_urlOpening_of_ne hu), simplePiece?, hquote,
    closeQuote?_append hquote hinner]

theorem piece?_group (hinner : GroupRest inner) (after : List Char) :
    piece? (urlOpening ++ (inner ++ after)) = some (urlOpening ++ inner, after) := by
  simp [piece?, urlOpening, urlGroup?, closeUrl?_append hinner]

theorem piece?_delimiter {t : Token} (h : delimiter? c = some t) : piece? (c :: s) = none := by
  have hu : c ≠ 'u' := by
    rintro rfl
    cases h
  simp [piece?, urlGroup?_eq_none (not_urlOpening_of_ne hu), simplePiece?,
    isQuote_of_delimiter h, h]

theorem pieces_of_none (h : piece? s = none) : pieces s = ([], s) := by
  rw [pieces]
  split
  case h_1 => rfl
  case h_2 hsome =>
      rw [h] at hsome
      cases hsome

theorem pieces_of_some {piece : List Char} (h : piece? s = some (piece, after)) :
    pieces s = (piece ++ (pieces after).1, (pieces after).2) := by
  rw [pieces]
  split
  case h_1 hnone =>
      rw [h] at hnone
      cases hnone
  case h_2 hsome =>
      rw [h] at hsome
      cases hsome
      rfl

theorem severs_of_delimiter {t : Token} (h : delimiter? c = some t) : Severs (c :: s) := by
  rcases cases_of_delimiter h with rfl | rfl | rfl <;>
    exact severs_cons (by decide) (by decide)

/-- The pieces of a safe text end where the text ends. -/
theorem pieces_append {t : Token} (hdelimiter : delimiter? c = some t) (h : SafeText text) :
    pieces (text ++ c :: s) = (text, c :: s) := by
  induction h with
  | nil => exact pieces_of_none (piece?_delimiter hdelimiter)
  | @plain d rest hd _ hurl _ ih =>
      have hopening : ¬ urlOpening <+: (d :: rest) ++ c :: s :=
        not_isPrefix_append (List.cons_ne_nil d rest) hurl
          fun e he => (severs_of_delimiter hdelimiter e he).2
      rw [List.cons_append] at hopening ⊢
      rw [pieces_of_some (piece?_plain hd hopening), ih]
      rfl
  | quotation hquote hinner _ ih =>
      rw [List.cons_append, List.append_assoc, pieces_of_some (piece?_quotation hquote hinner _),
        ih]
      simp
  | group hinner _ ih =>
      rw [List.append_assoc, List.append_assoc, pieces_of_some (piece?_group hinner _), ih]
      simp

/-- The pieces that a text starts with make a head, if there are any and the first one does not
start with a blank. -/
theorem head?_of_pieces (hstart : StartsInk text) (h : pieces s = (text, after)) :
    head? s = some (text, after) := by
  obtain ⟨c, rest, rfl, hc⟩ := hstart
  cases s with
  | nil =>
      rw [pieces_of_none rfl] at h
      cases h
  | cons d more =>
      obtain rfl : c = d := by
        have happend := append_pieces (d :: more)
        rw [h] at happend
        exact (List.cons.inj happend).1
      cases hpiece : piece? (c :: more) with
      | none =>
          rw [pieces_of_none hpiece] at h
          cases h
      | some found =>
          rw [pieces_of_some hpiece] at h
          simp only [head?, hc, hpiece, Bool.false_eq_true, if_false, Option.map_some]
          exact congrArg some h

theorem pieces_of_head? (h : head? s = some (text, after)) : pieces s = (text, after) := by
  unfold head? at h
  split at h
  · cases h
  · split at h
    · cases h
    · obtain ⟨⟨piece, rest⟩, hpiece, heq⟩ := Option.map_eq_some_iff.1 h
      rw [pieces_of_some hpiece]
      exact heq

/-- A safe text with no blank at its start is a head. -/
theorem head?_append {t : Token} (hdelimiter : delimiter? c = some t) (hstart : StartsInk text)
    (h : SafeText text) : head? (text ++ c :: s) = some (text, c :: s) :=
  head?_of_pieces hstart (pieces_append hdelimiter h)

/-! ## Heads among the tokens -/

theorem isBlank_of_isGap {c : Char} (h : isGap c = true) : isBlank c = true := by
  simp only [isGap, Bool.or_eq_true, decide_eq_true_eq] at h
  rcases h with (((rfl | rfl) | rfl) | rfl) | rfl <;> decide

/-- A head is a token wherever it can be read. -/
theorem tokenize_of_head? {p : Position} (h : head? s = some (text, after)) :
    tokenize p s =
      (⟨.head text, p⟩ :: (tokenize (p.after text) after).1,
        (tokenize (p.after text) after).2) := by
  cases s with
  | nil => cases h
  | cons c rest =>
      have hgap : isGap c = false := by
        cases hcase : isGap c with
        | false => rfl
        | true => simp [head?, isBlank_of_isGap hcase] at h
      have hdelimiter : delimiter? c = none := by
        cases hcase : delimiter? c with
        | none => rfl
        | some t => simp [head?, piece?_delimiter hcase] at h
      exact tokenize_head hgap hdelimiter h

end StyleUsage.Stylesheet
