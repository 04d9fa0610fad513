import StyleUsage.Proofs.Stylesheet.Segments

/-!
# Seams between texts

Two texts are put together. If the first one ends with a gap or a delimiter, and leaves neither a
quotation nor a group open, the reader of comments and the reader of tokens take the second one as
if nothing stood before it.
-/

namespace StyleUsage.Stylesheet

open StyleUsage.Text
open StyleUsage.Usage (closeQuote?_quotedText)

/-- Every group that is opened outside of quotations is closed in the text. -/
def ClosesUrls (s : List Char) : Prop :=
  ∀ before after, s = before ++ (urlOpening ++ after) → Unquoted before →
    ∃ found, closeUrl? after = some found

/-- The text is empty or ends with a gap, a brace or a semicolon. -/
def EndsApart (s : List Char) : Prop :=
  ∀ c, s.getLast? = some c → isGap c = true ∨ (delimiter? c).isSome = true

/-- Nothing that is begun in the text can go on behind it. -/
structure IsSealed (s : List Char) : Prop where
  quotations : Unquoted s
  urls : ClosesUrls s
  ending : EndsApart s

variable {s t a b source plain inner after text piece : List Char} {c quote : Char}
  {line : Nat} {p : Position}

theorem EndsApart.of_append (h : EndsApart (a ++ b)) : EndsApart b := by
  intro c hc
  apply h c
  rw [List.getLast?_append, hc]
  rfl

theorem EndsApart.append (h : EndsApart b) (hne : b ≠ []) (a : List Char) : EndsApart (a ++ b) := by
  intro c hc
  apply h c
  rw [← hc, List.getLast?_append, List.getLast?_eq_some_getLast hne]
  rfl

theorem EndsApart.cons (h : EndsApart s) (hc : isGap c = true ∨ (delimiter? c).isSome = true) :
    EndsApart (c :: s) := by
  cases s with
  | nil =>
      rintro d ⟨⟩
      exact hc
  | cons d rest => exact h.append (List.cons_ne_nil d rest) [c]

theorem ClosesUrls.of_append (h : ClosesUrls (a ++ b)) (ha : Unquoted a) : ClosesUrls b := by
  intro before after hb hbefore
  exact h (a ++ before) after (by rw [hb, List.append_assoc]) (ha.append hbefore)

/-- It is enough to look behind each opening of a group. -/
theorem closesUrls_of_forall {s : List Char} (h : ∀ n < s.length, urlOpening <+: s.drop n →
    (closeUrl? (s.drop (n + urlOpening.length))).isSome = true) : ClosesUrls s := by
  rintro before after rfl -
  have hlt : before.length < (before ++ (urlOpening ++ after)).length := by
    simp [urlOpening]
  have hsome := h before.length hlt (by simp)
  rw [← List.drop_drop, List.drop_left, List.drop_left] at hsome
  exact Option.isSome_iff_exists.1 hsome

/-- What is left of a sealed text behind an unquoted one is sealed. -/
theorem IsSealed.of_append (h : IsSealed (a ++ b)) (ha : Unquoted a) : IsSealed b :=
  ⟨h.quotations.of_append ha, h.urls.of_append ha, h.ending.of_append⟩

theorem IsSealed.tail (hquote : isQuote c = false) (h : IsSealed (c :: s)) : IsSealed s :=
  IsSealed.of_append (a := [c]) h (.plain hquote .nil)

/-- No opening of a comment or of a group reaches over the end of a text that ends apart. -/
theorem EndsApart.not_isPrefix {opening : List Char} (h : EndsApart s) (hne : s ≠ [])
    (hopening : ∀ c ∈ opening, isGap c = false ∧ delimiter? c = none)
    (hs : ¬ opening <+: s) (t : List Char) : ¬ opening <+: s ++ t := by
  intro hprefix
  rcases List.prefix_or_prefix_of_prefix hprefix (List.prefix_append s t) with hin | hin
  · exact hs hin
  · have hlast := List.getLast?_eq_some_getLast hne
    obtain ⟨hgap, hdelimiter⟩ := hopening _ (hin.subset (List.getLast_mem hne))
    rcases h _ hlast with hc | hc
    · rw [hgap] at hc
      cases hc
    · rw [hdelimiter] at hc
      cases hc

/-! ## Comments at a seam -/

/-- What follows a quotation in a text has its quotations closed too. -/
theorem Unquoted.of_quotation {quote : Char} {s inner after : List Char}
    (h : Unquoted (quote :: (inner ++ plain))) (hquote : isQuote quote = true)
    (hclose : closeQuote? true quote s = some (inner, after)) : Unquoted plain := by
  obtain ⟨inner', rest', heq, hinner', hrest'⟩ := h.exists_of_isQuote hquote
  have hfound := closeQuote?_append_of_some hclose plain
  rw [heq, closeQuote?_append hquote hinner'] at hfound
  cases hfound
  exact hrest'

/-- Where every quotation is closed, a character with which no quotation starts is no quote: the
quotation that would start there ends in what is left, and so it does in the source. -/
theorem isQuote_eq_false_of_strips {c : Char} {s : List Char} (h : Unquoted (c :: plain))
    (hnone : quotation? true (c :: s) = none) (hrest : Strips s plain) : isQuote c = false := by
  cases hc : isQuote c with
  | false => rfl
  | true =>
      obtain ⟨inner, rest, heq, hinner, -⟩ := h.exists_of_isQuote hc
      have hfound := closeQuote?_append hc hinner true rest
      have hends : ends c false plain = true := by
        rw [← isSome_closeQuote?, heq, hfound]
        rfl
      have hsource := ends_of_strips hc hrest false hends
      rw [← isSome_closeQuote?] at hsource
      have hopen : closeQuote? true c s = none := by simpa [quotation?, hc] using hnone
      rw [hopen] at hsource
      cases hsource

/-- Where every quotation of what is left is closed, no quote stands for itself. -/
theorem Divides.isQuote_eq_false {segments : List Segment} (h : Divides s segments [])
    (hquotations : Unquoted (textOf (leftOf segments))) :
    ∀ c, .char c ∈ segments → isQuote c = false := by
  generalize hrest : ([] : List Char) = rest at h
  induction h with
  | nil => simp
  | @comment body s rest segments _ _ ih =>
      rw [leftOf_cons, textOf_append, Segment.left, textOf_chars] at hquotations
      simpa using ih (hquotations.of_append (unquoted_commentGap body)) hrest
  | @quotation quote body s rest segments hquote hbody _ ih =>
      have hwhole : Unquoted (quote :: (body ++ [quote] ++ textOf (leftOf segments))) := hquotations
      have hclose := closeQuote?_quotedText hquote hbody []
      simpa using ih (hwhole.of_quotation hquote hclose) hrest
  | @char c s rest segments _ hopens h ih =>
      subst hrest
      have hquotations : Unquoted (c :: textOf (leftOf segments)) := hquotations
      have hstrips := strips_of_stripComments (stripComments_of_divides_nil h 1)
      have hquote :=
        isQuote_eq_false_of_strips hquotations (quotation?_eq_none_iff.2 hopens) hstrips
      have hbehind := ih (hquotations.tail hquote) rfl
      intro d hd
      rcases List.mem_cons.1 hd with hd | hd
      · cases hd
        exact hquote
      · exact hbehind d hd

theorem EndsApart.getLast?_ne {segments : List Segment} (h : EndsApart (textOf (leftOf segments))) :
    segments.getLast? ≠ some (.char '/') := by
  intro hlast
  obtain ⟨before, rfl⟩ := List.getLast?_eq_some_iff.1 hlast
  have hslash := h '/' (by rw [leftOf_append, textOf_append, List.getLast?_append]; rfl)
  exact absurd hslash (by decide)

/-- Comments are taken out of what follows a text as if it stood alone, but for the count of
lines. -/
theorem stripComments_append (h : Strips source plain) (hquotations : Unquoted plain)
    (hending : EndsApart plain) (line : Nat) (b : List Char) :
    stripComments line (source ++ b) =
      (stripComments (line + source.count '\n') b).map (plain ++ ·) := by
  obtain ⟨segments, hdivides, rfl⟩ := stripComments_eq_ok_iff.1 (stripComments_of_strips h line)
  exact stripComments_append_of_divides hdivides
    ⟨hdivides.isQuote_eq_false hquotations, hending.getLast?_ne⟩ line b

/-- What is left without the comments has as many line feeds. -/
theorem count_of_strips (h : Strips source plain) : plain.count '\n' = source.count '\n' := by
  obtain ⟨segments, hdivides, rfl⟩ := stripComments_eq_ok_iff.1 (stripComments_of_strips h 1)
  rw [count_leftOf, hdivides.eq_append, List.append_nil]

/-! ## Heads at a seam -/

theorem closeUrl?_append_of_some (h : closeUrl? s = some (inner, after)) (t : List Char) :
    closeUrl? (s ++ t) = some (inner, after ++ t) := by
  fun_induction closeUrl? s generalizing inner after with
  | case1 => cases h
  | case2 rest =>
      cases h
      simp [closeUrl?]
  | case3 => cases h
  | case4 c rest hclose hquote quoted behind hquoted _ ih =>
      obtain ⟨⟨more, final⟩, hmore, heq⟩ := Option.map_eq_some_iff.1 h
      cases heq
      have hfound := closeQuote?_append_of_some hquoted (behind ++ t)
      rw [← List.append_assoc, append_of_closeQuote? hquoted] at hfound
      rw [List.cons_append, closeUrl?]
      · simp only [hquote, if_true]
        split
        case h_1 hnone =>
            rw [hfound] at hnone
            cases hnone
        case h_2 found rest' hsome =>
            rw [hfound] at hsome
            cases hsome
            rw [ih hmore]
            rfl
      · exact hclose
  | case5 c rest hclose hquote ih =>
      obtain ⟨⟨more, final⟩, hmore, heq⟩ := Option.map_eq_some_iff.1 h
      cases heq
      rw [List.cons_append, closeUrl?]
      · simp [hquote, ih hmore]
      · exact hclose

theorem urlGroup?_urlOpening (s : List Char) : urlGroup? (urlOpening ++ s) =
    (closeUrl? s).map fun (body, after) => (urlOpening ++ body, after) := rfl

theorem isGap_of_mem_urlOpening (h : c ∈ urlOpening) : isGap c = false ∧ delimiter? c = none := by
  simp only [urlOpening, List.mem_cons, List.not_mem_nil, or_false] at h
  rcases h with rfl | rfl | rfl | rfl <;> exact ⟨rfl, rfl⟩

/-- The pieces of a sealed text are read without a look at what follows it. -/
theorem piece?_append_of_isSealed (h : IsSealed s) (hne : s ≠ []) (t : List Char) :
    piece? (s ++ t) = (piece? s).map fun (piece, after) => (piece, after ++ t) := by
  by_cases hurl : urlOpening <+: s
  · obtain ⟨rest, rfl⟩ := hurl
    obtain ⟨⟨body, after⟩, hbody⟩ := h.urls [] rest rfl .nil
    rw [piece?, piece?, List.append_assoc, urlGroup?_urlOpening, urlGroup?_urlOpening,
      closeUrl?_append_of_some hbody, hbody]
    rfl
  · have hurl' := h.ending.not_isPrefix hne (fun _ => isGap_of_mem_urlOpening) hurl t
    rw [piece?, piece?, urlGroup?_eq_none hurl, urlGroup?_eq_none hurl', Option.none_or,
      Option.none_or]
    cases s with
    | nil => exact absurd rfl hne
    | cons c rest =>
        rw [List.cons_append, simplePiece?, simplePiece?]
        cases hquote : isQuote c with
        | true =>
            obtain ⟨inner, behind, rfl, hinner, -⟩ := h.quotations.exists_of_isQuote hquote
            simp [closeQuote?_append hquote hinner]
        | false =>
            cases hdelimiter : (delimiter? c).isSome <;> simp

theorem pieces_append_of_isSealed (h : IsSealed s) (hrest : (pieces s).2 ≠ []) (t : List Char) :
    pieces (s ++ t) = ((pieces s).1, (pieces s).2 ++ t) := by
  fun_induction pieces s with
  | case1 s hnone =>
      have hpiece : piece? (s ++ t) = none := by
        rw [piece?_append_of_isSealed h hrest, hnone]
        rfl
      rw [pieces_of_none hpiece]
  | case2 s piece after hsome _ more rest heq ih =>
      have hne : s ≠ [] := by
        rintro rfl
        cases hsome
      have hpiece : piece? (s ++ t) = some (piece, after ++ t) := by
        rw [piece?_append_of_isSealed h hne, hsome]
        rfl
      have hafter : IsSealed after := by
        rw [← (append_of_piece? hsome).1] at h
        exact h.of_append (unquoted_of_piece? hsome)
      rw [heq] at ih
      rw [pieces_of_some hpiece, ih hafter hrest]

theorem head?_append_of_isSealed (h : IsSealed s) (hhead : head? s = some (text, after))
    (hafter : after ≠ []) (t : List Char) : head? (s ++ t) = some (text, after ++ t) := by
  cases s with
  | nil => cases hhead
  | cons c rest =>
      cases hblank : isBlank c with
      | true => simp [head?, hblank] at hhead
      | false =>
          simp only [head?, hblank, Bool.false_eq_true, if_false] at hhead
          obtain ⟨⟨piece, behind⟩, hpiece, heq⟩ := Option.map_eq_some_iff.1 hhead
          cases heq
          have hsealed : IsSealed behind := by
            rw [← (append_of_piece? hpiece).1] at h
            exact h.of_append (unquoted_of_piece? hpiece)
          have hall := piece?_append_of_isSealed h (List.cons_ne_nil c rest) t
          rw [hpiece] at hall
          rw [List.cons_append] at hall ⊢
          simp [head?, hblank, hall, pieces_append_of_isSealed hsealed hafter]

/-! ## Tokens at a seam -/

/-- The last token of a list, if there is one, is no head. -/
def EndsClosed (tokens : List Token) : Prop :=
  ∀ text, tokens.getLast? ≠ some (.head text)

theorem EndsClosed.tail {first : Token} {tokens : List Token} (h : EndsClosed (first :: tokens)) :
    EndsClosed tokens := by
  intro text hlast
  apply h text
  rw [List.getLast?_cons, hlast]
  rfl

theorem EndsClosed.ne_nil_of_tokenize {position : Position}
    (h : EndsClosed (.head text :: (tokenize position after).1.map Placed.token)) :
    after ≠ [] := by
  rintro rfl
  rw [tokenize_nil] at h
  exact h text rfl

/-- A text whose last token is no head ends apart. -/
theorem endsApart_of_tokenize (h : (tokenize p s).2 = none)
    (hclosed : EndsClosed ((tokenize p s).1.map Placed.token)) : EndsApart s := by
  induction p, s using tokenize.induct with
  | case1 p =>
      intro c hc
      cases hc
  | case2 p c rest hgap ih =>
      rw [tokenize_gap hgap] at h hclosed
      exact (ih h hclosed).cons (.inl hgap)
  | case3 p c rest hgap t hdelimiter _ _ _ ih =>
      rw [tokenize_delimiter (by simpa using hgap) hdelimiter] at h hclosed
      exact (ih h hclosed.tail).cons (.inr (by simp [hdelimiter]))
  | case4 p c rest hgap hdelimiter text after _ _ _ hhead _ ih =>
      rw [tokenize_head (by simpa using hgap) hdelimiter hhead] at h hclosed
      rw [← append_of_head? hhead]
      exact (ih h hclosed.tail).append hclosed.ne_nil_of_tokenize text
  | case5 p c rest hgap hdelimiter hhead =>
      rw [tokenize_stray (by simpa using hgap) hdelimiter hhead] at h
      cases h

/-- Behind a sealed text whose last token is no head, tokens are read as at a start. -/
theorem tokenize_append (hsealed : IsSealed s) (h : (tokenize p s).2 = none)
    (hclosed : EndsClosed ((tokenize p s).1.map Placed.token)) (t : List Char) :
    tokenize p (s ++ t) = ((tokenize p s).1 ++ (tokenize (p.after s) t).1,
      (tokenize (p.after s) t).2) := by
  induction p, s using tokenize.induct with
  | case1 p => simp [Position.after]
  | case2 p c rest hgap ih =>
      rw [tokenize_gap hgap] at h hclosed ⊢
      rw [List.cons_append, tokenize_gap hgap,
        ih (hsealed.tail (isQuote_of_isGap hgap)) h hclosed]
      rfl
  | case3 p c rest hgap token hdelimiter _ _ _ ih =>
      have hgap : isGap c = false := by simpa using hgap
      rw [tokenize_delimiter hgap hdelimiter] at h hclosed ⊢
      rw [List.cons_append, tokenize_delimiter hgap hdelimiter,
        ih (hsealed.tail (isQuote_of_delimiter hdelimiter)) h hclosed.tail]
      rfl
  | case4 p c rest hgap hdelimiter text after _ _ _ hhead _ ih =>
      have hgap : isGap c = false := by simpa using hgap
      rw [tokenize_head hgap hdelimiter hhead] at h hclosed ⊢
      have hrest := hclosed.ne_nil_of_tokenize
      have hall := head?_append_of_isSealed hsealed hhead hrest t
      rw [List.cons_append] at hall ⊢
      have hbehind : IsSealed after := by
        rw [← append_of_head? hhead] at hsealed
        exact hsealed.of_append (unquoted_of_head? hhead)
      have hposition : (p.after text).after after = p.after (c :: rest) := by
        rw [← append_of_head? hhead, Position.after_append]
      rw [tokenize_head hgap hdelimiter hall, ih hbehind h hclosed.tail, hposition]
      rfl
  | case5 p c rest hgap hdelimiter hhead =>
      rw [tokenize_stray (by simpa using hgap) hdelimiter hhead] at h
      cases h

end StyleUsage.Stylesheet
