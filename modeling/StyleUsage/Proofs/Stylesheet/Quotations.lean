import StyleUsage.Proofs.Stylesheet.Comments

/-!
# Texts whose quotations end

A text may end in the middle of a quotation, or with a quote that opens none. If it does neither,
what is read of it does not depend on what comes after it. A text that splits into tokens is of
this kind, and so is the text with comments that it comes from: taking comments out gives no end
to a quotation that had none.
-/

namespace StyleUsage.Stylesheet

open StyleUsage.Text

/-- Plain characters and whole quotations. -/
inductive Unquoted : List Char → Prop where
  | nil : Unquoted []
  | plain {c : Char} {rest : List Char} (hquote : isQuote c = false) (hrest : Unquoted rest) :
      Unquoted (c :: rest)
  | quotation {quote : Char} {inner rest : List Char} (hquote : isQuote quote = true)
      (hinner : QuotationRest quote inner) (hrest : Unquoted rest) :
      Unquoted (quote :: (inner ++ rest))

variable {s t a b source plain inner other after rest text piece : List Char} {c quote : Char}
  {line : Nat} {escapesBreak : Bool} {p : Position}

theorem Unquoted.append (ha : Unquoted a) (hb : Unquoted b) : Unquoted (a ++ b) := by
  induction ha with
  | nil => exact hb
  | plain hquote _ ih => exact .plain hquote ih
  | quotation hquote hinner _ ih =>
      rw [List.cons_append, List.append_assoc]
      exact .quotation hquote hinner ih

/-! ## Ends of quotations -/

/-- A quotation ends at one place only. -/
theorem QuotationRest.eq_of_append (hquote : isQuote quote = true) (h : QuotationRest quote inner)
    (h' : QuotationRest quote other) (heq : inner ++ a = other ++ b) : inner = other ∧ a = b := by
  have hinner := closeQuote?_append hquote h true a
  rw [heq, closeQuote?_append hquote h' true b] at hinner
  cases hinner
  exact ⟨rfl, rfl⟩

/-- What starts with a quote and is unquoted starts with a whole quotation. -/
theorem Unquoted.exists_of_isQuote (hquote : isQuote quote = true) (h : Unquoted (quote :: s)) :
    ∃ inner rest, s = inner ++ rest ∧ QuotationRest quote inner ∧ Unquoted rest := by
  generalize hs : quote :: s = text at h
  cases h with
  | nil => cases hs
  | plain hplain =>
      obtain ⟨rfl, rfl⟩ := List.cons.inj hs
      rw [hquote] at hplain
      cases hplain
  | quotation _ hinner hrest =>
      obtain ⟨rfl, rfl⟩ := List.cons.inj hs
      exact ⟨_, _, rfl, hinner, hrest⟩

theorem Unquoted.tail (hquote : isQuote c = false) (h : Unquoted (c :: s)) : Unquoted s := by
  generalize hs : c :: s = text at h
  cases h with
  | nil => cases hs
  | plain _ hrest =>
      obtain ⟨rfl, rfl⟩ := List.cons.inj hs
      exact hrest
  | quotation hopens =>
      obtain ⟨rfl, rfl⟩ := List.cons.inj hs
      rw [hquote] at hopens
      cases hopens

/-- What is left of an unquoted text behind an unquoted one is unquoted. -/
theorem Unquoted.of_append (h : Unquoted (a ++ b)) (ha : Unquoted a) : Unquoted b := by
  induction ha with
  | nil => exact h
  | plain hquote _ ih => exact ih (h.tail hquote)
  | @quotation quote inner rest hquote hinner _ ih =>
      rw [List.cons_append, List.append_assoc] at h
      obtain ⟨inner', rest', heq, hinner', hrest'⟩ := h.exists_of_isQuote hquote
      obtain ⟨-, rfl⟩ := hinner.eq_of_append hquote hinner' heq
      exact ih hrest'

/-- Once a quotation has ended, more text makes no difference to it. -/
theorem closeQuote?_append_of_some
    (h : closeQuote? escapesBreak quote s = some (inner, after)) (t : List Char) :
    closeQuote? escapesBreak quote (inner ++ t) = some (inner, t) := by
  fun_induction closeQuote? escapesBreak quote s generalizing inner after with
  | case1 => cases h
  | case2 =>
      cases h
      cases t <;> simp [closeQuote?]
  | case3 => cases h
  | case4 d rest =>
      cases h
      cases t <;> simp [closeQuote?]
  | case5 => cases h
  | case6 d rest hbreak hquote ih =>
      obtain ⟨⟨more, behind⟩, hmore, heq⟩ := Option.map_eq_some_iff.1 h
      cases heq
      simp only [List.cons_append, closeQuote?, if_neg hquote, if_true, if_neg hbreak, ih hmore]
      rfl
  | case7 c d rest hquote hescape ih =>
      obtain ⟨⟨more, behind⟩, hmore, heq⟩ := Option.map_eq_some_iff.1 h
      cases heq
      have hrest := ih hmore
      cases hfirst : more ++ t with
      | nil => simp [hfirst, closeQuote?] at hrest
      | cons e tail =>
          rw [hfirst] at hrest
          simp [closeQuote?, hquote, hescape, hfirst, hrest]

/-- A quotation in which no line feed may be escaped holds none that is. -/
theorem quotationRest_of_closeQuote? (h : closeQuote? false quote s = some (inner, after)) :
    QuotationRest quote inner := by
  fun_induction closeQuote? false quote s generalizing inner after with
  | case1 => cases h
  | case2 =>
      cases h
      exact .close
  | case3 => cases h
  | case4 d rest =>
      cases h
      exact .close
  | case5 => cases h
  | case6 d rest hbreak hquote ih =>
      obtain ⟨⟨more, behind⟩, hmore, heq⟩ := Option.map_eq_some_iff.1 h
      cases heq
      exact .escape (by simpa using hbreak) (ih hmore)
  | case7 c d rest hquote hescape ih =>
      obtain ⟨⟨more, behind⟩, hmore, heq⟩ := Option.map_eq_some_iff.1 h
      cases heq
      exact .plain hquote hescape (ih hmore)

/-! ## Tokens are unquoted -/

theorem unquoted_of_closeUrl? (h : closeUrl? s = some (inner, after)) : Unquoted inner := by
  fun_induction closeUrl? s generalizing inner after with
  | case1 => cases h
  | case2 rest =>
      cases h
      exact .plain rfl .nil
  | case3 => cases h
  | case4 c rest hclose hquote quoted behind hquoted _ ih =>
      obtain ⟨⟨more, final⟩, hmore, heq⟩ := Option.map_eq_some_iff.1 h
      cases heq
      exact .quotation hquote (quotationRest_of_closeQuote? hquoted) (ih hmore)
  | case5 c rest hclose hquote ih =>
      obtain ⟨⟨more, final⟩, hmore, heq⟩ := Option.map_eq_some_iff.1 h
      cases heq
      exact .plain (by simpa using hquote) (ih hmore)

theorem unquoted_of_piece? (h : piece? s = some (piece, after)) : Unquoted piece := by
  rcases Option.or_eq_some_iff.1 h with h | ⟨-, h⟩
  · unfold urlGroup? at h
    split at h
    · obtain ⟨⟨body, final⟩, hbody, heq⟩ := Option.map_eq_some_iff.1 h
      cases heq
      have hinner := unquoted_of_closeUrl? hbody
      exact .plain rfl (.plain rfl (.plain rfl (.plain rfl hinner)))
    · cases h
  · unfold simplePiece? at h
    split at h
    · cases h
    · split at h
      case isTrue hquote =>
          obtain ⟨⟨quoted, final⟩, hquoted, heq⟩ := Option.map_eq_some_iff.1 h
          cases heq
          have hwhole := Unquoted.quotation hquote (quotationRest_of_closeQuote? hquoted) .nil
          rwa [List.append_nil] at hwhole
      case isFalse hquote =>
          split at h
          · cases h
          · cases h
            exact .plain (by simpa using hquote) .nil

theorem unquoted_pieces (s : List Char) : Unquoted (pieces s).1 := by
  fun_induction pieces s with
  | case1 => exact .nil
  | case2 s piece after h _ more rest heq ih =>
      rw [heq] at ih
      exact (unquoted_of_piece? h).append ih

theorem unquoted_of_head? (h : head? s = some (text, after)) : Unquoted text := by
  unfold head? at h
  split at h
  · cases h
  · split at h
    · cases h
    · obtain ⟨⟨piece, rest⟩, hpiece, heq⟩ := Option.map_eq_some_iff.1 h
      cases heq
      exact (unquoted_of_piece? hpiece).append (unquoted_pieces rest)

theorem isQuote_of_isGap (h : isGap c = true) : isQuote c = false := by
  simp only [isGap, Bool.or_eq_true, decide_eq_true_eq] at h
  rcases h with (((rfl | rfl) | rfl) | rfl) | rfl <;> rfl

/-- A text that splits into tokens ends outside of quotations. -/
theorem unquoted_of_tokenize (h : (tokenize p s).2 = none) : Unquoted s := by
  induction p, s using tokenize.induct with
  | case1 p => exact .nil
  | case2 p c rest hgap ih =>
      rw [tokenize_gap hgap] at h
      exact .plain (isQuote_of_isGap hgap) (ih h)
  | case3 p c rest hgap t hdelimiter _ _ _ ih =>
      rw [tokenize_delimiter (by simpa using hgap) hdelimiter] at h
      exact .plain (isQuote_of_delimiter hdelimiter) (ih h)
  | case4 p c rest hgap hdelimiter text after _ _ _ hhead _ ih =>
      rw [tokenize_head (by simpa using hgap) hdelimiter hhead] at h
      rw [← append_of_head? hhead]
      exact (unquoted_of_head? hhead).append (ih h)
  | case5 p c rest hgap hdelimiter hhead =>
      rw [tokenize_stray (by simpa using hgap) hdelimiter hhead] at h
      cases h

/-! ## Comments and quotations without an end -/

/-- Whether a quotation ends in a text, where the first character may be escaped. -/
def ends (quote : Char) : (isEscaped : Bool) → List Char → Bool
  | _, [] => false
  | true, _ :: rest => ends quote false rest
  | false, c :: rest => c = quote || ends quote (c = '\\') rest

/-- The end of a quotation is found if there is one. -/
theorem isSome_closeQuote? : (closeQuote? true quote s).isSome = ends quote false s := by
  fun_induction closeQuote? true quote s with
  | case1 => rfl
  | case2 => simp [ends]
  | case3 c hquote => simp [ends, hquote]
  | case4 => simp [ends]
  | case5 d rest hbreak => simp at hbreak
  | case6 d rest hbreak hquote ih => simpa [ends, hquote] using ih
  | case7 c d rest hquote hescape ih =>
      rw [ends, Option.isSome_map, ih]
      simp [hquote, hescape]

/-- What a text adds to an end that is there behind it makes no difference. -/
theorem ends_append (h : ∀ isEscaped, ends quote isEscaped a = true → ends quote isEscaped b = true)
    (text : List Char) (isEscaped : Bool) (ha : ends quote isEscaped (text ++ a) = true) :
    ends quote isEscaped (text ++ b) = true := by
  induction text generalizing isEscaped with
  | nil => exact h isEscaped ha
  | cons c rest ih =>
      cases isEscaped with
      | true => exact ih false ha
      | false =>
          simp only [List.cons_append, ends, Bool.or_eq_true] at ha ⊢
          exact ha.imp_right (ih _)

theorem not_commentEnd (h : ∀ rest, c = '*' → s = '/' :: rest → False) :
    ¬ commentEnd <+: c :: s := by
  rintro ⟨rest, hrest⟩
  obtain ⟨rfl, rfl⟩ := List.cons.inj hrest
  exact h rest rfl rfl

/-- A comment holds its end at its end alone. -/
theorem exists_of_closeComment? (h : closeComment? s = some (inner, after)) :
    ∃ body, inner = body ++ commentEnd ∧ ¬ commentEnd <:+: body := by
  fun_induction closeComment? s generalizing inner after with
  | case1 rest =>
      cases h
      exact ⟨[], rfl, by simp [commentEnd]⟩
  | case2 c rest hno ih =>
      obtain ⟨⟨more, behind⟩, hmore, heq⟩ := Option.map_eq_some_iff.1 h
      cases heq
      obtain ⟨body, rfl, hbody⟩ := ih hmore
      refine ⟨c :: body, rfl, ?_⟩
      rw [List.infix_cons_iff, not_or]
      refine ⟨fun hin => not_commentEnd hno (hin.trans ?_), hbody⟩
      rw [← append_of_closeComment? hmore, List.append_assoc]
      exact List.prefix_append (c :: body) _
  | case3 => cases h

/-- A comment has an end exactly if one stands behind its opening. -/
theorem closeComment?_eq_none_iff : closeComment? s = none ↔ ¬ commentEnd <:+: s := by
  fun_induction closeComment? s with
  | case1 rest => simpa using ⟨[], rest, rfl⟩
  | case2 c rest hno ih =>
      rw [Option.map_eq_none_iff, ih, List.infix_cons_iff, not_or,
        and_iff_right (not_commentEnd hno)]
  | case3 => simp [commentEnd]

/-- Behind a slash nothing is escaped. -/
theorem ends_append_slash (h : ends quote false after = true) (text : List Char)
    (isEscaped : Bool) : ends quote isEscaped (text ++ '/' :: after) = true := by
  induction text generalizing isEscaped with
  | nil =>
      cases isEscaped with
      | true => exact h
      | false => simp [ends, h]
  | cons c rest ih =>
      cases isEscaped with
      | true => exact ih false
      | false => rw [List.cons_append, ends, ih, Bool.or_true]

/-- In the place of a comment stand characters that neither end a quotation nor escape. -/
theorem mem_commentGap (h : c ∈ commentGap inner) : c = ' ' ∨ c = '\n' := by
  unfold commentGap at h
  split at h
  · exact .inl (List.mem_singleton.1 h)
  · exact .inr (List.eq_of_mem_replicate h)

theorem commentGap_ne_nil (inner : List Char) : commentGap inner ≠ [] := by
  unfold commentGap
  split <;> simp_all

theorem unquoted_of_all (h : ∀ c ∈ s, isQuote c = false) : Unquoted s := by
  induction s with
  | nil => exact .nil
  | cons c rest ih =>
      obtain ⟨hc, hrest⟩ := List.forall_mem_cons.1 h
      exact .plain hc (ih hrest)

theorem unquoted_commentGap (inner : List Char) : Unquoted (commentGap inner) := by
  apply unquoted_of_all
  intro c hc
  rcases mem_commentGap hc with rfl | rfl <;> rfl

/-- An end behind the place of a comment is one behind the comment. -/
theorem ends_of_commentGap (hquote : isQuote quote = true) {gap : List Char}
    (hgap : ∀ c ∈ gap, c = ' ' ∨ c = '\n') (hne : gap ≠ []) (isEscaped : Bool)
    (h : ends quote isEscaped (gap ++ after) = true) : ends quote false after = true := by
  induction gap generalizing isEscaped with
  | nil => exact absurd rfl hne
  | cons c rest ih =>
      obtain ⟨hc, hrest⟩ := List.forall_mem_cons.1 hgap
      have hclose : c ≠ quote := by rcases hc with rfl | rfl <;> exact ne_of_isQuote hquote rfl
      have hescape : c ≠ '\\' := by rcases hc with rfl | rfl <;> decide
      have hnext : ends quote false (rest ++ after) = true := by
        cases isEscaped with
        | true => exact h
        | false => simpa [ends, hclose, hescape] using h
      cases rest with
      | nil => exact hnext
      | cons d more => exact ih hrest (by simp) false hnext

/-! ## Taking comments out -/

/-- The text `plain` is left of `source` when comments are taken out. -/
inductive Strips : (source plain : List Char) → Prop where
  | nil : Strips [] []
  | comment {s inner after plain : List Char} (h : closeComment? s = some (inner, after))
      (hrest : Strips after plain) : Strips (commentOpening ++ s) (commentGap inner ++ plain)
  | quotation {quote : Char} {s inner after plain : List Char} (hquote : isQuote quote = true)
      (h : closeQuote? true quote s = some (inner, after)) (hrest : Strips after plain) :
      Strips (quote :: s) (quote :: (inner ++ plain))
  | plain {c : Char} {s plain : List Char} (hcomment : ¬ commentOpening <+: c :: s)
      (h : quotation? true (c :: s) = none) (hrest : Strips s plain) :
      Strips (c :: s) (c :: plain)

theorem exists_of_map_eq_ok {α β ε : Type} {x : Except ε α} {f : α → β} {y : β}
    (h : x.map f = .ok y) : ∃ a, x = .ok a ∧ y = f a := by
  cases x with
  | error e => cases h
  | ok a =>
      cases h
      exact ⟨a, rfl, rfl⟩

theorem not_commentOpening (h : ∀ rest, c = '/' → s = '*' :: rest → False) :
    ¬ commentOpening <+: c :: s := by
  rintro ⟨rest, hrest⟩
  obtain ⟨rfl, rfl⟩ := List.cons.inj hrest
  exact h rest rfl rfl

theorem strips_of_stripComments (h : stripComments line source = .ok plain) :
    Strips source plain := by
  induction line, source using stripComments.induct generalizing plain with
  | case1 line =>
      rw [stripComments_nil] at h
      cases h
      exact .nil
  | case2 line rest hnone =>
      rw [stripComments] at h
      split at h
      case h_1 => cases h
      case h_2 found behind hsome =>
          rw [hnone] at hsome
          cases hsome
  | case3 line rest inner after hsome _ ih =>
      have hsplit : stripComments line ('/' :: '*' :: rest) = _ := stripComments_comment hsome
      rw [hsplit] at h
      obtain ⟨left, hleft, rfl⟩ := exists_of_map_eq_ok h
      exact .comment hsome (ih hleft)
  | case4 line c rest hslash inner after hsome _ ih =>
      rw [stripComments_quotation (not_commentOpening hslash) hsome] at h
      obtain ⟨left, hleft, rfl⟩ := exists_of_map_eq_ok h
      obtain ⟨hquote, hclose⟩ : isQuote c = true ∧
          closeQuote? true c rest = some (inner, after) := by
        simpa [quotation?] using hsome
      exact .quotation hquote hclose (ih hleft)
  | case5 line c rest hslash hnone ih =>
      have hcomment := not_commentOpening hslash
      rw [stripComments_plain hcomment hnone] at h
      obtain ⟨left, hleft, rfl⟩ := exists_of_map_eq_ok h
      exact .plain hcomment hnone (ih hleft)

theorem stripComments_of_strips (h : Strips source plain) (line : Nat) :
    stripComments line source = .ok plain := by
  induction h generalizing line with
  | nil => exact stripComments_nil
  | comment h _ ih =>
      rw [stripComments_comment h, ih]
      rfl
  | quotation hquote h _ ih =>
      rename_i quote s inner after plain _
      have hcomment : ¬ commentOpening <+: quote :: s :=
        not_commentOpening_of_ne (ne_of_isQuote hquote rfl).symm
      have hsome : quotation? true (quote :: s) = some (inner, after) := by
        simpa [quotation?, hquote] using h
      rw [stripComments_quotation hcomment hsome, ih]
      rfl
  | plain hcomment h _ ih =>
      rw [stripComments_plain hcomment h, ih]
      rfl

/-- Taking comments out gives no end to a quotation that had none. -/
theorem ends_of_strips (hquote : isQuote quote = true) (h : Strips source plain)
    (isEscaped : Bool) (hends : ends quote isEscaped plain = true) :
    ends quote isEscaped source = true := by
  induction h generalizing isEscaped with
  | nil => exact hends
  | @comment s inner after plain h _ ih =>
      have hbehind : ends quote false plain = true :=
        ends_of_commentGap hquote (fun _ => mem_commentGap) (commentGap_ne_nil inner) isEscaped
          hends
      obtain ⟨body, rfl, -⟩ := exists_of_closeComment? h
      rw [← append_of_closeComment? h]
      have hslash :=
        ends_append_slash (ih false hbehind) (commentOpening ++ body ++ ['*']) isEscaped
      simpa [commentEnd] using hslash
  | quotation _ h _ ih =>
      rw [← append_of_closeQuote? h]
      exact ends_append (ih ·) (_ :: _) isEscaped hends
  | @plain c s plain _ _ _ ih => exact ends_append (ih ·) [c] isEscaped hends

end StyleUsage.Stylesheet
