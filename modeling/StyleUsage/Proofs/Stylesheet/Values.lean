import StyleUsage.Proofs.Stylesheet.Heads
import StyleUsage.Proofs.Stylesheet.Recovery
import StyleUsage.Proofs.Usage.Scanning

/-!
# Values of declarations

A value is made of plain characters, quotations and groups `url(...)`. The readers of comments and
of tokens agree on where these end, but for two things: in a quotation, the reader of tokens takes
no line feed behind a backslash, and the reader of comments knows no groups, so that a comment may
start in one. Values without either are kept as they are written, and no others are.
-/

namespace StyleUsage.Stylesheet

open StyleUsage.Text
open StyleUsage.Usage (QuotedText closeQuote?_quotedText)

/-- A part of a value: a plain character, a quotation, or a group with a bare or a quoted text. -/
inductive ValuePart where
  | char (c : Char)
  | quotation (quote : Char) (body : List Char)
  | group (text : List Char)
  | quotedGroup (quote : Char) (body : List Char)
  deriving Repr, DecidableEq

namespace ValuePart

def written : ValuePart → List Char
  | char c => [c]
  | quotation quote body => quote :: (body ++ [quote])
  | group text => urlOpening ++ (text ++ [')'])
  | quotedGroup quote body => urlOpening ++ (quote :: (body ++ [quote, ')']))

end ValuePart

/-- The text of a value. -/
def writtenValue (parts : List ValuePart) : List Char :=
  parts.flatMap ValuePart.written

/-- Parts that make a value: no plain character opens a comment or a group with those behind it,
quotations end where they are said to, and a bare text in a group holds no quotes. -/
inductive IsValue : List ValuePart → Prop where
  | nil : IsValue []
  | char {c : Char} {rest : List ValuePart} (hc : isPlain c = true)
      (hcomment : ¬ commentOpening <+: c :: writtenValue rest)
      (hurl : ¬ urlOpening <+: c :: writtenValue rest) (hrest : IsValue rest) :
      IsValue (.char c :: rest)
  | quotation {quote : Char} {body : List Char} {rest : List ValuePart}
      (hquote : isQuote quote = true) (hbody : QuotedText quote body) (hrest : IsValue rest) :
      IsValue (.quotation quote body :: rest)
  | group {text : List Char} {rest : List ValuePart}
      (htext : ∀ c ∈ text, c ≠ ')' ∧ isQuote c = false) (hrest : IsValue rest) :
      IsValue (.group text :: rest)
  | quotedGroup {quote : Char} {body : List Char} {rest : List ValuePart}
      (hquote : isQuote quote = true) (hbody : QuotedText quote body) (hrest : IsValue rest) :
      IsValue (.quotedGroup quote body :: rest)

/-- Whether a backslash stands before a line feed and takes its meaning from it. -/
def escapesBreak : List Char → Bool
  | '\\' :: c :: rest => c = '\n' || escapesBreak rest
  | _ :: rest => escapesBreak rest
  | [] => false

/-- Both readers see the part in the same way. -/
def ValuePart.IsKept : ValuePart → Prop
  | .char _ => True
  | .quotation _ body | .quotedGroup _ body => escapesBreak body = false
  | .group text => ¬ commentOpening <:+: text

variable {s t text body source plain inner after : List Char} {c quote : Char}
  {parts rest : List ValuePart}

/-! ## Quotations without escaped line feeds -/

theorem escapesBreak_cons (h : c ≠ '\\') : escapesBreak (c :: s) = escapesBreak s := by
  rw [escapesBreak]
  rintro _ _ rfl -
  exact h rfl

theorem quotationRest_of_escapesBreak (hbody : QuotedText quote body)
    (h : escapesBreak body = false) : QuotationRest quote (body ++ [quote]) := by
  induction hbody with
  | nil => exact .close
  | plain hne hescape _ ih =>
      rw [escapesBreak_cons hescape] at h
      exact .plain hne hescape (ih h)
  | escape c _ ih =>
      simp only [escapesBreak, Bool.or_eq_false_iff, decide_eq_false_iff_not] at h
      exact .escape h.1 (ih h.2)

theorem escapesBreak_of_quotationRest (hquote : isQuote quote = true)
    (hbody : QuotedText quote body) (h : QuotationRest quote (body ++ [quote])) :
    escapesBreak body = false := by
  have hslash : '\\' ≠ quote := ne_of_isQuote hquote rfl
  induction hbody with
  | nil => rfl
  | @plain c rest hne hescape _ ih =>
      rw [escapesBreak_cons hescape]
      rw [List.cons_append] at h
      generalize rest ++ [quote] = tail at h ih
      cases h with
      | close => exact absurd rfl hne
      | plain _ _ hrest => exact ih hrest
      | escape => exact absurd rfl hescape
  | @escape rest c _ ih =>
      rw [List.cons_append, List.cons_append] at h
      generalize rest ++ [quote] = tail at h ih
      cases h with
      | plain _ hescape => exact absurd rfl hescape
      | escape hbreak hrest => simp [escapesBreak, hbreak, ih hrest]

/-! ## Texts that hold no comments -/

/-- No comment stands where nothing is taken out: a space or a line feed would be left of it. -/
theorem commentGap_append_ne (inner s plain : List Char) :
    commentGap inner ++ plain ≠ commentOpening ++ s := by
  intro h
  obtain ⟨c, rest, hgap⟩ := List.exists_cons_of_ne_nil (commentGap_ne_nil inner)
  have hc : c = ' ' ∨ c = '\n' := mem_commentGap (hgap ▸ List.mem_cons_self)
  rw [hgap, List.cons_append] at h
  obtain ⟨rfl, -⟩ := List.cons.inj h
  rcases hc with hc | hc <;> cases hc

theorem annotates_self_cons (hquote : isQuote c = false) :
    Annotates (c :: s) (c :: s) ↔ ¬ commentOpening <+: c :: s ∧ Annotates s s := by
  constructor
  · intro h
    obtain ⟨source, plain, hsource, hplain, h⟩ : ∃ source plain, source = c :: s ∧
        plain = c :: s ∧ Annotates source plain := ⟨_, _, rfl, rfl, h⟩
    cases h with
    | nil => cases hsource
    | plain _ hcomment hrest =>
        cases hsource
        cases hplain
        exact ⟨hcomment, hrest⟩
    | quotation hopens =>
        cases hsource
        rw [hquote] at hopens
        cases hopens
    | comment => exact absurd (hplain.trans hsource.symm) (commentGap_append_ne _ _ _)
  · rintro ⟨hcomment, hrest⟩
    exact .plain hquote hcomment hrest

theorem annotates_self_char (hquote : isQuote c = false) (hslash : c ≠ '/') :
    Annotates (c :: s) (c :: s) ↔ Annotates s s := by
  rw [annotates_self_cons hquote, and_iff_right (not_commentOpening_of_ne hslash)]

theorem annotates_self_quotation (hquote : isQuote quote = true) (hbody : QuotedText quote body) :
    Annotates (quote :: (body ++ quote :: s)) (quote :: (body ++ quote :: s)) ↔
      escapesBreak body = false ∧ Annotates s s := by
  constructor
  · intro h
    obtain ⟨source, plain, hsource, hplain, h⟩ : ∃ source plain,
        source = quote :: (body ++ quote :: s) ∧ plain = quote :: (body ++ quote :: s) ∧
          Annotates source plain := ⟨_, _, rfl, rfl, h⟩
    cases h with
    | nil => cases hsource
    | plain hplainQuote =>
        cases hsource
        rw [hquote] at hplainQuote
        cases hplainQuote
    | comment => exact absurd (hplain.trans hsource.symm) (commentGap_append_ne _ _ _)
    | @quotation _ inner source plain _ hinner hrest =>
        obtain ⟨rfl, hsource⟩ := List.cons.inj hsource
        obtain ⟨-, hplain⟩ := List.cons.inj hplain
        -- the quotation ends where its body does
        have hfound := closeQuote?_append hquote hinner true source
        rw [hsource, closeQuote?_quotedText hquote hbody] at hfound
        cases hfound
        rw [List.append_assoc, List.append_cancel_left_eq] at hplain
        cases hplain
        exact ⟨escapesBreak_of_quotationRest hquote hbody hinner, hrest⟩
  · rintro ⟨hbreak, hrest⟩
    have h := Annotates.quotation hquote (quotationRest_of_escapesBreak hbody hbreak) hrest
    simpa using h

theorem annotates_self_text (htext : ∀ c ∈ text, isQuote c = false) :
    Annotates (text ++ ')' :: s) (text ++ ')' :: s) ↔
      ¬ commentOpening <:+: text ∧ Annotates s s := by
  induction text with
  | nil =>
      have hopening : ¬ commentOpening <+: ')' :: s := not_commentOpening_of_ne (by decide)
      have hnil : ¬ commentOpening <:+: [] := by simp [commentOpening]
      simp [annotates_self_cons (c := ')') rfl, hopening, hnil]
  | cons c rest ih =>
      obtain ⟨hc, hrest⟩ := List.forall_mem_cons.1 htext
      have hopening : commentOpening <+: c :: (rest ++ ')' :: s) ↔
          commentOpening <+: c :: rest := by
        cases rest <;> simp [commentOpening, List.cons_prefix_cons]
      rw [List.cons_append, annotates_self_cons hc, ih hrest, List.infix_cons_iff, hopening, not_or,
        and_assoc]

/-- Where nothing is taken out and all quotations end, no comment is opened. -/
theorem annotates_self_of_strips (h : Strips source plain) (hsame : plain = source)
    (hquotations : Unquoted source) : Annotates source source := by
  induction h with
  | nil => exact .nil
  | comment => exact absurd hsame (commentGap_append_ne _ _ _)
  | @quotation quote s inner after plain hquote h _ ih =>
      obtain ⟨inner', rest, rfl, hinner, hrest⟩ := hquotations.exists_of_isQuote hquote
      rw [closeQuote?_append hquote hinner] at h
      cases h
      rw [List.cons_inj_right, List.append_cancel_left_eq] at hsame
      exact .quotation hquote hinner (ih hsame hrest)
  | @plain c s plain hcomment h hrest ih =>
      obtain rfl := List.cons_injective hsame
      have hquote := isQuote_eq_false_of_strips hquotations h hrest
      exact .plain hquote hcomment (ih rfl (hquotations.tail hquote))

/-! ## Values in their place -/

/-- The opening of a group opens no comment. -/
theorem annotates_self_group :
    Annotates (urlOpening ++ s) (urlOpening ++ s) ↔ Annotates s s := by
  calc Annotates (urlOpening ++ s) (urlOpening ++ s)
      ↔ Annotates ('r' :: 'l' :: '(' :: s) ('r' :: 'l' :: '(' :: s) :=
        annotates_self_char rfl (by decide)
    _ ↔ Annotates ('l' :: '(' :: s) ('l' :: '(' :: s) := annotates_self_char rfl (by decide)
    _ ↔ Annotates ('(' :: s) ('(' :: s) := annotates_self_char rfl (by decide)
    _ ↔ Annotates s s := annotates_self_char rfl (by decide)

/-- The parts and what stands behind them hold no comment exactly if all parts are kept. -/
theorem IsValue.annotates_iff (h : IsValue parts)
    (hs : ∀ c, s.head? = some c → c ∉ commentOpening.tail) :
    Annotates (writtenValue parts ++ s) (writtenValue parts ++ s) ↔
      (∀ part ∈ parts, part.IsKept) ∧ Annotates s s := by
  have hcons {first : ValuePart} {rest : List ValuePart} {all : Prop}
      (hall : all ↔ first.IsKept ∧
        Annotates (writtenValue rest ++ s) (writtenValue rest ++ s))
      (ih : Annotates (writtenValue rest ++ s) (writtenValue rest ++ s) ↔
        (∀ part ∈ rest, part.IsKept) ∧ Annotates s s) :
      all ↔ (∀ part ∈ first :: rest, part.IsKept) ∧ Annotates s s := by
    rw [List.forall_mem_cons, and_assoc, hall, ih]
  induction h with
  | nil => simp [writtenValue]
  | @char c rest hc hcomment _ _ ih =>
      refine hcons ?_ ih
      have hopening : ¬ commentOpening <+: (c :: writtenValue rest) ++ s :=
        not_isPrefix_append (List.cons_ne_nil c _) hcomment hs
      have hself := annotates_self_cons (s := writtenValue rest ++ s) (isQuote_of_isPlain hc)
      rw [List.cons_append] at hopening
      rw [and_iff_right hopening] at hself
      simpa [writtenValue, ValuePart.written, ValuePart.IsKept] using hself
  | @quotation quote body rest hquote hbody _ ih =>
      refine hcons ?_ ih
      have hself := annotates_self_quotation (s := writtenValue rest ++ s) hquote hbody
      simpa [writtenValue, ValuePart.written, ValuePart.IsKept] using hself
  | @group text rest htext _ ih =>
      refine hcons ?_ ih
      have hself := annotates_self_text (s := writtenValue rest ++ s) fun c hc => (htext c hc).2
      rw [← annotates_self_group] at hself
      simpa [writtenValue, ValuePart.written, ValuePart.IsKept] using hself
  | @quotedGroup quote body rest hquote hbody _ ih =>
      refine hcons ?_ ih
      have hself := annotates_self_quotation (s := ')' :: (writtenValue rest ++ s)) hquote hbody
      rw [← annotates_self_group, annotates_self_char (c := ')') rfl (by decide)] at hself
      simpa [writtenValue, ValuePart.written, ValuePart.IsKept] using hself

/-! ### As a head -/

theorem closeUrl?_text (htext : ∀ c ∈ text, c ≠ ')' ∧ isQuote c = false) (after : List Char) :
    closeUrl? (text ++ ')' :: after) = some (text ++ [')'], after) := by
  induction text with
  | nil => simp [closeUrl?]
  | cons c rest ih =>
      obtain ⟨⟨hclose, hquote⟩, hrest⟩ := List.forall_mem_cons.1 htext
      rw [List.cons_append, closeUrl?]
      · simp [hquote, ih hrest]
      · exact hclose

/-- Before a delimiter, kept parts are pieces of a head. -/
theorem IsValue.pieces (h : IsValue parts) (hkept : ∀ part ∈ parts, part.IsKept) {d : Char}
    {t : Token} (hd : delimiter? d = some t) (after : List Char) :
    pieces (writtenValue parts ++ d :: after) = (writtenValue parts, d :: after) := by
  have hcons {part : ValuePart} {rest : List ValuePart}
      (hpiece : piece? (part.written ++ (writtenValue rest ++ d :: after)) =
        some (part.written, writtenValue rest ++ d :: after))
      (ih : Stylesheet.pieces (writtenValue rest ++ d :: after) = (writtenValue rest, d :: after)) :
      Stylesheet.pieces (writtenValue (part :: rest) ++ d :: after) =
        (writtenValue (part :: rest), d :: after) := by
    rw [writtenValue, List.flatMap_cons, List.append_assoc, ← writtenValue, pieces_of_some hpiece,
      ih]
  induction h with
  | nil => exact pieces_of_none (piece?_delimiter hd)
  | @char c rest hc _ hurl _ ih =>
      refine hcons ?_ (ih (List.forall_mem_cons.1 hkept).2)
      have hopening : ¬ urlOpening <+: (c :: writtenValue rest) ++ d :: after :=
        not_isPrefix_append (List.cons_ne_nil c _) hurl
          fun e he => (severs_of_delimiter hd e he).2
      exact piece?_plain hc hopening
  | @quotation quote body rest hquote hbody _ ih =>
      obtain ⟨hpart, hrest⟩ := List.forall_mem_cons.1 hkept
      exact hcons (piece?_quotation hquote (quotationRest_of_escapesBreak hbody hpart) _) (ih hrest)
  | @group text rest htext _ ih =>
      refine hcons ?_ (ih (List.forall_mem_cons.1 hkept).2)
      simp [piece?, urlOpening, ValuePart.written, urlGroup?, closeUrl?_text htext]
  | @quotedGroup quote body rest hquote hbody _ ih =>
      obtain ⟨hpart, hrest⟩ := List.forall_mem_cons.1 hkept
      refine hcons ?_ (ih hrest)
      have hgroup := GroupRest.quotation hquote (quotationRest_of_escapesBreak hbody hpart) .close
      simpa [ValuePart.written] using piece?_group hgroup (writtenValue rest ++ d :: after)

/-! ## Declared values -/

/-- The stylesheet with one rule that declares the value. -/
def declaring (parts : List ValuePart) : String :=
  ".a\x7bp:" ++ String.ofList (writtenValue parts) ++ "\x7d"

/-- The property and its colon can be taken as parts of the value. -/
def withProperty (parts : List ValuePart) : List ValuePart :=
  .char 'p' :: .char ':' :: parts

theorem toList_declaring (parts : List ValuePart) : (declaring parts).toList =
    ['.', 'a'] ++ '{' :: (writtenValue (withProperty parts) ++ ['}']) := by
  simp [declaring, withProperty, writtenValue, ValuePart.written]

theorem IsValue.cons_property (h : IsValue parts) : IsValue (withProperty parts) := by
  have hcolon : IsValue (.char ':' :: parts) :=
    .char rfl (not_commentOpening_of_ne (by decide)) (not_urlOpening_of_ne (by decide)) h
  exact .char rfl (not_commentOpening_of_ne (by decide)) (not_urlOpening_of_ne (by decide)) hcolon

theorem forall_mem_withProperty :
    (∀ part ∈ withProperty parts, part.IsKept) ↔ ∀ part ∈ parts, part.IsKept := by
  simp [withProperty, ValuePart.IsKept]

/-- The stylesheet holds no comment exactly if all parts of the value are kept. -/
theorem IsValue.annotates_declaring_iff (h : IsValue parts) :
    Annotates (declaring parts).toList (declaring parts).toList ↔
      ∀ part ∈ parts, part.IsKept := by
  have hend : Annotates ['}'] ['}'] := (annotates_self_char rfl (by decide)).2 .nil
  rw [toList_declaring, List.cons_append, annotates_self_char rfl (by decide),
    List.singleton_append, annotates_self_char rfl (by decide),
    annotates_self_char rfl (by decide), h.cons_property.annotates_iff (by simp [commentOpening]),
    and_iff_left hend, forall_mem_withProperty]

/-- The block of the rule holds one text, the property and its value. -/
theorem IsValue.nest (h : IsValue parts) (hkept : ∀ part ∈ parts, part.IsKept) :
    Stylesheet.nest (declaring parts).toList =
      .ok [.block ['.', 'a'] .start [.text (writtenValue (withProperty parts)) ⟨3, 1, 4⟩]] := by
  have hselector : head? (['.', 'a'] ++ '{' :: (writtenValue (withProperty parts) ++ ['}'])) =
      some (['.', 'a'], '{' :: (writtenValue (withProperty parts) ++ ['}'])) :=
    head?_append rfl ⟨'.', ['a'], rfl, by decide⟩ (safeText_of_all rfl)
  have hvalue : head? (writtenValue (withProperty parts) ++ ['}']) =
      some (writtenValue (withProperty parts), ['}']) :=
    head?_of_pieces ⟨'p', _, rfl, by decide⟩
      (h.cons_property.pieces (forall_mem_withProperty.2 hkept) (d := '}') rfl [])
  have htokens := tokenize_of_head? (p := .start) hselector
  rw [tokenize_delimiter rfl rfl, tokenize_of_head? hvalue, tokenize_delimiter rfl rfl,
    tokenize_nil] at htokens
  rw [toList_declaring, Stylesheet.nest, htokens]
  rfl

/-- A comment that is taken out takes stars with it. -/
theorem eq_or_count_of_strips (h : Strips source plain) :
    plain = source ∨ plain.count '*' < source.count '*' := by
  induction h with
  | nil => exact .inl rfl
  | @comment s inner after plain h _ ih =>
      right
      have hgap : (commentGap inner).count '*' = 0 := by
        rw [List.count_eq_zero]
        intro hstar
        rcases mem_commentGap hstar with hc | hc <;> cases hc
      have hle : plain.count '*' ≤ after.count '*' := by
        rcases ih with rfl | hlt
        · exact Nat.le_refl _
        · exact Nat.le_of_lt hlt
      rw [List.count_append, List.count_append, hgap, ← append_of_closeComment? h,
        List.count_append]
      have hopening : commentOpening.count '*' = 1 := rfl
      omega
  | @quotation quote s inner after plain _ h _ ih =>
      rw [← append_of_closeQuote? h]
      rcases ih with rfl | hlt
      · exact .inl rfl
      · right
        rw [← List.cons_append, ← List.cons_append, List.count_append, List.count_append]
        omega
  | @plain c s plain _ _ _ ih =>
      rcases ih with rfl | hlt
      · exact .inl rfl
      · right
        rw [List.count_cons, List.count_cons]
        omega

theorem infix_of_head? {text after : List Char} (h : head? s = some (text, after)) : text <:+: s :=
  ⟨[], after, append_of_head? h⟩

/-- A rule that declares the value shows that no part of it was taken out, and so nothing at all:
the stars of the text all stand in the value. -/
theorem IsValue.forall_isKept (h : IsValue parts) {placed : List Placed} {n : Nesting}
    {rules : List Rule} {rule : Rule} {d : Declaration}
    (hreads : Reads (declaring parts).toList plain placed n rules) (hrule : rule ∈ rules)
    (hd : d ∈ rule.declarations) (hvalue : d.value.toList = writtenValue parts) :
    ∀ part ∈ parts, part.IsKept := by
  obtain ⟨text, htext, hin⟩ := (hreads.exists_head hrule).2 d hd
  obtain ⟨rest, after, hrest, hhead⟩ := hreads.exists_of_head htext
  have hsub : writtenValue parts <:+: plain := by
    rw [← hvalue]
    exact hin.trans ((infix_of_head? hhead).trans hrest.isInfix)
  have hstars : (declaring parts).toList.count '*' = (writtenValue parts).count '*' := by
    simp [declaring]
  have hsame : plain = (declaring parts).toList := by
    rcases eq_or_count_of_strips hreads.strips with hsame | hlt
    · exact hsame
    · have hle := hsub.sublist.count_le '*'
      omega
  have hquotations : Unquoted plain := unquoted_of_tokenize (by rw [hreads.tokens])
  rw [← h.annotates_declaring_iff]
  exact annotates_self_of_strips hreads.strips hsame (hsame ▸ hquotations)

/-- Where all parts are kept, the rule declares the value. -/
theorem IsValue.parse_declaring (h : IsValue parts) (htrimmed : IsTrimmed (writtenValue parts))
    (hkept : ∀ part ∈ parts, part.IsKept) : parse (declaring parts) =
      .ok ⟨[.style [".a"] [⟨"p", String.ofList (writtenValue parts)⟩] [] 1]⟩ := by
  have hstrips : Strips (declaring parts).toList (declaring parts).toList :=
    strips_of_stripComments
      (stripComments_of_annotates (h.annotates_declaring_iff.2 hkept) 1)
  have hdeclaration : declaration (writtenValue (withProperty parts)) 1 =
      .ok ⟨"p", String.ofList (writtenValue parts)⟩ := by
    have hproperty : ':' ∉ ['p'] := by decide
    have happend := declaration_append hproperty (by decide) (writtenValue parts) 1
    rw [trim_of_isTrimmed htrimmed] at happend
    exact happend
  refine parse_of_nest hstrips (h.nest hkept) ?_
  have hrule (declarations : List Declaration) : blockRule ['.', 'a'] 1 declarations [] =
      .ok (.style [".a"] declarations [] 1) := rfl
  simp [List.mapM_cons, topRule, contents, content, hdeclaration, hrule, Position.start, bind,
    Except.bind, pure, Except.pure]

/-- Both readers agree on where the parts of a declared value end exactly if no backslash in a
quotation stands before a line feed and no comment is opened in a group. Then the value is kept as
it is written, and otherwise it is not. -/
theorem value_is_kept_iff {parts : List ValuePart} (h : IsValue parts)
    (htrimmed : IsTrimmed (writtenValue parts)) :
    ((∃ sheet, parse (declaring parts) = .ok sheet ∧
        sheet.rules.map Rule.declarations = [[⟨"p", String.ofList (writtenValue parts)⟩]]) ↔
      ∀ part ∈ parts, part.IsKept) ∧
    ((∀ part ∈ parts, part.IsKept) → parse (declaring parts) =
      .ok ⟨[.style [".a"] [⟨"p", String.ofList (writtenValue parts)⟩] [] 1]⟩) := by
  refine ⟨⟨?_, fun hkept => ⟨_, h.parse_declaring htrimmed hkept, rfl⟩⟩,
    h.parse_declaring htrimmed⟩
  rintro ⟨sheet, hsheet, hmade⟩
  obtain ⟨plain, placed, n, hreads⟩ := exists_reads_of_parse hsheet
  obtain ⟨rule, rest, hrules, hrule, -⟩ := List.map_eq_cons_iff.1 hmade
  refine h.forall_isKept hreads (hrules ▸ List.mem_cons_self) (hrule ▸ List.mem_cons_self) ?_
  exact String.toList_ofList

/-- A quotation with a brace and an escaped quote, a group with a semicolon, and a quoted group with
a parenthesis. -/
def mixedValue : List ValuePart :=
  [.quotation '"' ['{', '\\', '"'], .char ' ', .group ['a', ';'], .char ' ',
    .quotedGroup '\'' [')']]

theorem value_is_kept_iff_sample : parse (declaring mixedValue) =
    .ok ⟨[.style [".a"] [⟨"p", "\"\x7b\\\"\" url(a;) url(')')"⟩] [] 1]⟩ := by
  have hspace {rest : List ValuePart} (h : IsValue rest) : IsValue (.char ' ' :: rest) :=
    .char rfl (not_commentOpening_of_ne (by decide)) (not_urlOpening_of_ne (by decide)) h
  have hvalue : IsValue mixedValue := by
    refine .quotation rfl (.plain (by decide) (by decide) (.escape '"' .nil)) (hspace ?_)
    refine .group (by simp [isQuote]) (hspace ?_)
    exact .quotedGroup rfl (.plain (by decide) (by decide) .nil) .nil
  have hkept : ∀ part ∈ mixedValue, part.IsKept := by
    simp [mixedValue, ValuePart.IsKept, escapesBreak]
    decide
  exact (value_is_kept_iff hvalue (by decide)).2 hkept

/-- A line feed behind a backslash, in a quotation. -/
def brokenValue : List ValuePart :=
  [.quotation '"' ['x', '\\', '\n', 'y']]

/-- The opening of a comment, in a group. -/
def starredValue : List ValuePart :=
  [.group ['a', '/', '*', 'b', '*', '/', 'c']]

/-- The first value is refused, and the second one is cut. -/
theorem broken_and_starred_values_are_not_kept :
    IsValue brokenValue ∧ IsTrimmed (writtenValue brokenValue) ∧
      declaring brokenValue = ".a\x7bp:\"x\\\ny\"\x7d" ∧
      (¬ ∃ sheet, parse (declaring brokenValue) = .ok sheet) ∧
    IsValue starredValue ∧ IsTrimmed (writtenValue starredValue) ∧
      declaring starredValue = ".a\x7bp:url(a/*b*/c)\x7d" ∧
      ∃ sheet, parse (declaring starredValue) = .ok sheet ∧
        sheet.rules.map Rule.declarations = [[⟨"p", "url(a c)"⟩]] := by
  have hbroken : declaring brokenValue = ".a\x7bp:\"x\\\ny\"\x7d" := rfl
  have hstarred : declaring starredValue = ".a\x7bp:url(a/*b*/c)\x7d" := rfl
  refine ⟨?_, by decide, hbroken, ?_, .group (by simp [isQuote]) .nil, by decide, hstarred, ?_⟩
  · exact .quotation rfl (.plain (by decide) (by decide) (.escape '\n'
      (.plain (by decide) (by decide) .nil))) .nil
  · rintro ⟨sheet, hsheet⟩
    have hnone : (parse ".a\x7bp:\"x\\\ny\"\x7d").toOption.isNone = true := by decide +kernel
    rw [← hbroken, hsheet] at hnone
    cases hnone
  · rw [hstarred]
    have hvalue : ((parse ".a\x7bp:url(a/*b*/c)\x7d").toOption.map fun sheet =>
        sheet.rules.map Rule.declarations) = some [[⟨"p", "url(a c)"⟩]] := by
      decide +kernel
    exact exists_of_toOption_map hvalue

end StyleUsage.Stylesheet
