import StyleUsage.Proofs.Stylesheet.Heads
import StyleUsage.Proofs.Stylesheet.Recovery

/-!
# Escaped characters in selectors

A list of selectors is taken apart with an eye to its backslashes. The readers of comments and of
tokens know backslashes in quotations alone: outside of these, an escaped quote, brace or semicolon
is what it is without its backslash. So a list with escapes heads a block exactly if it holds none
of them, whatever brackets and commas are escaped in it.
-/

namespace StyleUsage.Stylesheet

open StyleUsage.Text

/-- A text in which quotes, braces, semicolons and brackets stand right behind backslashes alone,
and in one selector commas too. No backslash stands at its end or takes its meaning from a blank. -/
inductive EscapedText : (isList : Bool) → List Char → Prop where
  | nil {isList : Bool} : EscapedText isList []
  | plain {isList : Bool} {c : Char} {rest : List Char} (hc : isBracketless c = true)
      (hdelimiter : delimiter? c = none) (hcomma : c = ',' → isList = true)
      (hrest : EscapedText isList rest) : EscapedText isList (c :: rest)
  | escape {isList : Bool} {c : Char} {rest : List Char} (hblank : isBlank c = false)
      (hrest : EscapedText isList rest) : EscapedText isList ('\\' :: c :: rest)

/-- Reads the escapes of a text. -/
def checkEscapes (isList : Bool) : List Char → Bool
  | [] => true
  | '\\' :: c :: rest => !isBlank c && checkEscapes isList rest
  | c :: rest => isBracketless c && (delimiter? c).isNone && (c ≠ ',' || isList) &&
      checkEscapes isList rest

theorem checkEscapes_iff {isList : Bool} {s : List Char} :
    checkEscapes isList s = true ↔ EscapedText isList s := by
  constructor
  · intro h
    fun_induction checkEscapes isList s with
    | case1 => exact .nil
    | case2 c rest ih =>
        rw [Bool.and_eq_true, Bool.not_eq_true'] at h
        exact .escape h.1 (ih h.2)
    | case3 c rest _ ih =>
        simp only [Bool.and_eq_true, Option.isNone_iff_eq_none, Bool.or_eq_true,
          decide_eq_true_eq] at h
        exact .plain h.1.1.1 h.1.1.2 (fun hc => h.1.2.resolve_left (not_not_intro hc)) (ih h.2)
  · intro h
    induction h with
    | nil => rfl
    | @plain c rest hc hdelimiter hcomma _ ih =>
        rw [checkEscapes]
        · simpa [hc, hdelimiter, ih, imp_iff_not_or] using hcomma
        · rintro _ _ rfl -
          cases hc
    | escape hblank _ ih => simp [checkEscapes, hblank, ih]

instance (isList : Bool) (s : List Char) : Decidable (EscapedText isList s) :=
  decidable_of_iff _ checkEscapes_iff

/-- A selector whose special characters are escaped. -/
structure IsEscapedSelector (s : List Char) : Prop where
  trimmed : IsTrimmed s
  nonempty : s ≠ []
  escaped : EscapedText false s

variable {s t text after source plain : List Char} {c quote : Char} {isList : Bool} {depth : Nat}
  {selectors : List (List Char)}

/-! ## Lists of selectors with escapes -/

theorem EscapedText.append (hs : EscapedText isList s) (ht : EscapedText isList t) :
    EscapedText isList (s ++ t) := by
  induction hs with
  | nil => exact ht
  | plain hc hdelimiter hcomma _ ih => exact .plain hc hdelimiter hcomma ih
  | escape hblank _ ih => exact .escape hblank ih

theorem EscapedText.inList (h : EscapedText isList s) : EscapedText true s := by
  induction h with
  | nil => exact .nil
  | plain hc hdelimiter _ _ ih => exact .plain hc hdelimiter (fun _ => rfl) ih
  | escape hblank _ ih => exact .escape hblank ih

theorem EscapedText.intercalate (h : ∀ s ∈ selectors, EscapedText false s) :
    EscapedText true ([',', ' '].intercalate selectors) := by
  have hcomma : EscapedText true [',', ' '] :=
    .plain (by decide) rfl (fun _ => rfl) (.plain (by decide) rfl (fun _ => rfl) .nil)
  induction selectors with
  | nil => exact .nil
  | cons s rest ih =>
      obtain ⟨hs, hrest⟩ := List.forall_mem_cons.1 h
      by_cases hnil : rest = []
      · rw [hnil, List.intercalate_singleton]
        exact hs.inList
      · rw [List.intercalate_cons_of_ne_nil hnil]
        exact (hs.inList.append hcomma).append (ih hrest)

/-- A scan that meets escapes on its way ends as it started. -/
theorem EscapedText.passes (h : EscapedText false s) :
    Passes (.inside depth) s (.inside depth) := by
  induction h with
  | nil => exact .nil
  | plain hc _ hcomma _ ih =>
      exact .cons (separates_of_ne (by simpa using hcomma) _) (next_bracketless hc) ih
  | escape _ _ ih =>
      refine .cons (separates_of_ne (by decide) _) rfl (.cons ?_ ?_ ih)
      · simp [SelectorScan.separates, SelectorScan.next]
      · simp [SelectorScan.next]

theorem IsEscapedSelector.isUndivided (h : IsEscapedSelector s) : IsUndivided s :=
  ⟨h.trimmed, h.nonempty, h.escaped.passes⟩

theorem Enumerates.cons_blank (hc : isBlank c = true) (h : Enumerates selectors text) :
    Enumerates selectors (c :: text) := by
  have hpadded {s padded : List Char} (h : IsPadded s padded) : IsPadded s (c :: padded) := by
    obtain ⟨pre, post, hpre, hpost, rfl⟩ := h
    exact ⟨c :: pre, post, List.forall_mem_cons.2 ⟨hc, hpre⟩, hpost, rfl⟩
  cases h with
  | last h => exact .last (hpadded h)
  | more h hrest => exact .more (hpadded h) hrest

theorem enumerates_intercalate (hne : selectors ≠ []) :
    Enumerates selectors ([',', ' '].intercalate selectors) := by
  have hself (s : List Char) : IsPadded s s :=
    ⟨[], [], by simp [AllBlank], by simp [AllBlank], by simp⟩
  induction selectors with
  | nil => exact absurd rfl hne
  | cons s rest ih =>
      by_cases hnil : rest = []
      · rw [hnil, List.intercalate_singleton]
        exact .last (hself s)
      · rw [List.intercalate_cons_of_ne_nil hnil]
        have hmore := Enumerates.more (hself s) ((ih hnil).cons_blank (c := ' ') (by decide))
        simpa using hmore

/-! ## Quotes behind backslashes -/

theorem of_isBracketless (h : isBracketless c = true) : isQuote c = false ∧ c ≠ '\\' := by
  simp only [isBracketless, Bool.and_eq_true, Bool.not_eq_true', decide_eq_true_eq, List.mem_cons,
    not_or] at h
  exact ⟨h.1, h.2.1⟩

/-- No quotation ends in a text whose quotes are all escaped. -/
theorem EscapedText.ends_eq_false (h : EscapedText isList s) (hquote : isQuote quote = true)
    (ht : ends quote false t = false) : ends quote false (s ++ t) = false := by
  have hslash : '\\' ≠ quote := ne_of_isQuote hquote (by decide)
  induction h with
  | nil => exact ht
  | plain hc _ _ _ ih =>
      obtain ⟨hplain, hescape⟩ := of_isBracketless hc
      simp [ends, ne_of_isQuote hquote hplain, hescape, ih]
  | escape _ _ ih => simp [ends, hslash, ih]

/-- Behind an escaped quote all quotes are escaped, so a quotation would have no end. -/
theorem EscapedText.isQuote_eq_false (h : EscapedText isList s)
    (ht : ∀ quote, isQuote quote = true → ends quote false t = false)
    (hquotations : Unquoted (s ++ t)) : ∀ c ∈ s, isQuote c = false := by
  induction h with
  | nil => simp
  | plain hc _ _ _ ih =>
      obtain ⟨hplain, -⟩ := of_isBracketless hc
      exact List.forall_mem_cons.2 ⟨hplain, ih (hquotations.tail hplain)⟩
  | @escape c rest _ hrest ih =>
      have hbehind : Unquoted (c :: (rest ++ t)) := hquotations.tail rfl
      have hplain : isQuote c = false := by
        cases hc : isQuote c with
        | false => rfl
        | true =>
            obtain ⟨inner, after, heq, hinner, -⟩ := hbehind.exists_of_isQuote hc
            have hsome := closeQuote?_append hc hinner true after
            have hends := hrest.ends_eq_false hc (ht c hc)
            rw [heq, ← isSome_closeQuote?, hsome] at hends
            cases hends
      exact List.forall_mem_cons.2 ⟨rfl, List.forall_mem_cons.2 ⟨hplain, ih (hbehind.tail hplain)⟩⟩

/-! ## Texts without comments, quotations and groups -/

/-- A text that holds no quotes, braces and semicolons. -/
def IsMarkless (s : List Char) : Prop :=
  ∀ c ∈ s, isQuote c = false ∧ delimiter? c = none

theorem isMarkless_iff :
    IsMarkless s ↔ (s.all fun c => !isQuote c && (delimiter? c).isNone) = true := by
  simp [IsMarkless]

instance (s : List Char) : Decidable (IsMarkless s) :=
  decidable_of_iff _ isMarkless_iff.symm

/-- Where no comment is opened there is none to take out. -/
theorem eq_of_strips (h : Strips source plain) (hcomment : ¬ commentOpening <:+: source) :
    plain = source := by
  induction h with
  | nil => rfl
  | comment => exact absurd (List.prefix_append _ _).isInfix hcomment
  | @quotation quote s inner after plain _ h _ ih =>
      have hafter : after <:+ quote :: s :=
        ⟨quote :: inner, congrArg (quote :: ·) (append_of_closeQuote? h)⟩
      rw [ih fun hin => hcomment (hin.trans hafter.isInfix), append_of_closeQuote? h]
  | @plain c s plain _ _ _ ih =>
      rw [ih fun hin => hcomment (hin.trans (List.suffix_cons c s).isInfix)]

theorem strips_self (hquote : ∀ c ∈ s, isQuote c = false) (hcomment : ¬ commentOpening <:+: s) :
    Strips s s := by
  induction s with
  | nil => exact .nil
  | cons c rest ih =>
      obtain ⟨hc, hrest⟩ := List.forall_mem_cons.1 hquote
      rw [List.infix_cons_iff, not_or] at hcomment
      exact .plain hcomment.1 (by simp [quotation?, hc]) (ih hrest hcomment.2)

/-- What is no opening stays none before characters that occur in no opening. -/
theorem not_infix_append {opening : List Char} (hne : opening ≠ []) (hs : ¬ opening <:+: s)
    (ht : ∀ c ∈ t, c ∉ opening) : ¬ opening <:+: s ++ t := by
  induction s with
  | nil =>
      intro h
      obtain ⟨c, hc⟩ := List.exists_mem_of_ne_nil opening hne
      exact ht c (h.subset hc) hc
  | cons c rest ih =>
      rw [List.infix_cons_iff, not_or] at hs
      rw [List.cons_append, List.infix_cons_iff, not_or]
      refine ⟨?_, ih hs.2⟩
      have hafter (d : Char) (hd : t.head? = some d) : d ∉ opening.tail := by
        intro hmem
        exact ht d (List.mem_of_mem_head? hd) (List.mem_of_mem_tail hmem)
      exact not_isPrefix_append (List.cons_ne_nil c rest) hs.1 hafter

/-- Outside of quotations and groups no piece holds a delimiter. -/
theorem delimiter?_of_piece? (hquote : ∀ c ∈ s, isQuote c = false) (hurl : ¬ urlOpening <:+: s)
    {piece : List Char} (h : piece? s = some (piece, after)) :
    ∀ c ∈ piece, delimiter? c = none := by
  have hprefix : ¬ urlOpening <+: s := fun hin => hurl hin.isInfix
  rw [piece?, urlGroup?_eq_none hprefix, Option.none_or] at h
  cases s with
  | nil => cases h
  | cons c rest =>
      have hc := hquote c List.mem_cons_self
      cases hdelimiter : delimiter? c with
      | some t => simp [simplePiece?, hc, hdelimiter] at h
      | none =>
          simp only [simplePiece?, hc, hdelimiter, Bool.false_eq_true, if_false, Option.isSome_none,
            Option.some.injEq, Prod.mk.injEq] at h
          rw [← h.1]
          simpa using hdelimiter

theorem delimiter?_of_mem_pieces (hquote : ∀ c ∈ s, isQuote c = false)
    (hurl : ¬ urlOpening <:+: s) : ∀ c ∈ (pieces s).1, delimiter? c = none := by
  fun_induction pieces s with
  | case1 => simp
  | case2 s piece after h _ more rest heq ih =>
      have hafter : after <:+ s := ⟨piece, (append_of_piece? h).1⟩
      rw [heq] at ih
      have hmore := ih (fun c hc => hquote c (hafter.subset hc))
        fun hin => hurl (hin.trans hafter.isInfix)
      intro c hc
      rcases List.mem_append.1 hc with hc | hc
      · exact delimiter?_of_piece? hquote hurl h c hc
      · exact hmore c hc

theorem IsMarkless.pieces {d : Char} {t : Token} (h : IsMarkless s) (hurl : ¬ urlOpening <:+: s)
    (hd : delimiter? d = some t) (after : List Char) :
    Stylesheet.pieces (s ++ d :: after) = (s, d :: after) := by
  induction s with
  | nil => exact pieces_of_none (piece?_delimiter hd)
  | cons c rest ih =>
      obtain ⟨⟨hquote, hdelimiter⟩, hrest⟩ := List.forall_mem_cons.1 h
      rw [List.infix_cons_iff, not_or] at hurl
      have hopening : ¬ urlOpening <+: (c :: rest) ++ d :: after :=
        not_isPrefix_append (List.cons_ne_nil c rest) hurl.1
          fun e he => (severs_of_delimiter hd e he).2
      rw [List.cons_append] at hopening ⊢
      rw [pieces_of_some (piece?_char hquote hdelimiter hopening), ih hrest hurl.2]
      rfl

/-! ## Lists that head a block -/

theorem IsMarkless.nest (h : IsMarkless s) (hstart : StartsInk s) (hurl : ¬ urlOpening <:+: s) :
    Stylesheet.nest (s ++ ['{', '}']) = .ok [.block s .start []] := by
  have hhead : head? (s ++ ['{', '}']) = some (s, ['{', '}']) :=
    head?_of_pieces hstart (h.pieces hurl rfl ['}'])
  have htokens : tokenize .start (s ++ ['{', '}']) = _ := tokenize_of_head? hhead
  rw [tokenize_delimiter rfl rfl, tokenize_delimiter rfl rfl, tokenize_nil] at htokens
  rw [Stylesheet.nest, htokens]
  rfl

/-- In a text without groups, a selector of a rule holds no delimiter if there are no quotes. -/
theorem Reads.delimiter?_eq_none {placed : List Placed} {n : Nesting} {rules : List Rule}
    {rule : Rule} (h : Reads source plain placed n rules) (hquote : ∀ c ∈ plain, isQuote c = false)
    (hurl : ¬ urlOpening <:+: plain) (hrule : rule ∈ rules) {selector : String}
    (hselector : selector ∈ rule.selectors) : ∀ c ∈ selector.toList, delimiter? c = none := by
  obtain ⟨text, htext, hin⟩ := (h.exists_head hrule).1 selector hselector
  obtain ⟨rest, after, hrest, hhead⟩ := h.exists_of_head htext
  have hclean := delimiter?_of_mem_pieces (fun c hc => hquote c (hrest.subset hc))
    fun hopening => hurl (hopening.trans hrest.isInfix)
  rw [pieces_of_head? hhead] at hclean
  exact fun c hc => hclean c (hin.subset hc)

theorem forall_mem_intercalate {α : Type} {P : α → Prop} {sep : List α} {l : List (List α)}
    (hsep : ∀ a ∈ sep, P a) (h : ∀ part ∈ l, ∀ a ∈ part, P a) : ∀ a ∈ sep.intercalate l, P a := by
  induction l with
  | nil => simp
  | cons part rest ih =>
      obtain ⟨hpart, hrest⟩ := List.forall_mem_cons.1 h
      by_cases hnil : rest = []
      · rw [hnil, List.intercalate_singleton]
        exact hpart
      · rw [List.intercalate_cons_of_ne_nil hnil]
        simp only [List.forall_mem_append]
        exact ⟨⟨hpart, hsep⟩, ih hrest⟩

/-- The selectors with a comma and a space between them. -/
def listed (selectors : List String) : String :=
  ", ".intercalate selectors

/-- Selectors with escapes, in a list that looks like no at-rule and opens no comment and no
group. -/
structure IsEscapedList (selectors : List String) : Prop where
  nonempty : selectors ≠ []
  escaped : ∀ s ∈ selectors, IsEscapedSelector s.toList
  unnamed : (listed selectors).toList.head? ≠ some '@'
  uncommented : ¬ commentOpening <:+: (listed selectors).toList
  ungrouped : ¬ urlOpening <:+: (listed selectors).toList

section
variable {selectors : List String} (h : IsEscapedList selectors)

theorem toList_listed (selectors : List String) :
    (listed selectors).toList = [',', ' '].intercalate (selectors.map String.toList) :=
  String.toList_intercalate

include h

theorem IsEscapedList.isUndivided : ∀ s ∈ selectors, IsUndivided s.toList :=
  fun s hs => (h.escaped s hs).isUndivided

theorem IsEscapedList.enumerates :
    Enumerates (selectors.map String.toList) (listed selectors).toList := by
  rw [toList_listed]
  exact enumerates_intercalate (by simpa using h.nonempty)

/-- The list starts with its first selector. -/
theorem IsEscapedList.exists_first : ∃ s rest, selectors.head? = some s ∧
    (listed selectors).toList = s.toList ++ rest ∧ IsEscapedSelector s.toList := by
  obtain ⟨s, others, rfl⟩ := List.exists_cons_of_ne_nil h.nonempty
  have hs := h.escaped s List.mem_cons_self
  rw [toList_listed, List.map_cons]
  by_cases hnil : others = []
  · rw [hnil]
    exact ⟨s, [], rfl, by rw [List.map_nil, List.intercalate_singleton, List.append_nil], hs⟩
  · rw [List.intercalate_cons_of_ne_nil (by simpa using hnil), List.append_assoc]
    exact ⟨s, _, rfl, rfl, hs⟩

theorem IsEscapedList.startsInk : StartsInk (listed selectors).toList := by
  obtain ⟨s, rest, -, hlist, hs⟩ := h.exists_first
  obtain ⟨c, more, hcons⟩ := List.exists_cons_of_ne_nil hs.nonempty
  refine ⟨c, more ++ rest, by rw [hlist, hcons]; rfl, hs.trimmed.first c ?_⟩
  rw [hcons]
  rfl

theorem IsEscapedList.selectorsOf_listed : selectorsOf (listed selectors) = selectors := by
  have hsplit := splitSelectors_of_enumerates (by simpa using h.isUndivided) h.enumerates
  rw [selectorsOf, hsplit]
  simp

/-- Where no mark is escaped, the list is one head. -/
theorem IsEscapedList.parse_listed (hclean : IsMarkless (listed selectors).toList) :
    parse (listed selectors ++ "\x7b\x7d") = .ok ⟨[.style selectors [] [] 1]⟩ := by
  have hcomment : ¬ commentOpening <:+: (listed selectors).toList ++ ['{', '}'] :=
    not_infix_append (by simp [commentOpening]) h.uncommented (by simp [commentOpening])
  have hquote : ∀ c ∈ (listed selectors).toList ++ ['{', '}'], isQuote c = false := by
    rw [List.forall_mem_append]
    exact ⟨fun c hc => (hclean c hc).1, by simp [isQuote]⟩
  have hat (s : String) (hs : selectors.head? = some s) : s.toList.head? ≠ some '@' := by
    obtain ⟨first, rest, hfirst, hlist, hescaped⟩ := h.exists_first
    obtain rfl : first = s := Option.some.inj (hfirst.symm.trans hs)
    have hunnamed := h.unnamed
    rwa [hlist, List.head?_append_of_ne_nil _ hescaped.nonempty] at hunnamed
  have hrule := blockRule_style h.nonempty h.isUndivided hat h.enumerates 1 [] []
  have hsource : (listed selectors ++ "\x7b\x7d").toList =
      (listed selectors).toList ++ ['{', '}'] := String.toList_append
  have hstrips := strips_self hquote hcomment
  rw [← hsource] at hstrips
  refine parse_of_nest hstrips (hsource ▸ hclean.nest h.startsInk h.ungrouped) ?_
  simp [List.mapM_cons, topRule, contents, hrule, Position.start, bind, Except.bind, pure,
    Except.pure]

/-- A rule with the selectors of the list shows that no mark is escaped there: a quote would open
a quotation without an end, and a brace or a semicolon would end the head that the selector
stands in. -/
theorem IsEscapedList.isMarkless {plain : List Char} {placed : List Placed} {n : Nesting}
    {rules : List Rule} {rule : Rule}
    (hreads : Reads ((listed selectors).toList ++ ['{', '}']) plain placed n rules)
    (hrule : rule ∈ rules) (hmade : rule.selectors = selectors) :
    IsMarkless (listed selectors).toList := by
  have hcomment : ¬ commentOpening <:+: (listed selectors).toList ++ ['{', '}'] :=
    not_infix_append (by simp [commentOpening]) h.uncommented (by simp [commentOpening])
  obtain rfl := eq_of_strips hreads.strips hcomment
  have hescaped : EscapedText true (listed selectors).toList := by
    rw [toList_listed]
    exact .intercalate (by simpa using fun s hs => (h.escaped s hs).escaped)
  have hends (quote : Char) (hquote : isQuote quote = true) :
      ends quote false ['{', '}'] = false := by
    simp [ends, ne_of_isQuote hquote (c := '{') rfl, ne_of_isQuote hquote (c := '}') rfl]
  have hquotes : ∀ c ∈ (listed selectors).toList, isQuote c = false :=
    hescaped.isQuote_eq_false hends (unquoted_of_tokenize (by rw [hreads.tokens]))
  have hdelimiters : ∀ c ∈ (listed selectors).toList, delimiter? c = none := by
    rw [toList_listed]
    refine forall_mem_intercalate (by simp [delimiter?]) ?_
    intro part hpart
    obtain ⟨selector, hselector, rfl⟩ := List.mem_map.1 hpart
    refine hreads.delimiter?_eq_none ?_ ?_ hrule (hmade ▸ hselector)
    · rw [List.forall_mem_append]
      exact ⟨hquotes, by simp [isQuote]⟩
    · exact not_infix_append (by simp [urlOpening]) h.ungrouped (by simp [urlOpening])
  exact fun c hc => ⟨hquotes c hc, hdelimiters c hc⟩

end

/-- A list of selectors with escapes is taken apart where it was put together. It heads a block,
and the rule has these selectors, exactly if no quote, brace or semicolon is escaped in it. -/
theorem selectors_of_escaped_iff {selectors : List String} (h : IsEscapedList selectors) :
    selectorsOf (listed selectors) = selectors ∧
    ((∃ sheet, parse (listed selectors ++ "\x7b\x7d") = .ok sheet ∧
        sheet.rules.map Rule.selectors = [selectors]) ↔ IsMarkless (listed selectors).toList) ∧
    (IsMarkless (listed selectors).toList →
      parse (listed selectors ++ "\x7b\x7d") = .ok ⟨[.style selectors [] [] 1]⟩) := by
  refine ⟨h.selectorsOf_listed, ⟨?_, fun hclean => ⟨_, h.parse_listed hclean, rfl⟩⟩, h.parse_listed⟩
  rintro ⟨sheet, hsheet, hmade⟩
  obtain ⟨plain, placed, n, hreads⟩ := exists_reads_of_parse hsheet
  obtain ⟨rule, rest, hrules, hrule, -⟩ := List.map_eq_cons_iff.1 hmade
  rw [String.toList_append] at hreads
  exact h.isMarkless hreads (hrules ▸ List.mem_cons_self) hrule

theorem selectors_of_escaped_iff_sample :
    parse (listed ["a\\[b\\,c\\]", ".d"] ++ "\x7b\x7d") =
      .ok ⟨[.style ["a\\[b\\,c\\]", ".d"] [] [] 1]⟩ := by
  have h : IsEscapedList ["a\\[b\\,c\\]", ".d"] := by
    refine ⟨by simp, ?_, by decide +kernel, by decide +kernel, by decide +kernel⟩
    intro s hs
    rcases List.mem_cons.1 hs with rfl | hs
    · exact ⟨by decide +kernel, by decide +kernel, by decide +kernel⟩
    · obtain rfl := List.mem_singleton.1 hs
      exact ⟨by decide +kernel, by decide +kernel, by decide +kernel⟩
  have hclean : IsMarkless (listed ["a\\[b\\,c\\]", ".d"]).toList := by decide +kernel
  exact (selectors_of_escaped_iff h).2.2 hclean

/-- A quote is not read as part of its selector where a backslash stands before it. -/
theorem escaped_quote_is_stray :
    IsEscapedList [".content-\\[\\'x\\'\\]"] ∧
      selectorsOf (listed [".content-\\[\\'x\\'\\]"]) = [".content-\\[\\'x\\'\\]"] ∧
      ¬ ∃ sheet, parse (listed [".content-\\[\\'x\\'\\]"] ++ "\x7b\x7d") = .ok sheet := by
  refine ⟨?_, by decide +kernel, ?_⟩
  · refine ⟨by simp, ?_, by decide +kernel, by decide +kernel, by decide +kernel⟩
    intro s hs
    obtain rfl := List.mem_singleton.1 hs
    exact ⟨by decide +kernel, by decide +kernel, by decide +kernel⟩
  · rintro ⟨sheet, hsheet⟩
    have hsource : listed [".content-\\[\\'x\\'\\]"] ++ "\x7b\x7d" =
        ".content-\\[\\'x\\'\\]\x7b\x7d" := by
      simp [listed]
    have hnone : (parse ".content-\\[\\'x\\'\\]\x7b\x7d").toOption.isNone = true := by
      decide +kernel
    rw [← hsource, hsheet] at hnone
    cases hnone

end StyleUsage.Stylesheet
