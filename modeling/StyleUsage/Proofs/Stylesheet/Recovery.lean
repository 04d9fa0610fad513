import StyleUsage.Proofs.Stylesheet.Items
import StyleUsage.Proofs.Stylesheet.Writing

/-!
# Reading what is written

From a written form of rules that can be written, the reader gets these rules back, up to lines:
comments go, the text splits into the tokens it spells, the tokens nest as they outline the rules,
and every head and declaration is taken apart where it was put together.
-/

namespace StyleUsage.Stylesheet

open StyleUsage.Text

/-! ## Tokens -/

theorem isGap_of_delimiter {c : Char} {t : Token} (h : delimiter? c = some t) :
    isGap c = false := by
  rcases cases_of_delimiter h with rfl | rfl | rfl <;> rfl

/-- A text splits into the tokens that it spells. -/
theorem tokenize_of_spells {s : List Char} {tokens : List Token} (h : Spells s tokens)
    (p : Position) :
    ∃ placed, tokenize p s = (placed, none) ∧ placed.map Placed.token = tokens := by
  induction h generalizing p with
  | nil => exact ⟨[], tokenize_nil p, rfl⟩
  | @gap c s tokens hc _ ih =>
      rw [tokenize_gap hc]
      exact ih (p.next c)
  | @delimiter c t s tokens hc _ ih =>
      obtain ⟨placed, hplaced, htokens⟩ := ih (p.next c)
      refine ⟨⟨t, p⟩ :: placed, ?_, by rw [List.map_cons, htokens]⟩
      rw [tokenize_delimiter (isGap_of_delimiter hc) hc, hplaced]
  | @head c t text s tokens hstart htext hc _ ih =>
      obtain ⟨placed, hplaced, htokens⟩ := ih (p.after text)
      refine ⟨⟨.head text, p⟩ :: placed, ?_, by rw [List.map_cons, htokens]⟩
      rw [tokenize_of_head? (head?_append hc hstart htext), hplaced]

/-! ## Declarations and heads -/

/-- A text is taken apart at its first colon, whatever stands behind that. -/
theorem declaration_append {before : List Char} (hcolon : ':' ∉ before)
    (hproperty : trim before ≠ []) (after : List Char) (line : Nat) :
    declaration (before ++ ':' :: after) line =
      .ok ⟨String.ofList (trim before), String.ofList (trim after)⟩ := by
  obtain ⟨kept, behind, htrim, hkept, hsame, hvalue⟩ := exists_trim_colon hcolon after
  have hok : ¬ (':' ∉ kept ++ ':' :: behind ∨ trim before = []) := by
    simp [hproperty]
  simp only [declaration, htrim, takeWhile_colon hkept, dropWhile_colon hkept, List.drop_one,
    List.tail_cons, hsame, hvalue, if_neg hok]

theorem declaration_of_isWrittenAs {d : Declaration} {text : List Char} (hd : d.IsPrintable)
    (h : d.IsWrittenAs text) (line : Nat) : declaration text line = .ok d := by
  obtain ⟨before, after, rfl, hbefore, hafter⟩ := h
  have hcolon : ':' ∉ before := by
    obtain ⟨pre, post, hpre, hpost, rfl⟩ := hbefore
    simp only [List.mem_append, not_or]
    exact ⟨⟨not_mem_of_allBlank hpre, hd.colonless⟩, not_mem_of_allBlank hpost⟩
  have hproperty := trim_of_isPadded hd.property.trimmed hbefore
  rw [declaration_append hcolon (by rw [hproperty]; exact hd.nonempty), hproperty,
    trim_of_isPadded hd.value.trimmed hafter, String.ofList_toList, String.ofList_toList]

/-- A name is read as it is written, and parameters up to the blanks around them. -/
theorem atRule?_trim {name rest : List Char} (hname : IsAtRuleName name)
    (hrest : ∀ c, rest.head? = some c → isNameChar c = false) :
    atRule? (trim ('@' :: (name ++ rest))) = some (name, trim rest) := by
  have hends : ∃ kept post, trim ('@' :: (name ++ rest)) = '@' :: kept ∧
      name ++ rest = kept ++ post ∧ AllBlank post := exists_trim_eq (by decide)
  obtain ⟨kept, post, htrim, hkept, hpost⟩ := hends
  have hparams : ∃ params, kept = name ++ params ∧ rest = params ++ post := by
    rcases List.append_eq_append_iff.1 hkept with ⟨params, hparams, hmore⟩ | ⟨more, hmore, hblank⟩
    · exact ⟨params, hparams, hmore⟩
    · cases more with
      | nil => exact ⟨[], by simpa using hmore.symm, by simpa using hblank.symm⟩
      | cons c more =>
          have hc : isNameChar c = true := hname.chars c (by simp [hmore])
          have hcblank : isBlank c = true := hpost c (by simp [hblank])
          rw [isBlank_of_isNameChar hc] at hcblank
          cases hcblank
  obtain ⟨params, rfl, rfl⟩ := hparams
  have hstop : params.takeWhile isNameChar = [] ∧ params.dropWhile isNameChar = params := by
    cases params with
    | nil => exact ⟨rfl, rfl⟩
    | cons c more =>
        have hc := hrest c rfl
        simp [hc]
  rw [htrim, trim_append_right hpost]
  simp only [atRule?, List.takeWhile_append_of_pos hname.chars,
    List.dropWhile_append_of_pos hname.chars, hstop, List.append_nil, if_neg hname.nonempty,
    hname.lowercase]

/-- A head that is written with blanks before it still shows its first character when trimmed. -/
theorem head?_trim_padded {s padded : List Char} (hs : IsTrimmed s) (hne : s ≠ [])
    (h : IsPadded s padded) (rest : List Char) : (trim (padded ++ rest)).head? = s.head? := by
  obtain ⟨pre, post, hpre, -, rfl⟩ := h
  cases s with
  | nil => exact absurd rfl hne
  | cons c more =>
      have hink : StartsInk (c :: more ++ (post ++ rest)) :=
        ⟨c, more ++ (post ++ rest), rfl, hs.first c rfl⟩
      rw [List.append_assoc, List.append_assoc, trim_append_left hpre, head?_trim hink]
      rfl

theorem head?_trim_of_enumerates {s text : List Char} {selectors : List (List Char)}
    (hs : IsUndivided s) (h : Enumerates (s :: selectors) text) :
    (trim text).head? = s.head? := by
  cases h with
  | last hpadded =>
      have hsame := head?_trim_padded hs.trimmed hs.nonempty hpadded []
      rwa [List.append_nil] at hsame
  | more hpadded _ => exact head?_trim_padded hs.trimmed hs.nonempty hpadded _

theorem blockRule_style {selectors : List String} {text : List Char} (hne : selectors ≠ [])
    (hselectors : ∀ s ∈ selectors, IsUndivided s.toList)
    (hat : ∀ s, selectors.head? = some s → s.toList.head? ≠ some '@')
    (h : Enumerates (selectors.map String.toList) text) (line : Nat)
    (declarations : List Declaration) (rules : List Rule) :
    blockRule text line declarations rules = .ok (.style selectors declarations rules line) := by
  have hsplit : splitSelectors (trim text) = selectors.map String.toList := by
    rw [splitSelectors_trim]
    apply splitSelectors_of_enumerates _ h
    simpa using hselectors
  have hmap : (selectors.map String.toList).map String.ofList = selectors := by simp
  cases selectors with
  | nil => exact absurd rfl hne
  | cons s rest =>
      have hhead : (trim text).head? ≠ some '@' := by
        rw [head?_trim_of_enumerates (hselectors s List.mem_cons_self) h]
        exact hat s rfl
      simp only [blockRule, if_neg hhead, hsplit, List.map_cons] at hmap ⊢
      rw [hmap]

theorem blockRule_atRule {name params : String} {rest : List Char}
    (hname : IsAtRuleName name.toList) (hparams : IsPrintableText params.toList)
    (hpadded : IsPadded params.toList rest)
    (hstop : ∀ c, rest.head? = some c → isNameChar c = false) (line : Nat)
    (declarations : List Declaration) (rules : List Rule) :
    blockRule ('@' :: (name.toList ++ rest)) line declarations rules =
      .ok (.atRule name params declarations rules line) := by
  have hhead : (trim ('@' :: (name.toList ++ rest))).head? = some '@' := by
    have hink : StartsInk ('@' :: (name.toList ++ rest)) := ⟨'@', _, rfl, by decide⟩
    rw [head?_trim hink]
    rfl
  simp only [blockRule, if_pos hhead, atRule?_trim hname hstop,
    trim_of_isPadded hparams.trimmed hpadded]
  simp

theorem blockRule_of_isHeadedBy {rule : Rule} {text : List Char} (hrule : rule.HasPrintableHead)
    (h : rule.IsHeadedBy text) (line : Nat) (declarations : List Declaration)
    (rules : List Rule) :
    blockRule text line declarations rules = .ok (rule.withBlock declarations rules line) := by
  cases rule with
  | style selectors _ _ _ =>
      obtain ⟨hne, hselectors, hat⟩ := hrule
      exact blockRule_style hne (fun s hs => (hselectors s hs).1.isUndivided) hat h line
        declarations rules
  | atRule name params _ _ _ =>
      obtain ⟨hname, hparams⟩ := hrule
      obtain ⟨rest, rfl, hpadded, hstop⟩ := h
      exact blockRule_atRule hname hparams hpadded hstop line declarations rules

theorem statementRule_of_isHeadedBy {name params : String} {text : List Char} {line' : Nat}
    (hrule : (Rule.atRule name params [] [] line').HasPrintableHead)
    (h : (Rule.atRule name params [] [] line').IsHeadedBy text) (line : Nat) :
    statementRule text line = .ok (.atRule name params [] [] line) := by
  obtain ⟨hname, hparams⟩ := hrule
  obtain ⟨rest, rfl, hpadded, hstop⟩ := h
  simp only [statementRule, atRule?_trim hname hstop, trim_of_isPadded hparams.trimmed hpadded]
  simp

/-! ## Items -/

/-- The declarations and the rules that items make, outside of blocks or in one. -/
def gathered (isOutermost : Bool) (items : List Item) :
    Except ParseError (List Declaration × List Rule) :=
  if isOutermost then (items.mapM topRule).map ([], ·) else contents items

/-- Items that make the given declarations and rules, up to lines. -/
def Yields (isOutermost : Bool) (items : List Item) (declarations : List Declaration)
    (rules : List Rule) : Prop :=
  ∃ found, gathered isOutermost items = .ok (declarations, found) ∧
    Rule.unlinedAll found = Rule.unlinedAll rules

variable {isOutermost : Bool} {items inner : List Item} {declarations : List Declaration}
  {rules : List Rule} {text : List Char} {position : Position}

theorem yields_nil : Yields isOutermost [] [] [] := by
  refine ⟨[], ?_, rfl⟩
  cases isOutermost <;> rfl

theorem Yields.declaration {d : Declaration} (hd : declaration text position.line = .ok d)
    (h : Yields false items declarations rules) :
    Yields false (.text text position :: items) (d :: declarations) rules := by
  obtain ⟨found, hfound, hsame⟩ := h
  refine ⟨found, ?_, hsame⟩
  simp only [gathered, Bool.false_eq_true, if_false] at hfound ⊢
  simp [contents, content, hd, hfound, bind, Except.bind, pure, Except.pure]

theorem Yields.rule {item : Item} {rule made : Rule} (hrule : made.unlined = rule.unlined)
    (hmade : if isOutermost then topRule item = .ok made else content item = .ok (.inr made))
    (h : Yields isOutermost items declarations rules) :
    Yields isOutermost (item :: items) declarations (rule :: rules) := by
  obtain ⟨found, hfound, hsame⟩ := h
  refine ⟨made :: found, ?_, by rw [Rule.unlinedAll, Rule.unlinedAll, hrule, hsame]⟩
  cases isOutermost with
  | false =>
      simp only [gathered, Bool.false_eq_true, if_false] at hfound hmade ⊢
      simp [contents, hmade, hfound, bind, Except.bind, pure, Except.pure]
  | true =>
      simp only [gathered, if_true] at hfound hmade ⊢
      cases hrest : items.mapM topRule with
      | error e =>
          rw [hrest] at hfound
          cases hfound
      | ok rest =>
          rw [hrest] at hfound
          cases hfound
          simp [List.mapM_cons, hmade, hrest, bind, Except.bind, pure, Except.pure, Except.map]

theorem Yields.statement {rule made : Rule} (h : Yields true items declarations rules)
    (hmade : statementRule text position.line = .ok made) (hrule : made.unlined = rule.unlined) :
    Yields true (.text text position :: items) declarations (rule :: rules) :=
  h.rule hrule (by simpa [topRule] using hmade)

theorem Yields.block {rule : Rule} (h : Yields isOutermost items declarations rules)
    (hprintable : rule.HasPrintableHead) (htext : rule.IsHeadedBy text)
    (hinner : Yields false inner rule.declarations rule.rules) :
    Yields isOutermost (.block text position inner :: items) declarations (rule :: rules) := by
  obtain ⟨nested, hnested, hsame⟩ := hinner
  have hmade := blockRule_of_isHeadedBy hprintable htext position.line rule.declarations nested
  simp only [gathered, Bool.false_eq_true, if_false] at hnested
  refine h.rule (Rule.unlined_withBlock position.line hsame) ?_
  cases isOutermost with
  | false =>
      simp [content, hnested, hmade, bind, Except.bind, pure, Except.pure]
  | true => simp [topRule, hnested, hmade, bind, Except.bind]

/-! ## Blocks -/

namespace Nesting

/-- What reading the tokens of some items comes to: these items stand before the earlier ones, and
the open blocks are the same. Outside of blocks no head is left waiting. -/
structure Adds (n : Nesting) (isOutermost : Bool) (items : List Item) (n' : Nesting) : Prop where
  outer : n'.outer = n.outer
  items : n'.settle = items.reverse ++ n.items
  pending : isOutermost = true → n'.pending = none

variable {n n' n₁ : Nesting} {t next : Placed} {rest : List Placed}

/-- What comes after one more item adds this item and what comes after it. -/
theorem Adds.cons {item : Item} (h : n₁.Adds isOutermost items n') (houter : n₁.outer = n.outer)
    (hitems : n₁.items = item :: n.items) : n.Adds isOutermost (item :: items) n' where
  outer := h.outer.trans houter
  items := by simp [h.items, hitems]
  pending := h.pending

theorem settle_of_none (h : n.pending = none) : n.settle = n.items := by
  simp [settle, h]

theorem foldlM_semicolon (ht : t.token = .semicolon) : (t :: rest).foldlM Nesting.step n =
    rest.foldlM Nesting.step ⟨n.outer, n.settle, none, some t⟩ := by
  simp [List.foldlM_cons, Nesting.step, ht, bind, Except.bind]

theorem foldlM_text (ht : t.token = .head text) (hnext : next.token = .semicolon)
    (hn : n.pending = none) : (t :: next :: rest).foldlM Nesting.step n =
      rest.foldlM Nesting.step
        ⟨n.outer, .text text t.position :: n.items, none, some next⟩ := by
  simp [List.foldlM_cons, Nesting.step, ht, hnext, hn, settle, bind, Except.bind]

theorem foldlM_opened (ht : t.token = .head text) (hnext : next.token = .leftBrace)
    (hn : n.pending = none) : (t :: next :: rest).foldlM Nesting.step n =
      rest.foldlM Nesting.step
        ⟨⟨text, t.position, n.items⟩ :: n.outer, [], none, some next⟩ := by
  simp [List.foldlM_cons, Nesting.step, ht, hnext, hn, bind, Except.bind]

theorem foldlM_closed {block : OpenBlock} {outer : List OpenBlock}
    (ht : t.token = .rightBrace) (ho : n.outer = block :: outer) :
    (t :: rest).foldlM Nesting.step n = rest.foldlM Nesting.step
      ⟨outer, .block block.head block.position n.settle.reverse :: block.before, none, some t⟩ := by
  simp [List.foldlM_cons, Nesting.step, close, ht, ho, bind, Except.bind]

/-- Once the tokens in the block have been read, its closing brace makes it one item. -/
theorem foldlM_block {last : Placed} {enclosed : List Placed} (ht : t.token = .head text)
    (hnext : next.token = .leftBrace) (hlast : last.token = .rightBrace) (hn : n.pending = none)
    (hfold : enclosed.foldlM Nesting.step
      ⟨⟨text, t.position, n.items⟩ :: n.outer, [], none, some next⟩ = .ok n₁)
    (hadds : Adds ⟨⟨text, t.position, n.items⟩ :: n.outer, [], none, some next⟩ false inner n₁) :
    (t :: next :: (enclosed ++ last :: rest)).foldlM Nesting.step n =
      rest.foldlM Nesting.step
        ⟨n.outer, .block text t.position inner :: n.items, none, some last⟩ := by
  have hinner : n₁.settle.reverse = inner := by
    rw [hadds.items]
    simp
  have hclosed : (last :: rest).foldlM Nesting.step n₁ = rest.foldlM Nesting.step _ :=
    foldlM_closed hlast hadds.outer
  rw [foldlM_opened ht hnext hn, List.foldlM_append, hfold]
  rw [hinner] at hclosed
  exact hclosed

/-- The tokens of rules that can be written nest into items that yield the rules. -/
theorem foldlM_of_outlines {tokens : List Token}
    (h : Outlines isOutermost declarations rules tokens)
    (hdeclarations : ∀ d ∈ declarations, d.IsPrintable) (hrules : ∀ r ∈ rules, r.IsPrintable)
    {placed : List Placed} (hplaced : placed.map Placed.token = tokens)
    (hn : n.pending = none) : ∃ n' items, placed.foldlM Nesting.step n = .ok n' ∧
      n.Adds isOutermost items n' ∧ Yields isOutermost items declarations rules := by
  induction h generalizing placed n with
  | nil =>
      rw [List.map_eq_nil_iff] at hplaced
      subst hplaced
      exact ⟨n, [], rfl, ⟨rfl, settle_of_none hn, fun _ => hn⟩, yields_nil⟩
  | semicolon _ ih =>
      obtain ⟨t, rest, rfl, ht, hrest⟩ := List.map_eq_cons_iff.1 hplaced
      obtain ⟨n', items, hfold, hadds, hyields⟩ := ih hdeclarations hrules hrest
        (n := ⟨n.outer, n.settle, none, some t⟩) rfl
      refine ⟨n', items, (foldlM_semicolon ht).trans hfold, ?_, hyields⟩
      exact ⟨hadds.outer, settle_of_none hn ▸ hadds.items, hadds.pending⟩
  | @declaration d text declarations rules tokens htext _ ih =>
      obtain ⟨hd, hmore⟩ := List.forall_mem_cons.1 hdeclarations
      obtain ⟨t, behind, rfl, ht, hbehind⟩ := List.map_eq_cons_iff.1 hplaced
      obtain ⟨next, rest, rfl, hnext, hrest⟩ := List.map_eq_cons_iff.1 hbehind
      obtain ⟨n', items, hfold, hadds, hyields⟩ := ih hmore hrules hrest
        (n := ⟨n.outer, .text text t.position :: n.items, none, some next⟩) rfl
      refine ⟨n', .text text t.position :: items, (foldlM_text ht hnext hn).trans hfold, ?_, ?_⟩
      · exact hadds.cons rfl rfl
      · exact hyields.declaration (declaration_of_isWrittenAs hd htext _)
  | @lastDeclaration d text htext =>
      obtain ⟨t, rest, rfl, ht, hrest⟩ := List.map_eq_cons_iff.1 hplaced
      rw [List.map_eq_nil_iff] at hrest
      subst hrest
      refine ⟨{ n with pending := some (text, t.position), last := some t },
        [.text text t.position], ?_, ⟨rfl, rfl, by simp⟩, ?_⟩
      · simp [Nesting.step, ht, hn, bind, Except.bind, pure, Except.pure]
      · exact yields_nil.declaration
          (declaration_of_isWrittenAs (hdeclarations d List.mem_cons_self) htext _)
  | @statement name params line text declarations rules tokens htext _ ih =>
      obtain ⟨⟨hhead, -, -⟩, hmore⟩ := List.forall_mem_cons.1 hrules
      obtain ⟨t, behind, rfl, ht, hbehind⟩ := List.map_eq_cons_iff.1 hplaced
      obtain ⟨next, rest, rfl, hnext, hrest⟩ := List.map_eq_cons_iff.1 hbehind
      obtain ⟨n', items, hfold, hadds, hyields⟩ := ih hdeclarations hmore hrest
        (n := ⟨n.outer, .text text t.position :: n.items, none, some next⟩) rfl
      refine ⟨n', .text text t.position :: items, (foldlM_text ht hnext hn).trans hfold, ?_, ?_⟩
      · exact hadds.cons rfl rfl
      · exact hyields.statement (statementRule_of_isHeadedBy hhead htext _) rfl
  | @block isOutermost rule text declarations rules inner tokens htext _ _ ihinner ih =>
      obtain ⟨⟨hhead, hinnerDeclarations, hinnerRules⟩, hmore⟩ := List.forall_mem_cons.1 hrules
      obtain ⟨t, behind, rfl, ht, hbehind⟩ := List.map_eq_cons_iff.1 hplaced
      obtain ⟨next, body, rfl, hnext, hbody⟩ := List.map_eq_cons_iff.1 hbehind
      obtain ⟨enclosed, behind, rfl, henclosed, hbehind⟩ := List.map_eq_append_iff.1 hbody
      obtain ⟨last, rest, rfl, hlast, hrest⟩ := List.map_eq_cons_iff.1 hbehind
      obtain ⟨n₁, inside, hfold₁, hadds₁, hyields₁⟩ := ihinner hinnerDeclarations hinnerRules
        henclosed (n := ⟨⟨text, t.position, n.items⟩ :: n.outer, [], none, some next⟩) rfl
      obtain ⟨n', items, hfold, hadds, hyields⟩ := ih hdeclarations hmore hrest
        (n := ⟨n.outer, .block text t.position inside :: n.items, none, some last⟩) rfl
      refine ⟨n', .block text t.position inside :: items, ?_, ?_, ?_⟩
      · exact (foldlM_block ht hnext hlast hn hfold₁ hadds₁).trans hfold
      · exact hadds.cons rfl rfl
      · exact hyields.block hhead htext hyields₁

end Nesting

/-! ## Texts -/

/-- The reader gets the rules back from the text, up to lines. -/
def IsReadAs (source : List Char) (rules : List Rule) : Prop :=
  ∃ sheet, parse (String.ofList source) = .ok sheet ∧
    Rule.unlinedAll sheet.rules = Rule.unlinedAll rules

theorem rulesOf_of_outlines {plain : List Char} {placed : List Placed}
    (hplaced : tokenize .start plain = (placed, none))
    (h : Outlines true [] rules (placed.map Placed.token)) (hrules : ∀ r ∈ rules, r.IsPrintable) :
    ∃ found, rulesOf plain = .ok found ∧ Rule.unlinedAll found = Rule.unlinedAll rules := by
  obtain ⟨n, items, hfold, hadds, found, hfound, hsame⟩ :=
    Nesting.foldlM_of_outlines h (by simp) hrules rfl (n := .start) rfl
  have hfinish : n.finish = .ok items := by
    have hsettle := Nesting.settle_of_none (hadds.pending rfl)
    rw [hadds.items] at hsettle
    have hitems : n.items.reverse = items := by
      rw [← hsettle]
      simp [Nesting.start]
    simp [Nesting.finish, hadds.pending rfl, hadds.outer, Nesting.start, hitems]
  have hmap : items.mapM topRule = .ok found := by
    simp only [gathered, if_true] at hfound
    cases hitems : items.mapM topRule with
    | error e =>
        rw [hitems] at hfound
        cases hfound
    | ok made =>
        rw [hitems] at hfound
        cases hfound
        rfl
  refine ⟨found, ?_, hsame⟩
  simp [rulesOf, nest, hplaced, hfold, hfinish, hmap, bind, Except.bind, Except.mapError]

/-- Every written form of rules that can be written is read as these rules. -/
theorem isReadAs_of_isWritten {source : List Char} (h : IsWritten rules source)
    (hrules : ∀ r ∈ rules, r.IsPrintable) : IsReadAs source rules := by
  obtain ⟨plain, tokens, hcomments, hspells, houtlines⟩ := h
  obtain ⟨placed, hplaced, rfl⟩ := tokenize_of_spells hspells .start
  obtain ⟨found, hfound, hsame⟩ := rulesOf_of_outlines hplaced houtlines hrules
  refine ⟨⟨found⟩, ?_, hsame⟩
  have hstrip := stripComments_of_annotates hcomments 1
  simp [parse, hstrip, hfound, bind, Except.bind, Except.mapError, pure, Except.pure]

end StyleUsage.Stylesheet
