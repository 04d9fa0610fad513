import StyleUsage.Proofs.Stylesheet.Acceptance

/-!
# Rules further down

The same tokens on later lines nest in the same way, on top of whatever stands before them, and make
the same rules on later lines.
-/

namespace StyleUsage

namespace Rule

mutual

/-- The rule with all its lines moved down. -/
def lowered (k : Nat) : Rule → Rule
  | style selectors declarations rules line =>
      style selectors declarations (loweredAll k rules) (line + k)
  | atRule name params declarations rules line =>
      atRule name params declarations (loweredAll k rules) (line + k)

/-- The rules with all their lines moved down. -/
def loweredAll (k : Nat) : List Rule → List Rule
  | [] => []
  | rule :: rest => rule.lowered k :: loweredAll k rest

end

theorem loweredAll_eq_map (k : Nat) (rules : List Rule) :
    loweredAll k rules = rules.map (·.lowered k) := by
  induction rules with
  | nil => rfl
  | cons rule rest ih => rw [loweredAll, ih, List.map_cons]

@[simp] theorem selectors_lowered (k : Nat) (rule : Rule) :
    (rule.lowered k).selectors = rule.selectors := by
  cases rule <;> rfl

end Rule

namespace Stylesheet

variable {k : Nat} {s : List Char} {p q : Position}

/-! ## Tokens -/

/-- Some tokens and their lines, moved down. -/
def linesBelow (k : Nat) (tokens : List Placed) : List (Token × Nat) :=
  tokens.map fun t => (t.token, t.position.line + k)

theorem line_next (h : q.line = p.line + k) (c : Char) : (q.next c).line = (p.next c).line + k := by
  rw [Position.line_next, Position.line_next, h]
  omega

theorem line_after (h : q.line = p.line + k) (text : List Char) :
    (q.after text).line = (p.after text).line + k := by
  rw [Position.line_after, Position.line_after, h]
  omega

/-- Where a text stands makes a difference only to the places of its tokens. -/
theorem tokenize_lowered (h : q.line = p.line + k) :
    linesBelow 0 (tokenize q s).1 = linesBelow k (tokenize p s).1 ∧
      (tokenize q s).2.isNone = (tokenize p s).2.isNone := by
  induction p, s using tokenize.induct generalizing q with
  | case1 p => simp [linesBelow]
  | case2 p c rest hgap ih =>
      rw [tokenize_gap hgap, tokenize_gap hgap]
      exact ih (line_next h c)
  | case3 p c rest hgap t hdelimiter _ _ _ ih =>
      have hgap : isGap c = false := by simpa using hgap
      obtain ⟨htokens, hstray⟩ := ih (line_next h c)
      rw [tokenize_delimiter hgap hdelimiter, tokenize_delimiter hgap hdelimiter]
      refine ⟨?_, hstray⟩
      simp only [linesBelow, List.map_cons, h, Nat.add_zero] at htokens ⊢
      rw [htokens]
  | case4 p c rest hgap hdelimiter text after _ _ _ hhead _ ih =>
      have hgap : isGap c = false := by simpa using hgap
      obtain ⟨htokens, hstray⟩ := ih (line_after h text)
      rw [tokenize_head hgap hdelimiter hhead, tokenize_head hgap hdelimiter hhead]
      refine ⟨?_, hstray⟩
      simp only [linesBelow, List.map_cons, h, Nat.add_zero] at htokens ⊢
      rw [htokens]
  | case5 p c rest hgap hdelimiter hhead =>
      have hgap : isGap c = false := by simpa using hgap
      rw [tokenize_stray hgap hdelimiter hhead, tokenize_stray hgap hdelimiter hhead]
      simp [linesBelow]

theorem tokens_of_linesBelow {tokens tokens' : List Placed}
    (h : linesBelow 0 tokens' = linesBelow k tokens) :
    tokens'.map Placed.token = tokens.map Placed.token := by
  have hfirst := congrArg (List.map Prod.fst) h
  simpa [linesBelow, Function.comp_def] using hfirst

/-! ## Items -/

mutual

/-- The item with its lines moved down; its columns and offsets are left out. -/
def Item.lowered (k : Nat) : Item → Item
  | .text s position => .text s ⟨0, position.line + k, 0⟩
  | .block head position items => .block head ⟨0, position.line + k, 0⟩ (Item.loweredAll k items)

/-- The items with their lines moved down. -/
def Item.loweredAll (k : Nat) : List Item → List Item
  | [] => []
  | item :: rest => item.lowered k :: Item.loweredAll k rest

end

theorem Item.loweredAll_eq_map (k : Nat) (items : List Item) :
    Item.loweredAll k items = items.map (·.lowered k) := by
  induction items with
  | nil => rfl
  | cons item rest ih => rw [Item.loweredAll, ih, List.map_cons]

/-- The same item further down. -/
def Item.IsBelow (k : Nat) (item item' : Item) : Prop :=
  item'.lowered 0 = item.lowered k

/-- The same items further down. -/
def AreBelow (k : Nat) (items items' : List Item) : Prop :=
  items'.map (·.lowered 0) = items.map (·.lowered k)

variable {items items' more more' : List Item} {item item' : Item} {head text : List Char}

theorem areBelow_nil : AreBelow k [] [] := rfl

theorem AreBelow.cons (h : item.IsBelow k item') (hrest : AreBelow k items items') :
    AreBelow k (item :: items) (item' :: items') := by
  simp only [AreBelow, Item.IsBelow, List.map_cons] at h hrest ⊢
  rw [h, hrest]

theorem AreBelow.reverse (h : AreBelow k items items') :
    AreBelow k items.reverse items'.reverse := by
  simp only [AreBelow, List.map_reverse] at h ⊢
  rw [h]

theorem isBelow_text (h : q.line = p.line + k) :
    (Item.text text p).IsBelow k (.text text q) := by
  simp [Item.IsBelow, Item.lowered, h]

theorem isBelow_block (h : q.line = p.line + k) (hitems : AreBelow k items items') :
    (Item.block head p items).IsBelow k (.block head q items') := by
  simp only [AreBelow] at hitems
  simp [Item.IsBelow, Item.lowered, Item.loweredAll_eq_map, h, hitems]

/-! ## Rules of items -/

theorem declaration_of_line {d : Declaration} {line : Nat} (h : declaration text line = .ok d)
    (line' : Nat) : declaration text line' = .ok d := by
  unfold declaration at h ⊢
  simp only at h ⊢
  split at h
  · cases h
  · split
    · contradiction
    · exact h

theorem blockRule_lowered {line : Nat} {declarations : List Declaration} {rules : List Rule}
    {rule : Rule} (h : blockRule head line declarations rules = .ok rule) (k : Nat) :
    blockRule head (line + k) declarations (Rule.loweredAll k rules) = .ok (rule.lowered k) := by
  unfold blockRule at h ⊢
  simp only at h ⊢
  split at h
  case isTrue hat =>
      rw [if_pos hat]
      split at h <;> cases h
      simp_all [Rule.lowered]
  case isFalse hat =>
      rw [if_neg hat]
      split at h <;> cases h
      simp_all [Rule.lowered]

theorem statementRule_lowered {line : Nat} {rule : Rule} (h : statementRule text line = .ok rule)
    (k : Nat) : statementRule text (line + k) = .ok (rule.lowered k) := by
  unfold statementRule at h ⊢
  split at h <;> cases h
  simp_all [Rule.lowered, Rule.loweredAll]

/-- What an item makes, with lines moved down. -/
def lowerContent (k : Nat) : Declaration ⊕ Rule → Declaration ⊕ Rule
  | .inl declaration => .inl declaration
  | .inr rule => .inr (rule.lowered k)

theorem line_eq_of_lowered {p q : Position}
    (h : (⟨0, q.line + 0, 0⟩ : Position) = ⟨0, p.line + k, 0⟩) : q.line = p.line + k := by
  simpa using h

mutual

theorem content_of_isBelow {item item' : Item} {found : Declaration ⊕ Rule}
    (h : item.IsBelow k item') (hfound : content item = .ok found) :
    content item' = .ok (lowerContent k found) := by
  match item, item' with
  | .text text p, .text text' q =>
      simp only [Item.IsBelow, Item.lowered, Item.text.injEq] at h
      obtain ⟨rfl, -⟩ := h
      obtain ⟨d, hd, hrest⟩ := bind_eq_ok_iff.1 hfound
      cases hrest
      simp [content, declaration_of_line hd q.line, lowerContent, bind, Except.bind, pure,
        Except.pure]
  | .block head p items, .block head' q items' =>
      simp only [Item.IsBelow, Item.lowered, Item.block.injEq, Item.loweredAll_eq_map] at h
      obtain ⟨rfl, hline, hitems⟩ := h
      obtain ⟨⟨declarations, rules⟩, hinner, hrest⟩ := bind_eq_ok_iff.1 hfound
      obtain ⟨rule, hrule, hlast⟩ := bind_eq_ok_iff.1 hrest
      cases hlast
      have hbelow : AreBelow k items items' := hitems
      have hinner' := contents_of_areBelow hbelow hinner
      have hrule' := blockRule_lowered hrule k
      rw [← line_eq_of_lowered hline] at hrule'
      simp [content, hinner', hrule', lowerContent, bind, Except.bind, pure, Except.pure]
  | .text .., .block .. => simp [Item.IsBelow, Item.lowered] at h
  | .block .., .text .. => simp [Item.IsBelow, Item.lowered] at h

theorem contents_of_areBelow {items items' : List Item}
    {found : List Declaration × List Rule} (h : AreBelow k items items')
    (hfound : contents items = .ok found) :
    contents items' = .ok (found.1, Rule.loweredAll k found.2) := by
  match items, items' with
  | [], [] =>
      cases hfound
      rfl
  | item :: rest, item' :: rest' =>
      simp only [AreBelow, List.map_cons, List.cons.injEq] at h
      obtain ⟨hitem, hbehind⟩ : item.IsBelow k item' ∧ AreBelow k rest rest' := h
      obtain ⟨first, hfirst, hrest⟩ := bind_eq_ok_iff.1 hfound
      obtain ⟨⟨declarations, rules⟩, hmore, hlast⟩ := bind_eq_ok_iff.1 hrest
      have hfirst' := content_of_isBelow hitem hfirst
      have hmore' := contents_of_areBelow hbehind hmore
      cases first with
      | inl d | inr rule =>
          cases hlast
          simp [contents, hfirst', hmore', lowerContent, Rule.loweredAll, bind, Except.bind, pure,
            Except.pure]
  | [], _ :: _ => simp [AreBelow] at h
  | _ :: _, [] => simp [AreBelow] at h

end

theorem topRule_of_isBelow {rule : Rule} (h : item.IsBelow k item')
    (hrule : topRule item = .ok rule) : topRule item' = .ok (rule.lowered k) := by
  cases item with
  | text text p =>
      cases item' with
      | block head q items => simp [Item.IsBelow, Item.lowered] at h
      | text text' q =>
          simp only [Item.IsBelow, Item.lowered, Item.text.injEq] at h
          obtain ⟨rfl, hline⟩ := h
          have hrule' := statementRule_lowered hrule k
          rw [← line_eq_of_lowered hline] at hrule'
          exact hrule'
  | block head p items =>
      cases item' with
      | text text q => simp [Item.IsBelow, Item.lowered] at h
      | block head' q items' =>
          simp only [Item.IsBelow, Item.lowered, Item.block.injEq, Item.loweredAll_eq_map] at h
          obtain ⟨rfl, hline, hitems⟩ := h
          obtain ⟨⟨declarations, rules⟩, hinner, hrest⟩ := bind_eq_ok_iff.1 hrule
          have hbelow : AreBelow k items items' := hitems
          have hinner' := contents_of_areBelow hbelow hinner
          have hrule' := blockRule_lowered hrest k
          rw [← line_eq_of_lowered hline] at hrule'
          simp [topRule, hinner', hrule', bind, Except.bind]

theorem mapM_topRule_of_areBelow {rules : List Rule} (h : AreBelow k items items')
    (hrules : items.mapM topRule = .ok rules) :
    items'.mapM topRule = .ok (rules.map (·.lowered k)) := by
  induction items generalizing items' rules with
  | nil =>
      cases items' with
      | nil =>
          cases hrules
          rfl
      | cons item' rest' => simp [AreBelow] at h
  | cons item rest ih =>
      cases items' with
      | nil => simp [AreBelow] at h
      | cons item' rest' =>
          simp only [AreBelow, List.map_cons, List.cons.injEq] at h
          obtain ⟨hitem, hrest⟩ : item.IsBelow k item' ∧ AreBelow k rest rest' := h
          rw [List.mapM_cons] at hrules ⊢
          obtain ⟨rule, hrule, hmore⟩ := bind_eq_ok_iff.1 hrules
          obtain ⟨behind, hbehind, hlast⟩ := bind_eq_ok_iff.1 hmore
          cases hlast
          rw [topRule_of_isBelow hitem hrule, ih hrest hbehind]
          rfl

/-! ## Nesting -/

namespace Nesting

/-- The same items and open blocks further down, with some items before them all. -/
inductive Stands (k : Nat) (base : List Item) :
    (items : List Item) → (outer : List OpenBlock) → (items' : List Item) →
    (outer' : List OpenBlock) → Prop where
  | bottom {items items' : List Item} (hitems : AreBelow k items items') :
      Stands k base items [] (items' ++ base) []
  | inner {items items' before before' : List Item} {head : List Char} {p q : Position}
      {outer outer' : List OpenBlock} (hitems : AreBelow k items items')
      (hline : q.line = p.line + k) (hrest : Stands k base before outer before' outer') :
      Stands k base items (⟨head, p, before⟩ :: outer) items' (⟨head, q, before'⟩ :: outer')

/-- The same waiting head further down, or none. -/
inductive WaitsBelow (k : Nat) :
    (pending pending' : Option (List Char × Position)) → Prop where
  | none : WaitsBelow k none none
  | head {text : List Char} {p q : Position} (hline : q.line = p.line + k) :
      WaitsBelow k (some (text, p)) (some (text, q))

/-- What the tokens come to further down, with some items before them all. -/
structure IsAtop (k : Nat) (base : List Item) (n n' : Nesting) : Prop where
  stands : Stands k base n.items n.outer n'.items n'.outer
  pending : WaitsBelow k n.pending n'.pending

variable {base : List Item} {n n' n₁ : Nesting} {t t' : Placed} {outer outer' : List OpenBlock}

theorem Stands.cons (h : item.IsBelow k item') (hs : Stands k base items outer items' outer') :
    Stands k base (item :: items) outer (item' :: items') outer' := by
  cases hs with
  | bottom hitems => exact .bottom (hitems.cons h)
  | inner hitems hline hrest => exact .inner (hitems.cons h) hline hrest

theorem IsAtop.settle (h : n.IsAtop k base n') :
    Stands k base n.settle n.outer n'.settle n'.outer := by
  have hpending := h.pending
  unfold Nesting.settle
  cases hp : n.pending with
  | none =>
      rw [hp] at hpending
      cases hp' : n'.pending with
      | none => exact h.stands
      | some pending' =>
          rw [hp'] at hpending
          cases hpending
  | some pending =>
      rw [hp] at hpending
      cases hp' : n'.pending with
      | none =>
          rw [hp'] at hpending
          cases hpending
      | some pending' =>
          rw [hp'] at hpending
          cases hpending with
          | head hline => exact h.stands.cons (isBelow_text hline)

/-- One more token does the same further down. -/
theorem IsAtop.step (h : n.IsAtop k base n') (htoken : t'.token = t.token)
    (hline : t'.position.line = t.position.line + k) (hn : n.step t = .ok n₁) :
    ∃ n₁', n'.step t' = .ok n₁' ∧ n₁.IsAtop k base n₁' := by
  have hsettle := h.settle
  have hpending := h.pending
  cases gathers_of_step hn with
  | head ht hp =>
      rw [hp] at hpending
      cases hp' : n'.pending with
      | some pending' =>
          rw [hp'] at hpending
          cases hpending
      | none =>
          refine ⟨{ n' with pending := some (_, t'.position), last := some t' }, ?_, h.stands,
            .head hline⟩
          simp [Nesting.step, htoken, ht, hp']
  | opened ht hp =>
      rw [hp] at hpending
      cases hp' : n'.pending with
      | none =>
          rw [hp'] at hpending
          cases hpending
      | some pending' =>
          rw [hp'] at hpending
          cases hpending with
          | @head _ _ q hline =>
              refine ⟨⟨⟨_, q, n'.items⟩ :: n'.outer, [], none, some t'⟩, ?_,
                .inner areBelow_nil hline h.stands, .none⟩
              simp only [Nesting.step, htoken, ht, hp']
  | ended ht =>
      refine ⟨⟨n'.outer, n'.settle, none, some t'⟩, ?_, hsettle, .none⟩
      simp only [Nesting.step, htoken, ht]
  | @closed block outer ht ho =>
      rw [ho] at hsettle
      generalize hitems : n.settle = items at hsettle
      generalize hitems' : n'.settle = items' at hsettle
      generalize ho' : n'.outer = outer' at hsettle
      cases hsettle with
      | @inner _ _ _ before' head _ q _ outer' hbelow hline hrest =>
          refine ⟨⟨outer', .block head q n'.settle.reverse :: before', none, some t'⟩,
            ?_, ?_, .none⟩
          · simp only [Nesting.step, close, htoken, ht, ho']
          · rw [hitems']
            exact hrest.cons (isBelow_block hline hbelow.reverse)

theorem IsAtop.foldlM {tokens tokens' : List Placed} (h : n.IsAtop k base n')
    (hlines : linesBelow 0 tokens' = linesBelow k tokens)
    (hn : tokens.foldlM Nesting.step n = .ok n₁) :
    ∃ n₁', tokens'.foldlM Nesting.step n' = .ok n₁' ∧ n₁.IsAtop k base n₁' := by
  induction tokens generalizing tokens' n n' with
  | nil =>
      cases tokens' with
      | nil =>
          cases hn
          exact ⟨n', rfl, h⟩
      | cons t' rest' => simp [linesBelow] at hlines
  | cons t rest ih =>
      cases tokens' with
      | nil => simp [linesBelow] at hlines
      | cons t' rest' =>
          simp only [linesBelow, List.map_cons, List.cons.injEq, Prod.mk.injEq,
            Nat.add_zero] at hlines
          obtain ⟨⟨htoken, hline⟩, hrest⟩ := hlines
          rw [List.foldlM_cons] at hn
          obtain ⟨n₂, hstep, hmore⟩ := bind_eq_ok_iff.1 hn
          obtain ⟨n₂', hstep', h'⟩ := h.step htoken hline hstep
          rw [List.foldlM_cons, hstep']
          exact ih h' (by simpa [linesBelow] using hrest) hmore

/-- What is finished has neither an open block nor a waiting head. -/
theorem finish_eq_ok (hn : n.IsProper) (h : n.finish = .ok items) :
    n.pending = none ∧ n.outer = [] ∧ items = n.items.reverse := by
  cases hl : n.last with
  | none =>
      obtain ⟨hp, ho⟩ := hn.last hl
      simp only [finish, hp, ho, Except.ok.injEq] at h
      exact ⟨hp, ho, h.symm⟩
  | some last =>
      cases hp : n.pending with
      | some pending => simp [finish, hp, hl] at h
      | none =>
          cases ho : n.outer with
          | cons block outer => simp [finish, hp, ho, hl] at h
          | nil =>
              simp only [finish, hp, ho, Except.ok.injEq] at h
              exact ⟨rfl, rfl, h.symm⟩

theorem isProper_of_foldlM {tokens : List Placed} (hn : n.IsProper)
    (htokens : ∀ t ∈ tokens, ∀ text, t.token = .head text → StartsInk text)
    (h : tokens.foldlM Nesting.step n = .ok n') : n'.IsProper := by
  induction tokens generalizing n with
  | nil =>
      cases h
      exact hn
  | cons t rest ih =>
      rw [List.foldlM_cons] at h
      obtain ⟨n₁, hstep, hmore⟩ := bind_eq_ok_iff.1 h
      obtain ⟨ht, hrest⟩ := List.forall_mem_cons.1 htokens
      exact ih (hn.step ht (gathers_of_step hstep)) hrest hmore

end Nesting

end Stylesheet

end StyleUsage
