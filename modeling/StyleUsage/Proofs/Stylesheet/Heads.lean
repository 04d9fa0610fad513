import StyleUsage.Proofs.Stylesheet.Entries

/-!
# What rules take from heads

Every text in the items of a stylesheet is one of its heads, however deep it is nested. So the
selectors and the declarations of its rules are parts of heads, which are parts of the text.
-/

namespace StyleUsage.Stylesheet

open StyleUsage.Text

variable {s text : List Char} {tokens : List Placed} {n : Nesting} {rules : List Rule} {rule : Rule}

/-! ## Selectors -/

/-- The first part of a list stands at its start, and the other ones somewhere in it. -/
theorem infix_of_splitAtCommas {state : SelectorScan} {first : List Char}
    {more : List (List Char)} (h : splitAtCommas state s = first :: more) :
    first <+: s ∧ ∀ part ∈ more, part <:+: s := by
  induction s generalizing state first more with
  | nil =>
      cases h
      exact ⟨List.prefix_rfl, by simp⟩
  | cons c rest ih =>
      cases hrest : splitAtCommas (if state.separates c then state else state.next c) rest with
      | nil => exact absurd hrest (splitAtCommas_ne_nil _ rest)
      | cons part others =>
          obtain ⟨hpart, hothers⟩ := ih hrest
          have htail : rest <:+: c :: rest := (List.suffix_cons c rest).isInfix
          have hlater (p : List Char) (hp : p ∈ others) : p <:+: c :: rest :=
            (hothers p hp).trans htail
          rw [splitAtCommas] at h
          split at h
          case isTrue hc =>
              rw [if_pos hc] at hrest
              rw [hrest] at h
              cases h
              exact ⟨List.nil_prefix, List.forall_mem_cons.2 ⟨hpart.isInfix.trans htail, hlater⟩⟩
          case isFalse hc =>
              rw [if_neg hc] at hrest
              rw [hrest] at h
              cases h
              exact ⟨(List.prefix_cons_inj c).2 hpart, hlater⟩

theorem infix_of_trim (s : List Char) : trim s <:+: s := by
  obtain ⟨pre, post, -, -, hs⟩ := exists_eq_trim s
  exact ⟨pre, post, hs.symm⟩

/-- Every selector stands in its list. -/
theorem infix_of_mem_splitSelectors {selector : List Char} (h : selector ∈ splitSelectors s) :
    selector <:+: s := by
  obtain ⟨part, hpart, rfl⟩ := List.mem_map.1 (List.mem_filter.1 h).1
  refine (infix_of_trim part).trans ?_
  cases hs : splitAtCommas .start s with
  | nil => exact absurd hs (splitAtCommas_ne_nil .start s)
  | cons first more =>
      obtain ⟨hfirst, hmore⟩ := infix_of_splitAtCommas hs
      rw [hs] at hpart
      rcases List.mem_cons.1 hpart with rfl | hpart
      · exact hfirst.isInfix
      · exact hmore part hpart

theorem infix_of_blockRule {head : List Char} {line : Nat} {declarations : List Declaration}
    (h : blockRule head line declarations rules = .ok rule) :
    rule.declarations = declarations ∧ ∀ selector ∈ rule.selectors, selector.toList <:+: head := by
  simp only [blockRule] at h
  split at h
  · split at h
    · cases h
      exact ⟨rfl, by simp [Rule.selectors]⟩
    · cases h
  · split at h
    · cases h
    · cases h
      refine ⟨rfl, fun selector hselector => ?_⟩
      obtain ⟨part, hpart, rfl⟩ := List.mem_map.1 hselector
      rw [String.toList_ofList]
      exact (infix_of_mem_splitSelectors hpart).trans (infix_of_trim head)

/-! ## Declarations -/

theorem infix_of_declaration {line : Nat} {d : Declaration} (h : declaration text line = .ok d) :
    d.value.toList <:+: text := by
  simp only [declaration] at h
  split at h
  · cases h
  · cases h
    rw [String.toList_ofList]
    calc trim (((trim text).dropWhile (· ≠ ':')).drop 1)
        <:+: ((trim text).dropWhile (· ≠ ':')).drop 1 := infix_of_trim _
      _ <:+: (trim text).dropWhile (· ≠ ':') := (List.drop_suffix 1 _).isInfix
      _ <:+: trim text := (List.dropWhile_suffix _).isInfix
      _ <:+: text := infix_of_trim text

theorem exists_of_mem_contents {items : List Item} {declarations : List Declaration}
    {d : Declaration} (h : contents items = .ok (declarations, rules)) (hd : d ∈ declarations) :
    ∃ text position, .text text position ∈ items ∧ d.value.toList <:+: text := by
  induction items generalizing declarations rules with
  | nil =>
      cases h
      cases hd
  | cons item rest ih =>
      rw [contents] at h
      obtain ⟨found, hfound, hrest⟩ := bind_eq_ok_iff.1 h
      obtain ⟨⟨others, inner⟩, hothers, hlast⟩ := bind_eq_ok_iff.1 hrest
      have hlater (hd : d ∈ others) :
          ∃ text position, .text text position ∈ item :: rest ∧ d.value.toList <:+: text := by
        obtain ⟨text, position, hmem, hvalue⟩ := ih hothers hd
        exact ⟨text, position, List.mem_cons_of_mem item hmem, hvalue⟩
      cases item with
      | block head position items =>
          rw [content] at hfound
          obtain ⟨made, -, hrule⟩ := bind_eq_ok_iff.1 hfound
          obtain ⟨rule, -, hmade⟩ := bind_eq_ok_iff.1 hrule
          cases hmade
          cases hlast
          exact hlater hd
      | text text position =>
          rw [content] at hfound
          obtain ⟨first, hfirst, hmade⟩ := bind_eq_ok_iff.1 hfound
          cases hmade
          cases hlast
          rcases List.mem_cons.1 hd with rfl | hd
          · exact ⟨text, position, List.mem_cons_self, infix_of_declaration hfirst⟩
          · exact hlater hd

/-! ## Stylesheets -/

/-- The texts of the items are heads among the tokens, however deep they are nested. -/
theorem Reads.mem_tokens {source plain : List Char} {t : Placed}
    (h : Reads source plain tokens n rules) (ht : t ∈ Item.headsAll n.items.reverse) :
    t.token ∈ tokens.map Placed.token := by
  have hheads := Nesting.heads_of_foldlM h.gathers
  simp only [Nesting.heads, Nesting.start, h.pending, h.outer, List.reverse_nil, List.flatMap_nil,
    List.nil_append, Option.toList_none, List.map_nil, List.append_nil, Item.headsAll] at hheads
  rw [hheads] at ht
  exact List.mem_map_of_mem (List.mem_filter.1 ht).1

/-- The selectors and the declared values of a rule stand in heads of the stylesheet. -/
theorem Reads.exists_head {source plain : List Char} (h : Reads source plain tokens n rules)
    (hrule : rule ∈ rules) :
    (∀ selector ∈ rule.selectors, ∃ text, .head text ∈ tokens.map Placed.token ∧
      selector.toList <:+: text) ∧
    ∀ d ∈ rule.declarations, ∃ text, .head text ∈ tokens.map Placed.token ∧
      d.value.toList <:+: text := by
  obtain ⟨item, hitem, hmade⟩ := (mem_of_mapM h.rules).1 hrule
  cases item with
  | text =>
      simp only [topRule, statementRule] at hmade
      split at hmade
      · cases hmade
        exact ⟨by simp [Rule.selectors], by simp [Rule.declarations]⟩
      · cases hmade
  | block head position items =>
      have hhead := h.mem_tokens (Item.mem_headsAll hitem List.mem_cons_self)
      rw [topRule] at hmade
      obtain ⟨⟨declarations, inner⟩, hinner, hblock⟩ := bind_eq_ok_iff.1 hmade
      obtain ⟨rfl, hselectors⟩ := infix_of_blockRule hblock
      refine ⟨fun selector hselector => ⟨head, hhead, hselectors selector hselector⟩, ?_⟩
      intro d hd
      obtain ⟨text, position', htext, hvalue⟩ := exists_of_mem_contents hinner hd
      have hin : ⟨.head text, position'⟩ ∈ Item.headsAll items :=
        Item.mem_headsAll htext (List.mem_singleton_self _)
      exact ⟨text, h.mem_tokens (Item.mem_headsAll hitem (List.mem_cons_of_mem _ hin)), hvalue⟩

/-- A head of a text is read where some rest of it starts. -/
theorem Reads.exists_of_head {source plain : List Char} (h : Reads source plain tokens n rules)
    (htext : .head text ∈ tokens.map Placed.token) :
    ∃ rest after, rest <:+ plain ∧ head? rest = some (text, after) := by
  obtain ⟨t, ht, htoken⟩ := List.mem_map.1 htext
  have hplaced : t ∈ (tokenize .start plain).1 := by
    rw [h.tokens]
    exact ht
  exact exists_of_mem_tokenize hplaced htoken

end StyleUsage.Stylesheet
