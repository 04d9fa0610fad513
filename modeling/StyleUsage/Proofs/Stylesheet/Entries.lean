import StyleUsage.Proofs.Stylesheet.Composition
import StyleUsage.Proofs.Stylesheet.Writing

/-!
# Items one by one

Whatever is nested ends before the block around it. In the order in which they end, the items of a
text are looked at one after the other, each on its own, and the rules that they make come about in
the same order. In the order in which they start, their texts are the heads among the tokens.
-/

namespace StyleUsage

namespace Rule

mutual

/-- The rules inside a rule, at any depth, and the rule itself, in the order in which they end. -/
def subrules : Rule → List Rule
  | style selectors declarations rules line =>
      subrulesAll rules ++ [style selectors declarations rules line]
  | atRule name params declarations rules line =>
      subrulesAll rules ++ [atRule name params declarations rules line]

/-- The rules of a list with all rules inside them, in the order in which they end. -/
def subrulesAll : List Rule → List Rule
  | [] => []
  | rule :: rest => rule.subrules ++ subrulesAll rest

end

/-- The rule with an empty block. -/
def bare (rule : Rule) : Rule :=
  rule.withBlock [] [] rule.line

theorem subrules_withBlock (rule : Rule) (declarations : List Declaration) (rules : List Rule)
    (line : Nat) : (rule.withBlock declarations rules line).subrules =
      subrulesAll rules ++ [rule.withBlock declarations rules line] := by
  cases rule <;> rfl

theorem bare_withBlock (rule : Rule) (declarations : List Declaration) (rules : List Rule)
    (line : Nat) : (rule.withBlock declarations rules line).bare = rule.withBlock [] [] line := by
  cases rule <;> rfl

@[simp] theorem line_bare (rule : Rule) : rule.bare.line = rule.line := by
  cases rule <;> rfl

end Rule

namespace Stylesheet

/-- An item without what stands in its block. -/
structure Entry where
  isBlock : Bool
  /-- Whether it stands in no block. -/
  isOutermost : Bool
  text : List Char
  position : Position
  deriving Repr, DecidableEq

/-- The rule that an entry makes, with an empty block. A text in a block makes none. -/
def Entry.rule (entry : Entry) : Except ParseError (Option Rule) :=
  if entry.isBlock then (blockRule entry.text entry.position.line [] []).map some
  else if entry.isOutermost then (statementRule entry.text entry.position.line).map some
  else (declaration entry.text entry.position.line).map fun _ => none

/-- The text of an entry at its place. -/
def Entry.head (entry : Entry) : Placed :=
  ⟨.head entry.text, entry.position⟩

/-- Whether an entry stands for a rule. -/
def Entry.isRule (entry : Entry) : Bool :=
  entry.isBlock || entry.isOutermost

namespace Item

mutual

/-- An item and all items inside it, in the order in which they end. -/
def entries (isOutermost : Bool) : Item → List Entry
  | text s position => [⟨false, isOutermost, s, position⟩]
  | block head position items =>
      entriesAll false items ++ [⟨true, isOutermost, head, position⟩]

/-- The items of a list with all items inside them, in the order in which they end. -/
def entriesAll (isOutermost : Bool) : List Item → List Entry
  | [] => []
  | item :: rest => item.entries isOutermost ++ entriesAll isOutermost rest

end

mutual

/-- The texts of an item and of all items inside it, in the order in which they start. -/
def heads : Item → List Placed
  | text s position => [⟨.head s, position⟩]
  | block head position items => ⟨.head head, position⟩ :: headsAll items

/-- The texts of some items and of all items inside them, in the order in which they start. -/
def headsAll : List Item → List Placed
  | [] => []
  | item :: rest => item.heads ++ headsAll rest

end

end Item

/-- Whether a token is a head. -/
def Placed.isHead (t : Placed) : Bool :=
  match t.token with
  | .head _ => true
  | _ => false

/-- The heads gathered so far, in the order in which they start. -/
def Nesting.heads (n : Nesting) : List Placed :=
  n.outer.reverse.flatMap
      (fun block => Item.headsAll block.before.reverse ++ [⟨.head block.head, block.position⟩]) ++
    Item.headsAll n.items.reverse ++
    n.pending.toList.map fun (text, position) => ⟨.head text, position⟩

variable {head text : List Char} {line : Nat} {declarations : List Declaration} {rules : List Rule}
  {item : Item} {items : List Item} {entry : Entry} {e : ParseError} {isOutermost : Bool}

/-! ## Single entries -/

/-- A block makes no difference to the rule of its head. -/
theorem blockRule_eq_map (head : List Char) (line : Nat) (declarations : List Declaration)
    (rules : List Rule) : blockRule head line declarations rules =
      (blockRule head line [] []).map (·.withBlock declarations rules line) := by
  unfold blockRule
  dsimp only
  split
  · split <;> rfl
  · split <;> rfl

theorem withBlock_of_blockRule {rule : Rule}
    (h : blockRule head line declarations rules = .ok rule) :
    rule.withBlock declarations rules line = rule := by
  simp only [blockRule] at h
  split at h
  · split at h <;> cases h
    rfl
  · split at h <;> cases h
    rfl

theorem subrules_of_statementRule {rule : Rule} (h : statementRule text line = .ok rule) :
    rule.subrules.map Rule.bare = [rule] := by
  unfold statementRule at h
  split at h <;> cases h
  rfl

/-- The line of a rule, or of the error in its place. -/
def lineOf : Except ParseError Rule → Nat
  | .ok rule => rule.line
  | .error e => e.line

theorem lineOf_blockRule (head : List Char) (line : Nat) (declarations : List Declaration)
    (rules : List Rule) : lineOf (blockRule head line declarations rules) = line := by
  unfold blockRule
  dsimp only
  split
  · split <;> rfl
  · split <;> rfl

theorem lineOf_statementRule (text : List Char) (line : Nat) :
    lineOf (statementRule text line) = line := by
  unfold statementRule
  split <;> rfl

theorem eq_error_of_map {α β ε : Type} {x : Except ε α} {f : α → β} {e : ε}
    (h : x.map f = .error e) : x = .error e := by
  cases x with
  | ok a => cases h
  | error e' =>
      cases h
      rfl

/-! ## Entries one after the other -/

/-- The rules that some entries make, if none of them fails. -/
def rulesOfEntries (entries : List Entry) : Except ParseError (List Rule) :=
  (entries.mapM Entry.rule).map (·.filterMap id)

theorem rulesOfEntries_append (before after : List Entry) :
    rulesOfEntries (before ++ after) = do
      let rules ← rulesOfEntries before
      let more ← rulesOfEntries after
      return rules ++ more := by
  unfold rulesOfEntries
  rw [List.mapM_append]
  cases before.mapM Entry.rule with
  | error e => rfl
  | ok made =>
      cases after.mapM Entry.rule with
      | error e => rfl
      | ok more => exact congrArg Except.ok List.filterMap_append

theorem rulesOfEntries_singleton (entry : Entry) :
    rulesOfEntries [entry] = entry.rule.map Option.toList := by
  unfold rulesOfEntries
  rw [List.mapM_cons]
  cases entry.rule with
  | error e => rfl
  | ok made => cases made <;> rfl

/-- The rules of an item with empty blocks. -/
def bareRules : Declaration ⊕ Rule → List Rule
  | .inl _ => []
  | .inr rule => rule.subrules.map Rule.bare

/-- A block is looked at when all that stands in it has been. -/
theorem block_eq_rulesOfEntries {position : Position}
    (h : (contents items).map (fun found => (Rule.subrulesAll found.2).map Rule.bare) =
      rulesOfEntries (Item.entriesAll false items)) (isOutermost : Bool) :
    (contents items >>= fun found => blockRule head position.line found.1 found.2).map
        (fun rule => rule.subrules.map Rule.bare) =
      rulesOfEntries ((Item.block head position items).entries isOutermost) := by
  have hentry : (⟨true, isOutermost, head, position⟩ : Entry).rule =
      (blockRule head position.line [] []).map some := rfl
  rw [Item.entries, rulesOfEntries_append, ← h, rulesOfEntries_singleton, hentry]
  cases contents items with
  | error e => rfl
  | ok found =>
      have hblock := blockRule_eq_map head position.line found.1 found.2
      cases hbare : blockRule head position.line [] [] with
      | error e =>
          rw [hbare] at hblock
          simp [hblock, Except.map, bind, Except.bind]
      | ok rule =>
          rw [hbare] at hblock
          have hrule := withBlock_of_blockRule hbare
          simp [hblock, Except.map, bind, Except.bind, pure, Except.pure, Rule.subrules_withBlock,
            Rule.bare_withBlock, hrule]

mutual

theorem content_eq_rulesOfEntries (item : Item) :
    (content item).map bareRules = rulesOfEntries (item.entries false) := by
  match item with
  | .text text position =>
      rw [Item.entries, rulesOfEntries_singleton, content]
      cases hd : declaration text position.line <;>
        simp [Entry.rule, hd, Except.map, bind, Except.bind, pure, Except.pure, bareRules]
  | .block head position items =>
      rw [← block_eq_rulesOfEntries (contents_eq_rulesOfEntries items) false, content]
      cases contents items with
      | error e => rfl
      | ok found =>
          cases hblock : blockRule head position.line found.1 found.2 <;>
            simp [hblock, Except.map, bind, Except.bind, pure, Except.pure, bareRules]

theorem contents_eq_rulesOfEntries (items : List Item) :
    (contents items).map (fun found => (Rule.subrulesAll found.2).map Rule.bare) =
      rulesOfEntries (Item.entriesAll false items) := by
  match items with
  | [] => rfl
  | item :: rest =>
      rw [Item.entriesAll, rulesOfEntries_append, ← content_eq_rulesOfEntries item,
        ← contents_eq_rulesOfEntries rest, contents]
      cases content item with
      | error e => rfl
      | ok found =>
          cases contents rest with
          | error e => rfl
          | ok more =>
              cases found <;> simp [Except.map, bind, Except.bind, pure, Except.pure, bareRules,
                Rule.subrulesAll]

end

theorem topRule_eq_rulesOfEntries (item : Item) :
    (topRule item).map (fun rule => rule.subrules.map Rule.bare) =
      rulesOfEntries (item.entries true) := by
  cases item with
  | text text position =>
      rw [Item.entries, rulesOfEntries_singleton, topRule]
      cases hrule : statementRule text position.line with
      | error e => simp [Entry.rule, hrule, Except.map]
      | ok rule => simp [Entry.rule, hrule, Except.map, subrules_of_statementRule hrule]
  | block head position items =>
      exact block_eq_rulesOfEntries (contents_eq_rulesOfEntries items) true

/-- The rules of some items, with all rules inside them, come about entry by entry, and the first
entry that fails is the one whose error is told. -/
theorem mapM_topRule_eq_rulesOfEntries (items : List Item) :
    (items.mapM topRule).map (fun rules => (Rule.subrulesAll rules).map Rule.bare) =
      rulesOfEntries (Item.entriesAll true items) := by
  induction items with
  | nil => rfl
  | cons item rest ih =>
      rw [Item.entriesAll, rulesOfEntries_append, ← topRule_eq_rulesOfEntries, ← ih, List.mapM_cons]
      cases topRule item with
      | error e => rfl
      | ok rule =>
          cases rest.mapM topRule with
          | error e => rfl
          | ok rules =>
              simp [Except.map, bind, Except.bind, pure, Except.pure, Rule.subrulesAll]

theorem isSome_of_rule {made : Option Rule} (h : entry.rule = .ok made) :
    made.isSome = entry.isRule := by
  obtain ⟨isBlock, isOutermost, text, position⟩ := entry
  cases isBlock with
  | true =>
      obtain ⟨rule, -, rfl⟩ := exists_of_map_eq_ok h
      rfl
  | false =>
      cases isOutermost with
      | true =>
          obtain ⟨rule, -, rfl⟩ := exists_of_map_eq_ok h
          rfl
      | false =>
          obtain ⟨found, -, rfl⟩ := exists_of_map_eq_ok h
          rfl

/-- Where no entry fails, the rules belong to the entries that stand for rules, in order. -/
theorem forall₂_of_rulesOfEntries {entries : List Entry}
    (h : rulesOfEntries entries = .ok rules) :
    List.Forall₂ (fun entry rule => entry.rule = .ok (some rule)) (entries.filter Entry.isRule)
      rules := by
  induction entries generalizing rules with
  | nil =>
      cases h
      exact .nil
  | cons entry rest ih =>
      rw [← List.singleton_append, rulesOfEntries_append, rulesOfEntries_singleton] at h
      obtain ⟨first, hfirst, hrest⟩ := bind_eq_ok_iff.1 h
      obtain ⟨more, hmore, hlast⟩ := bind_eq_ok_iff.1 hrest
      cases hlast
      obtain ⟨made, hmade, rfl⟩ := exists_of_map_eq_ok hfirst
      have hisRule := isSome_of_rule hmade
      cases made with
      | none =>
          rw [List.filter_cons_of_neg (by simp [← hisRule])]
          exact ih hmore
      | some rule =>
          rw [List.filter_cons_of_pos (by simp [← hisRule])]
          exact .cons hmade (ih hmore)

/-- Where an entry fails, the error is that of the first one that does. -/
theorem exists_of_rulesOfEntries_eq_error {entries : List Entry}
    (h : rulesOfEntries entries = .error e) : ∃ earlier entry later,
      entries = earlier ++ entry :: later ∧ (∀ other ∈ earlier, ∃ made, other.rule = .ok made) ∧
        entry.rule = .error e := by
  induction entries with
  | nil => cases h
  | cons entry rest ih =>
      rw [← List.singleton_append, rulesOfEntries_append, rulesOfEntries_singleton] at h
      cases hrule : entry.rule with
      | error e' =>
          rw [hrule] at h
          cases h
          exact ⟨[], entry, rest, rfl, by simp, hrule⟩
      | ok made =>
          cases hrest : rulesOfEntries rest with
          | ok more =>
              rw [hrule, hrest] at h
              cases h
          | error e' =>
              rw [hrule, hrest] at h
              cases h
              obtain ⟨earlier, found, later, rfl, hearlier, hfound⟩ := ih hrest
              exact ⟨entry :: earlier, found, later, rfl,
                List.forall_mem_cons.2 ⟨⟨made, hrule⟩, hearlier⟩, hfound⟩

/-- The rule of an entry, and the error in its place, have the line of the entry. -/
theorem line_of_rule_eq_ok {rule : Rule} (h : entry.rule = .ok (some rule)) :
    rule.line = entry.position.line := by
  unfold Entry.rule at h
  split at h
  case isTrue =>
      obtain ⟨made, hmade, hsome⟩ := exists_of_map_eq_ok h
      cases hsome
      simpa [hmade, lineOf] using lineOf_blockRule entry.text entry.position.line [] []
  case isFalse =>
      split at h
      case isTrue =>
          obtain ⟨made, hmade, hsome⟩ := exists_of_map_eq_ok h
          cases hsome
          simpa [hmade, lineOf] using lineOf_statementRule entry.text entry.position.line
      case isFalse =>
          obtain ⟨found, -, hnone⟩ := exists_of_map_eq_ok h
          cases hnone

theorem line_of_rule_eq_error (h : entry.rule = .error e) : e.line = entry.position.line := by
  unfold Entry.rule at h
  split at h
  case isTrue =>
      have hblock := lineOf_blockRule entry.text entry.position.line [] []
      rwa [eq_error_of_map h] at hblock
  case isFalse =>
      split at h
      case isTrue =>
          have hstatement := lineOf_statementRule entry.text entry.position.line
          rwa [eq_error_of_map h] at hstatement
      case isFalse =>
          have hdeclaration := eq_error_of_map h
          simp only [declaration] at hdeclaration
          split at hdeclaration <;> cases hdeclaration
          rfl

/-! ## Where texts of items come from -/

theorem Item.headsAll_append (before after : List Item) :
    headsAll (before ++ after) = headsAll before ++ headsAll after := by
  induction before with
  | nil => rfl
  | cons item rest ih => rw [List.cons_append, headsAll, headsAll, ih, List.append_assoc]

theorem Item.mem_headsAll {t : Placed} (hitem : item ∈ items) (ht : t ∈ item.heads) :
    t ∈ headsAll items := by
  obtain ⟨before, after, rfl⟩ := List.append_of_mem hitem
  rw [headsAll_append, headsAll]
  exact List.mem_append_right _ (List.mem_append_left _ ht)

mutual

theorem Item.head_mem_heads {outermost : Bool} {item : Item} (h : entry ∈ item.entries outermost) :
    entry.head ∈ item.heads := by
  match item with
  | .text s position =>
      rw [List.mem_singleton.1 h]
      exact List.mem_singleton_self _
  | .block s position items =>
      rcases List.mem_append.1 h with h | h
      · exact List.mem_cons_of_mem _ (Item.head_mem_headsAll h)
      · rw [List.mem_singleton.1 h]
        exact List.mem_cons_self

/-- The text of each entry is one of the texts in the order in which they start. -/
theorem Item.head_mem_headsAll {outermost : Bool} {items : List Item}
    (h : entry ∈ entriesAll outermost items) : entry.head ∈ headsAll items := by
  match items with
  | [] => cases h
  | item :: rest =>
      rcases List.mem_append.1 h with h | h
      · exact List.mem_append_left _ (Item.head_mem_heads h)
      · exact List.mem_append_right _ (Item.head_mem_headsAll h)

end

namespace Nesting

variable {n n' : Nesting} {t : Placed} {tokens : List Placed}

theorem headsAll_settle (n : Nesting) : Item.headsAll n.settle.reverse =
    Item.headsAll n.items.reverse ++
      n.pending.toList.map fun (text, position) => ⟨.head text, position⟩ := by
  unfold settle
  cases n.pending with
  | none => simp
  | some pending =>
      obtain ⟨text, position⟩ := pending
      rw [List.reverse_cons, Item.headsAll_append]
      rfl

/-- A head is added behind the others, and no other token adds or moves one. -/
theorem Gathers.heads_eq (h : Gathers n t n') : n'.heads = n.heads ++ [t].filter Placed.isHead := by
  cases h with
  | @head text ht hp =>
      have hhead : t.isHead = true := by rw [Placed.isHead, ht]
      have hplaced : (⟨.head text, t.position⟩ : Placed) = t := by rw [← ht]
      simp [heads, hp, hhead, hplaced]
  | opened ht hp =>
      have ht : t.isHead = false := by rw [Placed.isHead, ht]
      simp [heads, hp, ht, Item.headsAll]
  | ended ht =>
      have ht : t.isHead = false := by rw [Placed.isHead, ht]
      simp [heads, ht, headsAll_settle]
  | closed ht ho =>
      have ht : t.isHead = false := by rw [Placed.isHead, ht]
      simp [heads, ho, ht, Item.headsAll_append, Item.headsAll, Item.heads, headsAll_settle]

theorem heads_of_foldlM (h : tokens.foldlM Nesting.step n = .ok n') :
    n'.heads = n.heads ++ tokens.filter Placed.isHead := by
  induction tokens generalizing n with
  | nil =>
      cases h
      simp
  | cons t rest ih =>
      rw [List.foldlM_cons] at h
      obtain ⟨next, hstep, hmore⟩ := bind_eq_ok_iff.1 h
      rw [ih hmore, (gathers_of_step hstep).heads_eq, List.append_assoc, ← List.filter_append,
        List.singleton_append]

end Nesting

/-- The items of a text have the heads among its tokens for their texts. -/
theorem headsAll_of_nest {s : List Char} (h : nest s = .ok items) :
    Item.headsAll items = (tokenize .start s).1.filter Placed.isHead := by
  obtain ⟨placed, n, htokens, hn, hpending, houter, rfl⟩ := exists_of_nest h
  have hheads := Nesting.heads_of_foldlM hn
  simpa [Nesting.heads, Nesting.start, hpending, houter, htokens, Item.headsAll] using hheads

end Stylesheet

end StyleUsage
