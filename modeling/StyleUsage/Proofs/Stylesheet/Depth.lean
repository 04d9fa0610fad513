import StyleUsage.Proofs.Stylesheet.ClassNames
import StyleUsage.Proofs.Stylesheet.Composition
import StyleUsage.Proofs.Stylesheet.Printing

/-!
# How deep stylesheets nest

A text that can be read is too deep exactly if the rules that are read from it are nested deeper
than there is room for. So there are stylesheets of every depth, and some of them are too deep.
-/

namespace StyleUsage

open StyleUsage.Text StyleUsage.Stylesheet

namespace Rule

mutual

/-- How deep rules are nested in a rule, itself included. -/
def depth : Rule → Nat
  | style _ _ rules _ | atRule _ _ _ rules _ => depthAll rules + 1

/-- How deep some rules are nested. -/
def depthAll : List Rule → Nat
  | [] => 0
  | rule :: rest => max rule.depth (depthAll rest)

end

mutual

theorem depth_unlined (rule : Rule) : rule.unlined.depth = rule.depth := by
  match rule with
  | style selectors declarations rules line | atRule name params declarations rules line =>
      simp [unlined, depth, depthAll_unlinedAll rules]

theorem depthAll_unlinedAll (rules : List Rule) : depthAll (unlinedAll rules) = depthAll rules := by
  match rules with
  | [] => rfl
  | rule :: rest =>
      rw [unlinedAll, depthAll, depthAll, depth_unlined rule, depthAll_unlinedAll rest]

end

theorem selectors_unlinedAll (rules : List Rule) :
    (unlinedAll rules).flatMap selectors = rules.flatMap selectors := by
  induction rules with
  | nil => rfl
  | cons rule rest ih =>
      rw [unlinedAll, List.flatMap_cons, List.flatMap_cons, ih]
      cases rule <;> rfl

end Rule

namespace Stylesheet

section
variable {head text : List Char} {line : Nat} {declarations : List Declaration}
  {rules : List Rule} {rule : Rule} {items : List Item} {source : List Char}

/-! ## What is read -/

theorem depth_of_blockRule (h : blockRule head line declarations rules = .ok rule) :
    rule.depth = Rule.depthAll rules + 1 := by
  simp only [blockRule] at h
  split at h
  · split at h <;> cases h
    rfl
  · split at h <;> cases h
    rfl

theorem depth_of_statementRule (h : statementRule text line = .ok rule) : rule.depth = 1 := by
  unfold statementRule at h
  split at h <;> cases h
  rfl

/-- A declaration nests nothing. -/
def contentDepth : Declaration ⊕ Rule → Nat
  | .inl _ => 0
  | .inr rule => rule.depth

mutual

theorem depth_of_content {item : Item} {found : Declaration ⊕ Rule}
    (h : content item = .ok found) : contentDepth found = item.depth := by
  match item with
  | .text text position =>
      obtain ⟨d, -, hmade⟩ := bind_eq_ok_iff.1 h
      cases hmade
      rfl
  | .block head position items =>
      obtain ⟨⟨declarations, rules⟩, hcontents, hblock⟩ := bind_eq_ok_iff.1 h
      obtain ⟨rule, hrule, hmade⟩ := bind_eq_ok_iff.1 hblock
      cases hmade
      rw [contentDepth, depth_of_blockRule hrule, depth_of_contents hcontents, Item.depth]

/-- In a block, rules are nested as deep as the blocks that they are read from. -/
theorem depth_of_contents {items : List Item} {declarations : List Declaration}
    {rules : List Rule} (h : contents items = .ok (declarations, rules)) :
    Rule.depthAll rules = depthOf items := by
  match items with
  | [] =>
      cases h
      rfl
  | item :: rest =>
      obtain ⟨found, hfound, hmore⟩ := bind_eq_ok_iff.1 h
      obtain ⟨⟨others, inner⟩, hothers, hlast⟩ := bind_eq_ok_iff.1 hmore
      have hitem := depth_of_content hfound
      have hrest := depth_of_contents hothers
      cases found with
      | inl d =>
          cases hlast
          rw [depthOf, ← hitem, hrest]
          exact (Nat.zero_max _).symm
      | inr rule =>
          cases hlast
          rw [depthOf, ← hitem, ← hrest]
          rfl

end

/-- Outside of blocks, a statement makes a rule without being a block. -/
theorem depth_of_topRule {item : Item} (h : topRule item = .ok rule) :
    rule.depth = max 1 item.depth := by
  cases item with
  | text text position => exact depth_of_statementRule h
  | block head position items =>
      obtain ⟨⟨declarations, rules⟩, hcontents, hblock⟩ := bind_eq_ok_iff.1 h
      rw [depth_of_blockRule hblock, depth_of_contents hcontents, Item.depth]
      omega

theorem depth_of_mapM_topRule (h : items.mapM topRule = .ok rules) :
    max 1 (Rule.depthAll rules) = max 1 (depthOf items) := by
  induction items generalizing rules with
  | nil =>
      cases h
      rfl
  | cons item rest ih =>
      rw [List.mapM_cons] at h
      obtain ⟨rule, hrule, hmore⟩ := bind_eq_ok_iff.1 h
      obtain ⟨others, hothers, hlast⟩ := bind_eq_ok_iff.1 hmore
      cases hlast
      have hrest := ih hothers
      rw [Rule.depthAll, depthOf, depth_of_topRule hrule]
      omega

/-- A text that can be read is too deep exactly if its rules are nested deeper than there is room
for. -/
theorem isTooDeep_eq_of_parse {source : String} {sheet : Stylesheet}
    (h : parse source = .ok sheet) :
    isTooDeep source = decide (deepestNesting < Rule.depthAll sheet.rules) := by
  obtain ⟨plain, hplain, hrest⟩ := bind_eq_ok_iff.1 h
  obtain ⟨rules, hrules, hsheet⟩ := bind_eq_ok_iff.1 hrest
  cases hsheet
  obtain ⟨items, hitems, hmap⟩ := bind_eq_ok_iff.1 hrules
  have hdepth := depth_of_mapM_topRule hmap
  simp only [isTooDeep, mapError_eq_ok hplain, mapError_eq_ok hitems, Except.toOption,
    Option.any_some]
  refine decide_eq_decide.2 ?_
  rw [deepestNesting]
  omega

/-- A written form is too deep exactly if the rules that it is a form of are nested too deep. -/
theorem IsReadAs.isTooDeep_eq (h : IsReadAs source rules) :
    isTooDeep (String.ofList source) = decide (deepestNesting < Rule.depthAll rules) := by
  obtain ⟨sheet, hparse, hsame⟩ := h
  rw [isTooDeep_eq_of_parse hparse, ← Rule.depthAll_unlinedAll sheet.rules, hsame,
    Rule.depthAll_unlinedAll]

end

/-! ## Rules within rules -/

/-- A rule in a rule in a rule, and so on, as many of them as asked for. -/
def nestedRules : Nat → List Rule
  | 0 => []
  | n + 1 => [.style ["a"] [] (nestedRules n) 0]

/-- The text of as many rules within each other. -/
def nestedText (n : Nat) : String :=
  String.ofList ((List.replicate n ['a', '{']).flatten ++ List.replicate n '}')

theorem depthAll_nestedRules (n : Nat) : Rule.depthAll (nestedRules n) = n := by
  induction n with
  | zero => rfl
  | succ n ih => simp [nestedRules, Rule.depthAll, Rule.depth, ih]

theorem isPrintable_of_mem_nestedRules (n : Nat) : ∀ rule ∈ nestedRules n, rule.IsPrintable := by
  induction n with
  | zero => exact fun _ h => absurd h List.not_mem_nil
  | succ n ih =>
      intro rule hrule
      rw [List.mem_singleton.1 hrule]
      have ha : IsSelector "a".toList := ⟨by decide, by decide, .plain (by decide) (by decide) .nil⟩
      have hsafe : SafeText "a".toList := safeText_of_all (by decide)
      refine .intro ⟨List.cons_ne_nil _ _, ?_, by rintro s ⟨⟩; decide⟩
        (fun _ h => absurd h List.not_mem_nil) ih
      intro s hs
      rw [List.mem_singleton.1 hs]
      exact ⟨ha, hsafe⟩

theorem ofList_printAll_nestedRules (n : Nat) :
    String.ofList (Rule.printAll (nestedRules n)) = nestedText n := by
  have hprint : Rule.printAll (nestedRules n) =
      (List.replicate n ['a', '{']).flatten ++ List.replicate n '}' := by
    induction n with
    | zero => rfl
    | succ n ih =>
        rw [List.replicate_succ' (a := '}')]
        simp [nestedRules, Rule.printAll, Rule.print, printSelectors, printDeclarations, ih,
          List.replicate_succ]
  rw [hprint, nestedText]

theorem declared_nestedRules (n : Nat) : (⟨nestedRules n⟩ : Stylesheet).declared = [] := by
  cases n with
  | zero => rfl
  | succ n => rfl

/-- Rules within each other are read however deep they are nested, and declare nothing. There is no
room for them as soon as they are nested too deep. -/
theorem nestedText_reads (n : Nat) :
    (∃ sheet, parse (nestedText n) = .ok sheet ∧ sheet.declared = []) ∧
      isTooDeep (nestedText n) = decide (deepestNesting < n) := by
  have hprintable := isPrintable_of_mem_nestedRules n
  have hreads := isReadAs_of_isWritten (isWritten_printAll hprintable) hprintable
  have hdepth := hreads.isTooDeep_eq
  obtain ⟨sheet, hparse, hsame⟩ := hreads
  rw [ofList_printAll_nestedRules] at hparse hdepth
  rw [depthAll_nestedRules] at hdepth
  refine ⟨⟨sheet, hparse, ?_⟩, hdepth⟩
  rw [← declared_nestedRules n]
  apply Stylesheet.declared_of_selectors
  rw [← Rule.selectors_unlinedAll, hsame, Rule.selectors_unlinedAll]

theorem isTooDeep_thousand : isTooDeep (nestedText 1000) = true :=
  (nestedText_reads 1000).2.trans (by decide)

end Stylesheet

end StyleUsage
