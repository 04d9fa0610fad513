import StyleUsage.Proofs.Stylesheet.Items

/-!
# Which texts are stylesheets

A text is read as a stylesheet exactly if its comments end, it splits into tokens, and its tokens
conform to the language. What the reader has gathered at some point, open blocks included, can
become part of a stylesheet exactly if the items so far pass and the remaining tokens go on as
they should.
-/

namespace StyleUsage.Stylesheet

open StyleUsage.Text

namespace Nesting

/-- The open blocks have heads that blocks may follow, and the items before them pass. -/
def OuterPasses : List OpenBlock → Prop
  | [] => True
  | block :: outer => HeadsBlock block.head ∧
      (∀ item ∈ block.before, item.Passes outer.isEmpty) ∧ OuterPasses outer

/-- All that has been gathered so far passes. -/
def IsSound (n : Nesting) : Prop :=
  (∀ item ∈ n.items, item.Passes n.outer.isEmpty) ∧ OuterPasses n.outer

/-- The remaining tokens complete what has been gathered so far. -/
def IsCompletedBy (n : Nesting) (tokens : List Token) : Prop :=
  match n.pending with
  | some (text, _) => Suffices n.outer.length text tokens.head? ∧
      GoesOn n.outer.length (some (.head text)) tokens
  | none => GoesOn n.outer.length none tokens

/-- The texts gathered so far start as tokens do, and nothing is open before the first token. -/
structure IsProper (n : Nesting) : Prop where
  pending : ∀ text position, n.pending = some (text, position) → StartsInk text
  outer : ∀ block ∈ n.outer, StartsInk block.head
  last : n.last = none → n.pending = none ∧ n.outer = []

theorem isProper_start : start.IsProper where
  pending _ _ h := by cases h
  outer _ h := by cases h
  last _ := ⟨rfl, rfl⟩

variable {n n' : Nesting} {t : Placed}

/-- Only a head as the last token makes a difference to what comes after it. -/
theorem goesOn_of_not_head {d : Int} {previous : Option Token} {tokens : List Token}
    (h : ∀ text, previous ≠ some (.head text)) :
    GoesOn d previous tokens ↔ GoesOn d none tokens := by
  cases tokens with
  | nil => rfl
  | cons t rest => simp [GoesOn, h]

/-- One more token, where it can come. -/
inductive Gathers (n : Nesting) (t : Placed) : Nesting → Prop where
  | head {text : List Char} (ht : t.token = .head text) (hp : n.pending = none) :
      Gathers n t { n with pending := some (text, t.position), last := some t }
  | opened {head : List Char} {position : Position} (ht : t.token = .leftBrace)
      (hp : n.pending = some (head, position)) :
      Gathers n t ⟨⟨head, position, n.items⟩ :: n.outer, [], none, some t⟩
  | ended (ht : t.token = .semicolon) : Gathers n t ⟨n.outer, n.settle, none, some t⟩
  | closed {block : OpenBlock} {outer : List OpenBlock} (ht : t.token = .rightBrace)
      (ho : n.outer = block :: outer) :
      Gathers n t
        ⟨outer, .block block.head block.position n.settle.reverse :: block.before, none, some t⟩

theorem gathers_of_step (h : n.step t = .ok n') : Gathers n t n' := by
  unfold Nesting.step at h
  cases ht : t.token with
  | head text =>
      cases hp : n.pending <;> simp only [ht, hp] at h <;> cases h
      exact .head ht hp
  | leftBrace =>
      cases hp : n.pending with
      | none =>
          simp only [ht, hp] at h
          cases h
      | some pending =>
          simp only [ht, hp, Except.ok.injEq] at h
          exact h ▸ .opened ht hp
  | semicolon =>
      simp only [ht, Except.ok.injEq] at h
      exact h ▸ .ended ht
  | rightBrace =>
      simp only [ht, close] at h
      cases ho : n.outer with
      | nil => cases hp : n.pending <;> cases hl : n.last <;> simp [ho, hp, hl] at h
      | cons block outer =>
          simp only [ho, Except.ok.injEq] at h
          exact h ▸ .closed ht ho

theorem IsProper.step (hn : n.IsProper) (ht : ∀ text, t.token = .head text → StartsInk text)
    (h : Gathers n t n') : n'.IsProper := by
  cases h with
  | @head text htoken hp =>
      refine ⟨fun text' position hpending => ?_, hn.outer, by simp⟩
      cases hpending
      exact ht text htoken
  | opened htoken hp =>
      refine ⟨by simp, fun block hblock => ?_, by simp⟩
      rcases List.mem_cons.1 hblock with rfl | hblock
      · exact hn.pending _ _ hp
      · exact hn.outer block hblock
  | ended => exact ⟨by simp, hn.outer, by simp⟩
  | closed htoken ho =>
      refine ⟨by simp, fun block hblock => ?_, by simp⟩
      exact hn.outer block (ho ▸ List.mem_cons_of_mem _ hblock)

/-- The waiting head passes as the last text of its block. -/
def PendingPasses (n : Nesting) (isOutermost : Bool) : Prop :=
  ∀ text position, n.pending = some (text, position) →
    if isOutermost then IsAtRule text else IsDeclaration text

theorem forall_settle_iff (hn : n.IsProper) (isOutermost : Bool) :
    (∀ item ∈ n.settle, item.Passes isOutermost) ↔
      (∀ item ∈ n.items, item.Passes isOutermost) ∧ n.PendingPasses isOutermost := by
  unfold settle PendingPasses
  cases hp : n.pending with
  | none => simp
  | some pending =>
      obtain ⟨text, position⟩ := pending
      have hpasses : (Item.text text position).Passes isOutermost ↔
          if isOutermost then IsAtRule text else IsDeclaration text :=
        passes_text isOutermost (hn.pending text position hp)
      simp only [List.forall_mem_cons, hpasses, Option.some.injEq, Prod.mk.injEq]
      constructor
      · rintro ⟨htext, hitems⟩
        refine ⟨hitems, ?_⟩
        rintro _ _ ⟨rfl, rfl⟩
        exact htext
      · rintro ⟨hitems, htext⟩
        exact ⟨htext text position ⟨rfl, rfl⟩, hitems⟩

/-! ### What the next token asks for -/

theorem isCompletedBy_head (text : List Char) (rest : List Token) :
    n.IsCompletedBy (.head text :: rest) ↔ n.pending = none ∧
      Suffices n.outer.length text rest.head? ∧
      GoesOn n.outer.length (some (.head text)) rest := by
  cases hp : n.pending with
  | none => simp [IsCompletedBy, hp, GoesOn, Token.delta]
  | some pending => simp [IsCompletedBy, hp, Suffices]

theorem isCompletedBy_leftBrace (rest : List Token) : n.IsCompletedBy (.leftBrace :: rest) ↔
    ∃ head position, n.pending = some (head, position) ∧ HeadsBlock head ∧
      GoesOn (n.outer.length + 1) none rest := by
  have hrest : GoesOn (n.outer.length + 1) (some .leftBrace) rest ↔
      GoesOn (n.outer.length + 1) none rest := goesOn_of_not_head (by simp)
  cases hp : n.pending with
  | none => simp [IsCompletedBy, hp, GoesOn]
  | some pending =>
      obtain ⟨head, position⟩ := pending
      have hopen : (0 : Int) ≤ n.outer.length + 1 := by omega
      simp [IsCompletedBy, hp, Suffices, GoesOn, Token.delta, hrest, hopen]

/-- What ends with a semicolon is an at-rule outside of blocks and a declaration in one. -/
theorem suffices_semicolon_iff {outer : List OpenBlock} {text : List Char} :
    Suffices outer.length text (some .semicolon) ↔
      if outer.isEmpty then IsAtRule text else IsDeclaration text := by
  cases outer with
  | nil => simp [Suffices]
  | cons block outer =>
      have hopen : (1 : Int) ≤ outer.length + 1 := by omega
      have hne : (outer.length : Int) + 1 ≠ 0 := by omega
      simp [Suffices, hopen, hne]

theorem isCompletedBy_semicolon (rest : List Token) : n.IsCompletedBy (.semicolon :: rest) ↔
    n.PendingPasses n.outer.isEmpty ∧ GoesOn n.outer.length none rest := by
  have hrest : GoesOn n.outer.length (some .semicolon) rest ↔
      GoesOn n.outer.length none rest := goesOn_of_not_head (by simp)
  cases hp : n.pending with
  | none => simp [IsCompletedBy, PendingPasses, hp, GoesOn, Token.delta, hrest]
  | some pending =>
      obtain ⟨text, position⟩ := pending
      simp [IsCompletedBy, PendingPasses, hp, GoesOn, Token.delta, hrest, suffices_semicolon_iff]

theorem isCompletedBy_rightBrace (rest : List Token) : n.IsCompletedBy (.rightBrace :: rest) ↔
    n.outer ≠ [] ∧ n.PendingPasses false ∧ GoesOn (n.outer.length - 1) none rest := by
  have hrest : GoesOn (n.outer.length - 1) (some .rightBrace) rest ↔
      GoesOn (n.outer.length - 1) none rest := goesOn_of_not_head (by simp)
  have hopen : (0 : Int) ≤ n.outer.length + -1 ↔ n.outer ≠ [] := by
    rw [ne_eq, ← List.length_eq_zero_iff]
    omega
  have hopen' : (1 : Int) ≤ n.outer.length ↔ n.outer ≠ [] := by
    rw [ne_eq, ← List.length_eq_zero_iff]
    omega
  rw [Int.sub_eq_add_neg] at hrest ⊢
  cases hp : n.pending with
  | none => simp [IsCompletedBy, PendingPasses, hp, GoesOn, Token.delta, hrest, hopen]
  | some pending =>
      obtain ⟨text, position⟩ := pending
      simp only [IsCompletedBy, PendingPasses, hp, GoesOn, Token.delta, hrest, hopen, hopen',
        Suffices, List.head?_cons]
      constructor
      · rintro ⟨⟨ho, htext⟩, -, -, -, hgoes⟩
        refine ⟨ho, ?_, hgoes⟩
        rintro _ _ ⟨⟩
        exact htext
      · rintro ⟨ho, htext, hgoes⟩
        exact ⟨⟨ho, htext text position rfl⟩, ho, by simp, by simp, hgoes⟩

theorem isCompletedBy_nil : n.IsCompletedBy [] ↔ n.pending = none ∧ n.outer = [] := by
  cases hp : n.pending with
  | none => simp [IsCompletedBy, hp, GoesOn]
  | some pending => simp [IsCompletedBy, hp, Suffices]

theorem IsSound.step (hn : n.IsProper) (rest : List Token) (h : Gathers n t n') :
    (n'.IsSound ∧ n'.IsCompletedBy rest) ↔ (n.IsSound ∧ n.IsCompletedBy (t.token :: rest)) := by
  cases h with
  | head ht hp =>
      rw [ht, isCompletedBy_head]
      simp [IsSound, IsCompletedBy, hp]
  | @opened head position ht hp =>
      have hone : ((n.outer.length + 1 : Nat) : Int) = n.outer.length + 1 := by omega
      rw [ht, isCompletedBy_leftBrace]
      simp only [IsSound, IsCompletedBy, hp, OuterPasses, List.length_cons, hone,
        Option.some.injEq, Prod.mk.injEq]
      constructor
      · rintro ⟨⟨-, hhead, hitems, houter⟩, hgoes⟩
        exact ⟨⟨hitems, houter⟩, head, position, ⟨rfl, rfl⟩, hhead, hgoes⟩
      · rintro ⟨⟨hitems, houter⟩, _, _, ⟨rfl, rfl⟩, hhead, hgoes⟩
        exact ⟨⟨by simp, hhead, hitems, houter⟩, hgoes⟩
  | ended ht =>
      rw [ht, isCompletedBy_semicolon]
      simp only [IsSound, IsCompletedBy, forall_settle_iff hn]
      constructor
      · rintro ⟨⟨⟨hitems, hpending⟩, houter⟩, hgoes⟩
        exact ⟨⟨hitems, houter⟩, hpending, hgoes⟩
      · rintro ⟨⟨hitems, houter⟩, hpending, hgoes⟩
        exact ⟨⟨⟨hitems, hpending⟩, houter⟩, hgoes⟩
  | @closed block outer ht ho =>
      have hink := hn.outer block (ho ▸ List.mem_cons_self)
      have hone : ((outer.length + 1 : Nat) : Int) - 1 = outer.length := by omega
      rw [ht, isCompletedBy_rightBrace]
      simp only [IsSound, IsCompletedBy, ho, OuterPasses, List.forall_mem_cons,
        passes_block _ hink, List.mem_reverse, forall_settle_iff hn, List.isEmpty_cons,
        List.length_cons, hone]
      constructor
      · rintro ⟨⟨⟨⟨hhead, hitems, hpending⟩, hbefore⟩, houter⟩, hgoes⟩
        exact ⟨⟨hitems, hhead, hbefore, houter⟩, by simp, hpending, hgoes⟩
      · rintro ⟨⟨hitems, hhead, hbefore, houter⟩, -, hpending, hgoes⟩
        exact ⟨⟨⟨⟨hhead, hitems, hpending⟩, hbefore⟩, houter⟩, hgoes⟩

theorem not_isCompletedBy {e : SyntaxError} (rest : List Token) (h : n.step t = .error e) :
    ¬ n.IsCompletedBy (t.token :: rest) := by
  unfold Nesting.step at h
  cases ht : t.token with
  | head text =>
      rw [isCompletedBy_head]
      rintro ⟨hp, -⟩
      simp [ht, hp] at h
  | leftBrace =>
      rw [isCompletedBy_leftBrace]
      rintro ⟨head, position, hp, -⟩
      simp [ht, hp] at h
  | semicolon => simp [ht] at h
  | rightBrace =>
      rw [isCompletedBy_rightBrace]
      rintro ⟨ho, -⟩
      cases houter : n.outer with
      | nil => exact ho houter
      | cons block outer => simp [ht, close, houter] at h

theorem finish_iff (hn : n.IsProper) :
    (∃ items, n.finish = .ok items ∧ ∀ item ∈ items, item.Passes true) ↔
      n.IsSound ∧ n.IsCompletedBy [] := by
  rw [isCompletedBy_nil]
  by_cases hdone : n.pending = none ∧ n.outer = []
  · obtain ⟨hp, ho⟩ := hdone
    simp [finish, hp, ho, IsSound, OuterPasses]
  · have hlast : ∃ last, n.last = some last := by
      cases hl : n.last with
      | none => exact absurd (hn.last hl) hdone
      | some last => exact ⟨last, rfl⟩
    obtain ⟨last, hl⟩ := hlast
    constructor
    · rintro ⟨items, hfinish, -⟩
      cases hp : n.pending <;> cases ho : n.outer <;> simp [finish, hp, ho, hl] at hfinish hdone
    · rintro ⟨-, hcompleted⟩
      exact absurd hcompleted hdone

/-- What has been gathered and the remaining tokens make rules. -/
theorem foldlM_iff {tokens : List Placed} (hn : n.IsProper)
    (htokens : ∀ t ∈ tokens, ∀ text, t.token = .head text → StartsInk text) :
    (∃ n' items, tokens.foldlM Nesting.step n = .ok n' ∧ n'.finish = .ok items ∧
      ∀ item ∈ items, item.Passes true) ↔
    n.IsSound ∧ n.IsCompletedBy (tokens.map Placed.token) := by
  induction tokens generalizing n with
  | nil =>
      rw [List.map_nil, ← finish_iff hn]
      constructor
      · rintro ⟨n', items, hfold, hfinish, hitems⟩
        cases hfold
        exact ⟨items, hfinish, hitems⟩
      · rintro ⟨items, hfinish, hitems⟩
        exact ⟨n, items, rfl, hfinish, hitems⟩
  | cons t rest ih =>
      rw [List.map_cons, List.foldlM_cons]
      cases hstep : n.step t with
      | error e =>
          have hno := not_isCompletedBy (rest.map Placed.token) hstep
          constructor
          · rintro ⟨n', items, hfold, -⟩
            cases hfold
          · rintro ⟨-, hcompleted⟩
            exact absurd hcompleted hno
      | ok n' =>
          have hgathers := gathers_of_step hstep
          rw [← IsSound.step hn (rest.map Placed.token) hgathers]
          exact ih (hn.step (htokens t List.mem_cons_self) hgathers)
            fun t' ht' => htokens t' (List.mem_cons_of_mem t ht')

end Nesting

/-! ## Texts -/

theorem exists_nest_iff {s : List Char} :
    (∃ items, nest s = .ok items ∧ ∀ item ∈ items, item.Passes true) ↔
      ∃ placed, tokenize .start s = (placed, none) ∧ Conforms (placed.map Placed.token) := by
  have hink := startsInk_of_mem_tokenize .start s
  cases htokens : tokenize .start s with
  | mk placed stray =>
      rw [htokens] at hink
      have hfold := Nesting.foldlM_iff Nesting.isProper_start hink
      have hstart (tokens : List Token) :
          Nesting.start.IsSound ∧ Nesting.start.IsCompletedBy tokens ↔ Conforms tokens := by
        rw [conforms_iff]
        simp [Nesting.start, Nesting.IsSound, Nesting.OuterPasses, Nesting.IsCompletedBy]
      rw [hstart] at hfold
      cases stray with
      | none =>
          simp only [Prod.mk.injEq, and_true, exists_eq_left', ← hfold, nest, htokens]
          cases placed.foldlM Nesting.step .start with
          | error e => simp [bind, Except.bind]
          | ok n => simp [bind, Except.bind]
      | some found =>
          simp only [Prod.mk.injEq, reduceCtorEq, and_false, false_and, exists_false, iff_false,
            nest, htokens]
          rintro ⟨items, hitems, -⟩
          cases hn : placed.foldlM Nesting.step .start <;> rw [hn] at hitems <;> cases hitems

/-- The language of stylesheets: comments end, what is left splits into tokens and gaps, and the
tokens conform. -/
def IsStylesheet (source : String) : Prop :=
  ∃ plain, stripComments 1 source.toList = .ok plain ∧
    ∃ placed, tokenize .start plain = (placed, none) ∧ Conforms (placed.map Placed.token)

theorem rulesOf_isOk_iff {s : List Char} : (∃ rules, rulesOf s = .ok rules) ↔
    ∃ placed, tokenize .start s = (placed, none) ∧ Conforms (placed.map Placed.token) := by
  rw [← exists_nest_iff, rulesOf, bind_isOk_iff]
  cases nest s with
  | error e => simp [Except.mapError]
  | ok items => simp [Except.mapError, mapM_topRule_isOk_iff]

/-- A text of the language is read, and any other is refused. -/
theorem parse_iff_isStylesheet (source : String) :
    ((∃ sheet, parse source = .ok sheet) ↔ IsStylesheet source) ∧
      ((∃ e, parse source = .error e) ↔ ¬ IsStylesheet source) := by
  have hok : (∃ sheet, parse source = .ok sheet) ↔ IsStylesheet source := by
    rw [parse, bind_isOk_iff]
    cases hstrip : stripComments 1 source.toList with
    | error line => simp [IsStylesheet, hstrip, Except.mapError]
    | ok plain =>
        have hrules := rulesOf_isOk_iff (s := plain)
        simp only [IsStylesheet, hstrip, Except.mapError, Except.ok.injEq, exists_eq_left']
        rw [bind_isOk_iff, ← hrules]
        simp [pure, Except.pure]
  refine ⟨hok, ?_⟩
  rw [← hok]
  cases parse source with
  | error e => simp
  | ok sheet => simp

end StyleUsage.Stylesheet
