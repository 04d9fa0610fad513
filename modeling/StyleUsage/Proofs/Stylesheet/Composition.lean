import StyleUsage.Proofs.Lists.Repetitions
import StyleUsage.Proofs.Stylesheet.Lines
import StyleUsage.Proofs.Stylesheet.Seams
import StyleUsage.Stylesheet.ClassName

/-!
# Stylesheets put together

A stylesheet leaves nothing open, so the text behind it is read as if it stood alone, on later
lines.
-/

namespace StyleUsage.Stylesheet

variable {tokens more : List Token} {d : Int} {previous : Option Token}

/-! ## Tokens of two stylesheets -/

theorem goesOn_append (h : GoesOn d previous tokens) :
    GoesOn d previous (tokens ++ more) ↔ GoesOn 0 (tokens.getLast?.or previous) more := by
  induction tokens generalizing d previous with
  | nil =>
      obtain rfl : d = 0 := h
      rfl
  | cons t rest ih =>
      obtain ⟨hopen, hbrace, hhead, hrest⟩ := h
      have hlast : (t :: rest).getLast?.or previous = rest.getLast?.or (some t) := by
        rw [List.getLast?_cons]
        cases rest.getLast? <;> rfl
      have hnext (text : List Char) (ht : t = .head text) :
          Suffices d text (rest ++ more).head? := by
        have hnow := hhead text ht
        cases rest with
        | nil => exact hnow.elim
        | cons next rest => exact hnow
      rw [hlast, ← ih hrest, List.cons_append]
      exact ⟨fun hall => hall.2.2.2, fun hall => ⟨hopen, hbrace, hnext, hall⟩⟩

theorem Conforms.endsClosed (h : Conforms tokens) : EndsClosed tokens := by
  intro text hlast
  obtain ⟨init, rfl⟩ := List.getLast?_eq_some_iff.1 hlast
  rcases h.followed init text [] rfl with hnext | hnext | ⟨hnext, -⟩ <;> cases hnext

/-- What follows the tokens of a stylesheet has to be those of a stylesheet. -/
theorem Conforms.append_iff (h : Conforms tokens) : Conforms (tokens ++ more) ↔ Conforms more := by
  rw [conforms_iff, conforms_iff, goesOn_append h.goesOn, Option.or_none,
    Nesting.goesOn_of_not_head h.endsClosed]

/-! ## Readings -/

/-- How a text comes to rules: what is left without its comments, the tokens of that, and what
they are gathered to. -/
structure Reads (source plain : List Char) (placed : List Placed) (n : Nesting)
    (rules : List Rule) : Prop where
  strips : Strips source plain
  tokens : tokenize .start plain = (placed, none)
  conforms : Conforms (placed.map Placed.token)
  gathers : placed.foldlM Nesting.step .start = .ok n
  pending : n.pending = none
  outer : n.outer = []
  rules : n.items.reverse.mapM topRule = .ok rules

variable {a b : String} {source plain plainA plainB : List Char}
  {placed placedA placedB : List Placed} {nA nB : Nesting} {rulesA rulesB : List Rule}
  {sheet : Stylesheet}

theorem mapError_eq_ok {α ε δ : Type} {f : ε → δ} {x : Except ε α} {y : α}
    (h : x.mapError f = .ok y) : x = .ok y := by
  cases x with
  | error e => cases h
  | ok y' =>
      cases h
      rfl

theorem exists_of_toOption_map {α β ε : Type} {f : α → β} {x : Except ε α} {y : β}
    (h : x.toOption.map f = some y) : ∃ a, x = .ok a ∧ f a = y := by
  cases x with
  | error e => cases h
  | ok a => exact ⟨a, rfl, Option.some.inj h⟩

/-- Items come of a whole text whose tokens leave neither a block open nor a head waiting. -/
theorem exists_of_nest {s : List Char} {items : List Item} (h : nest s = .ok items) :
    ∃ placed n, tokenize .start s = (placed, none) ∧
      placed.foldlM Nesting.step .start = .ok n ∧ n.pending = none ∧ n.outer = [] ∧
        items = n.items.reverse := by
  cases htokens : tokenize .start s with
  | mk placed stray =>
      rw [nest, htokens] at h
      obtain ⟨n, hn, hfinish⟩ := bind_eq_ok_iff.1 h
      cases stray with
      | some found => cases hfinish
      | none =>
          have hproper : n.IsProper := by
            refine Nesting.isProper_of_foldlM Nesting.isProper_start ?_ hn
            simpa [htokens] using startsInk_of_mem_tokenize .start s
          exact ⟨placed, n, rfl, hn, Nesting.finish_eq_ok hproper hfinish⟩

theorem exists_reads_of_parse (h : parse a = .ok sheet) :
    ∃ plain placed n, Reads a.toList plain placed n sheet.rules := by
  obtain ⟨plain, hplain, hrest⟩ := bind_eq_ok_iff.1 h
  obtain ⟨rules, hrules, hsheet⟩ := bind_eq_ok_iff.1 hrest
  cases hsheet
  obtain ⟨placed, htokens, hconforms⟩ := rulesOf_isOk_iff.1 ⟨rules, hrules⟩
  obtain ⟨items, hitems, hmap⟩ := bind_eq_ok_iff.1 hrules
  obtain ⟨placed', n, htokens', hn, hpending, houter, rfl⟩ :=
    exists_of_nest (mapError_eq_ok hitems)
  obtain rfl : placed' = placed := by
    rw [htokens] at htokens'
    exact (Prod.mk.inj htokens').1.symm
  exact ⟨plain, placed', n, strips_of_stripComments (mapError_eq_ok hplain), htokens, hconforms,
    hn, hpending, houter, hmap⟩

theorem parse_of_nest {items : List Item} {rules : List Rule} (h : Strips a.toList plain)
    (hnest : nest plain = .ok items) (hrules : items.mapM topRule = .ok rules) :
    parse a = .ok ⟨rules⟩ := by
  simp [parse, stripComments_of_strips h, rulesOf, hnest, hrules, Except.mapError, bind,
    Except.bind, pure, Except.pure]

theorem parse_of_reads {n : Nesting} {rules : List Rule}
    (h : Reads a.toList plain placed n rules) : parse a = .ok ⟨rules⟩ := by
  have hnest : nest plain = .ok n.items.reverse := by
    simp [nest, h.tokens, h.gathers, Nesting.finish, h.pending, h.outer, bind, Except.bind]
  exact parse_of_nest h.strips hnest h.rules

/-- A text is read if its tokens are those of a stylesheet. -/
theorem parse_isOk_of_conforms (h : Strips a.toList plain)
    (htokens : tokenize .start plain = (placed, none))
    (hconforms : Conforms (placed.map Placed.token)) : ∃ sheet, parse a = .ok sheet := by
  obtain ⟨rules, hrules⟩ := rulesOf_isOk_iff.2 ⟨placed, htokens, hconforms⟩
  refine ⟨⟨rules⟩, ?_⟩
  simp [parse, stripComments_of_strips h, hrules, Except.mapError, bind, Except.bind, pure,
    Except.pure]

theorem Reads.isSealed {n : Nesting} {rules : List Rule} (h : Reads source plain placed n rules)
    (hurls : ClosesUrls plain) : IsSealed plain := by
  have hstray : (tokenize .start plain).2 = none := by rw [h.tokens]
  refine ⟨unquoted_of_tokenize hstray, hurls, endsApart_of_tokenize hstray ?_⟩
  rw [h.tokens]
  exact h.conforms.endsClosed

section Seam

variable {source' : List Char} (ha : Reads source plainA placedA nA rulesA)
  (hurls : ClosesUrls plainA)

include ha hurls

/-- Behind a stylesheet, comments are taken out as at a start. -/
theorem Reads.strips_append : Strips (source ++ source') plain ↔
    ∃ plainB, plain = plainA ++ plainB ∧ Strips source' plainB := by
  have hsealed := ha.isSealed hurls
  have hseam := stripComments_append ha.strips hsealed.quotations hsealed.ending 1 source'
  constructor
  · intro h
    rw [stripComments_of_strips h] at hseam
    obtain ⟨plainB, hplainB, rfl⟩ := exists_of_map_eq_ok hseam.symm
    exact ⟨plainB, rfl, strips_of_stripComments hplainB⟩
  · rintro ⟨plainB, rfl, hplainB⟩
    rw [stripComments_of_strips hplainB] at hseam
    exact strips_of_stripComments hseam

/-- Behind a stylesheet, tokens are read as at a start, on later lines. -/
theorem Reads.tokenize_append (plainB : List Char) :
    ∃ more, tokenize .start (plainA ++ plainB) =
        (placedA ++ more, (tokenize (Position.start.after plainA) plainB).2) ∧
      linesBelow 0 more = linesBelow (source.count '\n') (tokenize .start plainB).1 ∧
      (tokenize (Position.start.after plainA) plainB).2.isNone =
        (tokenize .start plainB).2.isNone := by
  have hline : (Position.start.after plainA).line =
      Position.start.line + source.count '\n' := by
    rw [Position.line_after, count_of_strips ha.strips]
  have hstray : (tokenize .start plainA).2 = none := by rw [ha.tokens]
  have hclosed : EndsClosed ((tokenize .start plainA).1.map Placed.token) := by
    rw [ha.tokens]
    exact ha.conforms.endsClosed
  have hseam := Stylesheet.tokenize_append (ha.isSealed hurls) hstray hclosed plainB
  rw [ha.tokens] at hseam
  obtain ⟨hlines, hnone⟩ := tokenize_lowered (s := plainB) hline
  exact ⟨_, hseam, hlines, hnone⟩

end Seam

/-- A text behind a stylesheet is one exactly if the whole is. -/
theorem parse_append_isOk_iff (ha : Reads a.toList plainA placedA nA rulesA)
    (hurls : ClosesUrls plainA) :
    (∃ sheet, parse (a ++ b) = .ok sheet) ↔ ∃ sheet, parse b = .ok sheet := by
  constructor
  · rintro ⟨sheet, hsheet⟩
    obtain ⟨plain, placed, n, h⟩ := exists_reads_of_parse hsheet
    have hstrips := h.strips
    rw [String.toList_append, ha.strips_append hurls] at hstrips
    obtain ⟨plainB, rfl, hplainB⟩ := hstrips
    obtain ⟨more, htokens, hlines, hnone⟩ := ha.tokenize_append hurls plainB
    obtain ⟨rfl, hstray⟩ := Prod.mk.inj (htokens.symm.trans h.tokens)
    have hconforms := h.conforms
    rw [List.map_append, ha.conforms.append_iff, tokens_of_linesBelow hlines] at hconforms
    have hstray' : (tokenize .start plainB).2 = none := by simpa [hstray] using hnone
    exact parse_isOk_of_conforms hplainB (Prod.ext rfl hstray') hconforms
  · rintro ⟨sheet, hsheet⟩
    obtain ⟨plainB, placedB, nB, hb⟩ := exists_reads_of_parse hsheet
    obtain ⟨more, htokens, hlines, hnone⟩ := ha.tokenize_append hurls plainB
    have hstrips : Strips (a ++ b).toList (plainA ++ plainB) := by
      rw [String.toList_append]
      exact (ha.strips_append hurls).2 ⟨plainB, rfl, hb.strips⟩
    have hstray : (tokenize (Position.start.after plainA) plainB).2 = none := by
      simpa [hb.tokens] using hnone
    rw [hstray] at htokens
    refine parse_isOk_of_conforms hstrips htokens ?_
    rw [List.map_append, ha.conforms.append_iff, tokens_of_linesBelow hlines, hb.tokens]
    exact hb.conforms

/-- The rules of a stylesheet behind another one come after the rules of that, on later lines. -/
theorem Reads.append (ha : Reads a.toList plainA placedA nA rulesA) (hurls : ClosesUrls plainA)
    (hb : Reads b.toList plainB placedB nB rulesB) : ∃ placed n,
      Reads (a ++ b).toList (plainA ++ plainB) placed n
        (rulesA ++ rulesB.map (·.lowered (a.toList.count '\n'))) := by
  obtain ⟨more, htokens, hlines, hnone⟩ := ha.tokenize_append hurls plainB
  rw [hb.tokens] at hlines hnone
  have hstray : (tokenize (Position.start.after plainA) plainB).2 = none := by simpa using hnone
  have hstart : Nesting.IsAtop (a.toList.count '\n') nA.items .start nA := by
    refine ⟨?_, ?_⟩
    · rw [ha.outer]
      exact .bottom areBelow_nil
    · rw [ha.pending]
      exact .none
  obtain ⟨n, hn, hatop⟩ := hstart.foldlM hlines hb.gathers
  have hstands := hatop.stands
  have hpending := hatop.pending
  rw [hb.outer] at hstands
  rw [hb.pending] at hpending
  generalize hitems : n.items = items at hstands
  generalize houter : n.outer = outer at hstands
  generalize hwaits : n.pending = pending at hpending
  cases hpending
  cases hstands with
  | @bottom _ itemsB hbelow =>
      refine ⟨placedA ++ more, n, ?_, ?_, ?_, ?_, hwaits, houter, ?_⟩
      case refine_1 =>
        rw [String.toList_append]
        exact (ha.strips_append hurls).2 ⟨plainB, rfl, hb.strips⟩
      case refine_2 => rw [htokens, hstray]
      case refine_3 =>
        rw [List.map_append, ha.conforms.append_iff, tokens_of_linesBelow hlines]
        exact hb.conforms
      case refine_4 =>
        rw [List.foldlM_append, ha.gathers]
        exact hn
      case refine_5 =>
        rw [hitems, List.reverse_append, List.mapM_append, ha.rules,
          mapM_topRule_of_areBelow hbelow.reverse hb.rules]
        rfl

/-! ## Declared classes -/

theorem ruleClasses_lowered (k : Nat) (rule : Rule) :
    ruleClasses (rule.lowered k) = ruleClasses rule := by
  rw [ruleClasses, ruleClasses, Rule.selectors_lowered]

/-- Of the classes that the second list of rules names, those of the first one are not declared
again. -/
theorem declared_append (first second : List Rule) :
    declared ⟨first ++ second⟩ =
      declared ⟨first⟩ ++ (declared ⟨second⟩).filter (· ∉ declared ⟨first⟩) := by
  simp only [declared, List.flatMap_append, eraseDups_append_filter, List.mem_eraseDups]

/-- Reading commutes with putting texts together: behind a stylesheet whose groups are closed, a
text is a stylesheet exactly if the whole is one, and then its rules and classes come after those
before it. -/
theorem parse_append (a b : String) (first : Stylesheet) (hfirst : parse a = .ok first)
    (hurls : ∀ plain, stripComments 1 a.toList = .ok plain → ClosesUrls plain) :
    ((∃ sheet, parse (a ++ b) = .ok sheet) ↔ ∃ sheet, parse b = .ok sheet) ∧
      ∀ second, parse b = .ok second → ∃ sheet, parse (a ++ b) = .ok sheet ∧
        sheet.rules = first.rules ++ second.rules.map (·.lowered (a.toList.count '\n')) ∧
        sheet.declared = first.declared ++ second.declared.filter (· ∉ first.declared) := by
  obtain ⟨plainA, placedA, nA, ha⟩ := exists_reads_of_parse hfirst
  have hclosed := hurls plainA (stripComments_of_strips ha.strips 1)
  refine ⟨parse_append_isOk_iff ha hclosed, fun second hsecond => ?_⟩
  obtain ⟨plainB, placedB, nB, hb⟩ := exists_reads_of_parse hsecond
  obtain ⟨placed, n, hwhole⟩ := ha.append hclosed hb
  refine ⟨_, parse_of_reads hwhole, rfl, ?_⟩
  rw [declared_append]
  simp only [declared, List.flatMap_map, ruleClasses_lowered]

/-- Two rules on two lines, with a group that holds a brace and a comment. -/
def linkedSample : String :=
  "/* base */ .a \x7b b: url('\x7d') \x7d\n@c url(d);\n"

/-- A rule with a class that is declared before and one that is not. -/
def nestedSample : String :=
  ".a \x7b .b \x7b \x7d \x7d .e \x7b \x7d"

theorem parse_append_sample : ∃ first second sheet, parse linkedSample = .ok first ∧
    parse nestedSample = .ok second ∧ parse (linkedSample ++ nestedSample) = .ok sheet ∧
    sheet.rules = first.rules ++ second.rules.map (·.lowered 2) ∧
    sheet.declared = ["a"] ++ ["e"] := by
  obtain ⟨first, hfirst, hnames⟩ := exists_of_toOption_map (f := declared)
    (show (parse linkedSample).toOption.map declared = some ["a"] by decide +kernel)
  obtain ⟨second, hsecond, hnames'⟩ := exists_of_toOption_map (f := declared)
    (show (parse nestedSample).toOption.map declared = some ["a", "e"] by decide +kernel)
  have hurls (plain : List Char) (h : stripComments 1 linkedSample.toList = .ok plain) :
      ClosesUrls plain := by
    have hall : (stripComments 1 linkedSample.toList).toOption.all (fun plain =>
        ∀ n < plain.length, urlOpening <+: plain.drop n →
          (closeUrl? (plain.drop (n + urlOpening.length))).isSome = true) = true := by
      decide +kernel
    rw [h] at hall
    exact closesUrls_of_forall (of_decide_eq_true hall)
  obtain ⟨sheet, hsheet, hrules, hwhole⟩ :=
    (parse_append linkedSample nestedSample first hfirst hurls).2 second hsecond
  refine ⟨first, second, sheet, hfirst, hsecond, hsheet, hrules, ?_⟩
  rw [hwhole, hnames, hnames']
  decide

end StyleUsage.Stylesheet
