import StyleUsage.Proofs.Stylesheet.Entries
import StyleUsage.Proofs.Stylesheet.Segments

/-!
# Lines of the source

Comments leave as many line feeds as they hold, and every other character stays. So whatever is not
left of a comment has the line, in what is left, that it has in the source: the heads that rules
come from, and the places that errors are about.
-/

namespace StyleUsage.Stylesheet

open StyleUsage.Text

/-- What stands behind `left` in what is left of the segments is no part of a comment, and stands
behind `before` in their text. -/
inductive Origin (segments : List Segment) : (before left : List Char) → Prop where
  | intro {earlier later : List Segment} {segment : Segment} {part rest : List Char}
      (hsegments : segments = earlier ++ segment :: later) (hsegment : segment.left = [segment])
      (hwritten : segment.written = part ++ rest) (hrest : rest ≠ []) :
      Origin segments (textOf earlier ++ part) (textOf (leftOf earlier) ++ part)

/-- The text of an entry stands at its place in what is left of the segments, and its first
character, which is no blank, comes from behind `before` in their text. -/
def StartsBehind (segments : List Segment) (entry : Entry) (before : List Char) : Prop :=
  ∃ c rest left after more, entry.text = c :: rest ∧ isBlank c = false ∧
    textOf (leftOf segments) = left ++ (entry.text ++ after) ∧
    entry.position = Position.start.after left ∧ Origin segments before left ∧
    textOf segments = before ++ c :: more

/-- A source comes to segments and, without its comments, to items. Their texts are the heads that
are read, in order and each at its place. -/
structure ComesTo (source : List Char) (segments : List Segment) (items : List Item) : Prop where
  divides : Divides source segments []
  nests : nest (textOf (leftOf segments)) = .ok items
  heads : Item.headsAll items =
    (tokenize .start (textOf (leftOf segments))).1.filter Placed.isHead

/-- The entry is the first to fail, with the error. -/
def IsFirstFault (entries : List Entry) (entry : Entry) (e : ParseError) : Prop :=
  ∃ earlier later, entries = earlier ++ entry :: later ∧
    (∀ other ∈ earlier, ∃ made, other.rule = .ok made) ∧ entry.rule = .error e

variable {s source before left after : List Char} {c : Char} {segments : List Segment}
  {items : List Item} {entry : Entry} {p : Position} {t : Placed} {tokens : List Placed}
  {n n' : Nesting} {error : SyntaxError} {e : ParseError}

theorem IsFirstFault.rule_eq {entries : List Entry} (h : IsFirstFault entries entry e) :
    entry.rule = .error e := by
  obtain ⟨-, -, -, -, hentry⟩ := h
  exact hentry

/-! ## Origins -/

/-- As many lines come before a character in the source as in what is left. -/
theorem Origin.count_eq (h : Origin segments before left) :
    before.count '\n' = left.count '\n' := by
  obtain ⟨-, -, -, -⟩ := h
  rw [List.count_append, List.count_append, count_leftOf]

theorem Origin.cons (h : Origin segments before left) (first : Segment) :
    Origin (first :: segments) (first.written ++ before) (textOf first.left ++ left) := by
  obtain @⟨earlier, later, segment, part, rest, rfl, hsegment, hwritten, hrest⟩ := h
  have hall : Origin (first :: earlier ++ segment :: later) _ _ :=
    .intro rfl hsegment hwritten hrest
  rwa [textOf_cons, leftOf_cons, textOf_append, List.append_assoc, List.append_assoc] at hall

/-- Every character that is left, but for the blanks in the place of comments, is one of the
source. -/
theorem exists_origin (h : textOf (leftOf segments) = left ++ c :: after) (hspace : c ≠ ' ')
    (hbreak : c ≠ '\n') :
    ∃ before more, Origin segments before left ∧ textOf segments = before ++ c :: more := by
  induction segments generalizing left with
  | nil => simp [textOf, leftOf] at h
  | cons first rest ih =>
      rw [leftOf_cons, textOf_append] at h
      have hwhole : left ++ [c] <+: textOf first.left ++ textOf (leftOf rest) :=
        ⟨after, by rw [h, List.append_assoc]; rfl⟩
      have hfirst : textOf first.left <+: textOf first.left ++ textOf (leftOf rest) :=
        List.prefix_append _ _
      by_cases hlength : (textOf first.left).length ≤ left.length
      · have hleft : textOf first.left <+: left :=
          List.prefix_of_prefix_length_le hfirst ((List.prefix_append left [c]).trans hwhole)
            hlength
        obtain ⟨behind, rfl⟩ := hleft
        rw [List.append_assoc, List.append_right_inj] at h
        obtain ⟨before, more, horigin, hbefore⟩ := ih h
        exact ⟨first.written ++ before, more, horigin.cons first, by
          rw [textOf_cons, hbefore, List.append_assoc]⟩
      · have hin : left ++ [c] <+: textOf first.left :=
          List.prefix_of_prefix_length_le hwhole hfirst (by simp; omega)
        have hblank : ∀ body, first ≠ .comment body := by
          rintro body rfl
          have hmem : c ∈ commentGap body := by
            rw [← textOf_chars (commentGap body)]
            exact hin.subset (by simp)
          rcases mem_commentGap hmem with hc | hc
          · exact hspace hc
          · exact hbreak hc
        have hsegment : first.left = [first] := left_of_not_comment hblank
        obtain ⟨more, hmore⟩ := hin
        have hwritten : first.written = left ++ c :: more := by
          rw [hsegment, textOf_cons, textOf, List.flatMap_nil, List.append_nil] at hmore
          rw [← hmore, List.append_assoc]
          rfl
        have horigin : Origin ([] ++ first :: rest) _ _ := .intro rfl hsegment hwritten (by simp)
        refine ⟨left, more ++ textOf rest, horigin, ?_⟩
        rw [textOf_cons, hwritten, List.append_assoc]
        rfl

/-- A head among the tokens is the text of an entry that stands in the source. -/
theorem exists_startsBehind
    (ht : entry.head ∈ (tokenize .start (textOf (leftOf segments))).1) :
    ∃ before, StartsBehind segments entry before ∧
      entry.position.line = 1 + before.count '\n' := by
  obtain ⟨left, after, hleft, hposition, hhead⟩ := exists_place_of_mem_tokenize ht
  have hleft : textOf (leftOf segments) = left ++ (entry.text ++ after) := hleft
  have hposition : entry.position = Position.start.after left := hposition
  obtain ⟨c, rest, htext, hink⟩ := startsInk_of_head? (hhead entry.text rfl)
  have hspace : c ≠ ' ' := by
    rintro rfl
    exact absurd hink (by decide)
  have hbreak : c ≠ '\n' := by
    rintro rfl
    exact absurd hink (by decide)
  have hchar : textOf (leftOf segments) = left ++ c :: (rest ++ after) := by
    rw [hleft, htext]
    rfl
  obtain ⟨before, more, horigin, hbefore⟩ := exists_origin hchar hspace hbreak
  refine ⟨before, ⟨c, rest, left, after, more, htext, hink, hleft, hposition, horigin, hbefore⟩, ?_⟩
  rw [hposition, Position.line_after, horigin.count_eq]
  rfl

/-! ## Places of errors -/

/-- The place is one of the text's, or its end. -/
def IsPlaceIn (s : List Char) (p : Position) : Prop :=
  ∃ before after, s = before ++ after ∧ p = Position.start.after before

theorem IsPlaceIn.line_le (h : IsPlaceIn s p) : 1 ≤ p.line ∧ p.line ≤ 1 + s.count '\n' := by
  obtain ⟨before, after, rfl, rfl⟩ := h
  have hstart : Position.start.line = 1 := rfl
  rw [Position.line_after, List.count_append]
  omega

theorem isPlaceIn_of_mem_tokenize (ht : t ∈ (tokenize .start s).1) : IsPlaceIn s t.position := by
  obtain ⟨before, after, hs, hposition, -⟩ := exists_place_of_mem_tokenize ht
  exact ⟨before, _, hs, hposition⟩

namespace Nesting

theorem position_of_step_eq_error (h : n.step t = .error error) : error.position = t.position := by
  unfold Nesting.step at h
  split at h
  case h_1 | h_3 | h_5 => cases h
  case h_2 | h_4 =>
      cases h
      rfl
  case h_6 =>
      unfold close at h
      split at h <;> cases h <;> rfl

theorem exists_of_foldlM_eq_error (h : tokens.foldlM Nesting.step n = .error error) :
    ∃ t ∈ tokens, error.position = t.position := by
  induction tokens generalizing n with
  | nil => cases h
  | cons t rest ih =>
      rw [List.foldlM_cons] at h
      cases hstep : n.step t with
      | error error' =>
          rw [hstep] at h
          cases h
          exact ⟨t, List.mem_cons_self, position_of_step_eq_error hstep⟩
      | ok next =>
          rw [hstep] at h
          obtain ⟨t', ht', hposition⟩ := ih h
          exact ⟨t', List.mem_cons_of_mem t ht', hposition⟩

/-- The token read last is one of those that were read. -/
theorem last_mem_of_foldlM (h : tokens.foldlM Nesting.step n = .ok n') (hlast : n'.last = some t) :
    n.last = some t ∨ t ∈ tokens := by
  induction tokens generalizing n with
  | nil =>
      cases h
      exact .inl hlast
  | cons first rest ih =>
      rw [List.foldlM_cons] at h
      obtain ⟨next, hstep, hmore⟩ := bind_eq_ok_iff.1 h
      rcases ih hmore with hnext | hmem
      · have hfirst : next.last = some first := by cases gathers_of_step hstep <;> rfl
        rw [hfirst] at hnext
        cases hnext
        exact .inr List.mem_cons_self
      · exact .inr (List.mem_cons_of_mem first hmem)

theorem exists_of_finish_eq_error (h : n.finish = .error error) :
    ∃ last, n.last = some last ∧ error.position = last.position := by
  unfold finish at h
  split at h
  case h_1 | h_3 => cases h
  case h_2 last hlast _ =>
      cases h
      exact ⟨last, hlast, rfl⟩

end Nesting

/-- What the reader of tokens complains about stands in the text. -/
theorem isPlaceIn_of_nest_eq_error (h : nest s = .error error) : IsPlaceIn s error.position := by
  rw [nest] at h
  cases hn : (tokenize .start s).1.foldlM Nesting.step .start with
  | error error' =>
      simp only [hn] at h
      cases h
      obtain ⟨t, ht, hposition⟩ := Nesting.exists_of_foldlM_eq_error hn
      rw [hposition]
      exact isPlaceIn_of_mem_tokenize ht
  | ok n =>
      simp only [hn] at h
      cases hstray : (tokenize .start s).2 with
      | some found =>
          rw [hstray] at h
          cases h
          obtain ⟨before, after, hs, hposition⟩ := exists_place_of_stray hstray
          exact ⟨before, _, hs, hposition⟩
      | none =>
          rw [hstray] at h
          obtain ⟨last, hlast, hposition⟩ := Nesting.exists_of_finish_eq_error h
          rw [hposition]
          refine isPlaceIn_of_mem_tokenize ((Nesting.last_mem_of_foldlM hn hlast).resolve_left ?_)
          rintro ⟨⟩

/-! ## Lines of rules and errors -/

theorem ComesTo.exists_startsBehind (h : ComesTo source segments items)
    (hentry : entry ∈ Item.entriesAll true items) : ∃ before, StartsBehind segments entry before ∧
      entry.position.line = 1 + before.count '\n' := by
  have hhead := Item.head_mem_headsAll hentry
  rw [h.heads] at hhead
  exact Stylesheet.exists_startsBehind (List.mem_filter.1 hhead).1

theorem StartsBehind.count_le {before : List Char} (h : StartsBehind segments entry before)
    (hdivides : Divides source segments []) : before.count '\n' ≤ source.count '\n' := by
  obtain ⟨_, _, _, _, more, -, -, -, -, -, hsource⟩ := h
  rw [hdivides.eq_append, List.append_nil, hsource, List.count_append]
  exact Nat.le_add_right _ _

/-- A source is left with its comments open, does not nest, or is read item by item. -/
theorem parse_cases (source : String) :
    (∃ line, stripComments 1 source.toList = .error line ∧
      parse source = .error (.unclosedComment line)) ∨
    (∃ segments error, Divides source.toList segments [] ∧
      nest (textOf (leftOf segments)) = .error error ∧ parse source = .error (.notNested error)) ∨
    ∃ segments items, ComesTo source.toList segments items ∧
      parse source = (items.mapM topRule).map StyleUsage.Stylesheet.mk := by
  cases hstrip : stripComments 1 source.toList with
  | error line =>
      exact .inl ⟨line, rfl, by simp [parse, hstrip, Except.mapError, bind, Except.bind]⟩
  | ok plain =>
      obtain ⟨segments, hdivides, rfl⟩ := stripComments_eq_ok_iff.1 hstrip
      cases hnest : nest (textOf (leftOf segments)) with
      | error error =>
          refine .inr (.inl ⟨segments, error, hdivides, hnest, ?_⟩)
          simp [parse, rulesOf, hstrip, hnest, Except.mapError, bind, Except.bind]
      | ok items =>
          refine .inr (.inr ⟨segments, items, ⟨hdivides, hnest, headsAll_of_nest hnest⟩, ?_⟩)
          simp only [parse, rulesOf, hstrip, hnest, Except.mapError, bind, Except.bind]
          cases items.mapM topRule <;> rfl

/-- The entries that stand for rules start where the rules say. -/
theorem ComesTo.forall₂_rules {rules : List Rule} (h : ComesTo source segments items)
    (hrules : items.mapM topRule = .ok rules) :
    List.Forall₂ (fun entry rule => entry.rule = .ok (some rule.bare) ∧
        ∃ before, StartsBehind segments entry before ∧ rule.line = 1 + before.count '\n')
      ((Item.entriesAll true items).filter Entry.isRule) (Rule.subrulesAll rules) := by
  have hall := mapM_topRule_eq_rulesOfEntries items
  rw [hrules] at hall
  have hmade := List.forall₂_map_right_iff.1 (forall₂_of_rulesOfEntries hall.symm)
  have hstarts : ∀ entry ∈ (Item.entriesAll true items).filter Entry.isRule,
      ∃ before, StartsBehind segments entry before ∧
        entry.position.line = 1 + before.count '\n' :=
    fun entry hentry => h.exists_startsBehind (List.mem_filter.1 hentry).1
  refine ((List.forall₂_and_left _ _).2 ⟨hstarts, hmade⟩).imp ?_
  rintro entry rule ⟨⟨before, hbefore, hline⟩, hrule⟩
  refine ⟨hrule, before, hbefore, ?_⟩
  rw [← hline, ← line_of_rule_eq_ok hrule, Rule.line_bare]

/-- A text in a block fails to be a declaration; other entries fail to make a rule. -/
theorem cases_of_rule_eq_error (h : entry.rule = .error e) :
    (entry.isRule = false ∧ ∃ text line, e = .missingColon text line) ∨
    (entry.isRule = true ∧ ((∃ text line, e = .missingBlock text line) ∨
      (∃ line, e = .namelessAtRule line) ∨ ∃ line, e = .noSelector line)) := by
  obtain ⟨isBlock, isOutermost, text, position⟩ := entry
  cases isBlock with
  | true =>
      have hblock := eq_error_of_map h
      simp only [blockRule] at hblock
      split at hblock <;> split at hblock <;> cases hblock <;> simp [Entry.isRule]
  | false =>
      cases isOutermost with
      | true =>
          have hstatement := eq_error_of_map h
          simp only [statementRule] at hstatement
          split at hstatement <;> cases hstatement
          simp [Entry.isRule]
      | false =>
          have hdeclaration := eq_error_of_map h
          simp only [declaration] at hdeclaration
          split at hdeclaration <;> cases hdeclaration
          simp [Entry.isRule]

/-- The first entry that fails has the line of its error. -/
theorem ComesTo.exists_fault (h : ComesTo source segments items)
    (he : items.mapM topRule = .error e) : ∃ entry before,
      IsFirstFault (Item.entriesAll true items) entry e ∧
      StartsBehind segments entry before ∧ e.line = 1 + before.count '\n' := by
  have hall := mapM_topRule_eq_rulesOfEntries items
  rw [he] at hall
  obtain ⟨earlier, entry, later, heq, hearlier, hentry⟩ :=
    exists_of_rulesOfEntries_eq_error hall.symm
  have hmem : entry ∈ Item.entriesAll true items := by simp [heq]
  obtain ⟨before, hbefore, hline⟩ := h.exists_startsBehind hmem
  exact ⟨entry, before, ⟨earlier, later, heq, hearlier, hentry⟩, hbefore, by
    rw [line_of_rule_eq_error hentry, hline]⟩

/-- What an error is about, and where that starts. -/
def IsLocated (source : List Char) (e : ParseError) : Prop :=
  match e with
  | .unclosedComment line => ∃ segments rest, Divides source segments (commentOpening ++ rest) ∧
      ¬ commentEnd <:+: rest ∧ line = 1 + (textOf segments).count '\n'
  | .notNested error => ∃ segments, Divides source segments [] ∧
      IsPlaceIn (textOf (leftOf segments)) error.position
  | e => ∃ segments items entry before, ComesTo source segments items ∧
      IsFirstFault (Item.entriesAll true items) entry e ∧
      (entry.isRule = false ↔ ∃ text line, e = .missingColon text line) ∧
      StartsBehind segments entry before ∧ e.line = 1 + before.count '\n'

theorem ComesTo.isLocated (h : ComesTo source segments items)
    (he : items.mapM topRule = .error e) : IsLocated source e := by
  obtain ⟨entry, before, hfault, hstarts, hline⟩ := h.exists_fault he
  have hkind := cases_of_rule_eq_error hfault.rule_eq
  obtain ⟨hrule, text, line, rfl⟩ | ⟨hrule, ⟨text, line, rfl⟩ | ⟨line, rfl⟩ | ⟨line, rfl⟩⟩ := hkind
  all_goals exact ⟨segments, items, entry, before, h, hfault, by simp [hrule], hstarts, hline⟩

theorem IsLocated.line_le (h : IsLocated source e) :
    1 ≤ e.line ∧ e.line ≤ 1 + source.count '\n' := by
  cases e with
  | unclosedComment line =>
      obtain ⟨segments, rest, hdivides, -, rfl⟩ := h
      rw [hdivides.eq_append, List.count_append, ParseError.line]
      omega
  | notNested error =>
      obtain ⟨segments, hdivides, hplace⟩ := h
      have hline := hplace.line_le
      rwa [count_leftOf, ← List.append_nil (textOf segments), ← hdivides.eq_append] at hline
  | missingColon | missingBlock | namelessAtRule | noSelector =>
      obtain ⟨segments, items, entry, before, hcomes, -, -, hstarts, hline⟩ := h
      have hcount := hstarts.count_le hcomes.divides
      omega

/-- All rules, at any depth, and all errors have lines of the source. A rule has the line in which
its head starts, whatever comments there are. An error about a declaration or a head has the line in
which that starts, one about a comment the line of its opening, and one about tokens that of a place
in what is left without comments. -/
theorem lines_of_source (source : String) :
    (∀ sheet, parse source = .ok sheet → ∃ segments items, ComesTo source.toList segments items ∧
      List.Forall₂ (fun entry rule => entry.rule = .ok (some rule.bare) ∧
          ∃ before, StartsBehind segments entry before ∧ rule.line = 1 + before.count '\n')
        ((Item.entriesAll true items).filter Entry.isRule) (Rule.subrulesAll sheet.rules)) ∧
    ∀ e, parse source = .error e → IsLocated source.toList e ∧
      1 ≤ e.line ∧ e.line ≤ 1 + source.toList.count '\n' := by
  obtain ⟨line, hstrip, hparse⟩ | ⟨segments, error, hdivides, hnest, hparse⟩ |
    ⟨segments, items, hcomes, hparse⟩ := parse_cases source
  · refine ⟨fun sheet h => ?_, fun e h => ?_⟩ <;> rw [hparse] at h <;> cases h
    have hlocated : IsLocated source.toList (.unclosedComment line) :=
      stripComments_eq_error_iff.1 hstrip
    exact ⟨hlocated, hlocated.line_le⟩
  · refine ⟨fun sheet h => ?_, fun e h => ?_⟩ <;> rw [hparse] at h <;> cases h
    have hlocated : IsLocated source.toList (.notNested error) :=
      ⟨segments, hdivides, isPlaceIn_of_nest_eq_error hnest⟩
    exact ⟨hlocated, hlocated.line_le⟩
  · refine ⟨fun sheet h => ?_, fun e h => ?_⟩ <;> rw [hparse] at h
    · obtain ⟨rules, hrules, rfl⟩ := exists_of_map_eq_ok h
      exact ⟨segments, items, hcomes, hcomes.forall₂_rules hrules⟩
    · have hlocated := hcomes.isLocated (eq_error_of_map h)
      exact ⟨hlocated, hlocated.line_le⟩

end StyleUsage.Stylesheet
