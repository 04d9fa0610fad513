import StyleUsage.Proofs.Stylesheet.Quotations
import StyleUsage.Proofs.Usage.Scanning
import StyleUsage.Stylesheet.Parse

/-!
# What comments leave of a text

A text is divided into comments, quotations and single characters, from its start on and with all of
what follows in view. Comments leave spaces or line feeds, and everything else stays. What is left
is divided in the same way, so that nothing more is taken out of it. Behind a text that leaves
nothing open, another one is divided as if it stood alone.
-/

namespace StyleUsage.Stylesheet

open StyleUsage.Usage (QuotedText closeQuote?_quotedText)

/-- What the reader of comments tells apart in a text. -/
inductive Segment where
  | comment (body : List Char)
  | quotation (quote : Char) (body : List Char)
  | char (c : Char)
  deriving Repr, DecidableEq

namespace Segment

/-- A segment as it stands in the text. -/
def written : Segment → List Char
  | comment body => commentOpening ++ (body ++ commentEnd)
  | quotation quote body => quote :: (body ++ [quote])
  | char c => [c]

/-- What is left of a segment. -/
def left : Segment → List Segment
  | comment body => (commentGap body).map char
  | other => [other]

def isQuotation : Segment → Bool
  | quotation .. => true
  | _ => false

end Segment

/-- The text of some segments. -/
def textOf (segments : List Segment) : List Char :=
  segments.flatMap Segment.written

/-- What is left of some segments. -/
def leftOf (segments : List Segment) : List Segment :=
  segments.flatMap Segment.left

/-- No quotation starts with the character: it is no quote, or no quote behind it ends one. -/
def OpensNone (c : Char) (s : List Char) : Prop :=
  isQuote c = true → ∀ body after, QuotedText c body → s ≠ body ++ c :: after

/-- The text falls into the segments, with `rest` behind them. -/
inductive Divides : (s : List Char) → (segments : List Segment) → (rest : List Char) → Prop where
  | nil {rest : List Char} : Divides rest [] rest
  | comment {body s rest : List Char} {segments : List Segment} (hbody : ¬ commentEnd <:+: body)
      (h : Divides s segments rest) :
      Divides ((Segment.comment body).written ++ s) (.comment body :: segments) rest
  | quotation {quote : Char} {body s rest : List Char} {segments : List Segment}
      (hquote : isQuote quote = true) (hbody : QuotedText quote body)
      (h : Divides s segments rest) :
      Divides ((Segment.quotation quote body).written ++ s) (.quotation quote body :: segments) rest
  | char {c : Char} {s rest : List Char} {segments : List Segment}
      (hcomment : ¬ commentOpening <+: c :: s) (hopens : OpensNone c s)
      (h : Divides s segments rest) : Divides (c :: s) (.char c :: segments) rest

variable {s t a b rest body inner after plain : List Char} {c quote : Char} {line : Nat}
  {segments more : List Segment}

theorem textOf_cons (first : Segment) (segments : List Segment) :
    textOf (first :: segments) = first.written ++ textOf segments := rfl

theorem textOf_append (segments more : List Segment) :
    textOf (segments ++ more) = textOf segments ++ textOf more :=
  List.flatMap_append

theorem leftOf_cons (first : Segment) (segments : List Segment) :
    leftOf (first :: segments) = first.left ++ leftOf segments := rfl

theorem textOf_chars (s : List Char) : textOf (s.map .char) = s := by
  induction s with
  | nil => rfl
  | cons c rest ih => rw [List.map_cons, textOf_cons, ih]; rfl

theorem textOf_eq_nil_iff : textOf segments = [] ↔ segments = [] := by
  cases segments with
  | nil => simp [textOf]
  | cons first rest => cases first <;> simp [textOf, Segment.written, commentOpening]

theorem leftOf_append (segments more : List Segment) :
    leftOf (segments ++ more) = leftOf segments ++ leftOf more :=
  List.flatMap_append

theorem leftOf_chars (s : List Char) : leftOf (s.map .char) = s.map .char := by
  induction s with
  | nil => rfl
  | cons c rest ih => rw [List.map_cons, leftOf_cons, ih]; rfl

theorem Divides.eq_append (h : Divides s segments rest) : s = textOf segments ++ rest := by
  induction h with
  | nil => rfl
  | comment _ _ ih | quotation _ _ _ ih =>
      rw [textOf_cons, List.append_assoc, ← ih]
  | char _ _ _ ih =>
      rw [textOf_cons, List.append_assoc, ← ih]
      rfl

/-! ## Reading segments -/

theorem exists_quotedText (h : closeQuote? true quote s = some (inner, after)) :
    ∃ body, inner = body ++ [quote] ∧ QuotedText quote body := by
  fun_induction closeQuote? true quote s generalizing inner after with
  | case1 => cases h
  | case2 =>
      cases h
      exact ⟨[], rfl, .nil⟩
  | case3 => cases h
  | case4 d rest =>
      cases h
      exact ⟨[], rfl, .nil⟩
  | case5 => cases h
  | case6 d rest hbreak hquote ih =>
      obtain ⟨⟨more, behind⟩, hmore, heq⟩ := Option.map_eq_some_iff.1 h
      cases heq
      obtain ⟨body, rfl, hbody⟩ := ih hmore
      exact ⟨'\\' :: d :: body, rfl, .escape d hbody⟩
  | case7 c d rest hquote hescape ih =>
      obtain ⟨⟨more, behind⟩, hmore, heq⟩ := Option.map_eq_some_iff.1 h
      cases heq
      obtain ⟨body, rfl, hbody⟩ := ih hmore
      exact ⟨c :: body, rfl, .plain hquote hescape hbody⟩

theorem quotation?_quotedText (hquote : isQuote quote = true) (hbody : QuotedText quote body)
    (after : List Char) :
    quotation? true (quote :: (body ++ quote :: after)) = some (body ++ [quote], after) := by
  rw [quotation?, if_pos hquote, closeQuote?_quotedText hquote hbody]

theorem quotation?_eq_none_iff : quotation? true (c :: s) = none ↔ OpensNone c s := by
  constructor
  · rintro hnone hquote body after hbody rfl
    rw [quotation?_quotedText hquote hbody] at hnone
    cases hnone
  · intro hopens
    rw [quotation?]
    split
    case isFalse => rfl
    case isTrue hquote =>
        cases hs : closeQuote? true c s with
        | none => rfl
        | some found =>
            obtain ⟨inner, after⟩ := found
            obtain ⟨body, rfl, hbody⟩ := exists_quotedText hs
            refine absurd ?_ (hopens hquote body after hbody)
            rw [← append_of_closeQuote? hs]
            simp

theorem map_append_map {ε : Type} (x : Except ε (List Char)) (a b : List Char) :
    (x.map (b ++ ·)).map (a ++ ·) = x.map (a ++ b ++ ·) := by
  cases x with
  | error e => rfl
  | ok text => simp [Except.map]

/-- Each segment is read on its own: what is left of it is put before what is left of the rest. -/
theorem stripComments_of_divides (h : Divides s segments rest) (line : Nat) :
    stripComments line s =
      (stripComments (line + (textOf segments).count '\n') rest).map
        (textOf (leftOf segments) ++ ·) := by
  induction h generalizing line with
  | @nil rest => cases hrest : stripComments line rest <;> simp [textOf, leftOf, hrest, Except.map]
  | @comment body s rest segments hbody _ ih =>
      have hcount : (body ++ commentEnd).count '\n' =
          (Segment.comment body).written.count '\n' := by
        simp [Segment.written, commentOpening]
      have hwritten : (Segment.comment body).written ++ s =
          commentOpening ++ (body ++ (commentEnd ++ s)) := by
        simp [Segment.written]
      have hleft : textOf (Segment.comment body).left = commentGap body := textOf_chars _
      rw [hwritten, stripComments_comment (closeComment?_append hbody s), ih, commentGap_append,
        map_append_map, hcount, Nat.add_assoc, ← List.count_append, ← textOf_cons, leftOf_cons,
        textOf_append, hleft]
  | @quotation quote body s rest segments hquote hbody _ ih =>
      have hcomment : ¬ commentOpening <+: quote :: (body ++ quote :: s) :=
        not_commentOpening_of_ne (ne_of_isQuote hquote rfl).symm
      have hcount : (body ++ [quote]).count '\n' =
          (Segment.quotation quote body).written.count '\n' := by
        have hbreak : quote ≠ '\n' := (ne_of_isQuote hquote rfl).symm
        simp [Segment.written, hbreak]
      have hwritten : (Segment.quotation quote body).written ++ s =
          quote :: (body ++ quote :: s) := by
        simp [Segment.written]
      have hleft : textOf (Segment.quotation quote body).left = quote :: (body ++ [quote]) :=
        List.append_nil _
      rw [hwritten, stripComments_quotation hcomment (quotation?_quotedText hquote hbody s), ih,
        map_append_map, hcount, Nat.add_assoc, ← List.count_append, ← textOf_cons, leftOf_cons,
        textOf_append, hleft]
  | @char c s rest segments hcomment hopens _ ih =>
      have hline : (if c = '\n' then line + 1 else line) = line + [c].count '\n' := by
        by_cases hc : c = '\n' <;> simp [hc]
      rw [stripComments_plain hcomment (quotation?_eq_none_iff.2 hopens), ih, hline, Nat.add_assoc,
        ← List.count_append]
      exact map_append_map _ [c] _

theorem stripComments_unclosed (h : ¬ commentEnd <:+: rest) (line : Nat) :
    stripComments line (commentOpening ++ rest) = .error line := by
  rw [commentOpening, List.cons_append, List.cons_append, List.nil_append, stripComments]
  split
  case h_1 => rfl
  case h_2 hsome =>
      rw [closeComment?_eq_none_iff.2 h] at hsome
      cases hsome

/-- Every text falls into segments, up to its end or to the first comment without one. -/
theorem exists_divides (s : List Char) : ∃ segments rest, Divides s segments rest ∧
    (rest = [] ∨ ∃ body, rest = commentOpening ++ body ∧ ¬ commentEnd <:+: body) := by
  induction 1, s using stripComments.induct with
  | case1 => exact ⟨[], [], .nil, .inl rfl⟩
  | case2 line rest hnone =>
      exact ⟨[], _, .nil, .inr ⟨rest, rfl, closeComment?_eq_none_iff.1 hnone⟩⟩
  | case3 line rest inner after hsome _ ih =>
      obtain ⟨segments, behind, hdivides, hbehind⟩ := ih
      obtain ⟨body, rfl, hbody⟩ := exists_of_closeComment? hsome
      refine ⟨.comment body :: segments, behind, ?_, hbehind⟩
      rw [← append_of_closeComment? hsome]
      exact .comment hbody hdivides
  | case4 line c rest hslash inner after hsome _ ih =>
      obtain ⟨segments, behind, hdivides, hbehind⟩ := ih
      obtain ⟨hquote, hclose⟩ : isQuote c = true ∧
          closeQuote? true c rest = some (inner, after) := by
        simpa [quotation?] using hsome
      obtain ⟨body, rfl, hbody⟩ := exists_quotedText hclose
      refine ⟨.quotation c body :: segments, behind, ?_, hbehind⟩
      rw [← append_of_closeQuote? hclose]
      exact .quotation hquote hbody hdivides
  | case5 line c rest hslash hnone ih =>
      obtain ⟨segments, behind, hdivides, hbehind⟩ := ih
      exact ⟨.char c :: segments, behind,
        .char (not_commentOpening hslash) (quotation?_eq_none_iff.1 hnone) hdivides, hbehind⟩

/-- What is left of a text that falls into segments up to its end. -/
theorem stripComments_of_divides_nil (h : Divides s segments []) (line : Nat) :
    stripComments line s = .ok (textOf (leftOf segments)) := by
  rw [stripComments_of_divides h, stripComments_nil, Except.map, List.append_nil]

theorem stripComments_eq_ok_iff :
    stripComments line s = .ok plain ↔
      ∃ segments, Divides s segments [] ∧ plain = textOf (leftOf segments) := by
  constructor
  · intro h
    obtain ⟨segments, rest, hdivides, rfl | ⟨body, rfl, hbody⟩⟩ := exists_divides s
    · rw [stripComments_of_divides_nil hdivides] at h
      cases h
      exact ⟨segments, hdivides, rfl⟩
    · rw [stripComments_of_divides hdivides, stripComments_unclosed hbody] at h
      cases h
  · rintro ⟨segments, hdivides, rfl⟩
    exact stripComments_of_divides_nil hdivides line

theorem stripComments_eq_error_iff {found : Nat} :
    stripComments line s = .error found ↔ ∃ segments rest,
      Divides s segments (commentOpening ++ rest) ∧ ¬ commentEnd <:+: rest ∧
        found = line + (textOf segments).count '\n' := by
  constructor
  · intro h
    obtain ⟨segments, rest, hdivides, rfl | ⟨body, rfl, hbody⟩⟩ := exists_divides s
    · rw [stripComments_of_divides_nil hdivides] at h
      cases h
    · rw [stripComments_of_divides hdivides, stripComments_unclosed hbody] at h
      cases h
      exact ⟨segments, body, hdivides, hbody, rfl⟩
  · rintro ⟨segments, rest, hdivides, hrest, rfl⟩
    rw [stripComments_of_divides hdivides, stripComments_unclosed hrest]
    rfl

/-- Where a text starts makes a difference to the line of its error alone. -/
theorem stripComments_add (line k : Nat) (s : List Char) :
    stripComments (line + k) s = (stripComments line s).mapError (· + k) := by
  cases h : stripComments line s with
  | ok plain =>
      rw [stripComments_eq_ok_iff] at h
      exact stripComments_eq_ok_iff.2 h
  | error found =>
      obtain ⟨segments, rest, hdivides, hrest, rfl⟩ := stripComments_eq_error_iff.1 h
      exact stripComments_eq_error_iff.2
        ⟨segments, rest, hdivides, hrest, Nat.add_right_comm _ _ _⟩

/-! ## What is left falls into segments -/

theorem opensNone_iff : OpensNone c s ↔ (isQuote c = true → ends c false s = false) := by
  rw [← quotation?_eq_none_iff, quotation?]
  split <;> simp_all [← isSome_closeQuote?]

theorem opensNone_of_isQuote (h : isQuote c = false) (s : List Char) : OpensNone c s := by
  intro hquote
  rw [h] at hquote
  cases hquote

/-- Each character that stands in the place of a comment is a segment of its own. -/
theorem Divides.gap {gap : List Char} (hgap : ∀ c ∈ gap, c = ' ' ∨ c = '\n')
    (h : Divides s segments rest) : Divides (gap ++ s) (gap.map .char ++ segments) rest := by
  induction gap with
  | nil => exact h
  | cons c gap ih =>
      obtain ⟨hc, hgap⟩ := List.forall_mem_cons.1 hgap
      have hplain : c ≠ '/' ∧ isQuote c = false := by
        rcases hc with rfl | rfl <;> decide
      exact .char (not_commentOpening_of_ne hplain.1) (opensNone_of_isQuote hplain.2 _) (ih hgap)

/-- A star that what is left starts with is the first character of the text. -/
theorem Divides.head?_left (h : Divides s segments [])
    (hstar : (textOf (leftOf segments)).head? = some '*') : s.head? = some '*' := by
  cases h with
  | nil => cases hstar
  | @comment body =>
      obtain ⟨c, gap, hgap⟩ := List.exists_cons_of_ne_nil (commentGap_ne_nil body)
      have hc : c ∈ commentGap body := hgap ▸ List.mem_cons_self
      rw [leftOf_cons, textOf_append, Segment.left, textOf_chars, hgap] at hstar
      obtain rfl := Option.some.inj hstar
      rcases mem_commentGap hc with hc | hc <;> cases hc
  | quotation => exact hstar
  | char => exact hstar

/-- What is left of the segments of a text are its own segments. Taking comments out opens no
comment, since blanks stand in their place, and gives no end to a quotation. -/
theorem Divides.left (h : Divides s segments []) :
    Divides (textOf (leftOf segments)) (leftOf segments) [] := by
  generalize hrest : ([] : List Char) = rest at h
  induction h with
  | nil => exact hrest ▸ .nil
  | @comment body s rest segments _ _ ih =>
      rw [leftOf_cons, textOf_append, Segment.left, textOf_chars]
      exact (ih hrest).gap fun _ => mem_commentGap
  | quotation hquote hbody _ ih => exact .quotation hquote hbody (ih hrest)
  | @char c s rest segments hcomment hopens h ih =>
      subst hrest
      have hcomment' : ¬ commentOpening <+: c :: textOf (leftOf segments) := by
        apply not_commentOpening
        rintro after rfl hafter
        have hstar := h.head?_left (by rw [hafter]; rfl)
        obtain ⟨more, rfl⟩ := List.head?_eq_some_iff.1 hstar
        exact hcomment ⟨more, rfl⟩
      have hopens' : OpensNone c (textOf (leftOf segments)) := by
        rw [opensNone_iff] at hopens ⊢
        intro hquote
        have hstrips := strips_of_stripComments (stripComments_of_divides_nil h 1)
        rw [← Bool.not_eq_true] at hopens ⊢
        exact mt (ends_of_strips hquote hstrips false) (hopens hquote)
      exact .char hcomment' hopens' (ih rfl)

theorem comment_notMem_leftOf (body : List Char) (segments : List Segment) :
    .comment body ∉ leftOf segments := by
  intro h
  obtain ⟨segment, -, hleft⟩ := List.mem_flatMap.1 h
  cases segment <;> simp [Segment.left] at hleft

theorem left_of_not_comment {segment : Segment} (h : ∀ body, segment ≠ .comment body) :
    segment.left = [segment] := by
  cases segment with
  | comment body => exact absurd rfl (h body)
  | quotation | char => rfl

/-- Nothing more is taken out of what is left. -/
theorem leftOf_leftOf (segments : List Segment) : leftOf (leftOf segments) = leftOf segments := by
  induction segments with
  | nil => rfl
  | cons first rest ih =>
      rw [leftOf_cons, leftOf_append, ih]
      cases first with
      | comment body => rw [Segment.left, leftOf_chars]
      | quotation | char => rfl

/-- The quotations of a text stay, and no others come up. -/
theorem quotations_leftOf (segments : List Segment) :
    (leftOf segments).filter Segment.isQuotation = segments.filter Segment.isQuotation := by
  induction segments with
  | nil => rfl
  | cons first rest ih =>
      rw [leftOf_cons, List.filter_append, ih]
      cases first with
      | comment body => simp [Segment.left, Segment.isQuotation]
      | quotation | char => simp [Segment.left, Segment.isQuotation, List.filter_cons]

theorem count_commentGap (body : List Char) :
    (commentGap body).count '\n' = body.count '\n' := by
  unfold commentGap
  split
  case h_1 hzero => simp [hzero]
  case h_2 => rw [List.count_replicate_self]

theorem count_leftOf (segments : List Segment) :
    (textOf (leftOf segments)).count '\n' = (textOf segments).count '\n' := by
  induction segments with
  | nil => rfl
  | cons first rest ih =>
      rw [leftOf_cons, textOf_append, textOf_cons, List.count_append, List.count_append, ih]
      cases first with
      | comment body =>
          rw [Segment.left, textOf_chars, count_commentGap]
          simp [Segment.written, commentOpening, commentEnd]
      | quotation | char => simp [Segment.left, textOf]

/-! ## Behind a text -/

/-- The segments leave nothing open: each quote starts or ends a quotation, and the last of them is
no slash that a comment may open with. -/
structure LeaveNoneOpen (segments : List Segment) : Prop where
  quotes : ∀ c, .char c ∈ segments → isQuote c = false
  slash : segments.getLast? ≠ some (.char '/')

theorem LeaveNoneOpen.tail {first : Segment} (h : LeaveNoneOpen (first :: segments)) :
    LeaveNoneOpen segments := by
  refine ⟨fun c hc => h.quotes c (List.mem_cons_of_mem _ hc), fun hlast => h.slash ?_⟩
  rw [List.getLast?_cons, hlast]
  rfl

/-- Behind a text that leaves nothing open, another one is divided as if it stood alone. -/
theorem Divides.append (h : Divides a segments []) (hopen : LeaveNoneOpen segments)
    (b : List Char) : Divides (a ++ b) segments b := by
  generalize hrest : ([] : List Char) = rest at h
  induction h with
  | nil => exact hrest ▸ .nil
  | comment hbody _ ih =>
      rw [List.append_assoc]
      exact .comment hbody (ih hopen.tail hrest)
  | quotation hquote hbody _ ih =>
      rw [List.append_assoc]
      exact .quotation hquote hbody (ih hopen.tail hrest)
  | @char c s rest segments hcomment _ h ih =>
      subst hrest
      have hquote := hopen.quotes c List.mem_cons_self
      refine .char ?_ (opensNone_of_isQuote hquote _) (ih hopen.tail rfl)
      cases s with
      | nil =>
          rintro ⟨after, hprefix⟩
          obtain ⟨rfl, -⟩ := List.cons.inj hprefix
          have hnil : textOf segments = [] := by simpa using h.eq_append.symm
          exact absurd (textOf_eq_nil_iff.1 hnil ▸ rfl) hopen.slash
      | cons d more => simpa [commentOpening, List.cons_prefix_cons] using hcomment

/-- A comment between two texts comes to the same as blanks in its place. -/
theorem stripComments_comment_append {body : List Char} (hbody : ¬ commentEnd <:+: body)
    (line : Nat) (b : List Char) :
    stripComments line ((Segment.comment body).written ++ b) =
      stripComments line (commentGap body ++ b) := by
  have hcomment : Divides _ [.comment body] b := .comment hbody .nil
  have hgap : Divides _ ((commentGap body).map .char ++ []) b :=
    Divides.nil.gap fun _ => mem_commentGap
  have hleft : leftOf [.comment body] = (commentGap body).map .char := List.append_nil _
  rw [stripComments_of_divides hcomment, stripComments_of_divides hgap, List.append_nil,
    leftOf_chars, ← count_leftOf, hleft]

theorem stripComments_append_of_divides (h : Divides a segments []) (hopen : LeaveNoneOpen segments)
    (line : Nat) (b : List Char) :
    stripComments line (a ++ b) =
      (stripComments (line + a.count '\n') b).map (textOf (leftOf segments) ++ ·) := by
  have hcount : a = textOf segments := by simpa using h.eq_append
  rw [stripComments_of_divides (h.append hopen b), ← hcount]

/-! ## The reader of comments -/

theorem leaveNoneOpen_of_getLast? (h : Divides s segments [])
    (hquotes : ∀ c, .char c ∈ segments → isQuote c = false) (hslash : s.getLast? ≠ some '/') :
    LeaveNoneOpen segments := by
  refine ⟨hquotes, fun hlast => hslash ?_⟩
  obtain ⟨before, rfl⟩ := List.getLast?_eq_some_iff.1 hlast
  rw [h.eq_append, textOf_append, List.append_nil, List.getLast?_append]
  rfl

/-- The reader fails at the first comment without an end, with its line, and otherwise leaves of
each segment what it should. What is left has as many lines and the same quotations, and is read
without a change. A text that leaves nothing open can be read apart from what follows it, so that a
comment behind it comes to the same as blanks. -/
theorem stripComments_exact (source : List Char) :
    (∀ line, stripComments 1 source = .error line ↔ ∃ segments rest,
      Divides source segments (commentOpening ++ rest) ∧ ¬ commentEnd <:+: rest ∧
        line = 1 + (textOf segments).count '\n') ∧
    (∀ line, stripComments 1 source = .error line →
      parse (String.ofList source) = .error (.unclosedComment line)) ∧
    (∀ plain, stripComments 1 source = .ok plain ↔
      ∃ segments, Divides source segments [] ∧ plain = textOf (leftOf segments)) ∧
    ∀ segments, Divides source segments [] →
      (textOf (leftOf segments)).count '\n' = source.count '\n' ∧
      (leftOf segments).filter Segment.isQuotation = segments.filter Segment.isQuotation ∧
      Divides (textOf (leftOf segments)) (leftOf segments) [] ∧
      (∀ body, .comment body ∉ leftOf segments) ∧
      stripComments 1 (textOf (leftOf segments)) = .ok (textOf (leftOf segments)) ∧
      ((∀ c, .char c ∈ segments → isQuote c = false) → source.getLast? ≠ some '/' → ∀ b,
        stripComments 1 (source ++ b) =
          ((stripComments 1 b).map (textOf (leftOf segments) ++ ·)).mapError
            (· + source.count '\n') ∧
        ∀ body, ¬ commentEnd <:+: body →
          stripComments 1 (source ++ ((Segment.comment body).written ++ b)) =
            stripComments 1 (source ++ (commentGap body ++ b))) := by
  refine ⟨fun line => stripComments_eq_error_iff, fun line herror => ?_,
    fun plain => stripComments_eq_ok_iff, fun segments h => ?_⟩
  · rw [parse, String.toList_ofList, herror]
    rfl
  have hagain : stripComments 1 (textOf (leftOf segments)) = .ok (textOf (leftOf segments)) := by
    rw [stripComments_of_divides_nil h.left, leftOf_leftOf]
  refine ⟨?_, quotations_leftOf segments, h.left, fun body => comment_notMem_leftOf body segments,
    hagain, fun hquotes hslash b => ?_⟩
  · rw [count_leftOf, h.eq_append, List.append_nil]
  have happend := stripComments_append_of_divides h (leaveNoneOpen_of_getLast? h hquotes hslash) 1
  refine ⟨?_, fun body hbody => ?_⟩
  · rw [happend, stripComments_add]
    cases stripComments 1 b <;> rfl
  · rw [happend, happend, stripComments_comment_append hbody]

/-- An opening in a quotation starts no comment, and one without an end is found on the line after
a comment with a line feed. -/
theorem stripComments_exact_quoted_opening :
    stripComments 1 (['"', '/', '*', '"', '/', '*', '\n', '*', '/', 'b'] ++ [' ', '/', '*']) =
      .error 2 ∧
    stripComments 1 (['"', '/', '*', '"', '/', '*', '\n', '*', '/', 'b'] ++
        ((Segment.comment ['c']).written ++ [' ', '/', '*'])) =
      stripComments 1 (['"', '/', '*', '"', '/', '*', '\n', '*', '/', 'b'] ++
        ([' '] ++ [' ', '/', '*'])) := by
  have hb : stripComments 1 [' ', '/', '*'] = .error 1 :=
    ((stripComments_exact _).1 1).2 ⟨[.char ' '], [],
      .char (by decide) (opensNone_of_isQuote rfl _) .nil, by decide, by decide⟩
  have hquoted : QuotedText '"' ['/', '*'] :=
    .plain (by decide) (by decide) (.plain (by decide) (by decide) .nil)
  have hcomment : ¬ commentEnd <:+: ['\n'] := by decide
  have hplain : Divides ['b'] [.char 'b'] [] :=
    .char (by decide) (opensNone_of_isQuote rfl _) .nil
  have ha : Divides ['"', '/', '*', '"', '/', '*', '\n', '*', '/', 'b']
      [.quotation '"' ['/', '*'], .comment ['\n'], .char 'b'] [] :=
    .quotation rfl hquoted (.comment hcomment hplain)
  obtain ⟨-, -, -, -, -, hbehind⟩ := (stripComments_exact _).2.2.2 _ ha
  have hall := hbehind (by simp [isQuote]) (by decide) [' ', '/', '*']
  refine ⟨?_, hall.2 ['c'] (by decide)⟩
  rw [hall.1, hb]
  rfl

end StyleUsage.Stylesheet
