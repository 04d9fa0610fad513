import StyleUsage.Stylesheet.Position
import StyleUsage.Stylesheet.Quotation
import StyleUsage.Text.Blank

/-! # Tokens of stylesheets

A stylesheet without comments is a sequence of heads, braces and semicolons. A head is the text
of a selector list, of an at-rule or of a declaration: plain characters, quotations, and groups
`url(...)`, inside of which braces and semicolons are plain as well. -/

namespace StyleUsage.Stylesheet

open StyleUsage.Text

inductive Token where
  | head (text : List Char)
  | leftBrace
  | rightBrace
  | semicolon
  deriving Repr, DecidableEq

/-- The characters between two tokens. -/
def isGap (c : Char) : Bool :=
  c = ' ' || c = '\t' || c = '\x0c' || c = '\r' || c = '\n'

/-- A brace or a semicolon. -/
def delimiter? (c : Char) : Option Token :=
  match c with
  | '{' => some .leftBrace
  | '}' => some .rightBrace
  | ';' => some .semicolon
  | _ => none

/-- The rest of a group after its opening parenthesis, up to and including the closing one, and
the text after it. Only whole quotations may stand in it. -/
def closeUrl? (s : List Char) : Option (List Char × List Char) :=
  match s with
  | [] => none
  | ')' :: rest => some ([')'], rest)
  | c :: rest =>
      if isQuote c then
        match h : closeQuote? false c rest with
        | none => none
        | some (inner, after) =>
            have : after.length < rest.length + 1 :=
              Nat.lt_succ_of_le (length_le_of_closeQuote? h)
            (closeUrl? after).map fun (more, after) => (c :: inner ++ more, after)
      else (closeUrl? rest).map fun (more, after) => (c :: more, after)
termination_by s.length

theorem append_of_closeUrl? {s inner after : List Char}
    (h : closeUrl? s = some (inner, after)) : inner ++ after = s := by
  fun_induction closeUrl? s generalizing inner after with
  | case1 => simp at h
  | case2 rest => simp_all only [Option.some.injEq, Prod.mk.injEq]; simp [← h.1]
  | case3 => simp at h
  | case4 c rest _ hc quoted behind hq hlt ih =>
      obtain ⟨⟨more, final⟩, hm, heq⟩ := Option.map_eq_some_iff.1 h
      simp only [Prod.mk.injEq] at heq
      rw [← heq.1, ← heq.2, ← append_of_closeQuote? hq, ← ih hm]
      simp
  | case5 c rest _ hc ih =>
      obtain ⟨⟨more, final⟩, hm, heq⟩ := Option.map_eq_some_iff.1 h
      simp only [Prod.mk.injEq] at heq
      rw [← heq.1, ← heq.2, ← ih hm]
      simp

/-- The group `url(...)` that a text starts with, and the text after it. -/
def urlGroup? (s : List Char) : Option (List Char × List Char) :=
  match s with
  | 'u' :: 'r' :: 'l' :: '(' :: inner =>
      (closeUrl? inner).map fun (body, after) => ('u' :: 'r' :: 'l' :: '(' :: body, after)
  | _ => none

/-- The quotation or plain character that a text starts with, and the text after it. -/
def simplePiece? (s : List Char) : Option (List Char × List Char) :=
  match s with
  | [] => none
  | c :: rest =>
      if isQuote c then (closeQuote? false c rest).map fun (inner, after) => (c :: inner, after)
      else if (delimiter? c).isSome then none
      else some ([c], rest)

/-- The first piece of a head and the text after it: a group, a quotation or a plain character. A
group without an end is read as plain characters. -/
def piece? (s : List Char) : Option (List Char × List Char) :=
  (urlGroup? s).or (simplePiece? s)

theorem append_of_urlGroup? {s piece after : List Char}
    (h : urlGroup? s = some (piece, after)) : piece ++ after = s ∧ piece ≠ [] := by
  unfold urlGroup? at h
  split at h
  · obtain ⟨⟨body, final⟩, hb, heq⟩ := Option.map_eq_some_iff.1 h
    simp only [Prod.mk.injEq] at heq
    rw [← heq.1, ← heq.2, ← append_of_closeUrl? hb]
    simp
  · simp at h

theorem append_of_simplePiece? {s piece after : List Char}
    (h : simplePiece? s = some (piece, after)) : piece ++ after = s ∧ piece ≠ [] := by
  unfold simplePiece? at h
  split at h
  · simp at h
  · split at h
    · obtain ⟨⟨inner, final⟩, hq, heq⟩ := Option.map_eq_some_iff.1 h
      simp only [Prod.mk.injEq] at heq
      rw [← heq.1, ← heq.2, ← append_of_closeQuote? hq]
      simp
    · split at h
      · simp at h
      · simp only [Option.some.injEq, Prod.mk.injEq] at h
        rw [← h.1, ← h.2]
        simp

theorem append_of_piece? {s piece after : List Char}
    (h : piece? s = some (piece, after)) : piece ++ after = s ∧ piece ≠ [] := by
  rcases Option.or_eq_some_iff.1 h with h | ⟨_, h⟩
  · exact append_of_urlGroup? h
  · exact append_of_simplePiece? h

theorem length_lt_of_piece? {s piece after : List Char}
    (h : piece? s = some (piece, after)) : after.length < s.length := by
  obtain ⟨happend, hne⟩ := append_of_piece? h
  have hlen := congrArg List.length happend
  have := List.length_pos_iff.2 hne
  rw [List.length_append] at hlen
  omega

/-- All pieces that a text starts with, and the text after them. -/
def pieces (s : List Char) : List Char × List Char :=
  match h : piece? s with
  | none => ([], s)
  | some (piece, after) =>
      have := length_lt_of_piece? h
      let (more, rest) := pieces after
      (piece ++ more, rest)
termination_by s.length

theorem append_pieces (s : List Char) : (pieces s).1 ++ (pieces s).2 = s := by
  fun_induction pieces s with
  | case1 => simp
  | case2 s piece after h _ more rest heq ih =>
      rw [heq] at ih
      simp only at ih
      rw [List.append_assoc, ih, (append_of_piece? h).1]

/-- The head that a text starts with and the text after it. A head does not start with a blank. -/
def head? (s : List Char) : Option (List Char × List Char) :=
  match s with
  | [] => none
  | c :: _ =>
      if isBlank c then none
      else (piece? s).map fun (piece, after) =>
        let (more, rest) := pieces after
        (piece ++ more, rest)

theorem append_of_head? {s head after : List Char}
    (h : head? s = some (head, after)) : head ++ after = s := by
  unfold head? at h
  split at h
  · simp at h
  · split at h
    · simp at h
    · obtain ⟨⟨piece, rest⟩, hp, heq⟩ := Option.map_eq_some_iff.1 h
      simp only [Prod.mk.injEq] at heq
      rw [← heq.1, ← heq.2, List.append_assoc, append_pieces, (append_of_piece? hp).1]

theorem length_lt_of_head? {s head after : List Char}
    (h : head? s = some (head, after)) : after.length < s.length := by
  unfold head? at h
  split at h
  · simp at h
  · split at h
    · simp at h
    · obtain ⟨⟨piece, rest⟩, hp, heq⟩ := Option.map_eq_some_iff.1 h
      simp only [Prod.mk.injEq] at heq
      have hlen := congrArg List.length (append_pieces rest)
      have := length_lt_of_piece? hp
      rw [← heq.2]
      rw [List.length_append] at hlen
      omega

/-- A token and the place where it starts. -/
structure Placed where
  token : Token
  position : Position
  deriving Repr, DecidableEq

/-- The place of a character that no token starts with. -/
structure Stray where
  char : Char
  position : Position
  deriving Repr, DecidableEq

/-- The tokens of a text that starts at the given place, up to the first stray character. -/
def tokenize (p : Position) (s : List Char) : List Placed × Option Stray :=
  match hs : s with
  | [] => ([], none)
  | c :: rest =>
      if isGap c then tokenize (p.next c) rest
      else
        match delimiter? c with
        | some t =>
            let (more, stray) := tokenize (p.next c) rest
            (⟨t, p⟩ :: more, stray)
        | none =>
            match h : head? s with
            | some (text, after) =>
                have : after.length < rest.length + 1 := by
                  have := length_lt_of_head? h
                  simpa [hs] using this
                let (more, stray) := tokenize (p.after text) after
                (⟨.head text, p⟩ :: more, stray)
            | none => ([], some ⟨c, p⟩)
termination_by s.length

end StyleUsage.Stylesheet
