/-! # Places in a text

A place is named by its line and column, both counted from one, and by the count of characters
before it. Only a line feed starts a new line. -/

namespace StyleUsage.Stylesheet

structure Position where
  offset : Nat
  line : Nat
  column : Nat
  deriving Repr, DecidableEq

/-- The place where a text starts. -/
def Position.start : Position :=
  ⟨0, 1, 1⟩

/-- The place after one character. -/
def Position.next (p : Position) (c : Char) : Position :=
  if c = '\n' then ⟨p.offset + 1, p.line + 1, 1⟩ else ⟨p.offset + 1, p.line, p.column + 1⟩

/-- The place after some text. -/
def Position.after (p : Position) (s : List Char) : Position :=
  s.foldl Position.next p

theorem Position.line_next (p : Position) (c : Char) :
    (p.next c).line = p.line + if c = '\n' then 1 else 0 := by
  unfold Position.next
  split <;> rfl

theorem Position.line_after (p : Position) (s : List Char) :
    (p.after s).line = p.line + s.count '\n' := by
  induction s generalizing p with
  | nil => simp [Position.after]
  | cons c rest ih =>
      simp only [Position.after, List.foldl_cons] at ih ⊢
      rw [ih, Position.line_next, List.count_cons]
      simp only [beq_iff_eq]
      ac_rfl

end StyleUsage.Stylesheet
