import StyleUsage.Stylesheet.Quotation

/-! # Comments in stylesheets

A comment outside of quotations is replaced by the line feeds that it holds, or by one space if
it holds none, so that what follows it keeps its line. -/

namespace StyleUsage.Stylesheet

/-- The text of a comment after its opening, up to and including its end, and the text after it. -/
def closeComment? : List Char → Option (List Char × List Char)
  | '*' :: '/' :: rest => some (['*', '/'], rest)
  | c :: rest => (closeComment? rest).map fun (inner, after) => (c :: inner, after)
  | [] => none

theorem append_of_closeComment? {s inner after : List Char}
    (h : closeComment? s = some (inner, after)) : inner ++ after = s := by
  fun_induction closeComment? s generalizing inner after <;>
    simp_all only [Option.some.injEq, Prod.mk.injEq, Option.map_eq_some_iff, Prod.exists,
      reduceCtorEq] <;> grind

theorem length_of_closeComment? {s inner after : List Char}
    (h : closeComment? s = some (inner, after)) : inner.length + after.length = s.length := by
  rw [← append_of_closeComment? h, List.length_append]

/-- What stands in the place of a comment with the given text. -/
def commentGap (inner : List Char) : List Char :=
  match inner.count '\n' with
  | 0 => [' ']
  | n => List.replicate n '\n'

/-- A text without its comments, read from the given line on; or the line of the first comment
that has no end. A quote that opens no quotation is an ordinary character. -/
def stripComments (line : Nat) (s : List Char) : Except Nat (List Char) :=
  match s with
  | [] => .ok []
  | '/' :: '*' :: rest =>
      match h : closeComment? rest with
      | none => .error line
      | some (inner, after) =>
          have := length_of_closeComment? h
          return commentGap inner ++ (← stripComments (line + inner.count '\n') after)
  | c :: rest =>
      match h : quotation? true (c :: rest) with
      | some (inner, after) =>
          have : after.length < rest.length + 1 := length_lt_of_quotation? h
          return c :: inner ++ (← stripComments (line + inner.count '\n') after)
      | none =>
          return c :: (← stripComments (if c = '\n' then line + 1 else line) rest)
termination_by s.length

end StyleUsage.Stylesheet
