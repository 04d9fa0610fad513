/-! # Quotations in stylesheets

A quotation runs from a quote to the next quote of its kind that no backslash escapes. -/

namespace StyleUsage.Stylesheet

def isQuote (c : Char) : Bool :=
  c = '"' || c = '\''

/-- The rest of a quotation after its first quote, up to and including the last one, and the text
after it. There is none if the quotation has no end, or if a backslash stands before a line feed
and `escapesBreak` is off. -/
def closeQuote? (escapesBreak : Bool) (quote : Char) : List Char → Option (List Char × List Char)
  | [] => none
  | [c] => if c = quote then some ([c], []) else none
  | c :: d :: rest =>
      if c = quote then some ([c], d :: rest)
      else if c = '\\' then
        if d = '\n' && !escapesBreak then none
        else (closeQuote? escapesBreak quote rest).map fun (inner, after) => (c :: d :: inner, after)
      else
        (closeQuote? escapesBreak quote (d :: rest)).map fun (inner, after) => (c :: inner, after)

theorem append_of_closeQuote? {escapesBreak : Bool} {quote : Char} {s inner after : List Char}
    (h : closeQuote? escapesBreak quote s = some (inner, after)) : inner ++ after = s := by
  fun_induction closeQuote? escapesBreak quote s generalizing inner after <;>
    simp_all only [Option.some.injEq, Prod.mk.injEq, Option.map_eq_some_iff, Prod.exists,
      reduceCtorEq] <;> grind

theorem length_of_closeQuote? {escapesBreak : Bool} {quote : Char} {s inner after : List Char}
    (h : closeQuote? escapesBreak quote s = some (inner, after)) :
    inner.length + after.length = s.length := by
  rw [← append_of_closeQuote? h, List.length_append]

theorem length_le_of_closeQuote? {escapesBreak : Bool} {quote : Char} {s inner after : List Char}
    (h : closeQuote? escapesBreak quote s = some (inner, after)) : after.length ≤ s.length := by
  rw [← length_of_closeQuote? h]
  exact Nat.le_add_left _ _

/-- The quotation that a text starts with, without its first quote, and the text after it. -/
def quotation? (escapesBreak : Bool) : List Char → Option (List Char × List Char)
  | [] => none
  | c :: rest => if isQuote c then closeQuote? escapesBreak c rest else none

theorem length_lt_of_quotation? {escapesBreak : Bool} {s inner after : List Char}
    (h : quotation? escapesBreak s = some (inner, after)) :
    after.length < s.length := by
  cases s with
  | nil => simp [quotation?] at h
  | cons c rest =>
      by_cases hc : isQuote c
      · have hq : closeQuote? escapesBreak c rest = some (inner, after) := by
          simpa only [quotation?, hc, if_true] using h
        exact Nat.lt_succ_of_le (length_le_of_closeQuote? hq)
      · simp [quotation?, hc] at h

end StyleUsage.Stylesheet
