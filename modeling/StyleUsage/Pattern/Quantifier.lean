import StyleUsage.Pattern.Cursor

/-! # Patterns: quantifiers

A quantifier says how often the piece before it may occur. -/

namespace StyleUsage.Pattern

structure Quantifier where
  least : Nat
  most : Option Nat
  greed : Greed
  deriving Repr, DecidableEq

/-- How a quantifier chooses, by the mark that follows it. -/
def greedMark (c : Cursor) : Greed × Cursor :=
  match c.rest with
  | '?' :: _ => (.reluctant, c.drop 1)
  | '+' :: _ => (.possessive, c.drop 1)
  | _ => (.greedy, c)

/-- No repetition counts as far as this. -/
def countLimit : Nat := 0xFFFFFFFF

/-- The bound that some digits show, at a place of the pattern. -/
def bound (position : Nat) (digits : List Char) : Except Flaw Nat :=
  let count := digits.foldl (fun n d => n * 10 + (d.toNat - 48)) 0
  if Number.longestNumber < digits.length then .error (.longBound digits.length, position)
  else if countLimit ≤ count then .error (.hugeBound, position)
  else .ok count

/-- The bounds that follow an opening brace, or nothing if the brace stands for itself. -/
def braceBounds? (c : Cursor) : Except Flaw (Option (Nat × Option Nat × Cursor)) := do
  if c.unit = ['}'] then return none
  let (low, after) ← c.run c.rest.length Char.isDigit
  let (high, after) ←
    match ← after.skip? ',' with
    | some after => after.run after.rest.length Char.isDigit
    | none => pure (low, after)
  match ← after.skip? '}' with
  | none => return none
  | some after =>
      let least ← bound c.position low
      if high = [] then return some (least, none, after)
      let most ← bound c.position high
      if most < least then .error (.boundsReversed, c.position)
      else return some (least, some most, after)

/-- The bounds that a mark of its own stands for. -/
def markBounds? (c : Char) : Option (Nat × Option Nat) :=
  match c with
  | '*' => some (0, none)
  | '+' => some (1, none)
  | '?' => some (0, some 1)
  | _ => none

/-- A quantifier, the first character of which stands just before the cursor. -/
def quantifier? (mark : Char) (after : Cursor) : Except Flaw (Option (Quantifier × Cursor)) := do
  let bounds ←
    if mark = '{' then braceBounds? after
    else pure ((markBounds? mark).map fun (least, most) => (least, most, after))
  return bounds.map fun (least, most, after) =>
    let (greed, after) := greedMark after
    (⟨least, most, greed⟩, after)

end StyleUsage.Pattern
