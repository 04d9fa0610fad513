import StyleUsage.Pattern.Error

/-! # Patterns: reading

A pattern is read from left to right, in units: a character, or a backslash with the character
that it escapes. A backslash that ends the pattern is a fault as soon as everything before it is
read. -/

namespace StyleUsage.Pattern

/-- A fault and the place that it names. -/
abbrev Flaw := Fault × Nat

/-- The unread rest of a pattern and the count of characters before it. -/
structure Cursor where
  position : Nat
  rest : List Char

namespace Cursor

/-- The cursor after some more characters, unchecked. -/
def drop (c : Cursor) (count : Nat) : Cursor :=
  ⟨c.position + count, c.rest.drop count⟩

/-- The cursor, unless only a backslash is left. -/
def check (c : Cursor) : Except Flaw Cursor :=
  if c.rest = ['\\'] then .error (.loneBackslash, c.position) else .ok c

/-- The cursor after some more characters. -/
def forward (c : Cursor) (count : Nat) : Except Flaw Cursor :=
  (c.drop count).check

/-- The next unit, or nothing at the end. -/
def unit : Cursor → List Char
  | ⟨_, '\\' :: d :: _⟩ => ['\\', d]
  | ⟨_, d :: _⟩ => [d]
  | ⟨_, []⟩ => []

/-- The next unit and the cursor after it. -/
def take (c : Cursor) : Except Flaw (List Char × Cursor) := do
  return (c.unit, ← c.forward c.unit.length)

/-- The cursor after a mark, if the mark comes next. -/
def skip? (c : Cursor) (mark : Char) : Except Flaw (Option Cursor) :=
  if c.unit = [mark] then (c.forward 1).map some else .ok none

/-- The cursor after the longest run of characters of a kind, at most `count` of them, and the
run. -/
def run (c : Cursor) (count : Nat) (kind : Char → Bool) : Except Flaw (List Char × Cursor) := do
  let found := (c.rest.take count).takeWhile kind
  return (found, ← c.forward found.length)

/-- The cursor after the next unescaped mark, if there is one. -/
def past? (mark : Char) (position : Nat) : List Char → Except Flaw (Option Cursor)
  | [] => .ok none
  | ['\\'] => .error (.loneBackslash, position)
  | '\\' :: _ :: rest => past? mark (position + 2) rest
  | d :: rest =>
      if d = mark then (Cursor.check ⟨position + 1, rest⟩).map some
      else past? mark (position + 1) rest

/-- The text up to an unescaped mark. -/
def upTo (c : Cursor) (mark : Char) (kind : NameKind) : Except Flaw (List Char × Cursor) := do
  match ← past? mark c.position c.rest with
  | some after =>
      let name := c.rest.take (after.position - c.position - 1)
      if name = [] then .error (.missingName kind, c.position) else .ok (name, after)
  | none =>
      .error (if c.rest = [] then .missingName kind else .unterminatedName mark, c.position)

end Cursor

end StyleUsage.Pattern
