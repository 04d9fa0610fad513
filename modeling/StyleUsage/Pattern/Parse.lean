import StyleUsage.Pattern.Reader

/-! # Patterns: structure

A pattern is read step by step; what is left at its end is checked as a whole. -/

namespace StyleUsage.Pattern

/-- The blanks that a verbose pattern leaves out. -/
def isLayout (c : Char) : Bool :=
  c = ' ' || (0x09 ≤ c.toNat && c.toNat ≤ 0x0D)

namespace Reader

/-- The reader after a character that stands for itself or is a quantifier; `after` is the cursor
after it. -/
def character (r : Reader) (c : Char) (after : Cursor) : Except Flaw Reader := do
  if c = '*' ∨ c = '+' ∨ c = '?' ∨ c = '{' then
    match ← quantifier? c (← after.check) with
    | some (q, after) =>
        return { r with level := ← r.level.repeatLast r.cursor.position q, cursor := after }
    | none => return r.push (.set (.char r.level.reading c)) after
  else return r.push (.set (.char r.level.reading c)) after

/-- The reader after a backslash and the letter that it escapes. -/
def escaped (r : Reader) (letter : Char) (after : Cursor) : Except Flaw Reader := do
  let start := r.cursor.position
  match ← escape false r.level.reading.ascii letter start (← after.check) with
  | (.item item, after) => return r.push (.set ⟨r.level.reading, false, [item]⟩) after
  | (.anchor anchor, after) => return r.push (.anchor anchor) after
  | (.reference number, after) =>
      if r.groups.length < number then throw (.invalidReference number, start + 1)
      else r.refer number start after

/-- The reader after a comment of a verbose pattern, which ends with its line. -/
def afterComment (r : Reader) (after : Cursor) : Except Flaw Reader := do
  let next ← Cursor.past? '\n' after.position after.rest
  return { r with cursor := next.getD (after.drop after.rest.length) }

/-- The reader after the next unit. -/
def step (r : Reader) : Except Flaw Reader := do
  let c ← r.cursor.check
  let flags := r.level.flags
  let after := c.drop c.unit.length
  match c.unit with
  | ['\\', letter] => r.escaped letter after
  | [d] =>
      if flags.contains .verbose && isLayout d then return { r with cursor := after }
      else if flags.contains .verbose && d = '#' then r.afterComment after
      else match d with
        | '[' =>
            let (chars, after) ← charSet r.level.reading c.position (← after.check)
            return r.push (.set chars) after
        | '(' => r.openAt c.position (← after.check)
        | ')' => r.closeAt c.position after
        | '|' => return { r with level := ← r.level.bar c.position, cursor := after }
        | '.' => return r.push (.plain [.leaf (.any (flags.contains .dotAll))]) after
        | '^' =>
            let lines := flags.contains .multiline
            return r.push (.anchor (if lines then .lineStart else .textStart)) after
        | '$' =>
            let lines := flags.contains .multiline
            return r.push (.anchor (if lines then .lineEnd else .lastLineEnd)) after
        | _ => r.character d after
  | _ => return r

end Reader

/-- What makes a pattern unusable as a whole: a look-behind of no fixed width, or a repetition if
there must be none. The first one is named. -/
def Node.fault? (template : Bool) : Node → Option Fault
  | .sequence first second | .either first second | .choice _ first second =>
      first.fault? template <|> second.fault? template
  | .repeated body _ _ greed =>
      if template then some (.templateRepeat greed) else body.fault? template
  | .group _ body | .atomic body | .ahead _ body => body.fault? template
  | .behind _ width body =>
      if countLimit < width.least then some .farBehind
      else if width.most ≠ some width.least then some .variableBehind
      else body.fault? template
  | _ => none

/-- The pattern that has been read: its flags, its node, and the fewest characters that match. -/
def Reader.finish (r : Reader) : Except Flaw (List Flag × Node × Nat) :=
  let node := r.level.body
  match r.outer, r.awaited.find? fun (number, _) => r.groups.length < number with
  | _ :: _, _ => .error (.unterminatedGroup, r.level.opened)
  | [], missing =>
      if r.isContrary then .error (.contraryClassing, 0)
      else match missing, node.fault? (r.level.flags.contains .template) with
        | some (number, position), _ => .error (.invalidReference number, position)
        | none, some fault => .error (fault, 0)
        | none, none =>
            .ok (r.level.flags, node.keepGroups node.references, (node.width r.widthOf).least)

/-- The pattern that is left to be read; each step takes one unit at least. -/
def Reader.run : Nat → Reader → Except Flaw (List Flag × Node × Nat)
  | 0, r => r.finish
  | fuel + 1, r => if r.cursor.rest = [] then r.finish else r.step >>= Reader.run fuel

end StyleUsage.Pattern

namespace StyleUsage

/-- A regular expression, with the text that it was read from, the flags that it starts with, and
the fewest characters that match. -/
structure Pattern where
  source : String
  flags : List Pattern.Flag
  node : Pattern.Node
  least : Nat
  deriving Repr, DecidableEq

/-- The pattern that a text describes. -/
def Pattern.parse (source : String) : Except Pattern.Error Pattern :=
  let chars := source.toList
  match (Pattern.Reader.start chars).run (chars.length + 1) with
  | .ok (flags, node, least) => .ok ⟨source, flags, node, least⟩
  | .error (fault, position) => .error ⟨fault, position, source⟩

end StyleUsage
