/-! # Wildcards

A pattern for names: a star stands for any text, a question mark for any character, and brackets
for one of the characters in them, or for one that is not in them. -/

namespace StyleUsage.Files

inductive Member where
  | single (c : Char)
  | range (first last : Char)
  deriving Repr, DecidableEq

inductive WildItem where
  | star
  | any
  | oneOf (negated : Bool) (members : List Member)
  | char (c : Char)
  deriving Repr, DecidableEq

def Member.contains : Member → Char → Bool
  | .single d, c => c = d
  | .range first last, c => first ≤ c && c ≤ last

/-- A text cut at the hyphens that stand for ranges, the first at `skip` or later. A hyphen
stands for a range if a character comes before it that is no end of another range, and one comes
after it. -/
def cutAtRanges (skip : Nat) : List Char → List (List Char)
  | [] => [[]]
  | c :: rest =>
      match skip with
      | 0 => if c = '-' then [] :: cutAtRanges 2 rest else
          match cutAtRanges 0 rest with
          | first :: more => (c :: first) :: more
          | [] => [[c]]
      | skip + 1 =>
          match cutAtRanges skip rest with
          | first :: more => (c :: first) :: more
          | [] => [[c]]

/-- The pieces around a hyphen that ends the text belong together, hyphen and all. -/
def mergeLast : List (List Char) → List (List Char)
  | [piece, []] => [piece ++ ['-']]
  | piece :: rest => piece :: mergeLast rest
  | [] => []

/-- A range whose end comes before its start is left out, with both of its ends. The ranges are
looked at from the last one on. -/
def dropReversed : List (List Char) → List (List Char)
  | [] => []
  | piece :: rest =>
      match dropReversed rest with
      | next :: more =>
          match piece.getLast?, next.head? with
          | some a, some b =>
              if b < a then (piece.dropLast ++ next.tail) :: more else piece :: next :: more
          | _, _ => piece :: next :: more
      | [] => [piece]

/-- The members of pieces with a range from each of them to the next one; `isFirst` tells whether
the first character of the first piece is not the end of a range. -/
def membersOf (isFirst : Bool) : List (List Char) → List Member
  | [] => []
  | [piece] => (if isFirst then piece else piece.tail).map .single
  | piece :: next :: more =>
      ((if isFirst then piece else piece.tail).dropLast.map .single) ++
        (match piece.getLast?, next.head? with
          | some a, some b => [.range a b]
          | _, _ => []) ++
        membersOf false (next :: more)

/-- What a text between brackets stands for. An exclamation mark at its start negates it. -/
def bracketItem (s : List Char) : WildItem :=
  let skip := if s.head? = some '!' then 2 else 1
  let pieces := dropReversed (mergeLast (cutAtRanges skip s))
  match pieces with
  | ('!' :: first) :: more =>
      if first = [] ∧ more ≠ [] then
        .oneOf true (.single '-' :: membersOf true more)
      else .oneOf true (membersOf true (first :: more))
  | pieces => .oneOf false (membersOf true pieces)

/-- The text between brackets and the text after them; `s` starts behind the opening bracket. A
closing bracket that comes first, perhaps after an exclamation mark, stands for itself. -/
def bracket? (s : List Char) : Option (List Char × List Char) :=
  let mark := if s.head? = some '!' then 1 else 0
  let lead := if (s.drop mark).head? = some ']' then mark + 1 else mark
  match (s.drop lead).dropWhile (· ≠ ']') with
  | _ :: after => some (s.take lead ++ (s.drop lead).takeWhile (· ≠ ']'), after)
  | [] => none

theorem length_lt_of_bracket? {s inner after : List Char}
    (h : bracket? s = some (inner, after)) : after.length < s.length := by
  unfold bracket? at h
  simp only at h
  split at h
  · rename_i c rest hrest
    have hle := (List.dropWhile_suffix (· ≠ ']')
      (l := s.drop (if (s.drop (if s.head? = some '!' then 1 else 0)).head? = some ']'
        then (if s.head? = some '!' then 1 else 0) + 1
        else (if s.head? = some '!' then 1 else 0)))).length_le
    rw [hrest, List.length_cons, List.length_drop] at hle
    simp only [Option.some.injEq, Prod.mk.injEq] at h
    rw [← h.2]
    omega
  · simp at h

/-- The items of a pattern. A bracket that is never closed stands for itself. -/
def wildItems (s : List Char) : List WildItem :=
  match s with
  | [] => []
  | c :: rest =>
      if c = '*' then .star :: wildItems rest
      else if c = '?' then .any :: wildItems rest
      else if c = '[' then
        match h : bracket? rest with
        | some (inner, after) =>
            have : after.length < rest.length + 1 := Nat.lt_succ_of_lt (length_lt_of_bracket? h)
            bracketItem inner :: wildItems after
        | none => .char c :: wildItems rest
      else .char c :: wildItems rest
termination_by s.length

/-- Whether a name is one that the items stand for. -/
def matchesItems : List WildItem → List Char → Bool
  | [], s => s.isEmpty
  | .star :: items, [] => matchesItems items []
  | .star :: items, c :: rest =>
      matchesItems items (c :: rest) || matchesItems (.star :: items) rest
  | .any :: items, s =>
      match s with
      | _ :: rest => matchesItems items rest
      | [] => false
  | .oneOf negated members :: items, s =>
      match s with
      | c :: rest => members.any (·.contains c) != negated && matchesItems items rest
      | [] => false
  | .char d :: items, s =>
      match s with
      | c :: rest => c = d && matchesItems items rest
      | [] => false
termination_by items s => items.length + s.length

/-- Whether a pattern stands for a name. -/
def wildcardMatches (pattern name : List Char) : Bool :=
  matchesItems (wildItems pattern) name

/-- Whether a text holds any wildcard. -/
def hasWildcard (s : List Char) : Bool :=
  s.any fun c => c = '*' || c = '?' || c = '['

end StyleUsage.Files
