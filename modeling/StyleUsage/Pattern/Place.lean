/-! # Patterns: places

While a text is matched, a place in it is a position, the count of characters before it, together
with what the groups have matched on the way there. -/

namespace StyleUsage.Pattern

/-- What a group has matched: the part of the text between two positions. -/
structure Capture where
  group : Nat
  first : Nat
  last : Nat
  deriving Repr, DecidableEq

/-- A position, and the last match of each group, in order of the groups. -/
structure Place where
  position : Nat
  captures : List Capture
  deriving Repr, DecidableEq

/-- The captures with one more, which replaces the last one of its group. -/
def capture (c : Capture) : List Capture → List Capture
  | [] => [c]
  | d :: rest =>
      if d.group < c.group then d :: capture c rest
      else if d.group = c.group then c :: rest
      else c :: d :: rest

def Place.captured? (p : Place) (group : Nat) : Option Capture :=
  p.captures.find? (·.group = group)

/-- The place one character further. -/
def Place.next (p : Place) : Place :=
  { p with position := p.position + 1 }

/-- Places that have been met, by their positions. -/
structure Met where
  captures : Array (List (List Capture))

/-- No place of a text of the given length. -/
def Met.nowhere (length : Nat) : Met :=
  ⟨Array.replicate (length + 1) []⟩

def Met.contains (met : Met) (p : Place) : Bool :=
  (met.captures.getD p.position []).contains p.captures

def Met.insert (met : Met) (p : Place) : Met :=
  ⟨met.captures.modify p.position (p.captures :: ·)⟩

/-- The places that have not been met, each once. -/
def notMet (met : Met) : List Place → List Place
  | [] => []
  | p :: rest => if met.contains p then notMet met rest else p :: notMet (met.insert p) rest

/-- Some places of a text of the given length, each once, the first of equal ones kept. -/
def distinct (length : Nat) (places : List Place) : List Place :=
  match places with
  | [] | [_] => places
  | _ => notMet (.nowhere length) places

end StyleUsage.Pattern
