import StyleUsage.Pattern.Opening
import StyleUsage.Pattern.Place

/-! # Patterns: matching a leaf

A leaf matches at a place of a text or does not; a match leads to one other place. -/

namespace StyleUsage.Pattern

open StyleUsage.Text

/-- Whether a place lies between a word character and something else. A text without characters
has no such place, and no place that is not one. -/
def atBoundary (text : Array Char) (ascii negated : Bool) (position : Nat) : Bool :=
  let isWord (c : Char) := Category.word.contains ascii c
  let before := position != 0 && (text[position - 1]?).any isWord
  text.size != 0 && (before != (text[position]?).any isWord) != negated

def Anchor.holds (text : Array Char) (position : Nat) : Anchor → Bool
  | .textStart => position = 0
  | .lineStart => position = 0 || text[position - 1]? = some '\n'
  | .textEnd => position = text.size
  | .lastLineEnd =>
      position = text.size || (position + 1 = text.size && text[position]? = some '\n')
  | .lineEnd => position = text.size || text[position]? = some '\n'
  | .boundary ascii negated => atBoundary text ascii negated position

/-- Whether the text of a capture stands at a place once more. -/
def repeatsAt (text : Array Char) (reading : Reading) (c : Capture) (position : Nat) : Bool :=
  (List.range (c.last - c.first)).all fun i =>
    match text[c.first + i]?, text[position + i]? with
    | some a, some b => reading.plain a.toNat = reading.plain b.toNat
    | _, _ => false

/-- The place after a character that passes a test. -/
def consume (text : Array Char) (test : Char → Bool) (p : Place) : Option Place :=
  match text[p.position]? with
  | some c => if test c then some p.next else none
  | none => none

/-- The place where a leaf's match from a place ends. -/
def Leaf.next? (text : Array Char) (p : Place) : Leaf → Option Place
  | .any lineFeed => consume text (fun c => lineFeed || c != '\n') p
  | .set chars => consume text chars.contains p
  | .anchor place => if place.holds text p.position then some p else none
  | .reference reading number => do
      let c ← p.captured? number
      if repeatsAt text reading c p.position then
        some { p with position := p.position + (c.last - c.first) }
      else none

/-- How many times in a row a leaf matches from a place on, counted up to a limit. -/
def Leaf.count (text : Array Char) (leaf : Leaf) : Nat → Place → Nat
  | 0, _ => 0
  | limit + 1, p =>
      match leaf.next? text p with
      | some q => leaf.count text limit q + 1
      | none => 0

/-- Whether each character is noted that such a leaf has counted: those are that a set holds
because letter case does not count. -/
def Leaf.notesCount : Leaf → Bool
  | .set chars =>
      !chars.isExact &&
        match chars.single? with
        | some code =>
            !chars.reading.ascii && lowerTwins.any (·.contains (lowerCode code))
        | none => true
  | _ => false

end StyleUsage.Pattern
