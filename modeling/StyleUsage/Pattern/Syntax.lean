import StyleUsage.Text.Blank
import StyleUsage.Text.CaseVariant
import StyleUsage.Text.DecimalDigit
import StyleUsage.Text.WordChar

/-! # Patterns: syntax

The regular expressions that exempt class names from a report. A pattern is a tree whose leaves
test one character or the place between two. Characters are given by their code points, since a
pattern may name code points that no text can hold. -/

namespace StyleUsage.Pattern

open StyleUsage.Text

/-- How the characters of a text are taken. -/
structure Reading where
  /-- Letter case does not count. -/
  ignoreCase : Bool
  /-- Only the characters of ASCII have a class and a letter case. -/
  ascii : Bool
  deriving Repr, DecidableEq

/-- The named classes of characters. -/
inductive Category where
  | digit
  | word
  | blank
  deriving Repr, DecidableEq

/-- One entry of a character set. -/
inductive SetItem where
  | single (code : Nat)
  | range (first last : Nat)
  | category (kind : Category) (negated : Bool)
  deriving Repr, DecidableEq

/-- How a repetition chooses among the counts that it allows: the most first, the fewest first,
or the most without ever giving one back. -/
inductive Greed where
  | greedy
  | reluctant
  | possessive
  deriving Repr, DecidableEq

/-- The places of a text that a pattern may ask for. -/
inductive Anchor where
  | textStart
  | lineStart
  | textEnd
  /-- The end of the text, or the place before a line feed that ends it. -/
  | lastLineEnd
  | lineEnd
  /-- A place between a word character and something else, or one that is not. -/
  | boundary (ascii negated : Bool)
  deriving Repr, DecidableEq

/-- A set of characters: those that an entry stands for, or all others. -/
structure CharSet where
  reading : Reading
  negated : Bool
  items : List SetItem
  deriving Repr, DecidableEq

/-- How many characters can be matched: the fewest, and the most unless there is no limit. -/
structure Width where
  least : Nat
  most : Option Nat
  deriving Repr, DecidableEq

/-- The smallest patterns. Each matches in one way at most. -/
inductive Leaf where
  /-- Any character; a line feed only if that is said. -/
  | any (lineFeed : Bool)
  | set (chars : CharSet)
  | anchor (place : Anchor)
  /-- The text that a group has matched. -/
  | reference (reading : Reading) (number : Nat)
  deriving Repr, DecidableEq

inductive Node where
  /-- Matches the empty text everywhere. -/
  | nothing
  | leaf (leaf : Leaf)
  | sequence (first second : Node)
  | either (first second : Node)
  | repeated (body : Node) (least : Nat) (most : Option Nat) (greed : Greed)
  /-- What the body matches is known by a number, if anything asks for it. -/
  | group (number : Option Nat) (body : Node)
  /-- One of two bodies: the first if a group has matched. -/
  | choice (number : Nat) (whenMatched otherwise : Node)
  /-- The body matches in the preferred way or not at all. -/
  | atomic (body : Node)
  /-- The body matches here, or does not, and nothing is consumed. -/
  | ahead (negated : Bool) (body : Node)
  /-- The body matches up to here, or does not; how wide it is is known. -/
  | behind (negated : Bool) (width : Width) (body : Node)
  deriving Repr, DecidableEq

/-- The characters that a character stands for: itself and, if letter case does not count, its
variants. -/
def Reading.variants (reading : Reading) (code : Nat) : List Nat :=
  if !reading.ignoreCase then [code]
  else if reading.ascii then asciiVariants code
  else caseVariants code

/-- A character, or its lowercase form if letter case does not count. -/
def Reading.plain (reading : Reading) (code : Nat) : Nat :=
  if !reading.ignoreCase then code
  else if reading.ascii then asciiLowerCode code
  else lowerCode code

def Category.contains (ascii : Bool) (kind : Category) (c : Char) : Bool :=
  (!ascii || c.toNat < 0x80) &&
    match kind with
    | .digit => isDecimalDigit c
    | .word => isWordChar c
    | .blank => isBlank c && !(ascii && 0x1C ≤ c.toNat && c.toNat ≤ 0x1F)

/-- Whether an entry of a set stands for a character. If letter case does not count, a character
from U+10000 on is listed by its lowercase form alone; and a range up to such a character holds one
also if it holds the uppercase form, whatever the characters are that have a letter case. -/
def SetItem.contains (reading : Reading) (item : SetItem) (c : Char) : Bool :=
  match item with
  | .single code =>
      if 0xFFFF < code then reading.plain c.toNat = code
      else (reading.variants c.toNat).contains code
  | .range first last =>
      let upper :=
        if reading.ignoreCase && 0xFFFF < last then [upperCode (reading.plain c.toNat)] else []
      (reading.variants c.toNat ++ upper).any fun n => first ≤ n && n ≤ last
  | .category kind negated => kind.contains reading.ascii c != negated

/-- Whether a set holds a character. A set that lists one character holds its variants, whatever
they are. -/
def CharSet.contains (chars : CharSet) (c : Char) : Bool :=
  let listed :=
    match chars.items with
    | [.single code] => (chars.reading.variants c.toNat).contains code
    | items => items.any (·.contains chars.reading c)
  listed != chars.negated

/-- The set of one character. -/
def CharSet.char (reading : Reading) (c : Char) : CharSet :=
  ⟨reading, false, [.single c.toNat]⟩

/-- Nodes one after the other. -/
def Node.concat (nodes : List Node) : Node :=
  nodes.foldr .sequence .nothing

/-- The pattern in which the groups are remembered that the numbers name, and no others. -/
def Node.keepGroups (numbers : List Nat) : Node → Node
  | .sequence first second => .sequence (first.keepGroups numbers) (second.keepGroups numbers)
  | .either first second => .either (first.keepGroups numbers) (second.keepGroups numbers)
  | .repeated body least most greed => .repeated (body.keepGroups numbers) least most greed
  | .group number body => .group (number.filter (· ∈ numbers)) (body.keepGroups numbers)
  | .choice number whenMatched otherwise =>
      .choice number (whenMatched.keepGroups numbers) (otherwise.keepGroups numbers)
  | .atomic body => .atomic (body.keepGroups numbers)
  | .ahead negated body => .ahead negated (body.keepGroups numbers)
  | .behind negated width body => .behind negated width (body.keepGroups numbers)
  | node => node

/-- The numbers of the groups that a pattern refers to. -/
def Node.references : Node → List Nat
  | .nothing => []
  | .leaf (.reference _ number) => [number]
  | .leaf _ => []
  | .sequence first second | .either first second => first.references ++ second.references
  | .repeated body _ _ _ | .group _ body | .atomic body | .ahead _ body | .behind _ _ body =>
      body.references
  | .choice number whenMatched otherwise =>
      number :: (whenMatched.references ++ otherwise.references)

end StyleUsage.Pattern
