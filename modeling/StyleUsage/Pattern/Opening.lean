import StyleUsage.Pattern.Parse

/-! # Patterns: how a match opens

What is known of the first character of a match before anything is matched. A search tries no
place at which a match cannot start. -/

namespace StyleUsage.Pattern

open StyleUsage.Text

/-- Whether a range holds a character that stands for others as well. -/
def Reading.anyVaries (reading : Reading) (first last : Nat) : Bool :=
  reading.ignoreCase &&
    if reading.ascii then anyAsciiLetter first last else Text.anyVaries first last

/-- Whether an entry of a set stands for nothing but what it says. -/
def SetItem.isExact (reading : Reading) : SetItem → Bool
  | .single code => !reading.ignoreCase || (code ≤ 0xFFFF && !reading.anyVaries code code)
  | .range first last => !reading.ignoreCase || (last ≤ 0xFFFF && !reading.anyVaries first last)
  | .category .. => true

namespace CharSet

/-- The character that a set names, if it names just one. -/
def single? (chars : CharSet) : Option Nat :=
  match chars.items with
  | [.single code] => some code
  | _ => none

/-- Whether letter case makes no difference for a set. -/
def isExact (chars : CharSet) : Bool :=
  match chars.single? with
  | some code => !chars.reading.anyVaries code code
  | none => chars.items.all (·.isExact chars.reading)

/-- The one character that a set stands for. -/
def literal? (chars : CharSet) : Option Nat :=
  if chars.negated || !chars.isExact then none else chars.single?

/-- Whether a character can be ruled out at once because a set lacks it. All but one character is
no such set. -/
def isFilter (chars : CharSet) : Bool :=
  chars.isExact && !(chars.negated && chars.single?.isSome)

end CharSet

/-- The set that the first character of a node is tested with, where `after` is the one of what
follows. Only tests that come before everything else are looked at. -/
def Node.firstSet? (after : Option CharSet) : Node → Option CharSet
  | .nothing => after
  | .leaf (.set chars) => some chars
  | .sequence first second => first.firstSet? (second.firstSet? after)
  | _ => none

/-- The character that all matches start with, where `after` is the one of what follows. -/
def Node.firstLiteral? (after : Option CharSet) : Node → Option CharSet
  | .nothing => after
  | .leaf (.set chars) => if chars.literal?.isSome then some chars else none
  | .sequence first second => first.firstLiteral? (second.firstLiteral? after)
  | .group _ body => body.firstLiteral? after
  | _ => none

/-- The characters that alternatives start with, if each of them starts with one. -/
def Node.branchLiterals? : Node → Option (List SetItem)
  | .either first second => do return (← first.branchLiterals?) ++ (← second.branchLiterals?)
  | .sequence (.leaf (.set chars)) _ => if chars.literal?.isSome then some chars.items else none
  | _ => none

/-- The set that the first characters of all matches are in. -/
def Node.firstFilter? : Node → Option CharSet
  | .leaf (.set chars) => if chars.isFilter then some chars else none
  | .sequence first _ => first.firstFilter?
  | .group _ body => body.firstFilter?
  | .either first second =>
      (Node.either first second).branchLiterals?.map (⟨⟨false, false⟩, false, ·⟩)
  | _ => none

/-- The set that the first character of every match is in, if one is known. It is taken without
regard to flags of groups: with letter case, and with the classes of the pattern as a whole. -/
def opening? (pattern : Pattern) : Option CharSet :=
  (pattern.node.firstLiteral? none <|> pattern.node.firstFilter?).map fun chars =>
    { chars with reading := ⟨false, pattern.flags.contains .ascii⟩ }

/-- The positions of a text where a match is looked for. -/
def starts (pattern : Pattern) (text : Array Char) : List Nat :=
  if text.size < pattern.least then []
  else
    match pattern.opening? with
    | some chars => (List.range text.size).filter fun i => (text[i]?).any chars.contains
    | none => List.range (text.size + 1 - (pattern.least - 1))

end StyleUsage.Pattern
