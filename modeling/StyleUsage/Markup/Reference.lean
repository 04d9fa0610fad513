import StyleUsage.Markup.Entity.Capital
import StyleUsage.Markup.Entity.Small
import StyleUsage.Number.Whole

/-! # Character references

A value in markup may name a character by a reference: an ampersand with a number or a name.
What is no reference stands for itself. -/

namespace StyleUsage.Markup

/-- The characters that the numbers 128 to 159 stand for, from an older character set. -/
def legacyCharacters : List Char :=
  ['€', '\x81', '‚', 'ƒ', '„', '…', '†', '‡', 'ˆ', '‰', 'Š', '‹', 'Œ', '\x8d', 'Ž', '\x8f',
   '\x90', '‘', '’', '“', '”', '•', '–', '—', '˜', '™', 'š', '›', 'œ', '\x9d', 'ž', 'Ÿ']

/-- A number that stands for no character at all: most controls, and the code points that are set
aside for ever. -/
def isVoidNumber (n : Nat) : Bool :=
  (1 ≤ n && n ≤ 8) || n = 0xB || (0xE ≤ n && n ≤ 0x1F) || n = 0x7F ||
    (0xFDD0 ≤ n && n ≤ 0xFDEF) || 0xFFFE ≤ n % 0x10000

/-- The text that a number stands for. -/
def numberedText (n : Nat) : List Char :=
  if n = 0 then ['\uFFFD']
  else if 0x80 ≤ n ∧ n ≤ 0x9F then [legacyCharacters.getD (n - 0x80) '\uFFFD']
  else if (0xD800 ≤ n ∧ n ≤ 0xDFFF) ∨ 0x10FFFF < n then ['\uFFFD']
  else if isVoidNumber n then []
  else [Char.ofNat n]

def isHexDigit (c : Char) : Bool :=
  c.isDigit || ('a' ≤ c && c ≤ 'f') || ('A' ≤ c && c ≤ 'F')

def digitValue (c : Char) : Nat :=
  if c.isDigit then c.toNat - 48 else c.toLower.toNat - 87

/-- The number that some digits show. -/
def numberOf (base : Nat) (digits : List Char) : Nat :=
  digits.foldl (fun n d => n * base + digitValue d) 0

/-- A text without the semicolon that it may start with. -/
def dropSemicolon : List Char → List Char
  | ';' :: rest => rest
  | s => s

/-- The text that a reference by number stands for, and the text after it; `s` starts behind the
number sign. -/
def numbered? (s : List Char) : Option (List Char × List Char) :=
  let decimal := s.takeWhile Char.isDigit
  if decimal ≠ [] then
    some (numberedText (numberOf 10 decimal), dropSemicolon (s.dropWhile Char.isDigit))
  else
    match s with
    | x :: rest =>
        let digits := rest.takeWhile isHexDigit
        if (x = 'x' ∨ x = 'X') ∧ digits ≠ [] then
          some (numberedText (numberOf 16 digits), dropSemicolon (rest.dropWhile isHexDigit))
        else none
    | [] => none

/-- The text that a name stands for, its semicolon included if it has one. -/
def namedText? (name : List Char) : Option (List Char) :=
  match name with
  | c :: _ =>
      ((if c.isUpper then Entity.capitals c else Entity.smalls c).lookup (String.ofList name)).map
        String.toList
  | [] => none

/-- The longest of the first `length` characters or fewer, at least two, that are a name. -/
def leadingName? (name : List Char) : Nat → Option (List Char)
  | 0 | 1 => none
  | length + 2 =>
      match namedText? (name.take (length + 2)) with
      | some text => some (text ++ name.drop (length + 2))
      | none => leadingName? name (length + 1)

/-- A character that may stand in a name. -/
def inReferenceName (c : Char) : Bool :=
  !(['\t', '\n', '\x0c', ' ', '<', '&', '#', ';'].contains c)

/-- How long a name may be. -/
def longestName : Nat := 32

/-- The text that a reference by name stands for, and the text after it; `s` starts behind the
ampersand. A name that stands for nothing may still start with one that stands for something. -/
def named? (s : List Char) : Option (List Char × List Char) :=
  let bare := (s.takeWhile inReferenceName).take longestName
  let rest := s.drop bare.length
  let name := if rest.head? = some ';' then bare ++ [';'] else bare
  if bare = [] then none
  else
    match (namedText? name).or (leadingName? name (name.length - 1)) with
    | some text => some (text, dropSemicolon rest)
    | none => none

/-- How many digits a decimal number has that is too long to be read; the number starts the
text. -/
def tooLong? (s : List Char) : Option Nat :=
  let digits := (s.takeWhile Char.isDigit).length
  if Number.longestNumber < digits then some digits else none

/-- How many digits the first number in a value has that is too long to be read. -/
def tooLongNumber? : List Char → Option Nat
  | [] => none
  | c :: rest =>
      match c, rest with
      | '&', '#' :: number => (tooLong? number).or (tooLongNumber? rest)
      | _, _ => tooLongNumber? rest

theorem length_dropSemicolon_le (s : List Char) : (dropSemicolon s).length ≤ s.length := by
  unfold dropSemicolon
  split <;> simp

/-- The text that a reference stands for, and the text after it; `s` starts behind the
ampersand. -/
def reference? (s : List Char) : Option (List Char × List Char) :=
  match s with
  | '#' :: rest => numbered? rest
  | _ => named? s

theorem length_le_of_numbered? {s text after : List Char}
    (h : numbered? s = some (text, after)) : after.length ≤ s.length := by
  unfold numbered? at h
  simp only at h
  split at h
  · simp only [Option.some.injEq, Prod.mk.injEq] at h
    rw [← h.2]
    exact Nat.le_trans (length_dropSemicolon_le _) (List.dropWhile_suffix _).length_le
  · split at h
    · split at h
      · simp only [Option.some.injEq, Prod.mk.injEq] at h
        rw [← h.2]
        refine Nat.le_trans (length_dropSemicolon_le _) ?_
        exact Nat.le_succ_of_le (List.dropWhile_suffix _).length_le
      · simp at h
    · simp at h

theorem length_le_of_named? {s text after : List Char}
    (h : named? s = some (text, after)) : after.length ≤ s.length := by
  unfold named? at h
  simp only at h
  split at h
  · simp at h
  · split at h
    · simp only [Option.some.injEq, Prod.mk.injEq] at h
      rw [← h.2]
      exact Nat.le_trans (length_dropSemicolon_le _) (by simp)
    · simp at h

theorem length_le_of_reference? {s text after : List Char}
    (h : reference? s = some (text, after)) : after.length ≤ s.length := by
  unfold reference? at h
  split at h
  · exact Nat.le_succ_of_le (length_le_of_numbered? h)
  · exact length_le_of_named? h

/-- A value with its references replaced by what they stand for. -/
def resolveReferences (s : List Char) : List Char :=
  match s with
  | [] => []
  | '&' :: rest =>
      match h : reference? rest with
      | some (text, after) =>
          have := length_le_of_reference? h
          text ++ resolveReferences after
      | none => '&' :: resolveReferences rest
  | c :: rest => c :: resolveReferences rest
termination_by s.length

end StyleUsage.Markup
