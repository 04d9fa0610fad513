import StyleUsage.Pattern.Cursor
import StyleUsage.Text.CharacterName

/-! # Patterns: escapes

A backslash takes its meaning from the character after it. -/

namespace StyleUsage.Pattern

/-- What an escape stands for. -/
inductive Escaped where
  | item (item : SetItem)
  | anchor (place : Anchor)
  /-- A group, by its number. -/
  | reference (number : Nat)

def isHexDigit (c : Char) : Bool :=
  c.isDigit || ('a' ≤ c && c ≤ 'f') || ('A' ≤ c && c ≤ 'F')

def isOctalDigit (c : Char) : Bool :=
  '0' ≤ c && c ≤ '7'

/-- The value of a digit of base sixteen or below. -/
def digitValue (c : Char) : Nat :=
  if c.isDigit then c.toNat - 48 else c.toLower.toNat - 87

/-- The number that digits of a base show. -/
def numberIn (base : Nat) (digits : List Char) : Nat :=
  digits.foldl (fun n d => n * base + digitValue d) 0

def category? (c : Char) : Option SetItem :=
  match c with
  | 'd' => some (.category .digit false)
  | 'D' => some (.category .digit true)
  | 'w' => some (.category .word false)
  | 'W' => some (.category .word true)
  | 's' => some (.category .blank false)
  | 'S' => some (.category .blank true)
  | _ => none

def anchor? (ascii : Bool) (c : Char) : Option Anchor :=
  match c with
  | 'A' => some .textStart
  | 'Z' => some .textEnd
  | 'b' => some (.boundary ascii false)
  | 'B' => some (.boundary ascii true)
  | _ => none

/-- The control characters that have a letter of their own. -/
def control? (c : Char) : Option Nat :=
  match c with
  | 'a' => some 0x07
  | 'f' => some 0x0C
  | 'n' => some 0x0A
  | 'r' => some 0x0D
  | 't' => some 0x09
  | 'v' => some 0x0B
  | _ => none

/-- The text of an escape. -/
def escapeText (chars : List Char) : String :=
  String.ofList ('\\' :: chars)

/-- A character by the count of hexadecimal digits that its letter asks for. -/
def hexEscape (letter : Char) (width start : Nat) (after : Cursor) :
    Except Flaw (Escaped × Cursor) := do
  let (digits, after) ← after.run width isHexDigit
  let code := numberIn 16 digits
  if digits.length < width then .error (.incompleteEscape (escapeText (letter :: digits)), start)
  else if 0x7FFFFFFF < code then .error (.hugeCode, start)
  else if 0x10FFFF < code then .error (.badEscape (escapeText (letter :: digits)), start)
  else .ok (.item (.single code), after)

/-- A character by the name between braces. -/
def namedEscape (start : Nat) (after : Cursor) : Except Flaw (Escaped × Cursor) := do
  match ← after.skip? '{' with
  | none => .error (.missingBrace, after.position)
  | some after =>
      let (name, after) ← after.upTo '}' .character
      match Text.characterNamed? name with
      | some code => .ok (.item (.single code), after)
      | none => .error (.unknownCharacter (String.ofList name), start)

/-- A character by octal digits, which show at most 255. -/
def octalEscape (digits : List Char) (start : Nat) (after : Cursor) :
    Except Flaw (Escaped × Cursor) :=
  if 0xFF < numberIn 8 digits then .error (.octalTooLarge (escapeText digits), start)
  else .ok (.item (.single (numberIn 8 digits)), after)

/-- An escape that starts with a digit other than zero, outside a set: three octal digits show a
character, and one or two digits a group. -/
def numberEscape (digit : Char) (start : Nat) (after : Cursor) :
    Except Flaw (Escaped × Cursor) := do
  let (second, after) ← after.run 1 Char.isDigit
  let (third, after) ←
    if !second.isEmpty && (digit :: second).all isOctalDigit then after.run 1 isOctalDigit
    else pure ([], after)
  if third.isEmpty then return (.reference (numberIn 10 (digit :: second)), after)
  else octalEscape (digit :: (second ++ third)) start after

/-- An escape that starts with a digit. -/
def digitEscape (inSet : Bool) (digit : Char) (start : Nat) (after : Cursor) :
    Except Flaw (Escaped × Cursor) := do
  if digit = '0' || (inSet && isOctalDigit digit) then
    let (digits, after) ← after.run 2 isOctalDigit
    octalEscape (digit :: digits) start after
  else if inSet then .error (.badEscape (escapeText [digit]), start)
  else numberEscape digit start after

/-- The meaning of a backslash at `start` followed by `letter`; the cursor stands after both. -/
def escape (inSet ascii : Bool) (letter : Char) (start : Nat) (after : Cursor) :
    Except Flaw (Escaped × Cursor) :=
  match category? letter, (if inSet then none else anchor? ascii letter), control? letter with
  | some item, _, _ => .ok (.item item, after)
  | none, some anchor, _ => .ok (.anchor anchor, after)
  | none, none, some code => .ok (.item (.single code), after)
  | none, none, none =>
      if letter.isDigit then digitEscape inSet letter start after
      else match letter with
        | 'x' => hexEscape letter 2 start after
        | 'u' => hexEscape letter 4 start after
        | 'U' => hexEscape letter 8 start after
        | 'N' => namedEscape start after
        | _ =>
            if letter = 'b' then .ok (.item (.single 0x08), after)
            else if letter.isAlpha then .error (.badEscape (escapeText [letter]), start)
            else .ok (.item (.single letter.toNat), after)

end StyleUsage.Pattern
