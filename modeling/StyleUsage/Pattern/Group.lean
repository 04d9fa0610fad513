import StyleUsage.Pattern.Cursor
import StyleUsage.Pattern.Flag
import StyleUsage.Text.Identifier

/-! # Patterns: parentheses

What an opening parenthesis starts: a group, a look at what is around a place, or something that
matches nothing of its own. -/

namespace StyleUsage.Pattern

/-- How a group is referred to. -/
inductive GroupTarget where
  | number (number : Nat)
  | name (name : String)
  deriving Repr, DecidableEq

inductive Parenthesis where
  /-- A group that can be referred to, perhaps by a name, which stands at a place. -/
  | group (name : Option (String × Nat))
  /-- A group that turns flags on and off. -/
  | plain (on off : List Flag)
  | ahead (negated : Bool)
  | behind (negated : Bool)
  | atomic
  /-- Two alternatives, the first of which is for when a group has matched. -/
  | choice (target : GroupTarget) (position : Nat)
  /-- What a group has matched; the parenthesis is closed. -/
  | reference (name : String) (position : Nat)
  /-- Flags for the whole pattern; the parenthesis is closed. -/
  | flags (on : List Flag)
  /-- The parenthesis is closed. -/
  | comment
  deriving Repr, DecidableEq

/-- The flag that a unit is. -/
def flag? : List Char → Option Flag
  | [c] => Flag.ofLetter? c
  | _ => none

/-- What is wrong with a unit among flags: an unknown flag, if it is a letter. -/
def notFlag (missing : Fault) : List Char → Fault
  | [c] => if Text.isLetter c then .unknownFlag else missing
  | _ => missing

/-- The flags from `flag` on, which has just been read, with the unit that ends them. -/
def flagsOn : Nat → List Flag → Flag → Cursor → Except Flaw (List Flag × List Char × Cursor)
  | 0, _, _, c => .error (.unendedFlags .turnedOn, c.position)
  | fuel + 1, on, flag, c => do
      if flag = .locale then throw (.localeFlag, c.position)
      if flag.isClassing && on.any (fun f => f.isClassing && f != flag) then
        throw (.mixedClassing, c.position)
      let on := withFlag on flag
      let (this, after) ← c.take
      if this = [')'] ∨ this = [':'] ∨ this = ['-'] then return (on, this, after)
      match flag? this with
      | some flag => flagsOn fuel on flag after
      | none => throw (notFlag (.unendedFlags .turnedOn) this, c.position)

/-- The flags to turn off from `flag` on, which has just been read, up to a colon. -/
def flagsOff : Nat → List Flag → Flag → Cursor → Except Flaw (List Flag × Cursor)
  | 0, _, _, c => .error (.unendedFlags .turnedOff, c.position)
  | fuel + 1, off, flag, c => do
      if flag.isClassing then throw (.classingOff, c.position)
      let off := withFlag off flag
      let (this, after) ← c.take
      if this = [':'] then return (off, after)
      match flag? this with
      | some flag => flagsOff fuel off flag after
      | none => throw (notFlag (.unendedFlags .turnedOff) this, c.position)

/-- The flags after the minus. -/
def flagsAfterMinus (c : Cursor) : Except Flaw (List Flag × Cursor) := do
  let (this, after) ← c.take
  match flag? this with
  | some flag => flagsOff (after.rest.length + 1) [] flag after
  | none => throw (notFlag .missingFlag this, c.position)

/-- A group that starts with a flag, or with a minus; the cursor stands after that. -/
def flagGroup (first : Option Flag) (c : Cursor) : Except Flaw (Parenthesis × Cursor) := do
  let (on, mark, c) ←
    match first with
    | some flag => flagsOn (c.rest.length + 1) [] flag c
    | none => pure ([], ['-'], c)
  if mark = [')'] then return (.flags on, c)
  if on.any Flag.isGlobal then throw (.globalOn, c.position - 1)
  let (off, c) ← if mark = ['-'] then flagsAfterMinus c else pure ([], c)
  if off.any Flag.isGlobal then throw (.globalOff, c.position - 1)
  if on.any (· ∈ off) then throw (.onAndOff, c.position - 1)
  return (.plain on off, c)

/-- The name of a group, up to a mark. -/
def groupName (mark : Char) (c : Cursor) : Except Flaw (String × Cursor) := do
  let (name, after) ← c.upTo mark .group
  if Text.isIdentifier name then return (String.ofList name, after)
  else throw (.badGroupName (String.ofList name), c.position)

/-- There are never as many groups as this. -/
def groupLimit : Nat := 0x3FFFFFFF

/-- The group that a choice depends on, by its name or its number. -/
def groupTarget (c : Cursor) : Except Flaw (GroupTarget × Cursor) := do
  let (name, after) ← c.upTo ')' .group
  if Text.isIdentifier name then return (.name (String.ofList name), after)
  match Number.whole name with
  | .ok (.ofNat number) =>
      if number = 0 then throw (.groupZero, c.position)
      if groupLimit ≤ number then throw (.invalidReference number, c.position)
      return (.number number, after)
  | _ => throw (.badGroupName (String.ofList name), c.position)

/-- A named group, or what one has matched; the cursor stands after the letter for names. -/
def namedGroup (c : Cursor) : Except Flaw (Parenthesis × Cursor) := do
  match ← c.skip? '<', ← c.skip? '=' with
  | some c, _ =>
      let (name, after) ← groupName '>' c
      return (.group (some (name, c.position)), after)
  | none, some c =>
      let (name, after) ← groupName ')' c
      return (.reference name c.position, after)
  | none, none =>
      let (this, _) ← c.take
      if this = [] then throw (.unexpectedEnd, c.position)
      else throw (.unknownExtension (String.ofList ('?' :: 'P' :: this)), c.position - 2)

/-- A look at what is before; the cursor stands after the angle. -/
def behindGroup (c : Cursor) : Except Flaw (Parenthesis × Cursor) := do
  let (this, after) ← c.take
  match this with
  | [] => throw (.unexpectedEnd, c.position)
  | ['='] => return (.behind false, after)
  | ['!'] => return (.behind true, after)
  | _ => throw (.unknownExtension (String.ofList ('?' :: '<' :: this)), c.position - 2)

/-- What the parenthesis at `opened` starts; the cursor stands after it. -/
def parenthesis (opened : Nat) (c : Cursor) : Except Flaw (Parenthesis × Cursor) := do
  match ← c.skip? '?' with
  | none => return (.group none, c)
  | some c =>
      let (this, after) ← c.take
      match this with
      | [] => throw (.unexpectedEnd, c.position)
      | ['P'] => namedGroup after
      | [':'] => return (.plain [] [], after)
      | ['='] => return (.ahead false, after)
      | ['!'] => return (.ahead true, after)
      | ['<'] => behindGroup after
      | ['>'] => return (.atomic, after)
      | ['('] =>
          let (target, past) ← groupTarget after
          return (.choice target after.position, past)
      | ['#'] =>
          match ← Cursor.past? ')' after.position after.rest with
          | some after => return (.comment, after)
          | none => throw (.unterminatedComment, opened)
      | _ =>
          if this = ['-'] ∨ (flag? this).isSome then flagGroup (flag? this) after
          else throw (.unknownExtension (String.ofList ('?' :: this)), c.position - 1)

end StyleUsage.Pattern
