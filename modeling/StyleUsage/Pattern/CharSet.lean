import StyleUsage.Pattern.Escape

/-! # Patterns: character sets

A set lists characters, ranges and classes between brackets. -/

namespace StyleUsage.Pattern

/-- One member of a set, which starts with the unit `this` just before the cursor. -/
def setMember (this : List Char) (after : Cursor) : Except Flaw (SetItem × Cursor) :=
  match this with
  | ['\\', letter] => do
      match ← escape true false letter (after.position - 2) after with
      | (.item item, after) => .ok (item, after)
      | (_, after) => .ok (.single letter.toNat, after)
  | c :: _ => .ok (.single c.toNat, after)
  | [] => .error (.unterminatedSet, after.position)

/-- The members of a set up to its bracket. A bracket that comes first is a member. -/
def setMembers (opened : Nat) : Nat → List SetItem → Cursor → Except Flaw (List SetItem × Cursor)
  | 0, _, _ => .error (.unterminatedSet, opened)
  | fuel + 1, found, c => do
      let (this, after) ← c.take
      if this = [] then throw (.unterminatedSet, opened)
      if this = [']'] ∧ found ≠ [] then return (found.reverse, after)
      let (item, after) ← setMember this after
      match ← after.skip? '-' with
      | none => setMembers opened fuel (item :: found) after
      | some after =>
          let (that, after) ← after.take
          if that = [] then throw (.unterminatedSet, opened)
          if that = [']'] then return ((.single '-'.toNat :: item :: found).reverse, after)
          let (last, after) ← setMember that after
          let flaw : Flaw :=
            (.badRange (String.ofList this) (String.ofList that),
              after.position - (this.length + 1 + that.length))
          match item, last with
          | .single a, .single b =>
              if b < a then throw flaw else setMembers opened fuel (.range a b :: found) after
          | _, _ => throw flaw

/-- A set, the bracket of which stands at `opened` just before the cursor. Each member is listed
once. -/
def charSet (reading : Reading) (opened : Nat) (after : Cursor) :
    Except Flaw (CharSet × Cursor) := do
  let negated ← after.skip? '^'
  let after := negated.getD after
  let (items, after) ← setMembers opened (after.rest.length + 1) [] after
  return (⟨reading, negated.isSome, items.eraseDups⟩, after)

end StyleUsage.Pattern
