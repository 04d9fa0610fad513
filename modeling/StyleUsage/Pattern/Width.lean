import StyleUsage.Pattern.Syntax

/-! # Patterns: widths

How many characters the matches of a pattern can have. -/

namespace StyleUsage.Pattern

def Width.empty : Width := ⟨0, some 0⟩

def Width.one : Width := ⟨1, some 1⟩

/-- One text after the other. -/
def Width.add (v w : Width) : Width :=
  ⟨v.least + w.least, v.most.bind fun a => w.most.map (a + ·)⟩

/-- One text or the other. -/
def Width.either (v w : Width) : Width :=
  ⟨min v.least w.least, v.most.bind fun a => w.most.map (max a)⟩

/-- Between `least` and `most` texts, one after the other. -/
def Width.times (w : Width) (least : Nat) (most : Option Nat) : Width :=
  ⟨w.least * least,
    if w.most = some 0 ∨ most = some 0 then some 0
    else w.most.bind fun a => most.map (a * ·)⟩

def Leaf.width (ofGroup : Nat → Width) : Leaf → Width
  | .any _ | .set _ => .one
  | .anchor _ => .empty
  | .reference _ number => ofGroup number

/-- The width of a pattern, given those of the groups that it refers to. -/
def Node.width (ofGroup : Nat → Width) : Node → Width
  | .nothing | .ahead .. | .behind .. => .empty
  | .leaf x => x.width ofGroup
  | .sequence first second => (first.width ofGroup).add (second.width ofGroup)
  | .either first second => (first.width ofGroup).either (second.width ofGroup)
  | .repeated body least most _ => (body.width ofGroup).times least most
  | .group _ body | .atomic body => body.width ofGroup
  | .choice _ whenMatched otherwise => (whenMatched.width ofGroup).either (otherwise.width ofGroup)

example : (Width.one.times 2 (some 3)).add .one = ⟨3, some 4⟩ ∧
    Width.empty.times 1 none = .empty ∧ Width.one.times 1 none = ⟨1, none⟩ := by decide

end StyleUsage.Pattern
