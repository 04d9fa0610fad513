/-! # Stylesheets

A stylesheet is a list of rules. Only its block structure is kept: selector lists, the names and
parameters of at-rules, and declarations as they are written. -/

namespace StyleUsage

/-- A pair `property: value` inside a block. -/
structure Declaration where
  property : String
  value : String
  deriving Repr, DecidableEq

/-- A rule and the rules nested in it, with the line on which it starts. -/
inductive Rule where
  | style (selectors : List String) (declarations : List Declaration) (rules : List Rule)
      (line : Nat)
  | atRule (name params : String) (declarations : List Declaration) (rules : List Rule)
      (line : Nat)
  deriving Repr

structure Stylesheet where
  rules : List Rule
  deriving Repr

namespace Rule

def line : Rule → Nat
  | style _ _ _ line | atRule _ _ _ _ line => line

/-- The selectors of a style rule; an at-rule has none. -/
def selectors : Rule → List String
  | style selectors .. => selectors
  | atRule .. => []

end Rule

end StyleUsage
