import StyleUsage.Text.Sorted
import StyleUsage.Value

/-! # Exemptions

Some class names are never reported: those that an exemption gives literally, and those in which
a pattern is found. -/

namespace StyleUsage

inductive Exemption where
  | name (name : String)
  | pattern (p : Pattern)
  deriving Repr, DecidableEq

namespace Exemption

/-- The exemption that an option value gives; only texts and patterns give one. -/
def ofValue? : Value → Option Exemption
  | .text s => some (.name s)
  | .pattern p => some (.pattern p)
  | _ => none

/-- The exemptions that some option values give, or the first value that gives none. -/
def ofValues : List Value → Except Value (List Exemption)
  | [] => .ok []
  | v :: rest =>
      match ofValue? v with
      | some e => do return e :: (← ofValues rest)
      | none => .error v

/-- The first of some rules that no class name can be matched against. -/
structure UnsupportedRule where
  rule : Value

def UnsupportedRule.message (e : UnsupportedRule) : String :=
  "Unsupported ignore rule " ++ e.rule.shown

/-- What class names are matched against, given rules that nobody need have looked at before. -/
def matcher (rules : List Value) : Except UnsupportedRule (List Exemption) :=
  (ofValues rules).mapError UnsupportedRule.mk

/-- The exemption as an option value. -/
def toValue : Exemption → Value
  | name s => .text s
  | pattern p => .pattern p

def covers (e : Exemption) (className : String) : Bool :=
  match e with
  | name s => s = className
  | pattern p => p.foundIn className

end Exemption

/-- Whether some exemption covers a class name. -/
def isExempt (exemptions : List Exemption) (className : String) : Bool :=
  exemptions.any (·.covers className)

/-- The names that are exempt literally, each once, in ascending order. -/
def exemptNames (exemptions : List Exemption) : List String :=
  Text.sorted (exemptions.filterMap fun
    | .name s => some s
    | .pattern _ => none).eraseDups

def exemptPatterns (exemptions : List Exemption) : List Pattern :=
  exemptions.filterMap fun
    | .name _ => none
    | .pattern p => some p

/-- A summary of some exemptions. -/
def describeExemptions (exemptions : List Exemption) : String :=
  "IgnoreMatcher(literals=" ++ (Value.list ((exemptNames exemptions).map .text)).shown ++
    ", patterns=" ++ toString (exemptPatterns exemptions).length ++ ")"

end StyleUsage
