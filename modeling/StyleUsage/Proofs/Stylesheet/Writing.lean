import StyleUsage.Proofs.Stylesheet.Brackets
import StyleUsage.Proofs.Stylesheet.Comments
import StyleUsage.Stylesheet.Parse

/-!
# Written stylesheets

Which rules can be written down, and which texts are written forms of them. Gaps and comments may
stand between any two tokens and blanks around every selector, property and value; further
semicolons may stand between the items, and the last declaration of a block may go without one.
-/

namespace StyleUsage

open StyleUsage.Text StyleUsage.Stylesheet

namespace Rule

/-- The declarations in the block of a rule. -/
def declarations : Rule → List Declaration
  | style _ declarations _ _ | atRule _ _ declarations _ _ => declarations

/-- The rules in the block of a rule. -/
def rules : Rule → List Rule
  | style _ _ rules _ | atRule _ _ _ rules _ => rules

/-- The rule with the same head and another block. -/
def withBlock (rule : Rule) (declarations : List Declaration) (rules : List Rule) (line : Nat) :
    Rule :=
  match rule with
  | style selectors .. => style selectors declarations rules line
  | atRule name params .. => atRule name params declarations rules line

mutual

/-- The rule with all its lines left out. -/
def unlined : Rule → Rule
  | style selectors declarations rules _ => style selectors declarations (unlinedAll rules) 0
  | atRule name params declarations rules _ => atRule name params declarations (unlinedAll rules) 0

/-- The rules with all their lines left out. -/
def unlinedAll : List Rule → List Rule
  | [] => []
  | rule :: rest => rule.unlined :: unlinedAll rest

end

/-- A rule is its head and its block, if lines do not count. -/
theorem unlined_withBlock {rule : Rule} {rules' : List Rule} (line : Nat)
    (h : unlinedAll rules' = unlinedAll rule.rules) :
    (rule.withBlock rule.declarations rules' line).unlined = rule.unlined := by
  cases rule with
  | style selectors declarations rules line' =>
      simpa [withBlock, unlined, Rule.declarations, Rule.rules] using h
  | atRule name params declarations rules line' =>
      simpa [withBlock, unlined, Rule.declarations, Rule.rules] using h

end Rule

/-! ## What can be written -/

/-- A text that is kept as it is written. -/
structure IsPrintableText (s : List Char) : Prop where
  trimmed : IsTrimmed s
  safe : SafeText s

/-- The name of an at-rule, in lowercase already. -/
structure IsAtRuleName (name : List Char) : Prop where
  nonempty : name ≠ []
  chars : ∀ c ∈ name, isNameChar c = true
  lowercase : lowercase name = name

structure Declaration.IsPrintable (d : Declaration) : Prop where
  property : IsPrintableText d.property.toList
  nonempty : d.property.toList ≠ []
  colonless : ':' ∉ d.property.toList
  value : IsPrintableText d.value.toList

/-- A list of selectors that does not look like an at-rule, or a name and parameters. -/
def Rule.HasPrintableHead : Rule → Prop
  | .style selectors _ _ _ => selectors ≠ [] ∧
      (∀ s ∈ selectors, IsSelector s.toList ∧ SafeText s.toList) ∧
      ∀ s, selectors.head? = some s → s.toList.head? ≠ some '@'
  | .atRule name params _ _ _ => IsAtRuleName name.toList ∧ IsPrintableText params.toList

/-- A rule that can be written, with all that is nested in it. -/
inductive Rule.IsPrintable : Rule → Prop where
  | intro {rule : Rule} (hhead : rule.HasPrintableHead)
      (hdeclarations : ∀ d ∈ rule.declarations, d.IsPrintable)
      (hrules : ∀ inner ∈ rule.rules, IsPrintable inner) : IsPrintable rule

/-! ## How it is written -/

/-- The text of a declaration: its property, a colon and its value, with blanks around each. -/
def Declaration.IsWrittenAs (d : Declaration) (text : List Char) : Prop :=
  ∃ before after, text = before ++ ':' :: after ∧
    IsPadded d.property.toList before ∧ IsPadded d.value.toList after

/-- The text before the block of a rule: its selectors, or its name and its parameters, with blanks
around each. Nothing may lengthen the name. -/
def Rule.IsHeadedBy (rule : Rule) (text : List Char) : Prop :=
  match rule with
  | .style selectors _ _ _ => Enumerates (selectors.map String.toList) text
  | .atRule name params _ _ _ => ∃ rest, text = '@' :: (name.toList ++ rest) ∧
      IsPadded params.toList rest ∧ ∀ c, rest.head? = some c → isNameChar c = false

namespace Stylesheet

/-- The tokens of declarations and rules, outside of blocks or in one. Declarations and rules may
alternate. Outside of blocks, an at-rule with nothing in its block may end with a semicolon. -/
inductive Outlines :
    (isOutermost : Bool) → List Declaration → List Rule → List Token → Prop where
  | nil {isOutermost : Bool} : Outlines isOutermost [] [] []
  | semicolon {isOutermost : Bool} {declarations : List Declaration} {rules : List Rule}
      {tokens : List Token} (hrest : Outlines isOutermost declarations rules tokens) :
      Outlines isOutermost declarations rules (.semicolon :: tokens)
  | declaration {d : Declaration} {text : List Char} {declarations : List Declaration}
      {rules : List Rule} {tokens : List Token} (htext : d.IsWrittenAs text)
      (hrest : Outlines false declarations rules tokens) :
      Outlines false (d :: declarations) rules (.head text :: .semicolon :: tokens)
  | lastDeclaration {d : Declaration} {text : List Char} (htext : d.IsWrittenAs text) :
      Outlines false [d] [] [.head text]
  | statement {name params : String} {line : Nat} {text : List Char}
      {declarations : List Declaration} {rules : List Rule} {tokens : List Token}
      (htext : (Rule.atRule name params [] [] line).IsHeadedBy text)
      (hrest : Outlines true declarations rules tokens) :
      Outlines true declarations (.atRule name params [] [] line :: rules)
        (.head text :: .semicolon :: tokens)
  | block {isOutermost : Bool} {rule : Rule} {text : List Char}
      {declarations : List Declaration} {rules : List Rule} {inner tokens : List Token}
      (htext : rule.IsHeadedBy text) (hinner : Outlines false rule.declarations rule.rules inner)
      (hrest : Outlines isOutermost declarations rules tokens) :
      Outlines isOutermost declarations (rule :: rules)
        (.head text :: .leftBrace :: (inner ++ .rightBrace :: tokens))

/-- The text of tokens, with gaps between them. After a head there is always a brace or a
semicolon. -/
inductive Spells : List Char → List Token → Prop where
  | nil : Spells [] []
  | gap {c : Char} {s : List Char} {tokens : List Token} (hc : isGap c = true)
      (hrest : Spells s tokens) : Spells (c :: s) tokens
  | delimiter {c : Char} {t : Token} {s : List Char} {tokens : List Token}
      (hc : delimiter? c = some t) (hrest : Spells s tokens) : Spells (c :: s) (t :: tokens)
  | head {c : Char} {t : Token} {text s : List Char} {tokens : List Token}
      (hstart : StartsInk text) (htext : SafeText text) (hc : delimiter? c = some t)
      (hrest : Spells (c :: s) tokens) : Spells (text ++ c :: s) (.head text :: tokens)

/-- The text is a written form of the rules, with comments in the place of any gaps and blanks. -/
def IsWritten (rules : List Rule) (source : List Char) : Prop :=
  ∃ plain tokens, Annotates source plain ∧ Spells plain tokens ∧ Outlines true [] rules tokens

end Stylesheet

end StyleUsage
