import StyleUsage.Stylesheet.Basic
import StyleUsage.Stylesheet.Comment
import StyleUsage.Stylesheet.Error
import StyleUsage.Stylesheet.Selector
import StyleUsage.Text.Lowercase
import StyleUsage.Text.WordChar

/-! # Reading stylesheets

A text is a stylesheet if its comments end, its tokens nest, and each item says what it has to:
a declaration has a property and a colon, a block has a selector or the name of an at-rule, and a
statement outside of blocks is an at-rule. How deep blocks are nested makes no difference to this,
but there is room for reading so many of them within each other only. -/

namespace StyleUsage.Stylesheet

open StyleUsage.Text

/-- A character of an at-rule's name. -/
def isNameChar (c : Char) : Bool :=
  isWordChar c || c = '-'

/-- The name of an at-rule in lowercase, and its parameters. -/
def atRule? (s : List Char) : Option (List Char × List Char) :=
  match s with
  | '@' :: rest =>
      let name := rest.takeWhile isNameChar
      if name = [] then none
      else some (lowercase name, trim (rest.dropWhile isNameChar))
  | _ => none

/-- The declaration that a text makes: what stands before its first colon and after it. -/
def declaration (text : List Char) (line : Nat) : Except ParseError Declaration :=
  let text := trim text
  let property := trim (text.takeWhile (· ≠ ':'))
  if ':' ∉ text ∨ property = [] then .error (.missingColon text line)
  else
    let value := trim ((text.dropWhile (· ≠ ':')).drop 1)
    .ok ⟨String.ofList property, String.ofList value⟩

/-- The rule that a head makes with the declarations and rules of its block. -/
def blockRule (head : List Char) (line : Nat) (declarations : List Declaration)
    (rules : List Rule) : Except ParseError Rule :=
  let head := trim head
  if head.head? = some '@' then
    match atRule? head with
    | some (name, params) =>
        .ok (.atRule (String.ofList name) (String.ofList params) declarations rules line)
    | none => .error (.namelessAtRule line)
  else
    match splitSelectors head with
    | [] => .error (.noSelector line)
    | selectors => .ok (.style (selectors.map String.ofList) declarations rules line)

/-- The rule that a text outside of blocks makes. -/
def statementRule (text : List Char) (line : Nat) : Except ParseError Rule :=
  match atRule? (trim text) with
  | some (name, params) => .ok (.atRule (String.ofList name) (String.ofList params) [] [] line)
  | none => .error (.missingBlock (trim text) line)

mutual

/-- The declaration or the rule that an item of a block makes. -/
def content : Item → Except ParseError (Declaration ⊕ Rule)
  | .text text position => do return .inl (← declaration text position.line)
  | .block head position items => do
      let (declarations, rules) ← contents items
      return .inr (← blockRule head position.line declarations rules)

/-- The declarations and the rules that the items of a block make. -/
def contents : List Item → Except ParseError (List Declaration × List Rule)
  | [] => .ok ([], [])
  | item :: rest => do
      let found ← content item
      let (declarations, rules) ← contents rest
      match found with
      | .inl declaration => return (declaration :: declarations, rules)
      | .inr rule => return (declarations, rule :: rules)

end

/-- The rule that an item outside of blocks makes. -/
def topRule : Item → Except ParseError Rule
  | .text text position => statementRule text position.line
  | .block head position items => do
      let (declarations, rules) ← contents items
      blockRule head position.line declarations rules

/-- The rules of a text without comments. -/
def rulesOf (s : List Char) : Except ParseError (List Rule) := do
  let items ← (nest s).mapError .notNested
  items.mapM topRule

/-- The stylesheet that a text describes. -/
def parse (source : String) : Except ParseError Stylesheet := do
  let plain ← (stripComments 1 source.toList).mapError .unclosedComment
  return ⟨← rulesOf plain⟩

/-- How many blocks there is room for within each other when a text is read. -/
def deepestNesting : Nat := 490

/-- The tokens of a text nest, but deeper than there is room for. Its items are not looked at
then. -/
def isTooDeep (source : String) : Bool :=
  match stripComments 1 source.toList with
  | .error _ => false
  | .ok plain => (nest plain).toOption.any fun items => deepestNesting < depthOf items

end StyleUsage.Stylesheet
