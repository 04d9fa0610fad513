import StyleUsage.Text.Lowercase
import StyleUsage.Usage.Expression

/-! # Collectors

Markup uses classes by the attribute `class`. With directives, it also uses those that a class
expression gives, and those that an attribute `[class.NAME]` binds. Attribute names reach the
collectors in lowercase, so the bindings are also looked for in the markup as it is written. -/

namespace StyleUsage.Usage

open StyleUsage.Text

/-- An attribute and its value. -/
abbrev Attribute := String × String

inductive Collector where
  | classAttribute
  | directives
  deriving Repr, DecidableEq

/-- The name that answers give a collector. -/
def Collector.name : Collector → String
  | classAttribute => "class"
  | directives => "angular"

/-- The collectors in use: that of the attribute `class` comes first. -/
def collectors (directives : Bool) : List Collector :=
  if directives then [.classAttribute, .directives] else [.classAttribute]

/-- The attributes whose values are class expressions. -/
def expressionAttributes : List String :=
  ["ng-class", "data-ng-class", "x-ng-class", "ng:class", "ng-class-odd", "ng-class-even",
    "[ngclass]", "[class]"]

/-- Whether two characters are the same letter. The long s counts as an s. -/
def sameLetter (letter c : Char) : Bool :=
  c.toLower = letter || (letter = 's' && c = 'ſ')

/-- What follows the start `[class.` of a binding, in any case. -/
def afterBindingStart? (s : List Char) : Option (List Char) :=
  match s with
  | '[' :: c₁ :: c₂ :: c₃ :: c₄ :: c₅ :: '.' :: rest =>
      if sameLetter 'c' c₁ && sameLetter 'l' c₂ && sameLetter 'a' c₃ && sameLetter 's' c₄ &&
          sameLetter 's' c₅ then some rest
      else none
  | _ => none

/-- The name that an attribute `[class.NAME]` binds. One line feed may follow the bracket. -/
def boundName? (name : List Char) : Option (List Char) :=
  match afterBindingStart? name with
  | none => none
  | some rest =>
      let inName (c : Char) : Bool := c != ']' && !isBlank c
      let bound := rest.takeWhile inName
      let after := rest.dropWhile inName
      if bound ≠ [] ∧ (after = [']'] ∨ after = [']', '\n']) then some bound else none

/-- The class names of one attribute's directive. -/
def directiveClasses : Attribute → List String
  | (name, value) =>
      if lowercaseText name ∈ expressionAttributes then expressionClasses value
      else ((boundName? name.toList).map String.ofList).toList

/-- The class names that a collector finds in the attributes of a tag. -/
def Collector.fromAttributes (collector : Collector) (attributes : List Attribute) : List String :=
  match collector with
  | classAttribute => wordsOf ((attributes.lookup "class").getD "")
  | directives => attributes.flatMap directiveClasses

/-- A character that may stand in the name of a binding in markup. -/
def inWrittenName (c : Char) : Bool :=
  !isBlank c && !(['\'', '"', '=', '<', '>', '/', ']'].contains c)

/-- The name of a binding that a text starts with, if an equals sign follows the binding. -/
def writtenBinding? (s : List Char) : Option (List Char) :=
  match afterBindingStart? s with
  | none => none
  | some rest =>
      let name := rest.takeWhile inWrittenName
      match name, rest.dropWhile inWrittenName with
      | _ :: _, ']' :: after =>
          if (after.dropWhile isBlank).head? = some '=' then some name else none
      | _, _ => none

/-- A character after which a binding may start. -/
def precedesBinding (c : Char) : Bool :=
  isBlank c || c = '\'' || c = '"' || c = '/'

/-- The names of the bindings in a markup text, as they are written. A name holds no character
that a binding may start after, so every place is looked at on its own. -/
def writtenBindings : List Char → List (List Char)
  | [] => []
  | c :: rest =>
      match (if precedesBinding c then writtenBinding? rest else none) with
      | some name => name :: writtenBindings rest
      | none => writtenBindings rest

/-- The class names that a collector finds in a markup text as such. -/
def Collector.fromMarkup (collector : Collector) (markup : String) : List String :=
  match collector with
  | classAttribute => []
  | directives => (writtenBindings markup.toList).map String.ofList

end StyleUsage.Usage
