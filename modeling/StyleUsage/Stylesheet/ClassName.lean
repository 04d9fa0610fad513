import StyleUsage.Stylesheet.Basic

/-! # Class names in selectors

A selector names a class by a dot and a name, which starts with a letter and goes on with
letters, digits, underscores and hyphens, all of ASCII. A class counts as declared by a stylesheet
if a selector of one of its outermost style rules names it. -/

namespace StyleUsage.Stylesheet

/-- A character that a class name may start with. -/
def startsClassName (c : Char) : Bool :=
  c.isAlpha

/-- A character that a class name may go on with. -/
def continuesClassName (c : Char) : Bool :=
  c.isAlphanum || c = '_' || c = '-'

/-- The name that a text starts with, as far as it goes. -/
def leadingClassName? : List Char → Option (List Char)
  | c :: rest => if startsClassName c then some (c :: rest.takeWhile continuesClassName) else none
  | [] => none

/-- The names after the dots of a selector, in order. No name holds a dot, so every dot is looked
at on its own. -/
def classNames : List Char → List (List Char)
  | [] => []
  | c :: rest =>
      match (if c = '.' then leadingClassName? rest else none) with
      | some name => name :: classNames rest
      | none => classNames rest

/-- The classes that the selectors of a rule name, in order and with repetitions. -/
def ruleClasses (rule : Rule) : List String :=
  rule.selectors.flatMap fun selector => (classNames selector.toList).map String.ofList

end StyleUsage.Stylesheet

namespace StyleUsage

/-- The classes that a stylesheet declares, each once, in the order in which they are first
named. -/
def Stylesheet.declared (sheet : Stylesheet) : List String :=
  (sheet.rules.flatMap Stylesheet.ruleClasses).eraseDups

end StyleUsage
