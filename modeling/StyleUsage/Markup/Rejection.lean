import StyleUsage.Number.Whole
import StyleUsage.Text.Quoted

/-! # Rejections

Almost any text is markup of some kind. What cannot be read at all is a marked section without a
proper name, and a decimal number with too many digits. -/

namespace StyleUsage.Markup

open StyleUsage.Text

/-- Why markup is rejected. -/
inductive Rejection where
  /-- No name stands where a section starts. -/
  | namelessSection (excerpt : List Char)
  | unknownSection (name : List Char)
  /-- A reference has a decimal number that is too long. -/
  | longNumber (digits : Nat)
  deriving Repr, DecidableEq

namespace Rejection

/-- What is said about a section, with the words around it. -/
def sectionMessage (reason : String) : String :=
  "The markup you provided was rejected by the parser. Trying a different parser or a different " ++
    "encoding may help.\n\nOriginal exception(s) from parser:\n AssertionError: " ++ reason

def message : Rejection → String
  | namelessSection excerpt =>
      sectionMessage ("expected name token at " ++ String.ofList (quoted excerpt))
  | unknownSection name =>
      sectionMessage ("unknown status keyword " ++ String.ofList (quoted name) ++
        " in marked section")
  | longNumber digits => Number.tooLongMessage digits

end Rejection

end StyleUsage.Markup
