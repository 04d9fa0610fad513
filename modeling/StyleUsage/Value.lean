import StyleUsage.Number.Shortest
import StyleUsage.Pattern.Match
import StyleUsage.Text.Quoted

/-! # Option values

The values that options are given as: plain data, and the patterns that exempt class names. -/

namespace StyleUsage

inductive Value where
  | null
  | bool (b : Bool)
  | whole (n : Int)
  | float (x : Float)
  | text (s : String)
  | list (items : List Value)
  | table (entries : List (String × Value))
  | pattern (p : Pattern)
  deriving Inhabited

namespace Value

/-- What kind of value it is, in the words of the messages. -/
def kind : Value → String
  | null => "NoneType"
  | bool _ => "bool"
  | whole _ => "int"
  | float _ => "float"
  | text _ => "str"
  | list _ => "list"
  | table _ => "dict"
  | pattern _ => "re.Pattern"

/-- A value counts as given unless it is null, false, zero or empty. -/
def isGiven : Value → Bool
  | null => false
  | bool b => b
  | whole n => n != 0
  | float x => x != 0.0
  | text s => s != ""
  | list items => !items.isEmpty
  | table entries => !entries.isEmpty
  | pattern _ => true

/-- A value that may name another one. -/
def isName : Value → Bool
  | list _ | table _ => false
  | _ => true

/-- The value is exactly false: not zero, not null. -/
def isFalse : Value → Bool
  | bool false => true
  | _ => false

/-- The flags of a pattern that are shown with it, in this order, and their names. -/
def shownFlags : List (Pattern.Flag × String) :=
  [(.template, "re.TEMPLATE"), (.ignoreCase, "re.IGNORECASE"), (.multiline, "re.MULTILINE"),
   (.dotAll, "re.DOTALL"), (.verbose, "re.VERBOSE"), (.ascii, "re.ASCII")]

/-- The text that shows a pattern, of which at most 200 characters are shown. -/
def patternText (p : Pattern) : String :=
  let flags := (shownFlags.filter fun (flag, _) => flag ∈ p.flags).map Prod.snd
  "re.compile(" ++ String.ofList ((Text.quoted p.source.toList).take 200) ++
    (if flags.isEmpty then "" else ", " ++ "|".intercalate flags) ++ ")"

mutual

/-- The text that shows a value in a message. -/
def shown : Value → String
  | null => "None"
  | bool b => if b then "True" else "False"
  | whole n => toString n
  | float x => Number.floatText x
  | text s => Text.quotedText s
  | list items => "[" ++ ", ".intercalate (shownItems items) ++ "]"
  | table entries => "\x7b" ++ ", ".intercalate (shownEntries entries) ++ "\x7d"
  | pattern p => patternText p

def shownItems : List Value → List String
  | [] => []
  | v :: rest => v.shown :: shownItems rest

def shownEntries : List (String × Value) → List String
  | [] => []
  | (key, v) :: rest => (Text.quotedText key ++ ": " ++ v.shown) :: shownEntries rest

end

/-- The items of a value that has some: the members of a list, the characters of a text, the keys
of a table. -/
def items? : Value → Option (List Value)
  | list items => some items
  | text s => some (s.toList.map fun c => text (String.singleton c))
  | table entries => some (entries.map fun e => text e.1)
  | _ => none

end Value

end StyleUsage
