import StyleUsage.Text.Blank

/-! # Selector lists

The selectors of a list are separated by commas outside of quotations and brackets. A backslash
takes its meaning from the character after it. -/

namespace StyleUsage.Stylesheet

/-- Where a scan of a selector list stands: how many brackets are open, the quote of the open
quotation, and whether the next character is escaped. -/
structure SelectorScan where
  depth : Nat
  quote : Option Char
  escaped : Bool
  deriving Repr, DecidableEq

namespace SelectorScan

def start : SelectorScan :=
  ⟨0, none, false⟩

/-- The state after one character. A closing bracket without an opening one is ignored. -/
def next (state : SelectorScan) (c : Char) : SelectorScan :=
  if state.escaped then { state with escaped := false }
  else if c = '\\' then { state with escaped := true }
  else
    match state.quote with
    | some quote => if c = quote then { state with quote := none } else state
    | none =>
        if c = '"' ∨ c = '\'' then { state with quote := some c }
        else if c = '(' ∨ c = '[' then { state with depth := state.depth + 1 }
        else if c = ')' ∨ c = ']' then { state with depth := state.depth - 1 }
        else state

/-- Whether a character separates two selectors. -/
def separates (state : SelectorScan) (c : Char) : Bool :=
  c = ',' && state.depth = 0 && state.quote.isNone && !state.escaped

end SelectorScan

/-- The texts between the separating commas, which are at least one. -/
def splitAtCommas (state : SelectorScan) : List Char → List (List Char)
  | [] => [[]]
  | c :: rest =>
      if state.separates c then [] :: splitAtCommas state rest
      else
        match splitAtCommas (state.next c) rest with
        | first :: more => (c :: first) :: more
        | [] => [[c]]

/-- The selectors of a list: trimmed, without the empty ones. -/
def splitSelectors (s : List Char) : List (List Char) :=
  ((splitAtCommas .start s).map Text.trim).filter (· ≠ [])

/-- The selectors of a list. -/
def selectorsOf (s : String) : List String :=
  (splitSelectors s.toList).map String.ofList

end StyleUsage.Stylesheet
