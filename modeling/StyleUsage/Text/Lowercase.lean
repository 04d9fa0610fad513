import StyleUsage.Text.CaseTable
import StyleUsage.Text.Ranges

/-! # Lowercase texts

The full lowercase mapping of Unicode 14. It is a mapping of texts and not of characters: a
dotted capital I becomes two characters, and a capital sigma at the end of a word takes the form
that ends words. -/

namespace StyleUsage.Text

/-- The lowercase form of a code point within a run, if the run holds it. -/
def CaseRun.lower? (run : CaseRun) (n : Nat) : Option Nat :=
  if run.first ≤ n ∧ n ≤ run.last ∧ (n - run.first) % run.step = 0 then
    some (run.lower + (n - run.first))
  else none

/-- The lowercase form of one character, its neighbours left out of account. -/
def lowercaseChar (c : Char) : List Char :=
  if c = 'İ' then ['i', '\u0307']
  else
    match caseRuns.findSome? (·.lower? c.toNat) with
    | some n => [Char.ofNat n]
    | none => [c]

def isCased (c : Char) : Bool :=
  inRanges c.toNat casedRanges

def isCaseIgnorable (c : Char) : Bool :=
  inRanges c.toNat caseIgnorableRanges

/-- Whether the first character that is not passed over has a letter case. -/
def startsCased (s : List Char) : Bool :=
  (s.dropWhile isCaseIgnorable).head?.any isCased

/-- The lowercase form of a text that follows `before`, the last character of which comes first.
A sigma ends a word when it follows a letter with a case and no such letter follows it. -/
def lowercaseAfter (before : List Char) : List Char → List Char
  | [] => []
  | c :: rest =>
      (if c = 'Σ' then [if startsCased before && !startsCased rest then 'ς' else 'σ']
        else lowercaseChar c) ++ lowercaseAfter (c :: before) rest

/-- The lowercase form of a text. -/
def lowercase (s : List Char) : List Char :=
  lowercaseAfter [] s

/-- The lowercase form of a text. -/
def lowercaseText (s : String) : String :=
  String.ofList (lowercase s.toList)

example : lowercaseText "ΑΣ ΣΑ Δ'ΣΣ" = "ας σα δ'σς" ∧ lowercaseText "İK" = "i\u0307k" := by
  decide +kernel

end StyleUsage.Text
