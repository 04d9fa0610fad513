/-! # Patterns: flags

Letters in a pattern turn flags on and off, for the whole of it or for a group. -/

namespace StyleUsage.Pattern

inductive Flag where
  /-- Nothing may be repeated. -/
  | template
  /-- Letter case does not count. -/
  | ignoreCase
  /-- Characters are classed by the locale. -/
  | locale
  /-- The anchors of the text are anchors of its lines. -/
  | multiline
  /-- A dot stands for line feeds as well. -/
  | dotAll
  /-- Blanks and comments are left out. -/
  | verbose
  /-- Only the characters of ASCII are classed. -/
  | ascii
  /-- All characters are classed. -/
  | unicode
  deriving Repr, DecidableEq

/-- The flag of a letter. -/
def Flag.ofLetter? : Char → Option Flag
  | 't' => some template
  | 'i' => some ignoreCase
  | 'L' => some locale
  | 'm' => some multiline
  | 's' => some dotAll
  | 'x' => some verbose
  | 'a' => some ascii
  | 'u' => some unicode
  | _ => none

/-- The flags that say how characters are classed. At most one of them is on. -/
def Flag.isClassing : Flag → Bool
  | locale | ascii | unicode => true
  | _ => false

/-- The flags that hold for a whole pattern only. -/
def Flag.isGlobal : Flag → Bool
  | template => true
  | _ => false

/-- Some flags and one more. -/
def withFlag (flags : List Flag) (flag : Flag) : List Flag :=
  if flag ∈ flags then flags else flags ++ [flag]

/-- The flags inside a group that turns some on and some off. -/
def changeFlags (flags on off : List Flag) : List Flag :=
  let kept := if on.any (·.isClassing) then flags.filter (!·.isClassing) else flags
  (on.foldl withFlag kept).filter (· ∉ off)

end StyleUsage.Pattern
