import StyleUsage.Number.Whole
import StyleUsage.Pattern.Syntax
import StyleUsage.Text.Quoted

/-! # Patterns: errors

Why a text is no pattern, and where. -/

namespace StyleUsage.Pattern

/-- What a name in a pattern stands for. -/
inductive NameKind where
  | group
  | character
  deriving Repr, DecidableEq

/-- The mark that should follow a list of flags. -/
inductive FlagsEnd where
  /-- The flags are turned on: a minus, a colon or a closing parenthesis. -/
  | turnedOn
  /-- The flags are turned off: a colon. -/
  | turnedOff
  deriving Repr, DecidableEq

inductive Fault where
  | loneBackslash
  | badEscape (escape : String)
  | incompleteEscape (escape : String)
  | octalTooLarge (escape : String)
  /-- A code point is larger than a machine number. -/
  | hugeCode
  | missingBrace
  | missingName (kind : NameKind)
  | unterminatedName (mark : Char)
  | unknownCharacter (name : String)
  | badRange (first last : String)
  | unterminatedSet
  | nothingToRepeat
  | multipleRepeat
  | boundsReversed
  /-- A repetition has a bound that is too large to be counted to. -/
  | hugeBound
  /-- A repetition has a bound with too many digits. -/
  | longBound (digits : Nat)
  /-- Too many groups are open at once. -/
  | tooDeep
  | unterminatedGroup
  | unterminatedComment
  | unbalancedParenthesis
  | unexpectedEnd
  | unknownExtension (extension : String)
  | badGroupName (name : String)
  | repeatedGroupName (name : String) (number earlier : Nat)
  | unknownGroupName (name : String)
  | groupZero
  | invalidReference (number : Nat)
  /-- A group is referred to before it is closed. -/
  | openReference
  /-- A look-behind refers to a group inside of it. -/
  | innerReference
  | tooManyBranches
  | misplacedFlags
  | unknownFlag
  | missingFlag
  | unendedFlags (mark : FlagsEnd)
  | localeFlag
  | mixedClassing
  | classingOff
  | globalOn
  | globalOff
  | onAndOff
  /-- Flags at the start of the pattern say two things of how characters are classed. -/
  | contraryClassing
  /-- A look-behind may have matches of several widths. -/
  | variableBehind
  | farBehind
  /-- A repetition where nothing may be repeated. -/
  | templateRepeat (greed : Greed)
  deriving Repr, DecidableEq

/-- A fault in a pattern, with the count of characters before it. -/
structure Error where
  fault : Fault
  position : Nat
  source : String
  deriving Repr, DecidableEq

def NameKind.name : NameKind → String
  | .group => "group name"
  | .character => "character name"

def FlagsEnd.name : FlagsEnd → String
  | .turnedOn => "-, : or )"
  | .turnedOff => ":"

/-- The name of a kind of repetition. -/
def Greed.name : Greed → String
  | .greedy => "MAX_REPEAT"
  | .reluctant => "MIN_REPEAT"
  | .possessive => "POSSESSIVE_REPEAT"

def Fault.message : Fault → String
  | .loneBackslash => "bad escape (end of pattern)"
  | .badEscape escape => "bad escape " ++ escape
  | .incompleteEscape escape => "incomplete escape " ++ escape
  | .octalTooLarge escape => "octal escape value " ++ escape ++ " outside of range 0-0o377"
  | .hugeCode => "Python int too large to convert to C int"
  | .missingBrace => "missing \x7b"
  | .missingName kind => "missing " ++ kind.name
  | .unterminatedName mark => "missing " ++ String.singleton mark ++ ", unterminated name"
  | .unknownCharacter name => "undefined character name " ++ Text.quotedText name
  | .badRange first last => "bad character range " ++ first ++ "-" ++ last
  | .unterminatedSet => "unterminated character set"
  | .nothingToRepeat => "nothing to repeat"
  | .multipleRepeat => "multiple repeat"
  | .boundsReversed => "min repeat greater than max repeat"
  | .hugeBound => "the repetition number is too large"
  | .longBound digits => Number.tooLongMessage digits
  | .tooDeep => "maximum recursion depth exceeded while calling a Python object"
  | .unterminatedGroup => "missing ), unterminated subpattern"
  | .unterminatedComment => "missing ), unterminated comment"
  | .unbalancedParenthesis => "unbalanced parenthesis"
  | .unexpectedEnd => "unexpected end of pattern"
  | .unknownExtension extension => "unknown extension " ++ extension
  | .badGroupName name => "bad character in group name " ++ Text.quotedText name
  | .repeatedGroupName name number earlier =>
      "redefinition of group name " ++ Text.quotedText name ++ " as group " ++ toString number ++
        "; was group " ++ toString earlier
  | .unknownGroupName name => "unknown group name " ++ Text.quotedText name
  | .groupZero => "bad group number"
  | .invalidReference number => "invalid group reference " ++ toString number
  | .openReference => "cannot refer to an open group"
  | .innerReference => "cannot refer to group defined in the same lookbehind subpattern"
  | .tooManyBranches => "conditional backref with more than two branches"
  | .misplacedFlags => "global flags not at the start of the expression"
  | .unknownFlag => "unknown flag"
  | .missingFlag => "missing flag"
  | .unendedFlags mark => "missing " ++ mark.name
  | .localeFlag => "bad inline flags: cannot use 'L' flag with a str pattern"
  | .mixedClassing => "bad inline flags: flags 'a', 'u' and 'L' are incompatible"
  | .classingOff => "bad inline flags: cannot turn off flags 'a', 'u' and 'L'"
  | .globalOn => "bad inline flags: cannot turn on global flag"
  | .globalOff => "bad inline flags: cannot turn off global flag"
  | .onAndOff => "bad inline flags: flag turned on and off"
  | .contraryClassing => "ASCII and UNICODE flags are incompatible"
  | .variableBehind => "look-behind requires fixed-width pattern"
  | .farBehind => "looks too much behind"
  | .templateRepeat greed => "internal: unsupported template operator " ++ greed.name

/-- Which kind of failure a fault is. -/
inductive FaultKind where
  /-- The text is no pattern. -/
  | malformed
  /-- A number is larger than those that are counted with. -/
  | overflow
  /-- A value cannot be used. -/
  | badValue
  /-- Something is nested deeper than can be followed. -/
  | tooDeep
  deriving Repr, DecidableEq

def Fault.kind : Fault → FaultKind
  | .hugeBound | .hugeCode => .overflow
  | .longBound _ | .contraryClassing => .badValue
  | .tooDeep => .tooDeep
  | _ => .malformed

/-- Whether the place of a fault is named. Faults of a pattern as a whole have none. -/
def Fault.hasPlace (fault : Fault) : Bool :=
  match fault with
  | .variableBehind | .farBehind | .templateRepeat _ => false
  | _ => fault.kind = .malformed

/-- The text of an error, with the place of the fault. A pattern of several lines also has its line
and column named. -/
def Error.message (e : Error) : String :=
  let located := e.fault.message ++ " at position " ++ toString e.position
  let chars := e.source.toList
  if !e.fault.hasPlace then e.fault.message
  else if chars.contains '\n' then
    let before := chars.take e.position
    let line := before.count '\n' + 1
    let column := (before.reverse.takeWhile (· ≠ '\n')).length + 1
    located ++ " (line " ++ toString line ++ ", column " ++ toString column ++ ")"
  else located

end StyleUsage.Pattern
