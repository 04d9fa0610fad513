import StyleUsage.Usage.Accumulator

/-! # Failures of a session

Why the collection of the used classes fails, or a call or an analysis ends without an answer. -/

namespace StyleUsage

/-- A markup source that cannot be read; `code` is the number of the system's error, if it comes
from the system. -/
structure SourceError where
  message : String
  path : String
  code : Option Nat
  deriving Repr, DecidableEq

namespace Session

inductive Failure where
  | unreadable (error : SourceError)
  /-- Sources are to be read by no reader at all. -/
  | noReaders
  /-- A path holds a NUL, which no path may. -/
  | nulInPath
  /-- Something is nested deeper than there is room for. -/
  | tooDeep
  | refused (refusal : Usage.Refusal)
  /-- A listener or a loader raises something of its own. -/
  | raised (kind message : String)
  /-- A result is given to a document that does not wait for one. -/
  | misused
  deriving Repr, DecidableEq

def Failure.message : Failure → String
  | unreadable error => error.message
  | noReaders => "max_workers must be greater than 0"
  | nulInPath => "embedded null byte"
  | tooDeep => "maximum recursion depth exceeded"
  | refused refusal => refusal.message
  | raised _ message => message
  | misused => "Future in unexpected state"

end Session

end StyleUsage
