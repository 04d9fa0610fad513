import StyleUsage.Value

/-! # Events

What happens in a session is announced by events: how the collection of the used classes goes,
and how each stylesheet fares. -/

namespace StyleUsage

inductive Event where
  | collectionStarted (patterns : List Value)
  /-- A source is read; `classCount` classes were first seen in it. -/
  | sourceParsed (path : String) (classCount : Int)
  | collectionCompleted (sourceCount usedCount : Int)
  | collectionFailed (error : String)
  | documentQueued (path : String)
  | documentAnalyzing (path : String)
  | documentResolved (path : String) (unused : List String)
  | documentFailed (path error : String)

inductive EventKind where
  | collectionStarted
  | sourceParsed
  | collectionCompleted
  | collectionFailed
  | documentQueued
  | documentAnalyzing
  | documentResolved
  | documentFailed
  deriving Repr, DecidableEq

namespace Event

def kind : Event → EventKind
  | collectionStarted .. => .collectionStarted
  | sourceParsed .. => .sourceParsed
  | collectionCompleted .. => .collectionCompleted
  | collectionFailed .. => .collectionFailed
  | documentQueued .. => .documentQueued
  | documentAnalyzing .. => .documentAnalyzing
  | documentResolved .. => .documentResolved
  | documentFailed .. => .documentFailed

/-- The path of the source or stylesheet that an event is about, if it is about one. -/
def path? : Event → Option String
  | sourceParsed path _ | documentQueued path | documentAnalyzing path | documentResolved path _
  | documentFailed path _ => some path
  | _ => none

/-- One line about an event; some events pass without one. -/
def description? : Event → Option String
  | sourceParsed path classCount =>
      some ("Parsed " ++ path ++ " (+" ++ toString classCount ++ " classes)")
  | collectionCompleted sourceCount usedCount =>
      some ("Collected " ++ toString usedCount ++ " used classes from " ++ toString sourceCount ++
        " file(s)")
  | collectionFailed error => some ("Collection failed: " ++ error)
  | documentQueued path => some ("Waiting for markup: " ++ path)
  | documentResolved path unused =>
      some ("Checked " ++ path ++ ": " ++ toString unused.length ++ " unused")
  | documentFailed path error => some ("Parse failed " ++ path ++ ": " ++ error)
  | collectionStarted _ | documentAnalyzing _ => none

end Event

end StyleUsage
