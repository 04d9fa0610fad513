import StyleUsage.Markup.Scan
import StyleUsage.Usage.Collector

/-! # Accumulators

An accumulator gathers the classes that markup uses, until it is frozen. -/

namespace StyleUsage.Usage

/-- The classes used so far, each once, in no particular order. -/
structure Accumulator where
  collectors : List Collector
  used : List String
  isFrozen : Bool
  deriving Repr, DecidableEq

/-- Why an accumulator takes no more markup. -/
inductive Refusal where
  | frozen
  | rejected (rejection : Markup.Rejection)
  deriving Repr, DecidableEq

def Refusal.message : Refusal → String
  | frozen => "used classes are frozen; collection is complete"
  | rejected rejection => rejection.message

/-- Some classes together with further names, of which the empty ones do not count. -/
def insertNames (used names : List String) : List String :=
  (names.filter (· ≠ "")).foldl (fun found name => found.insert name) used

namespace Accumulator

/-- The accumulator of the given collectors that has seen nothing. -/
def start (collectors : List Collector) : Accumulator :=
  ⟨collectors, [], false⟩

/-- The names that the collectors find in a list of attributes. -/
def namesOfAttributes (a : Accumulator) (attributes : List Attribute) : List String :=
  a.collectors.flatMap (·.fromAttributes attributes)

/-- The names that the collectors find in a markup text with the given tags. -/
def namesOfMarkup (a : Accumulator) (markup : String) (tags : List Tag) : List String :=
  tags.flatMap (a.namesOfAttributes ·.attributes) ++ a.collectors.flatMap (·.fromMarkup markup)

def insert (a : Accumulator) (names : List String) : Accumulator :=
  { a with used := insertNames a.used names }

/-- The classes of one more tag. -/
def addTag (a : Accumulator) (attributes : List Attribute) : Except Refusal Accumulator :=
  if a.isFrozen then .error .frozen
  else .ok (a.insert (a.namesOfAttributes attributes))

/-- The classes of one more markup text. The text is read as a whole before any of them counts. -/
def feed (a : Accumulator) (markup : String) : Except Refusal Accumulator :=
  if a.isFrozen then .error .frozen
  else
    match Markup.tags markup with
    | .ok tags => .ok (a.insert (a.namesOfMarkup markup tags))
    | .error rejection => .error (.rejected rejection)

/-- No more classes are added. -/
def freeze (a : Accumulator) : Accumulator :=
  { a with isFrozen := true }

def contains (a : Accumulator) (name : String) : Bool :=
  a.used.contains name

def size (a : Accumulator) : Nat :=
  a.used.length

end Accumulator

end StyleUsage.Usage
