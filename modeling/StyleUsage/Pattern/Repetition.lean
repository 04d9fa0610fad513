import StyleUsage.Pattern.Place

/-! # Patterns: repetitions

What a step leads to that is taken several times. A step leads from a place to some others, the
preferred one first. -/

namespace StyleUsage.Pattern

/-- Every place that `count` steps lead to. -/
def steps (length : Nat) (step : Place → List Place) : Nat → List Place → List Place
  | 0, places => places
  | count + 1, places =>
      let next := distinct length (places.flatMap step)
      if next = places then next else steps length step count next

/-- What a repetition has found: the places that it leads to, the latest first, and the places
from which it has gone on, each with the count of steps that were left. -/
structure Found where
  ends : List Place
  origins : Array (List (List Capture × Nat))

/-- Whether at least as many steps have been gone from a place before. -/
def Found.wentFrom (found : Found) (p : Place) (left : Nat) : Bool :=
  (found.origins.getD p.position []).any fun (captures, count) =>
    captures = p.captures && left ≤ count

/-- The places after at most `count` further steps. A step that consumes nothing is the last
one. No more steps than `room` says lead anywhere from a place. -/
def further (room : Place → Nat) (step : Place → List Place) (reluctant : Bool) :
    Nat → Place → Found → Found
  | 0, p, found => { found with ends := p :: found.ends }
  | count + 1, p, found =>
      let left := min (count + 1) (room p)
      if found.wentFrom p left then found
      else
        let go (found : Found) : Found :=
          (step p).foldl (fun found q =>
            if q.position = p.position then { found with ends := q :: found.ends }
            else further room step reluctant count q found) found
        let found : Found :=
          ⟨found.ends, found.origins.modify p.position ((p.captures, left) :: ·)⟩
        if reluctant then go { found with ends := p :: found.ends }
        else
          let found := go found
          { found with ends := p :: found.ends }

/-- How many steps from a place may lead to new places. If steps only lead forward, each of them
but one has a character of its own. -/
def room (length : Nat) (forward : Bool) (p : Place) : Nat :=
  if forward then length - p.position + 1 else (length + 1) * (length + 1)

/-- The places that a repetition leads to, the steps of which may only lead forward. -/
def repetitions (length : Nat) (step : Place → List Place) (forward reluctant : Bool) (least : Nat)
    (most : Option Nat) (p : Place) : List Place :=
  let room := room length forward
  let found := (steps length step least [p]).foldl
    (fun found q =>
      further room step reluctant (min ((most.map (· - least)).getD (room q)) (room q)) q found)
    (⟨[], Array.replicate (length + 1) []⟩ : Found)
  distinct length found.ends.reverse

/-- The place after exactly `count` steps, each of which goes one way. -/
def walk (step : Place → Option Place) : Nat → Place → Option Place
  | 0, p => some p
  | count + 1, p => do
      let q ← step p
      if q = p then some q else walk step count q

/-- The place after as many further steps as can be taken, at most `count`. A step that consumes
nothing is the last one. After a step that fails, `stop` says at which position to go on. -/
def advance (step : Place → Option Place) (stop : Place → Nat) : Nat → Place → Place
  | 0, p => p
  | count + 1, p =>
      match step p with
      | none => { p with position := stop p }
      | some q => if q.position = p.position then q else advance step stop count q

/-- The one place that a repetition leads to if it gives no step back. -/
def onlyRepetition (length : Nat) (step : Place → Option Place) (stop : Place → Nat) (least : Nat)
    (most : Option Nat) (p : Place) : Option Place :=
  (walk step least p).map (advance step stop ((most.map (· - least)).getD (length + 1)))

end StyleUsage.Pattern
