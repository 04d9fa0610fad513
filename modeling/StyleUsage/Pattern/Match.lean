import StyleUsage.Pattern.Leaf
import StyleUsage.Pattern.Repetition

/-! # Patterns: matching

A node leads from a place to the places where its matches end, the preferred one first.

An attempt that fails leaves a position behind: the one that it has noted last. A leaf notes
nothing. What can go on in several ways notes the position from which it tries each of them, and a
look at what is around a place notes how far it has looked. Only a repetition that gives nothing
back asks for that position: it goes on from there after a step that fails. -/

namespace StyleUsage.Pattern

/-- The leaf that a node consists of, if it matches one character. -/
def Node.unit? : Node → Option Leaf
  | .leaf (.any lineFeed) => some (.any lineFeed)
  | .leaf (.set chars) => some (.set chars)
  | .sequence first .nothing => first.unit?
  | _ => none

/-- What is left to be matched: the set that its first character is tested with, and the position
that an attempt leaves behind if it fails, given the one noted before. -/
structure Rest where
  first : Option CharSet
  stop : Place → Nat → Nat

/-- Nothing is left. -/
def Rest.nothing : Rest := ⟨none, fun _ noted => noted⟩

/-- Where a repetition of a leaf, and the rest after it, stops if that fails. -/
def Leaf.stop (text : Array Char) (leaf : Leaf) (least : Nat) (most : Option Nat) (greed : Greed)
    (rest : Rest) (p : Place) (noted : Nat) : Nat :=
  let room := text.size - p.position
  let count := leaf.count text (min room (most.getD room)) p
  let after (n : Nat) : Nat := if leaf.notesCount then p.position + n else p.position
  let goOn (n : Nat) : Nat :=
    let q := { p with position := p.position + n }
    rest.stop q q.position
  if room < least then noted
  else if count < least then after count
  else
    match greed with
    | .possessive => rest.stop { p with position := p.position + count } (after count)
    | .reluctant =>
        let more := leaf.notesCount && most = some count && leaf.count text 1
          { p with position := p.position + count } = 1
        p.position + count + (if more then 1 else 0)
    | .greedy =>
        match rest.first.bind CharSet.literal? with
        | none => goOn least
        | some code =>
            match (List.range (count + 1)).find? fun n =>
                least ≤ n && (text[p.position + n]?).any (·.toNat = code) with
            | some n => goOn n
            | none => after count

/-- The first way of a look at what is around a place, at that place, or that there is none. -/
def lookFrom (negated : Bool) (p : Place) (ends : List Place) : List Place :=
  match negated, ends with
  | false, q :: _ => [{ q with position := p.position }]
  | true, [] => [p]
  | _, _ => []

/-- The capture of what a group has matched between two places, if the group has a number. -/
def Place.remember (number : Option Nat) (first : Nat) (p : Place) : Place :=
  match number with
  | some number => { p with captures := capture ⟨number, first, p.position⟩ p.captures }
  | none => p

/-- Whether an alternative is tried at a place. It is not if the next character rules it out. -/
def Node.isTried (text : Array Char) (p : Place) : Node → Bool
  | .either first second => first.isTried text p || second.isTried text p
  | node =>
      match node.firstSet? none with
      | some chars => !chars.isFilter || (text[p.position]?).any chars.contains
      | none => true

/-- Whether a node looks at what is before a place. -/
def Node.looksBehind : Node → Bool
  | .nothing | .leaf _ => false
  | .behind .. => true
  | .sequence first second | .either first second | .choice _ first second =>
      first.looksBehind || second.looksBehind
  | .repeated body _ _ _ | .group _ body | .atomic body | .ahead _ body => body.looksBehind

/-- Whether no match of a node ends before it starts. A look behind a place may leave an earlier
position behind. -/
def Node.leadsForward : Node → Bool
  | .nothing | .leaf _ | .ahead .. | .behind .. => true
  | .sequence first second | .either first second | .choice _ first second =>
      first.leadsForward && second.leadsForward
  | .repeated body _ _ greed => body.leadsForward && !(greed = .possessive && body.looksBehind)
  | .group _ body | .atomic body => body.leadsForward

mutual

/-- The places where a node's matches from a place end. -/
def Node.ends (text : Array Char) : Node → Place → List Place
  | .nothing, p => [p]
  | .leaf x, p => (x.next? text p).toList
  | .sequence first second, p =>
      distinct text.size ((first.ends text p).flatMap (second.ends text))
  | .either first second, p => distinct text.size (first.ends text p ++ second.ends text p)
  | .repeated body least most greed, p =>
      match greed with
      | .possessive =>
          (onlyRepetition text.size (fun q => (body.ends text q).head?)
            (fun q => body.stop text .nothing q q.position) least most p).toList
      | _ =>
          repetitions text.size (body.ends text) body.leadsForward (greed = .reluctant) least most p
  | .group number body, p => (body.ends text p).map (·.remember number p.position)
  | .choice number whenMatched otherwise, p =>
      if (p.captured? number).isSome then whenMatched.ends text p else otherwise.ends text p
  | .atomic body, p => (body.ends text p).take 1
  | .ahead negated body, p => lookFrom negated p (body.ends text p)
  | .behind negated width body, p =>
      lookFrom negated p
        (if p.position < width.least then []
          else body.ends text { p with position := p.position - width.least })

/-- Where an attempt to match a node from a place, and the rest after it, stops if it fails. The
last of its attempts decides. -/
def Node.stop (text : Array Char) : Node → Rest → Place → Nat → Nat
  | .nothing, rest, p, noted => rest.stop p noted
  | .leaf x, rest, p, noted =>
      match x.next? text p with
      | some q => rest.stop q noted
      | none => noted
  | .sequence first second, rest, p, noted =>
      first.stop text ⟨second.firstSet? rest.first, second.stop text rest⟩ p noted
  | .either first second, rest, p, noted =>
      let rest : Rest := ⟨none, rest.stop⟩
      if second.isTried text p then second.stop text rest p p.position
      else if first.isTried text p then first.stop text rest p p.position
      else noted
  | .repeated body least most greed, rest, p, noted =>
      match body.unit?, greed with
      | some x, _ => x.stop text least most greed rest p noted
      | none, .possessive =>
          match onlyRepetition text.size (fun q => (body.ends text q).head?)
            (fun q => body.stop text .nothing q q.position) least most p with
          | some q => rest.stop q q.position
          | none => p.position
      | none, _ => p.position
  | .group number body, rest, p, noted =>
      body.stop text ⟨none, fun q => rest.stop (q.remember number p.position)⟩ p noted
  | .choice number whenMatched otherwise, rest, p, noted =>
      if (p.captured? number).isSome then
        let first := if otherwise = .nothing then rest.first else none
        whenMatched.stop text ⟨first, rest.stop⟩ p noted
      else otherwise.stop text rest p noted
  | .atomic body, rest, p, _ =>
      match body.ends text p with
      | q :: _ => rest.stop q q.position
      | [] => p.position
  | .ahead negated body, rest, p, _ =>
      match negated, body.ends text p with
      | false, q :: _ => rest.stop { q with position := p.position } q.position
      | true, q :: _ => q.position
      | false, [] => body.stop text .nothing p p.position
      | true, [] => rest.stop p (body.stop text .nothing p p.position)
  | .behind negated width body, rest, p, noted =>
      let start := { p with position := p.position - width.least }
      if p.position < width.least then if negated then rest.stop p noted else noted
      else
        match negated, body.ends text start with
        | false, q :: _ => rest.stop { q with position := p.position } q.position
        | true, q :: _ => q.position
        | false, [] => body.stop text .nothing start start.position
        | true, [] => rest.stop p (body.stop text .nothing start start.position)

end

end StyleUsage.Pattern

namespace StyleUsage

/-- Whether a pattern matches some part of a text. -/
def Pattern.foundIn (pattern : Pattern) (text : String) : Bool :=
  let chars := text.toList.toArray
  (pattern.starts chars).any fun position => !(pattern.node.ends chars ⟨position, []⟩).isEmpty

example : ((Pattern.parse "(?:ab?c)++b").toOption.map fun p =>
    ["ab", "acb", "acab", "acabc"].map p.foundIn) = some [false, true, true, false] := by
  decide +kernel

end StyleUsage
