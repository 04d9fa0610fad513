import StyleUsage.Pattern.Syntax

/-! # Patterns: alternatives

The alternatives between bars, each given by the nodes in it. Leaves that all of them start with
come before the choice, and a choice among single characters is a character set. -/

namespace StyleUsage.Pattern

/-- The longest run of leaves that starts the first alternative and all others. -/
def sharedStart : List Node → List (List Node) → List Node
  | .leaf leaf :: rest, others =>
      if others.all (·.head? = some (.leaf leaf)) then
        .leaf leaf :: sharedStart rest (others.map List.tail)
      else []
  | _, _ => []

/-- The set that is all of an alternative and lists its characters. -/
def listedSet? : List Node → Option CharSet
  | [.leaf (.set chars)] => if chars.negated then none else some chars
  | _ => none

/-- The set of the characters that the alternatives stand for, if each is a set by itself. -/
def Node.oneOf? (alternatives : List (List Node)) : Option Node :=
  match alternatives.mapM listedSet? with
  | some (chars :: rest) =>
      some (.leaf (.set ⟨chars.reading, false,
        ((chars :: rest).flatMap CharSet.items).eraseDups⟩))
  | _ => none

/-- The first of some alternatives that matches. The last one comes last. -/
def Node.firstOf : List (List Node) → Node
  | [] => .nothing
  | [last] => .concat last
  | alternative :: rest => .either (.concat alternative) (.firstOf rest)

/-- The nodes that some alternatives amount to. -/
def Node.alternatives (first : List Node) (others : List (List Node)) : List Node :=
  if others = [] then first
  else
    let shared := sharedStart first others
    let rests := (first :: others).map (·.drop shared.length)
    shared ++ [(oneOf? rests).getD (firstOf rests)]

end StyleUsage.Pattern
