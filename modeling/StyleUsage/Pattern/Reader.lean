import StyleUsage.Pattern.Alternative
import StyleUsage.Pattern.CharSet
import StyleUsage.Pattern.Group
import StyleUsage.Pattern.Quantifier
import StyleUsage.Pattern.Width

/-! # Patterns: the reader

What is known while a pattern is read: the groups so far, the groups that are open, and the pieces
of each of them. -/

namespace StyleUsage.Pattern

/-- What a quantifier may follow, or the reason why none may. -/
inductive Piece where
  | plain (nodes : List Node)
  | anchor (place : Anchor)
  | repeated (node : Node)

def Piece.nodes : Piece → List Node
  | .plain nodes => nodes
  | .anchor place => [.leaf (.anchor place)]
  | .repeated node => [node]

/-- The piece of one character set. -/
def Piece.set (chars : CharSet) : Piece :=
  .plain [.leaf (.set chars)]

/-- What an open parenthesis has started. -/
inductive Opening where
  /-- A group that may change the flags inside of it. -/
  | plain (changed : Bool)
  | group (number : Nat)
  | ahead (negated : Bool)
  /-- A look-behind, which may be the outermost one. -/
  | behind (negated outermost : Bool)
  | atomic
  | choice (number : Nat)
  deriving Repr, DecidableEq

/-- An open parenthesis: what it is, where it stands, the flags inside of it, the alternatives
before the last bar, and the pieces since, both with the latest first. -/
structure Level where
  opening : Opening
  opened : Nat
  flags : List Flag
  branches : List (List Node)
  pieces : List Piece

namespace Level

def start (opening : Opening) (opened : Nat) (flags : List Flag) : Level :=
  ⟨opening, opened, flags, [], []⟩

def reading (level : Level) : Reading :=
  ⟨level.flags.contains .ignoreCase, level.flags.contains .ascii⟩

/-- The alternative that is being read. -/
def branch (level : Level) : List Node :=
  level.pieces.reverse.flatMap Piece.nodes

/-- What stands between the parentheses. -/
def inner (level : Level) : List Node :=
  match level.branches.reverse with
  | [] => level.branch
  | first :: others => Node.alternatives first (others ++ [level.branch])

/-- What stands between the parentheses, as one node. -/
def body (level : Level) : Node :=
  .concat level.inner

def push (level : Level) (piece : Piece) : Level :=
  { level with pieces := piece :: level.pieces }

/-- A bar ends an alternative. A choice has two of them at most. -/
def bar (level : Level) (position : Nat) : Except Flaw Level :=
  match level.opening, level.branches with
  | .choice _, _ :: _ => .error (.tooManyBranches, position)
  | _, _ => .ok { level with branches := level.branch :: level.branches, pieces := [] }

/-- A quantifier takes the last piece, which must be there and be neither an anchor nor a
repetition. -/
def repeatLast (level : Level) (position : Nat) (q : Quantifier) : Except Flaw Level :=
  match level.pieces with
  | .plain nodes :: earlier =>
      let node := Node.repeated (.concat nodes) q.least q.most q.greed
      .ok { level with pieces := .repeated node :: earlier }
  | .repeated _ :: _ => .error (.multipleRepeat, position)
  | _ => .error (.nothingToRepeat, position)

/-- What the parentheses stand for, given the width of what is between them. A group that changes
no flags stands for the nodes in it. -/
def nodes (level : Level) (width : Width) : List Node :=
  match level.opening, level.branches with
  | .plain false, _ => level.inner
  | .plain true, _ => [level.body]
  | .group number, _ => [.group (some number) level.body]
  | .ahead negated, _ => [.ahead negated level.body]
  | .behind negated _, _ => [.behind negated width level.body]
  | .atomic, _ => [.atomic level.body]
  | .choice number, whenMatched :: _ =>
      [.choice number (.concat whenMatched) (.concat level.branch)]
  | .choice number, [] => [.choice number (.concat level.branch) .nothing]

end Level

/-- A group by its name, if it has one; how wide it is is known once it is closed. -/
structure GroupEntry where
  name : Option String
  width : Option Width

structure Reader where
  cursor : Cursor
  /-- The groups in order of their numbers, which start at one. -/
  groups : List GroupEntry
  /-- Inside a look-behind, the number of the first group that is not before the outermost one. -/
  behindFrom : Option Nat
  /-- Groups that choices depend on, each with the place where it is first named. -/
  awaited : List (Nat × Nat)
  level : Level
  outer : List Level

namespace Reader

def start (source : List Char) : Reader :=
  ⟨⟨0, source⟩, [], none, [], .start (.plain false) 0 [], []⟩

def group? (r : Reader) (number : Nat) : Option GroupEntry :=
  if number = 0 then none else r.groups[number - 1]?

/-- The width of a closed group. -/
def widthOf (r : Reader) (number : Nat) : Width :=
  ((r.group? number).bind GroupEntry.width).getD .empty

/-- The number of the group with a name. -/
def numberOf? (r : Reader) (name : String) : Option Nat :=
  (r.groups.findIdx? (·.name = some name)).map (· + 1)

/-- The reader further on, with one more piece. -/
def push (r : Reader) (piece : Piece) (after : Cursor) : Reader :=
  { r with level := r.level.push piece, cursor := after }

/-- Inside a look-behind, only the groups before it can be referred to. -/
def checkBehind (r : Reader) (number position : Nat) : Except Flaw Unit :=
  match r.behindFrom with
  | none => .ok ()
  | some first =>
      if ((r.group? number).bind GroupEntry.width).isNone then .error (.openReference, position)
      else if first ≤ number then .error (.innerReference, position)
      else .ok ()

/-- The text of a closed group once more. `position` is the place to be named if the group is
open. -/
def refer (r : Reader) (number position : Nat) (after : Cursor) : Except Flaw Reader := do
  if ((r.group? number).bind GroupEntry.width).isNone then throw (.openReference, position)
  r.checkBehind number after.position
  return r.push (.plain [.leaf (.reference r.level.reading number)]) after

/-- How many parentheses can be open at once. -/
def nestingLimit : Nat := 492

/-- The reader inside one more level. -/
def enter (r : Reader) (opening : Opening) (opened : Nat) (flags : List Flag) (after : Cursor) :
    Except Flaw Reader :=
  if nestingLimit ≤ r.outer.length then .error (.tooDeep, opened)
  else
    .ok { r with
      level := .start opening opened flags, outer := r.level :: r.outer, cursor := after }

/-- A new group starts. Its name, if it has one, must be new. -/
def enterGroup (r : Reader) (name : Option (String × Nat)) (opened : Nat) (after : Cursor) :
    Except Flaw Reader :=
  let number := r.groups.length + 1
  match name.bind fun (name, position) =>
      (r.numberOf? name).map fun earlier =>
        (Fault.repeatedGroupName name number earlier, position) with
  | some flaw => .error flaw
  | none =>
      let entry : GroupEntry := ⟨name.map Prod.fst, none⟩
      { r with groups := r.groups ++ [entry] }.enter (.group number) opened r.level.flags after

/-- A choice starts. The group that it depends on may come later if it is given by its number. -/
def enterChoice (r : Reader) (target : GroupTarget) (position opened : Nat) (after : Cursor) :
    Except Flaw Reader := do
  let (number, awaited) ←
    match target with
    | .name name =>
        match r.numberOf? name with
        | some number => pure (number, r.awaited)
        | none => throw (.unknownGroupName name, position)
    | .number number =>
        pure (number,
          if r.awaited.any (·.1 = number) then r.awaited else r.awaited ++ [(number, position)])
  r.checkBehind number after.position
  { r with awaited := awaited }.enter (.choice number) opened r.level.flags after

/-- What a parenthesis at `opened` does; the cursor stands after it. Flags for the whole pattern
come before everything else. -/
def openAt (r : Reader) (opened : Nat) (after : Cursor) : Except Flaw Reader := do
  let (parenthesis, after) ← parenthesis opened after
  let flags := r.level.flags
  match parenthesis with
  | .group name => r.enterGroup name opened after
  | .plain on off =>
      let changed := !(on.isEmpty && off.isEmpty)
      r.enter (.plain changed) opened (changeFlags flags on off) after
  | .ahead negated => r.enter (.ahead negated) opened flags after
  | .behind negated =>
      let first := r.behindFrom.getD (r.groups.length + 1)
      { r with behindFrom := some first }.enter (.behind negated r.behindFrom.isNone) opened flags
        after
  | .atomic => r.enter .atomic opened flags after
  | .choice target position => r.enterChoice target position opened after
  | .reference name position =>
      match r.numberOf? name with
      | some number => r.refer number position after
      | none => throw (.unknownGroupName name, position)
  | .flags on =>
      if r.outer.isEmpty && r.level.branches.isEmpty && r.level.pieces.isEmpty then
        return { r with level := { r.level with flags := on.foldl withFlag flags }, cursor := after }
      else throw (.misplacedFlags, opened)
  | .comment => return { r with cursor := after }

/-- The groups once the one that the level opened is closed. -/
def closedGroups (r : Reader) (width : Width) : List GroupEntry :=
  match r.level.opening with
  | .group number => r.groups.modify (number - 1) fun g => { g with width := some width }
  | _ => r.groups

/-- Whether flags for the whole pattern class the characters in two ways. -/
def isContrary (r : Reader) : Bool :=
  r.level.flags.contains .ascii && r.level.flags.contains .unicode

/-- A closing parenthesis at `position`. -/
def closeAt (r : Reader) (position : Nat) (after : Cursor) : Except Flaw Reader :=
  match r.outer with
  | [] =>
      .error (if r.isContrary then .contraryClassing else .unbalancedParenthesis, position)
  | around :: outer =>
      let width := r.level.body.width r.widthOf
      .ok { r with
        cursor := after
        groups := r.closedGroups width
        behindFrom := if r.level.opening matches .behind _ true then none else r.behindFrom
        level := around.push (.plain (r.level.nodes width))
        outer := outer }

end Reader

end StyleUsage.Pattern
