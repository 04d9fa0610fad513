import StyleUsage.Stylesheet.Token

/-! # Nested blocks

The tokens of a stylesheet are gathered into items: a head followed by a semicolon or by the end
of its block is a text, a head followed by braces is a block of further items. -/

namespace StyleUsage.Stylesheet

inductive Item where
  | text (text : List Char) (position : Position)
  | block (head : List Char) (position : Position) (items : List Item)

mutual

/-- How deep blocks are nested in an item. -/
def Item.depth : Item → Nat
  | .text .. => 0
  | .block _ _ items => depthOf items + 1

/-- How deep blocks are nested in some items. -/
def depthOf : List Item → Nat
  | [] => 0
  | item :: rest => max item.depth (depthOf rest)

end

/-- What may come next in a stylesheet, in the order in which messages list it. -/
inductive Terminal where
  | finish
  | leftBrace
  | head
  | rightBrace
  | semicolon
  deriving Repr, DecidableEq

/-- Why the tokens of a text do not nest. -/
inductive SyntaxError where
  /-- A token that no reading of the text so far allows; `previous` is the token before it. -/
  | misplaced (found : Placed) (expected : List Terminal) (previous : Option Token)
  /-- A brace that closes nothing, after complete rules. -/
  | unopened (found : Placed) (expected : List Terminal)
  /-- The end of the text, after the token `last`, where more is needed. -/
  | unfinished (last : Placed) (expected : List Terminal)
  /-- A character that starts no token, with the text of its line around it. -/
  | stray (found : Stray) (before after : List Char) (expected : List Terminal)
      (previous : Option Token)
  deriving Repr, DecidableEq

/-- A block that is not closed yet: its head, and the items before it in the block around it, the
latest first. -/
structure OpenBlock where
  head : List Char
  position : Position
  before : List Item

/-- What the tokens read so far amount to. -/
structure Nesting where
  /-- The open blocks, the innermost first. -/
  outer : List OpenBlock
  /-- The finished items of the innermost block, the latest first. -/
  items : List Item
  /-- A head that waits for what follows it. -/
  pending : Option (List Char × Position)
  /-- The token read last. -/
  last : Option Placed

namespace Nesting

def start : Nesting :=
  ⟨[], [], none, none⟩

/-- What can go on from here. -/
def expected (n : Nesting) : List Terminal :=
  match n.pending, n.outer with
  | none, [] => [.finish, .head, .semicolon]
  | none, _ => [.head, .rightBrace, .semicolon]
  | some _, [] => [.leftBrace, .semicolon]
  | some _, _ => [.leftBrace, .rightBrace, .semicolon]

/-- What is looked for here. Once something has been read, a closing brace is looked for between
two items even where no block is open. -/
def sought (n : Nesting) : List Terminal :=
  match n.pending, n.last with
  | none, none => [.head, .semicolon]
  | none, some _ => [.head, .rightBrace, .semicolon]
  | some _, _ => n.expected

/-- The token is not even looked for here. -/
def misplaced (n : Nesting) (t : Placed) : SyntaxError :=
  .misplaced t n.expected (n.last.map Placed.token)

/-- The waiting head, if any, becomes the last text of its block. -/
def settle (n : Nesting) : List Item :=
  match n.pending with
  | some (text, position) => .text text position :: n.items
  | none => n.items

/-- The innermost block ends. -/
def close (n : Nesting) (t : Placed) : Except SyntaxError Nesting :=
  match n.outer, n.pending, n.last with
  | block :: outer, _, _ =>
      .ok ⟨outer, .block block.head block.position n.settle.reverse :: block.before, none, some t⟩
  | [], none, some _ => .error (.unopened t n.expected)
  | [], _, _ => .error (n.misplaced t)

/-- One more token. -/
def step (n : Nesting) (t : Placed) : Except SyntaxError Nesting :=
  match t.token, n.pending with
  | .head text, none => .ok { n with pending := some (text, t.position), last := some t }
  | .head _, some _ => .error (n.misplaced t)
  | .leftBrace, some (head, position) =>
      .ok ⟨⟨head, position, n.items⟩ :: n.outer, [], none, some t⟩
  | .leftBrace, none => .error (n.misplaced t)
  | .semicolon, _ => .ok ⟨n.outer, n.settle, none, some t⟩
  | .rightBrace, _ => n.close t

/-- The items of a text whose tokens are all read. -/
def finish (n : Nesting) : Except SyntaxError (List Item) :=
  match n.pending, n.outer, n.last with
  | none, [], _ => .ok n.items.reverse
  | _, _, some last => .error (.unfinished last n.expected)
  | _, _, none => .ok n.items.reverse

end Nesting

/-- How many characters before and after a stray one a message shows at most. -/
def windowSize : Nat := 40

/-- The part of a stray character's line before it and from it on. -/
def window (s : List Char) (offset : Nat) : List Char × List Char :=
  let before := (s.take offset).drop (offset - windowSize)
  ((before.reverse.takeWhile (· ≠ '\n')).reverse,
    ((s.drop offset).take windowSize).takeWhile (· ≠ '\n'))

/-- The items of a text without comments. -/
def nest (s : List Char) : Except SyntaxError (List Item) := do
  let (tokens, stray) := tokenize .start s
  let n ← tokens.foldlM Nesting.step .start
  match stray with
  | none => n.finish
  | some found =>
      let (before, after) := window s found.position.offset
      .error (.stray found before after n.sought (n.last.map Placed.token))

end StyleUsage.Stylesheet
