import StyleUsage.Stylesheet.Quotation
import StyleUsage.Text.Blank
import StyleUsage.Text.WordChar

/-! # Class expressions

A directive gives class names by an expression. The keys of an object literal are class names and
its values are conditions; a text anywhere else is a list of class names. Expressions are not
evaluated, so a name counts whether or not its condition holds, and whatever a malformed
expression shows is taken. -/

namespace StyleUsage.Usage

open StyleUsage.Text Stylesheet

/-- The parts of an expression that matter. Whatever stands between them is passed over. -/
inductive Lexeme where
  /-- A quotation, without its quotes. -/
  | quotation (content : List Char)
  | name (name : List Char)
  | opening (isBrace : Bool)
  | closing
  | colon
  | comma
  deriving Repr, DecidableEq

def startsName (c : Char) : Bool :=
  c.isAlpha || c = '_' || c = '$'

def continuesName (c : Char) : Bool :=
  isWordChar c || c = '$'

/-- The mark that a character is, if it is one. -/
def mark? (c : Char) : Option Lexeme :=
  match c with
  | '{' => some (.opening true)
  | '[' | '(' => some (.opening false)
  | '}' | ']' | ')' => some .closing
  | ':' => some .colon
  | ',' => some .comma
  | _ => none

/-- The parts of an expression, in order. A quote that opens no quotation is passed over. -/
def lexemes (s : List Char) : List Lexeme :=
  match s with
  | [] => []
  | c :: rest =>
      match h : quotation? true (c :: rest) with
      | some (inner, after) =>
          have : after.length < rest.length + 1 := length_lt_of_quotation? h
          .quotation inner.dropLast :: lexemes after
      | none =>
          if startsName c then
            have := (List.dropWhile_suffix (l := rest) continuesName).length_le
            .name (c :: rest.takeWhile continuesName) :: lexemes (rest.dropWhile continuesName)
          else (mark? c).toList ++ lexemes rest
termination_by s.length

/-- A quotation's content with each escaped character standing for itself. -/
def unescape : List Char → List Char
  | '\\' :: c :: rest => c :: unescape rest
  | c :: rest => c :: unescape rest
  | [] => []

/-- An open bracket: whether it is a brace, and whether a key is expected next if it is. -/
structure Bracket where
  isBrace : Bool
  atKey : Bool
  deriving Repr, DecidableEq

/-- The innermost bracket is a brace, and its next text is a value. -/
def inValue (brackets : List Bracket) : Bool :=
  brackets.head?.any fun b => b.isBrace && !b.atKey

/-- The innermost bracket is a brace, and its next text is a key. -/
def inKey (brackets : List Bracket) : Bool :=
  brackets.head?.any fun b => b.isBrace && b.atKey

/-- The brackets with a key expected or not in the innermost one. -/
def expectKey (atKey : Bool) : List Bracket → List Bracket
  | b :: outer => { b with atKey } :: outer
  | [] => []

/-- The open brackets after one part, the innermost first. -/
def bracketsAfter (brackets : List Bracket) : Lexeme → List Bracket
  | .opening isBrace => ⟨isBrace, true⟩ :: brackets
  | .closing => brackets.tail
  | .colon => expectKey false brackets
  | .comma => expectKey true brackets
  | .quotation _ | .name _ => brackets

/-- The class names that one part gives within the open brackets. -/
def namesIn (brackets : List Bracket) : Lexeme → List (List Char)
  | .quotation content => if inValue brackets then [] else words (unescape content)
  | .name name => if inKey brackets then [name] else []
  | _ => []

/-- The class names that the parts of an expression give. -/
def namesFrom (brackets : List Bracket) : List Lexeme → List (List Char)
  | [] => []
  | l :: rest => namesIn brackets l ++ namesFrom (bracketsAfter brackets l) rest

/-- The class names that an expression gives, in order and with repetitions. -/
def expressionClasses (expression : String) : List String :=
  (namesFrom [] (lexemes expression.toList)).map String.ofList

end StyleUsage.Usage
