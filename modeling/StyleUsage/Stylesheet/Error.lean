import StyleUsage.Stylesheet.Nesting
import StyleUsage.Text.Quoted

/-! # Errors in stylesheets

Why a text is no stylesheet, where, and how it is said. -/

namespace StyleUsage.Stylesheet

inductive ParseError where
  | unclosedComment (line : Nat)
  | notNested (error : SyntaxError)
  | missingColon (text : List Char) (line : Nat)
  | missingBlock (text : List Char) (line : Nat)
  | namelessAtRule (line : Nat)
  | noSelector (line : Nat)
  deriving Repr, DecidableEq

/-- The name of a terminal in messages. -/
def Terminal.name : Terminal → String
  | .finish => "$END"
  | .leftBrace => "LBRACE"
  | .head => "PRELUDE"
  | .rightBrace => "RBRACE"
  | .semicolon => "SEMICOLON"

def Token.terminal : Token → Terminal
  | .head _ => .head
  | .leftBrace => .leftBrace
  | .rightBrace => .rightBrace
  | .semicolon => .semicolon

/-- The text that a token was read from. -/
def Token.text : Token → List Char
  | .head text => text
  | .leftBrace => ['{']
  | .rightBrace => ['}']
  | .semicolon => [';']

/-- A token as messages show it. -/
def Token.shown (t : Token) : String :=
  "Token('" ++ t.terminal.name ++ "', " ++ String.ofList (Text.quoted t.text) ++ ")"

/-- One line for each thing that may come next. -/
def bullets (expected : List Terminal) : String :=
  "Expected one of: \n" ++ String.join (expected.map fun t => "\t* " ++ t.name ++ "\n")

/-- The width of a text in columns of a terminal with a tab stop at every eighth column. The count
of columns starts anew after a carriage return or a line feed, the width does not. -/
def displayWidth (s : List Char) : Nat :=
  (s.foldl (fun (width, column) c =>
    if c = '\t' then (width + (8 - column % 8), column + (8 - column % 8))
    else if c = '\n' ∨ c = '\r' then (width + 1, 0)
    else (width + 1, column + 1)) (0, 0)).1

def unexpected (token : String) (p : Position) (expected : List Terminal) : String :=
  "Unexpected token " ++ token ++ " at line " ++ toString p.line ++ ", column " ++
    toString p.column ++ ".\n" ++ bullets expected

def SyntaxError.message : SyntaxError → String
  | misplaced found expected previous =>
      unexpected found.token.shown found.position expected ++ "Previous tokens: [" ++
        (previous.map Token.shown).getD "None" ++ "]\n"
  | unopened found expected => unexpected found.token.shown found.position expected
  | unfinished last expected => unexpected "Token('$END', '')" last.position expected
  | stray found before after expected previous =>
      "No terminal matches '" ++ String.singleton found.char ++
        "' in the current parser context, at line " ++ toString found.position.line ++ " col " ++
        toString found.position.column ++ "\n\n" ++ String.ofList (before ++ after) ++ "\n" ++
        String.ofList (List.replicate (displayWidth before) ' ') ++ "^\n" ++ bullets expected ++
        match previous with
        | some t => "\nPrevious tokens: " ++ t.shown ++ "\n"
        | none => ""

/-- Where the reading of the tokens failed. -/
def SyntaxError.position : SyntaxError → Position
  | misplaced found .. | unopened found _ => found.position
  | unfinished last _ => last.position
  | stray found .. => found.position

namespace ParseError

def line : ParseError → Nat
  | unclosedComment line | missingColon _ line | missingBlock _ line | namelessAtRule line
  | noSelector line => line
  | notNested error => error.position.line

def column? : ParseError → Option Nat
  | notNested error => some error.position.column
  | _ => none

def message : ParseError → String
  | unclosedComment _ => "End of comment missing"
  | notNested error => error.message
  | missingColon text _ => "property missing ':' near " ++ String.ofList (Text.quoted text)
  | missingBlock text _ => "missing '\x7b' after " ++ String.ofList (Text.quoted text)
  | namelessAtRule _ => "at-rule missing a name"
  | noSelector _ => "selector missing"

end ParseError

end StyleUsage.Stylesheet
