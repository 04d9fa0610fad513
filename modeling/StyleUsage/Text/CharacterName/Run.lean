/-! # Runs of character names

The names of consecutive characters are written one after the other, in lines with semicolons
between them. A name that starts like the one before it is written as the count of the words that it
shares with that one and the words that follow them. -/

namespace StyleUsage.Text

/-- The names of consecutive characters, from the code point `first` on. -/
structure NameRun where
  first : Nat
  lines : List String

/-- The pieces of a text between the occurrences of a character. -/
def piecesAt (mark : Char) : List Char → List (List Char)
  | [] => [[]]
  | c :: rest =>
      if c = mark then [] :: piecesAt mark rest
      else
        match piecesAt mark rest with
        | piece :: pieces => (c :: piece) :: pieces
        | [] => [[c]]

/-- The words of a name, given how it is written and the words of the name before it. -/
def nameWords (before : List (List Char)) (written : List Char) : List (List Char) :=
  let shared := (written.takeWhile Char.isDigit).foldl (fun n d => n * 10 + (d.toNat - 48)) 0
  before.take shared ++ piecesAt ' ' (written.dropWhile Char.isDigit)

/-- The code point of a name, given by its words, among written names from `code` on. -/
def codeAmong (words : List (List Char)) (code : Nat) (before : List (List Char)) :
    List (List Char) → Option Nat
  | [] => none
  | written :: rest =>
      let these := nameWords before written
      if these = words then some code else codeAmong words (code + 1) these rest

/-- The code point of a name, given by its words. -/
def NameRun.code? (run : NameRun) (words : List (List Char)) : Option Nat :=
  codeAmong words run.first [] (run.lines.flatMap fun line => piecesAt ';' line.toList)

example : (NameRun.mk 0x41 ["LETTER A;1B", "SIGN"]).code? (piecesAt ' ' "LETTER B".toList) =
    some 0x42 := by decide +kernel

end StyleUsage.Text
