import StyleUsage.Text.Blank
import StyleUsage.Text.DecimalDigit

/-! # Whole numbers in texts

A whole number is written in decimal digits of any script, with a sign before them or not. Single
underscores may stand between digits and blanks around the number. A number may have 4300 digits
at most, since reading a longer one takes too much time. -/

namespace StyleUsage.Number

open StyleUsage.Text

/-- Why a text shows no whole number. -/
inductive WholeFault where
  | noNumber
  /-- The number has more digits than are read. -/
  | tooLong (digits : Nat)
  deriving Repr, DecidableEq

/-- The most digits that a number may have. -/
def longestNumber : Nat := 4300

/-- What is said about a number with too many digits. -/
def tooLongMessage (digits : Nat) : String :=
  "Exceeds the limit (" ++ toString longestNumber ++
    " digits) for integer string conversion: value has " ++ toString digits ++
    " digits; use sys.set_int_max_str_digits() to increase the limit"

/-- The digits that a text starts with and the text after them. Single underscores may stand
between digits; `afterDigit` tells whether the character before was a digit. -/
def leadingDigits? (afterDigit : Bool) : List Char → Option (List Nat × List Char)
  | [] => if afterDigit then some ([], []) else none
  | c :: rest =>
      match decimalValue? c with
      | some d => (leadingDigits? true rest).map fun (digits, after) => (d :: digits, after)
      | none =>
          if !afterDigit then none
          else if c = '_' then leadingDigits? false rest
          else some ([], c :: rest)

/-- The number that some digits show. -/
def decimalNumber (digits : List Nat) : Nat :=
  digits.foldl (fun n d => 10 * n + d) 0

/-- The characters that may surround a number: the blanks, but for the information separators. -/
def isMargin (c : Char) : Bool :=
  isBlank c && !(0x1C ≤ c.toNat && c.toNat ≤ 0x1F)

/-- A text without its sign, and whether that is a minus. -/
def splitSign : List Char → Bool × List Char
  | '-' :: digits => (true, digits)
  | '+' :: digits => (false, digits)
  | digits => (false, digits)

/-- The number that a text shows. How many digits there are is looked at before what follows
them. -/
def whole (s : List Char) : Except WholeFault Int :=
  let (negative, s) := splitSign (s.dropWhile isMargin)
  match leadingDigits? false s with
  | none => .error .noNumber
  | some (digits, after) =>
      if longestNumber < digits.length then .error (.tooLong digits.length)
      else if after.all isMargin then
        .ok (if negative then -(decimalNumber digits : Int) else decimalNumber digits)
      else .error .noNumber

example : (whole " 1_000 ".toList).toOption = some 1000 ∧ (whole "-٣".toList).toOption = some (-3) ∧
    (whole "1__0".toList).toOption = none ∧ (whole "2.5".toList).toOption = none ∧
    (whole "\x1c4".toList).toOption = none := by decide +kernel

end StyleUsage.Number
