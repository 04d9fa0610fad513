import StyleUsage.Text.Ranges

/-! # Blank characters

Blanks separate words and are dropped at the ends of a text. They are the white space of
Unicode, with the four information separators of ASCII and without the zero-width spaces. -/

namespace StyleUsage.Text

/-- The code points of the blanks, as ascending closed ranges. -/
def blankRanges : List (Nat × Nat) :=
  [(0x09, 0x0D), (0x1C, 0x20), (0x85, 0x85), (0xA0, 0xA0), (0x1680, 0x1680), (0x2000, 0x200A),
   (0x2028, 0x2029), (0x202F, 0x202F), (0x205F, 0x205F), (0x3000, 0x3000)]

/-- White space of Unicode, or one of the information separators. -/
def isBlank (c : Char) : Bool :=
  inRanges c.toNat blankRanges

/-- A text without the blanks at its two ends. -/
def trim (s : List Char) : List Char :=
  ((s.dropWhile isBlank).reverse.dropWhile isBlank).reverse

/-- The longest pieces of a text that hold no blank, in order. -/
def words (s : List Char) : List (List Char) :=
  match h : s.dropWhile isBlank with
  | [] => []
  | c :: rest =>
      have : (rest.dropWhile (!isBlank ·)).length < s.length := by
        have h₁ := (List.dropWhile_suffix (p := isBlank) (l := s)).length_le
        have h₂ := (List.dropWhile_suffix (p := (!isBlank ·)) (l := rest)).length_le
        simp only [h, List.length_cons] at h₁
        omega
      (c :: rest.takeWhile (!isBlank ·)) :: words (rest.dropWhile (!isBlank ·))
termination_by s.length

/-- The words of a text, in order. -/
def wordsOf (s : String) : List String :=
  (words s.toList).map String.ofList

end StyleUsage.Text
