import StyleUsage.Markup.Rejection
import StyleUsage.Text.Blank

/-! # Marked sections

A marked section starts with an angle bracket, an exclamation mark and a square bracket. Its name
decides how it ends; markup with a section of another name is rejected. -/

namespace StyleUsage.Markup

open StyleUsage.Text

/-- The text after the first `--`, blanks and angle bracket. -/
def afterComment? : List Char → Option (List Char)
  | [] => none
  | c :: rest =>
      match c, rest with
      | '-', '-' :: more =>
          match more.dropWhile isBlank with
          | '>' :: after => some after
          | _ => afterComment? rest
      | _, _ => afterComment? rest

/-- The text after the first angle bracket. -/
def afterBracket? : List Char → Option (List Char)
  | [] => none
  | c :: rest => if c = '>' then some rest else afterBracket? rest

/-- The text after the first square bracket, blanks and angle bracket. -/
def afterSquare? : List Char → Option (List Char)
  | [] => none
  | c :: rest =>
      match c, rest.dropWhile isBlank with
      | ']', '>' :: after => some after
      | _, _ => afterSquare? rest

/-- The text after the first two square brackets and angle bracket, with blanks between them. -/
def afterSquares? : List Char → Option (List Char)
  | [] => none
  | c :: rest =>
      match c, rest.dropWhile isBlank with
      | ']', ']' :: more =>
          match more.dropWhile isBlank with
          | '>' :: after => some after
          | _ => afterSquares? rest
      | _, _ => afterSquares? rest

def inSectionName (c : Char) : Bool :=
  c.isAlphanum || c = '-' || c = '_' || c = '.'

/-- The text after a marked section, nothing if its end is missing, or the reason to reject it;
`s` starts behind the square bracket, and `start` is what the section starts with. -/
def section? (start s : List Char) : Except Rejection (Option (List Char)) :=
  match s with
  | [] => .ok none
  | c :: rest =>
      if !c.isAlpha then .error (.namelessSection ((start ++ s).take 20))
      else
        let name := c :: rest.takeWhile inSectionName
        let behind := rest.dropWhile inSectionName
        if behind.dropWhile isBlank = [] then .ok none
        else
          let keyword := String.ofList (name.map Char.toLower)
          if keyword ∈ ["temp", "cdata", "ignore", "include", "rcdata"] then .ok (afterSquares? s)
          else if keyword ∈ ["if", "else", "endif"] then .ok (afterSquare? s)
          else .error (.unknownSection (name ++ behind.takeWhile isBlank))

theorem suffix_of_dropWhile {p : Char → Bool} {s after : List Char} {c : Char}
    (h : s.dropWhile p = c :: after) : after <:+ s :=
  (List.suffix_cons c after).trans (h ▸ List.dropWhile_suffix p)

theorem suffix_of_afterComment? {s after : List Char} (h : afterComment? s = some after) :
    after <:+ s := by
  fun_induction afterComment? s with
  | case1 => cases h
  | case2 more next hm =>
      cases h
      exact (suffix_of_dropWhile hm).trans ((List.suffix_cons _ _).trans (List.suffix_cons _ _))
  | case3 more _ ih => exact (ih h).trans (List.suffix_cons _ _)
  | case4 c rest _ ih => exact (ih h).trans (List.suffix_cons c rest)

theorem suffix_of_afterBracket? {s after : List Char} (h : afterBracket? s = some after) :
    after <:+ s := by
  fun_induction afterBracket? s with
  | case1 => cases h
  | case2 rest =>
      cases h
      exact List.suffix_cons _ _
  | case3 c rest _ ih => exact (ih h).trans (List.suffix_cons c rest)

theorem suffix_of_afterSquare? {s after : List Char} (h : afterSquare? s = some after) :
    after <:+ s := by
  fun_induction afterSquare? s with
  | case1 => cases h
  | case2 rest next hm =>
      cases h
      exact (suffix_of_dropWhile hm).trans (List.suffix_cons _ _)
  | case3 c rest _ ih => exact (ih h).trans (List.suffix_cons c rest)

theorem suffix_of_afterSquares? {s after : List Char} (h : afterSquares? s = some after) :
    after <:+ s := by
  fun_induction afterSquares? s with
  | case1 => cases h
  | case2 rest more hm next hn =>
      cases h
      exact (suffix_of_dropWhile hn).trans ((suffix_of_dropWhile hm).trans (List.suffix_cons _ _))
  | case3 rest more _ _ ih => exact (ih h).trans (List.suffix_cons _ _)
  | case4 c rest _ ih => exact (ih h).trans (List.suffix_cons c rest)

theorem suffix_of_section? {start s after : List Char}
    (h : section? start s = .ok (some after)) : after <:+ s := by
  unfold section? at h
  split at h
  · simp at h
  · split at h
    · simp at h
    · simp only at h
      split at h
      · simp at h
      · split at h
        · exact suffix_of_afterSquares? (Except.ok.inj h)
        · split at h
          · exact suffix_of_afterSquare? (Except.ok.inj h)
          · simp at h

end StyleUsage.Markup
