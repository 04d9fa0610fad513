/-! # Styling sequences

Terminals take an escape character, a square bracket and a letter, with parameters before the
letter, for a change of style or place. Text that is not for a terminal goes without them. -/

namespace StyleUsage.Text

/-- A character of the parameters. -/
def inParameters (c : Char) : Bool :=
  c.isDigit || c = ';' || c = '?'

/-- The text after a styling sequence, if the text starts with one. -/
def afterStyling? (s : List Char) : Option (List Char) :=
  match s with
  | '\x1b' :: '[' :: rest =>
      match rest.dropWhile inParameters with
      | c :: after => if c.isAlpha then some after else none
      | [] => none
  | _ => none

theorem length_lt_of_afterStyling? {s after : List Char} (h : afterStyling? s = some after) :
    after.length < s.length := by
  unfold afterStyling? at h
  split at h
  · rename_i rest
    split at h
    · rename_i c tail htail
      have hle := (List.dropWhile_suffix (l := rest) inParameters).length_le
      rw [htail, List.length_cons] at hle
      split at h
      · rw [← Option.some.inj h, List.length_cons, List.length_cons]
        exact Nat.lt_succ_of_lt (Nat.lt_succ_of_lt hle)
      · simp at h
    · simp at h
  · simp at h

/-- A text without its styling sequences. -/
def unstyled (s : List Char) : List Char :=
  match s with
  | [] => []
  | c :: rest =>
      match h : afterStyling? (c :: rest) with
      | some after =>
          have : after.length < rest.length + 1 := length_lt_of_afterStyling? h
          unstyled after
      | none => c :: unstyled rest
termination_by s.length

/-- A text without its styling sequences. -/
def unstyledText (s : String) : String :=
  String.ofList (unstyled s.toList)

theorem afterStyling?_cons_of_ne {c : Char} (rest : List Char) (h : c ≠ '\x1b') :
    afterStyling? (c :: rest) = none := by
  unfold afterStyling?
  split
  · simp_all
  · rfl

/-- A text without escape characters has no styling sequences. -/
theorem unstyled_eq_self {s : List Char} (h : '\x1b' ∉ s) : unstyled s = s := by
  induction s with
  | nil => simp [unstyled]
  | cons c rest ih =>
      simp only [List.mem_cons, not_or] at h
      have hc := afterStyling?_cons_of_ne rest (Ne.symm h.1)
      rw [unstyled]
      split
      · simp_all
      · rw [ih h.2]

end StyleUsage.Text
