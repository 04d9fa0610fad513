import StyleUsage.Markup.Reference
import StyleUsage.Markup.Section
import StyleUsage.Markup.Tag
import StyleUsage.Text.Lowercase

/-! # Opening tags

An opening tag has a name and attributes. Attributes are separated by blanks and slashes, or by
the end of a quoted value. Values may be quoted, bare or missing; whatever cannot be read as
intended is still read in some way, as browsers do. -/

namespace StyleUsage.Markup

open StyleUsage.Text

def isQuote (c : Char) : Bool :=
  c = '"' || c = '\''

def inTagName (c : Char) : Bool :=
  !(['\t', '\n', '\r', '\x0c', ' ', '/', '>', '\x00'].contains c)

/-- A character that may stand in an attribute's name, after its first. -/
def inAttributeName (c : Char) : Bool :=
  !isBlank c && c != '/' && c != '=' && c != '>'

def inBareValue (c : Char) : Bool :=
  !isBlank c && c != '>'

/-- A character of a name after which an attribute may start without a separator. -/
def precedesAttribute (c : Char) : Bool :=
  isQuote c || isBlank c

/-- The text starts with a blank, or with a slash that does not end the tag. -/
def startsSeparated : List Char → Bool
  | [] => false
  | c :: rest => isBlank c || (c = '/' && rest.head? != some '>')

/-- A text without the separators that it starts with. -/
def skipSeparators : List Char → List Char
  | [] => []
  | c :: rest => if startsSeparated (c :: rest) then skipSeparators rest else c :: rest

theorem suffix_skipSeparators (s : List Char) : skipSeparators s <:+ s := by
  induction s with
  | nil => exact List.nil_suffix
  | cons c rest ih =>
      rw [skipSeparators]
      split
      · exact ih.trans (List.suffix_cons c rest)
      · exact List.suffix_refl _

theorem length_skipSeparators_le (s : List Char) : (skipSeparators s).length ≤ s.length :=
  (suffix_skipSeparators s).length_le

/-- The value that a text gives an attribute, and the text after the value; `s` starts behind the
attribute's name. A quote that no other one closes is no value: if blanks stand before it, the
value is empty; else, of several equals signs, the last one starts a bare value. -/
def value? (s : List Char) : Option (List Char × List Char) :=
  match s.dropWhile isBlank with
  | '=' :: signs =>
      let afterSigns := signs.dropWhile (· = '=')
      match afterSigns.dropWhile isBlank with
      | [] => some ([], [])
      | c :: inner =>
          if isQuote c then
            match inner.dropWhile (· ≠ c) with
            | _ :: after => some (inner.takeWhile (· ≠ c), after)
            | [] =>
                if afterSigns.head?.any isBlank then some ([], c :: inner)
                else if signs.head? = some '=' then
                  some ('=' :: (c :: inner).takeWhile inBareValue,
                    (c :: inner).dropWhile inBareValue)
                else none
          else some ((c :: inner).takeWhile inBareValue, (c :: inner).dropWhile inBareValue)
  | _ => none

/-- The last of some equals signs stands before what follows them. -/
theorem suffix_of_equals {s : List Char} (h : s.head? = some '=') :
    '=' :: s.dropWhile (· = '=') <:+ s := by
  obtain ⟨rest, rfl⟩ := List.head?_eq_some_iff.1 h
  rw [List.dropWhile_cons_of_pos (by decide)]
  clear h
  induction rest with
  | nil => exact List.suffix_refl _
  | cons c rest ih =>
      by_cases hc : c = '='
      · rw [hc, List.dropWhile_cons_of_pos (by decide)]
        exact ih.trans (List.suffix_cons _ _)
      · have hsame : (c :: rest).dropWhile (· = '=') = c :: rest :=
          List.dropWhile_cons_of_neg (by simp [hc])
        exact ⟨[], congrArg ('=' :: ·) hsame⟩

/-- A value stands in the text that gives it, and the rest of the text follows. -/
theorem infix_of_value? {s value after : List Char} (h : value? s = some (value, after)) :
    value <:+: s ∧ after <:+ s := by
  unfold value? at h
  split at h
  · rename_i signs hsigns
    have hsuffix : signs <:+ s := by
      have hall := List.dropWhile_suffix (l := s) isBlank
      rw [hsigns] at hall
      exact (List.suffix_cons _ _).trans hall
    have hafter : signs.dropWhile (· = '=') <:+ s := (List.dropWhile_suffix _).trans hsuffix
    simp only at h
    split at h
    · cases h
      exact ⟨List.nil_infix, List.nil_suffix⟩
    · rename_i c inner hinner
      have hbehind : c :: inner <:+ s := by
        have hall := List.dropWhile_suffix (l := signs.dropWhile (· = '=')) isBlank
        rw [hinner] at hall
        exact hall.trans hafter
      have hbare : (c :: inner).takeWhile inBareValue <:+: s :=
        (List.takeWhile_prefix _).isInfix.trans hbehind.isInfix
      have hrest : (c :: inner).dropWhile inBareValue <:+ s :=
        (List.dropWhile_suffix _).trans hbehind
      split at h
      · split at h
        · rename_i hquoted
          cases h
          have hinner : inner <:+ s := (List.suffix_cons c inner).trans hbehind
          exact ⟨(List.takeWhile_prefix _).isInfix.trans hinner.isInfix,
            (suffix_of_dropWhile hquoted).trans hinner⟩
        · split at h
          · cases h
            exact ⟨List.nil_infix, hbehind⟩
          · rename_i hblank
            split at h
            · rename_i hequals
              cases h
              refine ⟨?_, hrest⟩
              -- no blank stands behind the signs, so the last of them stands before the quote
              have hsame : signs.dropWhile (· = '=') = c :: inner := by
                cases hafterSigns : signs.dropWhile (· = '=') with
                | nil => simp [hafterSigns] at hinner
                | cons d more =>
                    have hd : ¬ isBlank d = true := by simpa [hafterSigns] using hblank
                    rw [← hinner, hafterSigns, List.dropWhile_cons_of_neg hd]
              have hlast := suffix_of_equals hequals
              rw [hsame] at hlast
              have hprefix : '=' :: (c :: inner).takeWhile inBareValue <+: '=' :: c :: inner :=
                (List.prefix_cons_inj '=').2 (List.takeWhile_prefix _)
              exact hprefix.isInfix.trans (hlast.trans hsuffix).isInfix
            · cases h
      · cases h
        exact ⟨hbare, hrest⟩
  · cases h

theorem length_le_of_value? {s value after : List Char}
    (h : value? s = some (value, after)) : after.length ≤ s.length :=
  (infix_of_value? h).2.length_le

/-- Attributes as they are written, with the text after them. An attribute may start behind a
separator, a quote or a blank that ends a name; `canStart` tells whether one may start here. -/
def writtenAttributes (canStart : Bool) (s : List Char) :
    List (List Char × List Char) × List Char :=
  match h : skipSeparators s with
  | [] => ([], [])
  | c :: rest =>
      if (!canStart && !startsSeparated s) || c = '>' || c = '/' then ([], c :: rest)
      else
        have h₁ : (rest.dropWhile inAttributeName).length < s.length := by
          have h₂ := length_skipSeparators_le s
          have h₃ := (List.dropWhile_suffix (l := rest) inAttributeName).length_le
          rw [h, List.length_cons] at h₂
          omega
        let name := c :: rest.takeWhile inAttributeName
        match hv : value? (rest.dropWhile inAttributeName) with
        | some (value, after) =>
            have := length_le_of_value? hv
            let (more, tail) := writtenAttributes true after
            ((name, value) :: more, tail)
        | none =>
            let (more, tail) :=
              writtenAttributes (name.getLast?.any precedesAttribute) (rest.dropWhile inAttributeName)
            ((name, []) :: more, tail)
termination_by s.length

/-- Attributes with another one after them. A name that is there already keeps its place and takes
the new value. -/
def insertAttribute (attributes : List (String × String)) (name value : String) :
    List (String × String) :=
  match attributes with
  | [] => [(name, value)]
  | (other, old) :: rest =>
      if other = name then (name, value) :: rest
      else (other, old) :: insertAttribute rest name value

/-- The tag that a name and attributes make. -/
def tagOf (name : List Char) (attributes : List (List Char × List Char)) : Tag where
  name := String.ofList (lowercase name)
  attributes := attributes.foldl (fun found (name, value) =>
    insertAttribute found (String.ofList (lowercase name))
      (String.ofList (resolveReferences value))) []

/-- What a text behind an opening angle bracket turns out to be. -/
inductive Opened where
  /-- A whole tag, with the text after it. -/
  | tag (tag : Tag) (selfClosing : Bool) (after : List Char)
  /-- No tag: what stands before the rest is text. -/
  | text (after : List Char)
  /-- The end of the text comes too early. -/
  | incomplete

/-- Every number in the values of some attributes can be read. -/
def checkNumbers (attributes : List (List Char × List Char)) : Except Rejection Unit :=
  match attributes.findSome? fun (_, value) => tooLongNumber? value with
  | some digits => .error (.longNumber digits)
  | none => .ok ()

/-- The tag whose name starts with `c` and goes on with `s`. What is incomplete is not read so far
that its numbers matter. -/
def openTag (c : Char) (s : List Char) : Except Rejection Opened :=
  let name := c :: s.takeWhile inTagName
  let (attributes, tail) :=
    writtenAttributes (name.getLast?.any precedesAttribute) (s.dropWhile inTagName)
  match tail with
  | [] => .ok .incomplete
  | '>' :: after => do
      checkNumbers attributes
      return .tag (tagOf name attributes) false after
  | '/' :: '>' :: after => do
      checkNumbers attributes
      return .tag (tagOf name attributes) true after
  | d :: after =>
      if d.isAlpha || d = '=' then .ok .incomplete
      else do
        checkNumbers attributes
        return .text (d :: after)

theorem suffix_writtenAttributes (canStart : Bool) (s : List Char) :
    (writtenAttributes canStart s).2 <:+ s := by
  fun_induction writtenAttributes canStart s with
  | case1 => exact List.nil_suffix
  | case2 canStart s c rest h _ => exact h ▸ suffix_skipSeparators s
  | case3 canStart s c rest h _ hlt name value after hv _ more tail heq ih =>
      rw [heq] at ih
      have hrest : c :: rest <:+ s := h ▸ suffix_skipSeparators s
      exact ih.trans ((infix_of_value? hv).2.trans ((List.dropWhile_suffix _).trans
        ((List.suffix_cons c rest).trans hrest)))
  | case4 canStart s c rest h _ hlt name hv more tail heq ih =>
      rw [heq] at ih
      have hrest : c :: rest <:+ s := h ▸ suffix_skipSeparators s
      exact ih.trans ((List.dropWhile_suffix _).trans ((List.suffix_cons c rest).trans hrest))

/-- What is left behind an opening angle bracket is the end of the text that stands there. -/
def Opened.EndsIn (s : List Char) : Opened → Prop
  | tag _ _ after | text after => after <:+ s
  | incomplete => True

/-- How much text is left after an opening angle bracket has been dealt with. -/
def Opened.left : Opened → Nat
  | tag _ _ after | text after => after.length
  | incomplete => 0

theorem Opened.EndsIn.left_le {s : List Char} {opened : Opened} (h : opened.EndsIn s) :
    opened.left ≤ s.length := by
  cases opened with
  | tag tag selfClosing after => exact h.length_le
  | text after => exact h.length_le
  | incomplete => exact Nat.zero_le _

theorem eq_of_checkNumbers_bind {attributes : List (List Char × List Char)}
    {found opened : Opened}
    (h : (do checkNumbers attributes; return found) = (.ok opened : Except Rejection Opened)) :
    opened = found := by
  cases hc : checkNumbers attributes with
  | error e => simp [hc, bind, Except.bind] at h
  | ok u => simpa [hc, bind, Except.bind, pure, Except.pure, eq_comm] using h

theorem endsIn_openTag {c : Char} {s : List Char} {opened : Opened}
    (h : openTag c s = .ok opened) : opened.EndsIn s := by
  have htail := (suffix_writtenAttributes ((c :: s.takeWhile inTagName).getLast?.any
    precedesAttribute) (s.dropWhile inTagName)).trans (List.dropWhile_suffix _)
  unfold openTag at h
  simp only at h
  split at h
  · cases h
    trivial
  · rename_i after heq
    rw [heq] at htail
    rw [eq_of_checkNumbers_bind h]
    exact (List.suffix_cons _ _).trans htail
  · rename_i after heq
    rw [heq] at htail
    rw [eq_of_checkNumbers_bind h]
    exact (List.suffix_cons _ _).trans ((List.suffix_cons _ _).trans htail)
  · rename_i d after _ _ heq
    rw [heq] at htail
    split at h
    · cases h
      trivial
    · rw [eq_of_checkNumbers_bind h]
      exact htail

end StyleUsage.Markup
