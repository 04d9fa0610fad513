import StyleUsage.Markup.Section
import StyleUsage.Markup.StartTag

/-! # Reading markup

Markup is scanned for opening tags. All else only matters for where the scan goes on: closing
tags, comments, declarations and sections are passed over, and a script or a style sheet inside
the markup is passed over up to its closing tag.

The scan is made twice. The first one stops where the text might go on; the second one starts
there, knows that the text ends, and takes what is incomplete for text. -/

namespace StyleUsage.Markup

open StyleUsage.Text

/-- Something that is passed over as far as its end, if the end is there. -/
def Opened.upTo : Option (List Char) → Opened
  | some after => .text after
  | none => .incomplete

theorem endsIn_upTo {after? : Option (List Char)} {s : List Char}
    (h : ∀ after, after? = some after → after <:+ s) : (Opened.upTo after?).EndsIn s := by
  cases after? with
  | none => trivial
  | some after => exact h after rfl

/-- What a text behind an opening angle bracket is. -/
def construct (s : List Char) : Except Rejection Opened :=
  match s with
  | '!' :: '-' :: '-' :: rest => .ok (.upTo (afterComment? rest))
  | '!' :: '[' :: rest => (section? ['<', '!', '['] rest).map .upTo
  | '!' :: rest | '?' :: rest | '/' :: rest => .ok (.upTo (afterBracket? rest))
  | c :: rest => if c.isAlpha then openTag c rest else .ok (.text (c :: rest))
  | [] => .ok .incomplete

/-- Where the scan goes on after an angle bracket that starts something incomplete. -/
def skipIncomplete (s : List Char) : List Char :=
  match afterBracket? s with
  | some after => after
  | none =>
      match s.dropWhile (· ≠ '<') with
      | [] => s
      | after => after

/-- The elements whose content is no markup. -/
def isRaw (name : String) : Bool :=
  name = "script" || name = "style"

/-- The text after the name, blanks and angle bracket that end a closing tag. -/
def afterName? (name s : List Char) : Option (List Char) :=
  let s := s.dropWhile isBlank
  if (s.take name.length).map Char.toLower = name then
    match (s.drop name.length).dropWhile isBlank with
    | '>' :: after => some after
    | _ => none
  else none

/-- The text after the first closing tag of the given name. -/
def afterClosing? (name : List Char) : List Char → Option (List Char)
  | [] => none
  | c :: rest =>
      match c, rest with
      | '<', '/' :: inner =>
          match afterName? name inner with
          | some after => some after
          | none => afterClosing? name rest
      | _, _ => afterClosing? name rest

def inEntityName (c : Char) : Bool :=
  c.isAlphanum || c = '-' || c = '.'

/-- What stands between tags, at an ampersand. -/
inductive Ampersand where
  /-- A reference or an ordinary character: the scan goes on. -/
  | passed
  /-- A reference has a number that cannot be read. -/
  | tooLong (digits : Nat)
  /-- The scan stops before the ampersand. -/
  | before
  /-- The scan stops after the number sign that follows the ampersand. -/
  | behind

/-- A number that some character ends which is no digit of base sixteen. -/
def isEndedNumber (s : List Char) : Bool :=
  let ends (digit : Char → Bool) (digits : List Char) : Bool :=
    !(digits.takeWhile digit).isEmpty &&
      (digits.dropWhile digit).head?.any fun c => !isHexDigit c
  match s with
  | 'x' :: digits | 'X' :: digits => ends isHexDigit digits
  | digits => ends Char.isDigit digits

/-- What an ampersand before `s` does to the scan. A number that is no reference stops it, and so
does a name that reaches the end of the text. -/
def ampersand (s : List Char) : Ampersand :=
  match s with
  | [] => .before
  | '#' :: number =>
      if isEndedNumber number then
        match tooLong? number with
        | some digits => .tooLong digits
        | none => .passed
      else if ';' ∈ number then .behind else .before
  | c :: rest =>
      if c.isAlpha && (rest.dropWhile inEntityName).isEmpty then .before else .passed

/-- What a scan has found, and what it has left unread: the element whose content it stopped in,
if any, and the text. -/
structure Scanned where
  tags : List Tag
  raw : Option (List Char)
  unread : List Char

def Scanned.add (tag : Tag) (found : Scanned) : Scanned :=
  { found with tags := tag :: found.tags }

theorem endsIn_construct {s : List Char} {opened : Opened} (h : construct s = .ok opened) :
    opened.EndsIn s := by
  unfold construct at h
  split at h
  · rename_i rest
    cases h
    refine endsIn_upTo fun after hafter => (suffix_of_afterComment? hafter).trans ?_
    exact List.suffix_append ['!', '-', '-'] rest
  · rename_i rest
    cases hsection : section? ['<', '!', '['] rest with
    | error e => simp [hsection, Except.map] at h
    | ok after? =>
        simp only [hsection, Except.map, Except.ok.injEq] at h
        rw [← h]
        refine endsIn_upTo fun after hafter => ?_
        rw [hafter] at hsection
        exact (suffix_of_section? hsection).trans (List.suffix_append ['!', '['] rest)
  iterate 3
    · cases h
      exact endsIn_upTo fun after hafter =>
        (suffix_of_afterBracket? hafter).trans (List.suffix_cons _ _)
  · split at h
    · have hends := endsIn_openTag h
      cases opened with
      | tag tag selfClosing after => exact hends.trans (List.suffix_cons _ _)
      | text after => exact hends.trans (List.suffix_cons _ _)
      | incomplete => trivial
    · cases h
      exact List.suffix_refl _
  · cases h
    trivial

theorem left_construct_le {s : List Char} {opened : Opened} (h : construct s = .ok opened) :
    opened.left ≤ s.length :=
  (endsIn_construct h).left_le

theorem suffix_skipIncomplete (s : List Char) : skipIncomplete s <:+ s := by
  unfold skipIncomplete
  split
  · exact suffix_of_afterBracket? (by assumption)
  · split
    · exact List.suffix_refl _
    · exact List.dropWhile_suffix _

theorem length_skipIncomplete_le (s : List Char) : (skipIncomplete s).length ≤ s.length :=
  (suffix_skipIncomplete s).length_le

theorem suffix_of_afterName? {name s after : List Char} (h : afterName? name s = some after) :
    after <:+ s := by
  unfold afterName? at h
  simp only at h
  split at h
  · split at h
    · rename_i hclose
      cases h
      exact (suffix_of_dropWhile hclose).trans
        ((List.drop_suffix _ _).trans (List.dropWhile_suffix _))
    · cases h
  · cases h

theorem suffix_of_afterClosing? {name s after : List Char}
    (h : afterClosing? name s = some after) : after <:+ s.tail := by
  fun_induction afterClosing? name s with
  | case1 => cases h
  | case2 inner next hn =>
      cases h
      exact (suffix_of_afterName? hn).trans (List.suffix_cons _ _)
  | case3 inner _ ih => exact (ih h).trans (List.tail_suffix _)
  | case4 c rest _ ih => exact (ih h).trans (List.tail_suffix _)

theorem length_lt_of_afterClosing? {name s after : List Char}
    (h : afterClosing? name s = some after) : after.length < s.length := by
  cases s with
  | nil => cases h
  | cons c rest => exact Nat.lt_succ_of_le (suffix_of_afterClosing? h).length_le

/-- The tags of a text that starts inside the raw element `raw`, if that is given. -/
def scan (final : Bool) (raw : Option (List Char)) (s : List Char) : Except Rejection Scanned :=
  match raw with
  | some name =>
      match h : afterClosing? name s with
      | none => .ok ⟨[], raw, s⟩
      | some after =>
          have := length_lt_of_afterClosing? h
          scan final none after
  | none =>
      match s with
      | [] => .ok ⟨[], none, []⟩
      | '<' :: [] => .ok ⟨[], none, ['<']⟩
      | '<' :: c :: rest =>
          match h : construct (c :: rest) with
          | .error e => .error e
          | .ok .incomplete =>
              have : (skipIncomplete (c :: rest)).length ≤ rest.length + 1 :=
                length_skipIncomplete_le (c :: rest)
              if final then scan final none (skipIncomplete (c :: rest))
              else .ok ⟨[], none, '<' :: c :: rest⟩
          | .ok (.text after) =>
              have : after.length ≤ rest.length + 1 := left_construct_le h
              scan final none after
          | .ok (.tag tag selfClosing after) =>
              have : after.length ≤ rest.length + 1 := left_construct_le h
              (scan final (if isRaw tag.name && !selfClosing then some tag.name.toList else none)
                after).map (.add tag)
      | '&' :: rest =>
          match ampersand rest with
          | .passed => scan final none rest
          | .tooLong digits => .error (.longNumber digits)
          | .before => .ok ⟨[], none, '&' :: rest⟩
          | .behind => .ok ⟨[], none, rest.drop 1⟩
      | _ :: rest => scan final none rest
termination_by s.length

end StyleUsage.Markup

namespace StyleUsage

/-- The opening tags of a markup text, in order, or the reason to reject it. -/
def Markup.tags (markup : String) : Except Markup.Rejection (List Tag) := do
  let first ← Markup.scan false none markup.toList
  let second ← Markup.scan true first.raw first.unread
  return first.tags ++ second.tags

/-- Calls a handler with the name and the attributes of every opening tag, in order. The result is
the number of tags, or the reason to reject the text; a rejected text calls nothing. -/
def Markup.report {m : Type → Type} [Monad m] (markup : String)
    (onOpenTag : String → List (String × String) → m Unit) : m (Except Markup.Rejection Nat) :=
  match Markup.tags markup with
  | .error rejection => return .error rejection
  | .ok tags => do
      tags.forM fun tag => onOpenTag tag.name tag.attributes
      return .ok tags.length

end StyleUsage
