import Mathlib
import StyleUsage.Stylesheet.Parse

/-!
# The token language of stylesheets

Which lists of tokens make a stylesheet is said by conditions on single places of the list: what
stands before a brace, what follows a head, how many braces are open there. The same lists are
read token by token, with the count of open braces and the head that waits for what follows it.
-/

namespace StyleUsage.Stylesheet

open StyleUsage.Text

/-- A text that starts with the name of an at-rule. -/
def IsAtRule (text : List Char) : Prop :=
  ∃ c rest, text = '@' :: c :: rest ∧ isNameChar c = true

/-- A head that a block may follow. -/
def HeadsBlock (text : List Char) : Prop :=
  IsAtRule text ∨ text.head? ≠ some '@' ∧ splitSelectors text ≠ []

/-- A text with a colon and something other than blanks before the first one. -/
def IsDeclaration (text : List Char) : Prop :=
  ∃ property value, text = property ++ ':' :: value ∧ ':' ∉ property ∧
    ∃ c ∈ property, isBlank c = false

/-- How a token changes the count of open braces. -/
def Token.delta : Token → Int
  | .leftBrace => 1
  | .rightBrace => -1
  | _ => 0

/-- Opening braces less closing braces. -/
def depth (tokens : List Token) : Int :=
  (tokens.map Token.delta).sum

@[simp] theorem depth_nil : depth [] = 0 := rfl

@[simp] theorem depth_cons (t : Token) (tokens : List Token) :
    depth (t :: tokens) = t.delta + depth tokens := by
  simp [depth]

/-- The tokens of a stylesheet. -/
structure Conforms (tokens : List Token) : Prop where
  /-- Every opening brace comes right after a head. -/
  headed : ∀ before after, tokens = before ++ .leftBrace :: after →
    ∃ text, before.getLast? = some (.head text)
  /-- Right after every head comes a brace or a semicolon; a closing brace only in a block. -/
  followed : ∀ before text after, tokens = before ++ .head text :: after →
    after.head? = some .leftBrace ∨ after.head? = some .semicolon ∨
      after.head? = some .rightBrace ∧ 1 ≤ depth before
  /-- No brace closes what is not open. -/
  nested : ∀ before after, tokens = before ++ after → 0 ≤ depth before
  /-- Every open brace is closed in the end. -/
  closed : depth tokens = 0
  /-- A statement outside of blocks is an at-rule. -/
  statement : ∀ before text after, tokens = before ++ .head text :: after →
    after.head? = some .semicolon → depth before = 0 → IsAtRule text
  /-- What heads a block is an at-rule or has a selector. -/
  block : ∀ before text after, tokens = before ++ .head text :: after →
    after.head? = some .leftBrace → HeadsBlock text
  /-- What ends with a semicolon or with its block is a declaration in a block. -/
  declaration : ∀ before text after, tokens = before ++ .head text :: after →
    after.head? = some .semicolon ∨ after.head? = some .rightBrace → 1 ≤ depth before →
    IsDeclaration text

/-! ## Reading token by token -/

/-- What a head has to be, given the count of open braces before it and the token after it. -/
def Suffices (d : Int) (text : List Char) : Option Token → Prop
  | some .leftBrace => HeadsBlock text
  | some .semicolon => (d = 0 → IsAtRule text) ∧ (1 ≤ d → IsDeclaration text)
  | some .rightBrace => 1 ≤ d ∧ IsDeclaration text
  | _ => False

/-- The remaining tokens go on as they should, given the count of open braces and the last token
before them. -/
def GoesOn (d : Int) (previous : Option Token) : List Token → Prop
  | [] => d = 0
  | t :: rest => 0 ≤ d + t.delta ∧ (t = .leftBrace → ∃ text, previous = some (.head text)) ∧
      (∀ text, t = .head text → Suffices d text rest.head?) ∧
      GoesOn (d + t.delta) (some t) rest

/-- A statement about every place of a list is one about its start and about the places after
that. -/
theorem forall_splits_cons {α : Type} {P : List α → List α → Prop} {a : α} {l : List α} :
    (∀ before after, a :: l = before ++ after → P before after) ↔
      P [] (a :: l) ∧ ∀ before after, l = before ++ after → P (a :: before) after := by
  constructor
  · intro h
    exact ⟨h [] (a :: l) rfl, fun before after hl => h (a :: before) after (by rw [hl]; rfl)⟩
  · rintro ⟨hfirst, hrest⟩ before after hl
    cases before with
    | nil =>
        rw [List.nil_append] at hl
        exact hl ▸ hfirst
    | cons b before =>
        rw [List.cons_append] at hl
        obtain ⟨rfl, htail⟩ := List.cons.inj hl
        exact hrest before after htail

/-- What has to hold at one place, given the count of open braces, the token before it and the
tokens from there on. -/
def FitsAt (d : Int) (previous : Option Token) : List Token → Prop
  | [] => d = 0
  | t :: rest => 0 ≤ d + t.delta ∧ (t = .leftBrace → ∃ text, previous = some (.head text)) ∧
      ∀ text, t = .head text → Suffices d text rest.head?

theorem goesOn_iff {d : Int} {previous : Option Token} {tokens : List Token} :
    GoesOn d previous tokens ↔ ∀ before after, tokens = before ++ after →
      FitsAt (d + depth before) (before.getLast?.or previous) after := by
  induction tokens generalizing d previous with
  | nil =>
      constructor
      · intro h before after hnil
        obtain ⟨rfl, rfl⟩ := List.append_eq_nil_iff.1 hnil.symm
        simpa [FitsAt, GoesOn] using h
      · intro h
        simpa [FitsAt, GoesOn] using h [] [] rfl
  | cons t rest ih =>
      have hlast (before : List Token) :
          (t :: before).getLast?.or previous = before.getLast?.or (some t) := by
        rw [List.getLast?_cons]
        cases before.getLast? <;> rfl
      rw [forall_splits_cons]
      simp only [GoesOn, ih, FitsAt, hlast, depth_cons, Int.add_assoc, depth_nil, Int.add_zero,
        List.getLast?_nil, Option.none_or, and_assoc]

theorem Conforms.goesOn {tokens : List Token} (h : Conforms tokens) : GoesOn 0 none tokens := by
  rw [goesOn_iff]
  simp only [Int.zero_add, Option.or_none]
  intro before after htokens
  cases after with
  | nil =>
      rw [List.append_nil] at htokens
      exact htokens ▸ h.closed
  | cons t rest =>
      have hnested := h.nested (before ++ [t]) rest (by simp [htokens])
      have hdepth : depth (before ++ [t]) = depth before + t.delta := by simp [depth]
      refine ⟨hdepth ▸ hnested, ?_, ?_⟩
      · rintro rfl
        exact h.headed before rest htokens
      · rintro text rfl
        have hdeclaration := h.declaration before text rest htokens
        rcases h.followed before text rest htokens with hnext | hnext | ⟨hnext, hopen⟩
        · rw [hnext]
          exact h.block before text rest htokens hnext
        · rw [hnext]
          exact ⟨h.statement before text rest htokens hnext, hdeclaration (.inl hnext)⟩
        · rw [hnext]
          exact ⟨hopen, hdeclaration (.inr hnext) hopen⟩

/-- What may follow a head that suffices. -/
theorem Suffices.followed {d : Int} {text : List Char} {next : Option Token}
    (h : Suffices d text next) :
    next = some .leftBrace ∨ next = some .semicolon ∨ next = some .rightBrace ∧ 1 ≤ d := by
  cases next with
  | none => exact h.elim
  | some t =>
      cases t with
      | head other => exact h.elim
      | leftBrace => exact .inl rfl
      | semicolon => exact .inr (.inl rfl)
      | rightBrace => exact .inr (.inr ⟨rfl, h.1⟩)

theorem conforms_of_goesOn {tokens : List Token} (h : GoesOn 0 none tokens) :
    Conforms tokens := by
  rw [goesOn_iff] at h
  simp only [Int.zero_add, Option.or_none] at h
  have hsuffices {before : List Token} {text : List Char} {after : List Token}
      (htokens : tokens = before ++ .head text :: after) :
      Suffices (depth before) text after.head? := (h before _ htokens).2.2 text rfl
  constructor
  case headed =>
    intro before after htokens
    exact (h before _ htokens).2.1 rfl
  case followed =>
    intro before text after htokens
    exact (hsuffices htokens).followed
  case nested =>
    intro before after htokens
    rcases List.eq_nil_or_concat before with rfl | ⟨init, t, rfl⟩
    · exact Int.le_refl 0
    · have hfits := (h init (t :: after) (by simpa using htokens)).1
      simpa [depth] using hfits
  case closed => exact h tokens [] (List.append_nil tokens).symm
  case statement =>
    intro before text after htokens hnext
    have hall := hsuffices htokens
    rw [hnext] at hall
    exact hall.1
  case block =>
    intro before text after htokens hnext
    have hall := hsuffices htokens
    rw [hnext] at hall
    exact hall
  case declaration =>
    intro before text after htokens hnext hopen
    have hall := hsuffices htokens
    rcases hnext with hnext | hnext
    · rw [hnext] at hall
      exact hall.2 hopen
    · rw [hnext] at hall
      exact hall.2

theorem conforms_iff {tokens : List Token} : Conforms tokens ↔ GoesOn 0 none tokens :=
  ⟨Conforms.goesOn, conforms_of_goesOn⟩

end StyleUsage.Stylesheet
