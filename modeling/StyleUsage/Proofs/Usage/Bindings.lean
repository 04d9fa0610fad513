import Mathlib.Data.List.Infix
import StyleUsage.Proofs.Lists.Attempts
import StyleUsage.Proofs.Text.Spans
import StyleUsage.Proofs.Text.Trim
import StyleUsage.Usage.Collector

/-!
# Bindings

What is found in a text as such are the names of the bindings that stand in it from their first
character to the equals sign. No angle bracket belongs to a binding, so a text may be cut at one
without any binding lost or won. At a tag, an attribute binds the name in its own name.
-/

namespace StyleUsage.Usage

open StyleUsage.Text

variable {c : Char} {s t rest name binding : List Char}

/-- The word that starts a binding, in any letter case. -/
def IsKeyword (keyword : List Char) : Prop :=
  List.Forall₂ (fun letter c => sameLetter letter c = true) ['c', 'l', 'a', 's', 's'] keyword

/-- A binding of the name, from the character before it to its equals sign. -/
inductive IsBinding (name : List Char) : List Char → Prop where
  | intro {c : Char} {keyword blanks : List Char} (hbefore : precedesBinding c = true)
      (hkeyword : IsKeyword keyword) (hne : name ≠ [])
      (hname : ∀ d ∈ name, inWrittenName d = true) (hblanks : AllBlank blanks) :
      IsBinding name (c :: '[' :: (keyword ++ '.' :: (name ++ ']' :: (blanks ++ ['=']))))

/-- The name of an attribute that binds the given name. A line feed may follow the bracket. -/
def IsBindingName (key name : List Char) : Prop :=
  ∃ keyword ending, IsKeyword keyword ∧ name ≠ [] ∧ (∀ c ∈ name, c ≠ ']' ∧ isBlank c = false) ∧
    (ending = [] ∨ ending = ['\n']) ∧ key = '[' :: (keyword ++ '.' :: (name ++ ']' :: ending))

/-- The text has a binding of the name in it. -/
def Binds (s name : List Char) : Prop :=
  ∃ binding, IsBinding name binding ∧ binding <:+: s

theorem IsBinding.ne_nil (h : IsBinding name binding) : binding ≠ [] := by
  cases h
  exact List.cons_ne_nil _ _

/-- The name of a binding stands in the text that has the binding. -/
theorem Binds.infix_name (h : Binds s name) : name <:+: s := by
  obtain ⟨-, @⟨c, keyword, blanks, -, -, -, -, -⟩, hinfix⟩ := h
  refine List.IsInfix.trans ?_ hinfix
  exact ⟨c :: '[' :: (keyword ++ ['.']), ']' :: (blanks ++ ['=']), by simp⟩

theorem Binds.ne_empty {name : String} (h : Binds s name.toList) : name ≠ "" := by
  obtain ⟨-, ⟨-, -, hne, -, -⟩, -⟩ := h
  rintro rfl
  exact hne rfl

/-! ## How bindings are found -/

theorem afterBindingStart?_eq_some_iff : afterBindingStart? s = some rest ↔
    ∃ keyword, IsKeyword keyword ∧ s = '[' :: (keyword ++ '.' :: rest) := by
  constructor
  · intro h
    unfold afterBindingStart? at h
    split at h
    case h_1 c₁ c₂ c₃ c₄ c₅ rest' =>
        split at h
        case isTrue hsame =>
            cases h
            simp only [Bool.and_eq_true] at hsame
            obtain ⟨⟨⟨⟨h₁, h₂⟩, h₃⟩, h₄⟩, h₅⟩ := hsame
            exact ⟨[c₁, c₂, c₃, c₄, c₅],
              .cons h₁ (.cons h₂ (.cons h₃ (.cons h₄ (.cons h₅ .nil)))), rfl⟩
        case isFalse => cases h
    case h_2 => cases h
  · rintro ⟨keyword, hkeyword, rfl⟩
    obtain _ | ⟨h₁, _ | ⟨h₂, _ | ⟨h₃, _ | ⟨h₄, _ | ⟨h₅, _ | _⟩⟩⟩⟩⟩ := hkeyword
    simp [afterBindingStart?, h₁, h₂, h₃, h₄, h₅]

theorem boundName?_eq_some_iff {key : List Char} :
    boundName? key = some name ↔ IsBindingName key name := by
  constructor
  · intro h
    unfold boundName? at h
    split at h
    case h_1 => cases h
    case h_2 behind hstart =>
        obtain ⟨keyword, hkeyword, rfl⟩ := afterBindingStart?_eq_some_iff.1 hstart
        simp only at h
        split at h
        case isTrue hbound =>
            cases h
            obtain ⟨hne, hend⟩ := hbound
            have hsplit := List.takeWhile_append_dropWhile (p := fun c => c != ']' && !isBlank c)
              (l := behind)
            obtain ⟨ending, hending, hafter⟩ : ∃ ending, (ending = [] ∨ ending = ['\n']) ∧
                (behind.dropWhile fun c => c != ']' && !isBlank c) = ']' :: ending := by
              rcases hend with hend | hend
              · exact ⟨[], .inl rfl, hend⟩
              · exact ⟨['\n'], .inr rfl, hend⟩
            refine ⟨keyword, ending, hkeyword, hne, fun c hc => ?_, hending, ?_⟩
            · simpa using List.all_eq_true.1 List.all_takeWhile c hc
            · rw [← hafter, hsplit]
        case isFalse => cases h
  · rintro ⟨keyword, ending, hkeyword, hne, hname, hend, rfl⟩
    have hstart := afterBindingStart?_eq_some_iff.2 ⟨keyword, hkeyword,
      Eq.refl ('[' :: (keyword ++ '.' :: (name ++ ']' :: ending)))⟩
    have hin (c : Char) (hc : c ∈ name) : (c != ']' && !isBlank c) = true := by
      obtain ⟨hbracket, hblank⟩ := hname c hc
      simp [hbracket, hblank]
    obtain ⟨htake, hdrop⟩ := span_append (']' :: ending) hin rfl
    rw [boundName?, hstart]
    simp only [htake, hdrop]
    rw [if_pos]
    refine ⟨hne, ?_⟩
    rcases hend with rfl | rfl
    · exact .inl rfl
    · exact .inr rfl

theorem dropWhile_blanks {blanks : List Char} (hblanks : AllBlank blanks) (rest : List Char) :
    (blanks ++ '=' :: rest).dropWhile isBlank = '=' :: rest :=
  (span_append ('=' :: rest) hblanks rfl).2

theorem writtenBinding?_eq_some_iff : writtenBinding? s = some name ↔
    name ≠ [] ∧ (∀ c ∈ name, inWrittenName c = true) ∧ ∃ keyword blanks rest,
      IsKeyword keyword ∧ AllBlank blanks ∧
        s = '[' :: (keyword ++ '.' :: (name ++ ']' :: (blanks ++ '=' :: rest))) := by
  constructor
  · intro h
    unfold writtenBinding? at h
    split at h
    case h_1 => cases h
    case h_2 behind hstart =>
        obtain ⟨keyword, hkeyword, rfl⟩ := afterBindingStart?_eq_some_iff.1 hstart
        have hsplit := List.takeWhile_append_dropWhile (p := inWrittenName) (l := behind)
        have hall (d : Char) (hd : d ∈ behind.takeWhile inWrittenName) : inWrittenName d = true :=
          List.all_eq_true.1 List.all_takeWhile d hd
        simp only at h
        split at h
        case h_1 first more after htake hdrop =>
            split at h
            case isTrue hequals =>
                cases h
                obtain ⟨rest, hrest⟩ := List.head?_eq_some_iff.1 hequals
                have hafter := List.takeWhile_append_dropWhile (p := isBlank) (l := after)
                rw [hrest] at hafter
                refine ⟨by simp [htake], hall, keyword, after.takeWhile isBlank, rest, hkeyword,
                  allBlank_takeWhile after, ?_⟩
                rw [hafter, ← hdrop, hsplit]
            case isFalse => cases h
        case h_2 => cases h
  · rintro ⟨hne, hname, keyword, blanks, rest, hkeyword, hblanks, rfl⟩
    have hstart := afterBindingStart?_eq_some_iff.2 ⟨keyword, hkeyword,
      Eq.refl ('[' :: (keyword ++ '.' :: (name ++ ']' :: (blanks ++ '=' :: rest))))⟩
    obtain ⟨htake, hdrop⟩ := span_append (']' :: (blanks ++ '=' :: rest)) hname rfl
    rw [writtenBinding?, hstart]
    simp only [htake, hdrop]
    cases name with
    | nil => exact absurd rfl hne
    | cons d more => simp only [dropWhile_blanks hblanks, List.head?_cons, if_true]

theorem mem_writtenBindings_cons : name ∈ writtenBindings (c :: rest) ↔
    precedesBinding c = true ∧ writtenBinding? rest = some name ∨ name ∈ writtenBindings rest := by
  rw [writtenBindings]
  split
  case h_1 found hfound =>
      split at hfound
      case isTrue hc => simp [hc, hfound, eq_comm]
      case isFalse => cases hfound
  case h_2 hnone =>
      split at hnone
      case isTrue hc => simp [hc, hnone]
      case isFalse hc => simp [hc]

/-- A text shows the names that are bound in it, and no others. The induction is on the text, every
place of which is looked at on its own. -/
theorem mem_writtenBindings_iff : name ∈ writtenBindings s ↔ Binds s name := by
  induction s with
  | nil =>
      constructor
      · intro h
        cases h
      · rintro ⟨binding, hbinding, hinfix⟩
        exact absurd (List.infix_nil.1 hinfix) hbinding.ne_nil
  | cons c rest ih =>
      rw [mem_writtenBindings_cons, ih]
      constructor
      · rintro (⟨hc, hfound⟩ | ⟨binding, hbinding, hinfix⟩)
        · obtain ⟨hne, hname, keyword, blanks, after, hkeyword, hblanks, rfl⟩ :=
            writtenBinding?_eq_some_iff.1 hfound
          exact ⟨_, .intro hc hkeyword hne hname hblanks, [], after, by simp⟩
        · exact ⟨binding, hbinding, List.infix_cons hinfix⟩
      · rintro ⟨binding, hbinding, hinfix⟩
        rcases List.infix_cons_iff.1 hinfix with hprefix | hinfix
        · left
          cases hbinding with
          | @intro d keyword blanks hd hkeyword hne hname hblanks =>
              obtain ⟨after, hafter⟩ := hprefix
              rw [List.cons_append] at hafter
              obtain ⟨rfl, rfl⟩ := List.cons.inj hafter
              exact ⟨hd, writtenBinding?_eq_some_iff.2
                ⟨hne, hname, keyword, blanks, after, hkeyword, hblanks, by simp⟩⟩
        · exact .inr ⟨binding, hbinding, hinfix⟩

theorem mem_fromMarkup {markup name : String} :
    name ∈ Collector.directives.fromMarkup markup ↔ Binds markup.toList name.toList := by
  rw [Collector.fromMarkup, ← mem_writtenBindings_iff, List.mem_map]
  constructor
  · rintro ⟨n, hn, rfl⟩
    rwa [String.toList_ofList]
  · intro hname
    exact ⟨name.toList, hname, String.ofList_toList⟩

/-! ## Where a text may be cut -/

theorem IsBinding.getLast?_eq (h : IsBinding name binding) : binding.getLast? = some '=' := by
  obtain @⟨c, keyword, blanks, -, -, -, -, -⟩ := h
  have hlast : c :: '[' :: (keyword ++ '.' :: (name ++ ']' :: (blanks ++ ['=']))) =
      (c :: '[' :: (keyword ++ '.' :: (name ++ ']' :: blanks))) ++ ['='] := by simp
  rw [hlast, List.getLast?_concat]

/-- Both angle brackets are foreign to a binding. -/
theorem IsBinding.bracket_notMem (h : IsBinding name binding) {bracket : Char}
    (hbracket : bracket = '<' ∨ bracket = '>') : bracket ∉ binding := by
  have hstart : precedesBinding bracket = false := by rcases hbracket with rfl | rfl <;> decide
  have hin : inWrittenName bracket = false := by rcases hbracket with rfl | rfl <;> decide
  have hblank : isBlank bracket = false := by rcases hbracket with rfl | rfl <;> decide
  have hletters : ['c', 'l', 'a', 's', 's'].all (!sameLetter · bracket) = true := by
    rcases hbracket with rfl | rfl <;> decide
  have hmarks : bracket ∉ ['[', '.', ']', '='] := by rcases hbracket with rfl | rfl <;> decide
  obtain @⟨c, keyword, blanks, hbefore, hkeyword, -, hname, hblanks⟩ := h
  have hkey : bracket ∉ keyword := by
    intro hmem
    obtain ⟨letter, hletter, hsame⟩ := exists_of_mem_forall₂ hkeyword hmem
    have hother := List.all_eq_true.1 hletters letter hletter
    rw [hsame] at hother
    cases hother
  have hnot : bracket ∉ name ∧ bracket ∉ blanks := by
    constructor
    · intro hmem
      exact ne_of_test (hname _ hmem) hin rfl
    · intro hmem
      exact ne_of_test (hblanks _ hmem) hblank rfl
  have hne : bracket ≠ c := (ne_of_test hbefore hstart).symm
  simp only [List.mem_cons, List.not_mem_nil, or_false, not_or] at hmarks
  simp [hne, hmarks, hkey, hnot]

/-- Nothing that an angle bracket ends or starts runs from one of the texts into the other. -/
def Parted (s t : List Char) : Prop :=
  (∀ c, s.getLast? = some c → c = '>') ∨ ∀ c, t.head? = some c → c = '<'

theorem parted_of_close (s t : List Char) : Parted (s ++ ['>']) t := by
  left
  intro c hc
  rw [List.getLast?_concat] at hc
  exact (Option.some.inj hc).symm

theorem parted_of_open (s t : List Char) : Parted s ('<' :: t) :=
  .inr fun _ hc => (Option.some.inj hc).symm

/-- What stands around both texts, behind a bracket and before one, makes no difference. -/
theorem Parted.enclosed {pre post : List Char} (h : Parted s t) :
    Parted (pre ++ '>' :: s) (t ++ '<' :: post) := by
  rcases h with hlast | hfirst
  · left
    intro c hc
    cases s with
    | nil => simpa [eq_comm] using hc
    | cons d s =>
        rw [List.getLast?_append_of_ne_nil _ (List.cons_ne_nil _ _), List.getLast?_cons_cons] at hc
        exact hlast c hc
  · right
    intro c hc
    cases t with
    | nil => simpa [eq_comm] using hc
    | cons d t => exact hfirst c hc

/-- A binding does not run over the place between two texts if a bracket stands there. -/
theorem binds_append (h : Parted s t) : Binds (s ++ t) name ↔ Binds s name ∨ Binds t name := by
  constructor
  · rintro ⟨binding, hbinding, hinfix⟩
    rcases List.infix_append_iff_ne_nil.1 hinfix with hs | ht | ⟨u, v, hu, hv, rfl, hus, hvt⟩
    · exact .inl ⟨binding, hbinding, hs⟩
    · exact .inr ⟨binding, hbinding, ht⟩
    · -- one part of the binding ends the first text, and the other part starts the second one
      exfalso
      rcases h with hlast | hfirst
      · obtain ⟨before, rfl⟩ := hus
        have hclose : u.getLast hu = '>' :=
          hlast _ (by rw [List.getLast?_append_of_ne_nil _ hu, List.getLast?_eq_some_getLast hu])
        have hmem := List.mem_append_left v (List.getLast_mem hu)
        rw [hclose] at hmem
        exact hbinding.bracket_notMem (.inr rfl) hmem
      · obtain ⟨after, rfl⟩ := hvt
        obtain ⟨c, v, rfl⟩ := List.exists_cons_of_ne_nil hv
        obtain rfl : c = '<' := hfirst c rfl
        exact hbinding.bracket_notMem (.inl rfl) (by simp)
  · rintro (⟨binding, hbinding, hinfix⟩ | ⟨binding, hbinding, hinfix⟩)
    · exact ⟨binding, hbinding, hinfix.trans (List.prefix_append s t).isInfix⟩
    · exact ⟨binding, hbinding, hinfix.trans (List.suffix_append s t).isInfix⟩

theorem binds_cons (hc : precedesBinding c = false) : Binds (c :: s) name ↔ Binds s name := by
  rw [← mem_writtenBindings_iff, mem_writtenBindings_cons, ← mem_writtenBindings_iff]
  simp [hc]

/-- A text without an equals sign ends no binding. -/
theorem binds_append_of_notMem (h : '=' ∉ t) : Binds (s ++ t) name ↔ Binds s name := by
  constructor
  · rintro ⟨binding, hbinding, hinfix⟩
    have hlast := hbinding.getLast?_eq
    rcases List.infix_append_iff_ne_nil.1 hinfix with hs | ht | ⟨u, v, -, hv, rfl, -, hvt⟩
    · exact ⟨binding, hbinding, hs⟩
    · exact absurd (ht.subset (List.mem_of_getLast? hlast)) h
    · rw [List.getLast?_append_of_ne_nil _ hv] at hlast
      exact absurd (hvt.subset (List.mem_of_getLast? hlast)) h
  · rintro ⟨binding, hbinding, hinfix⟩
    exact ⟨binding, hbinding, hinfix.trans (List.prefix_append s t).isInfix⟩

end StyleUsage.Usage
