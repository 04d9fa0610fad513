import StyleUsage.Text.Blank

/-!
# Trimmed texts

Trimming takes off the blanks at the two ends of a text, however many there are, and nothing else.
-/

namespace StyleUsage.Text

/-- A text that holds blanks alone. -/
def AllBlank (s : List Char) : Prop :=
  ∀ c ∈ s, isBlank c = true

/-- A text with no blank at either end. -/
structure IsTrimmed (s : List Char) : Prop where
  first : ∀ c, s.head? = some c → isBlank c = false
  last : ∀ c, s.getLast? = some c → isBlank c = false

variable {s pre post : List Char}

theorem isTrimmed_iff : IsTrimmed s ↔
    s.head?.all (!isBlank ·) = true ∧ s.getLast?.all (!isBlank ·) = true := by
  simp only [Option.all_eq_true, Bool.not_eq_true']
  exact ⟨fun h => ⟨h.first, h.last⟩, fun h => ⟨h.1, h.2⟩⟩

instance (s : List Char) : Decidable (IsTrimmed s) :=
  decidable_of_iff _ isTrimmed_iff.symm

theorem allBlank_takeWhile (s : List Char) : AllBlank (s.takeWhile isBlank) := by
  intro c hc
  exact List.all_eq_true.1 List.all_takeWhile c hc

theorem trim_append_left (h : AllBlank pre) : trim (pre ++ s) = trim s := by
  unfold trim
  rw [List.dropWhile_append_of_pos h]

theorem dropWhile_eq_nil (h : AllBlank s) : s.dropWhile isBlank = [] := by
  have hall : (s ++ []).dropWhile isBlank = List.dropWhile isBlank [] :=
    List.dropWhile_append_of_pos h
  simpa using hall

theorem trim_append_right (h : AllBlank post) : trim (s ++ post) = trim s := by
  unfold trim
  rw [List.dropWhile_append]
  split
  case isTrue hempty =>
      rw [List.isEmpty_iff.1 hempty, dropWhile_eq_nil h]
  case isFalse =>
      have hreverse : AllBlank post.reverse := fun c hc => h c (List.mem_reverse.1 hc)
      rw [List.reverse_append, List.dropWhile_append_of_pos hreverse]

theorem trim_of_allBlank (h : AllBlank s) : trim s = [] := by
  unfold trim
  rw [dropWhile_eq_nil h]
  rfl

/-- A text is its trimmed part with blanks around it. -/
theorem exists_eq_trim (s : List Char) :
    ∃ pre post, AllBlank pre ∧ AllBlank post ∧ s = pre ++ trim s ++ post := by
  refine ⟨s.takeWhile isBlank, ((s.dropWhile isBlank).reverse.takeWhile isBlank).reverse,
    allBlank_takeWhile s, ?_, ?_⟩
  · intro c hc
    exact allBlank_takeWhile _ c (List.mem_reverse.1 hc)
  · rw [trim, List.append_assoc, ← List.reverse_append, List.takeWhile_append_dropWhile,
      List.reverse_reverse, List.takeWhile_append_dropWhile]

theorem trim_eq_nil_iff : trim s = [] ↔ AllBlank s := by
  refine ⟨fun h => ?_, trim_of_allBlank⟩
  obtain ⟨pre, post, hpre, hpost, hs⟩ := exists_eq_trim s
  rw [h, List.append_nil] at hs
  rw [hs]
  intro c hc
  rcases List.mem_append.1 hc with hc | hc
  · exact hpre c hc
  · exact hpost c hc

theorem trim_of_isTrimmed (h : IsTrimmed s) : trim s = s := by
  have hfirst : s.dropWhile isBlank = s := by
    cases s with
    | nil => rfl
    | cons c rest => simp [h.first c rfl]
  have hlast : s.reverse.dropWhile isBlank = s.reverse := by
    cases hs : s.reverse with
    | nil => rfl
    | cons c rest =>
        have hc : isBlank c = false := h.last c (by rw [← List.head?_reverse, hs]; rfl)
        simp [hc]
  rw [trim, hfirst, hlast, List.reverse_reverse]

theorem isBlank_of_head?_dropWhile {c : Char} (h : (s.dropWhile isBlank).head? = some c) :
    isBlank c = false := by
  have hfirst := List.head?_dropWhile_not isBlank s
  rw [h] at hfirst
  simpa using hfirst

/-- A trimmed text has no blank at either end. -/
theorem isTrimmed_trim (s : List Char) : IsTrimmed (trim s) := by
  constructor
  case first =>
    intro c hc
    -- the blanks that go at the end leave the first character where it is
    have hprefix : trim s <+: s.dropWhile isBlank := by
      have hsuffix := List.dropWhile_suffix (l := (s.dropWhile isBlank).reverse) isBlank
      simpa [trim] using List.reverse_prefix.2 hsuffix
    obtain ⟨rest, hrest⟩ := hprefix
    apply isBlank_of_head?_dropWhile (s := s)
    rw [← hrest, List.head?_append, hc]
    rfl
  case last =>
    intro c hc
    rw [trim, List.getLast?_reverse] at hc
    exact isBlank_of_head?_dropWhile hc

/-- A text with blanks around it. -/
def IsPadded (s padded : List Char) : Prop :=
  ∃ pre post, AllBlank pre ∧ AllBlank post ∧ padded = pre ++ s ++ post

/-- The blanks around a trimmed text are all that trimming takes off. -/
theorem trim_of_isPadded {padded : List Char} (hs : IsTrimmed s) (h : IsPadded s padded) :
    trim padded = s := by
  obtain ⟨pre, post, hpre, hpost, rfl⟩ := h
  rw [trim_append_right hpost, trim_append_left hpre, trim_of_isTrimmed hs]

end StyleUsage.Text
