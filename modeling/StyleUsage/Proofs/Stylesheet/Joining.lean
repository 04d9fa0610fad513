import StyleUsage.Proofs.Stylesheet.Brackets
import StyleUsage.Proofs.Stylesheet.Language

/-!
# Lists taken apart and put together

Selectors that are closed are found again when they are joined by commas, whatever blanks and blank
entries stand around these. Of any list whatsoever, the selectors that are found fall apart no
further: after a separating comma a scan is where it was at the start.
-/

namespace StyleUsage.Stylesheet

open StyleUsage.Text

/-- A scan of the text ends as it starts: outside of quotations and brackets, with nothing
escaped. -/
def IsClosed (s : List Char) : Prop :=
  s.foldl SelectorScan.next .start = .start

/-- No comma of the text separates two selectors: each stands in a quotation or in brackets, or is
escaped. -/
def IsSeparatorFree (s : List Char) : Prop :=
  ∀ before after, s = before ++ after → after.head? = some ',' →
    (before.foldl SelectorScan.next .start).separates ',' = false

/-- The entries are the selectors, in order and with blanks around them, and blank ones anywhere
between them. -/
inductive Lists : (selectors entries : List (List Char)) → Prop where
  | nil : Lists [] []
  | blank {entry : List Char} {selectors entries : List (List Char)} (h : AllBlank entry)
      (hrest : Lists selectors entries) : Lists selectors (entry :: entries)
  | selector {s entry : List Char} {selectors entries : List (List Char)} (h : IsPadded s entry)
      (hrest : Lists selectors entries) : Lists (s :: selectors) (entry :: entries)

variable {state final : SelectorScan} {s t p : List Char} {c : Char}
  {selectors entries : List (List Char)}

/-! ## Scans that meet no separating comma -/

theorem passes_nil_iff : Passes state [] final ↔ state = final := by
  constructor
  · rintro ⟨⟩
    rfl
  · rintro rfl
    exact .nil

theorem passes_cons_iff :
    Passes state (c :: s) final ↔ state.separates c = false ∧ Passes (state.next c) s final := by
  constructor
  · rintro (_ | ⟨hc, rfl, hrest⟩)
    exact ⟨hc, hrest⟩
  · rintro ⟨hc, hrest⟩
    exact .cons hc rfl hrest

theorem passes_append_iff :
    Passes state (s ++ t) final ↔ ∃ middle, Passes state s middle ∧ Passes middle t final := by
  induction s generalizing state with
  | nil => simp [passes_nil_iff]
  | cons c rest ih => simp only [List.cons_append, passes_cons_iff, ih, and_assoc, exists_and_left]

/-- A scan passes a text exactly if it runs from one state to the other, and separates at none of
its commas. -/
theorem passes_iff : Passes state s final ↔ s.foldl SelectorScan.next state = final ∧
    ∀ before after, s = before ++ after → after.head? = some ',' →
      (before.foldl SelectorScan.next state).separates ',' = false := by
  induction s generalizing state with
  | nil => simp [passes_nil_iff]
  | cons c rest ih =>
      have hfirst : ((c :: rest).head? = some ',' → state.separates ',' = false) ↔
          state.separates c = false := by
        by_cases hc : c = ','
        · simp [hc]
        · simp [hc, separates_of_ne hc]
      rw [passes_cons_iff, ih, forall_splits_cons, List.foldl_nil, hfirst]
      simp only [List.foldl_cons, and_left_comm]

theorem isUndivided_iff : IsUndivided s ↔
    IsTrimmed s ∧ s ≠ [] ∧ IsClosed s ∧ IsSeparatorFree s := by
  constructor
  · rintro ⟨htrimmed, hne, hpasses⟩
    exact ⟨htrimmed, hne, passes_iff.1 hpasses⟩
  · rintro ⟨htrimmed, hne, hclosed, hfree⟩
    exact ⟨htrimmed, hne, passes_iff.2 ⟨hclosed, hfree⟩⟩

/-! ## Joined selectors -/

/-- The selectors that are joined by commas are found again, without the blanks around them and the
blank entries between them. -/
theorem splitSelectors_of_lists (hselectors : ∀ s ∈ selectors, IsUndivided s)
    (h : Lists selectors entries) : splitSelectors ([','].intercalate entries) = selectors := by
  -- an entry that a scan passes is a part of its own, whatever comes after it
  have hcons {entry : List Char} {entries : List (List Char)}
      (hentry : Passes .start entry .start) :
      splitSelectors ([','].intercalate (entry :: entries)) =
        ([trim entry].filter (· ≠ [])) ++ splitSelectors ([','].intercalate entries) := by
    by_cases hnil : entries = []
    · rw [hnil, List.intercalate_singleton, splitSelectors, splitAtCommas_of_passes hentry]
      simp [splitSelectors, splitAtCommas, trim]
    · rw [List.intercalate_cons_of_ne_nil hnil, List.append_assoc, List.singleton_append,
        splitSelectors, splitAtCommas_cons_of_passes hentry, List.map_cons, splitSelectors,
        ← List.filter_append, List.singleton_append]
  induction h with
  | nil => rfl
  | blank h _ ih =>
      rw [hcons (passes_blanks h), ih hselectors, trim_of_allBlank h]
      rfl
  | @selector s entry selectors entries h _ ih =>
      obtain ⟨hs, hrest⟩ := List.forall_mem_cons.1 hselectors
      rw [hcons (hs.passes_padded h), ih hrest, trim_of_isPadded hs.trimmed h,
        List.filter_cons_of_pos (by simpa using hs.nonempty)]
      rfl

/-! ## Selectors of any list -/

/-- A scan separates nowhere but where it could have started. -/
theorem eq_start_of_separates (h : state.separates c = true) : state = .start := by
  obtain ⟨depth, quote, escaped⟩ := state
  simp only [SelectorScan.separates, Bool.and_eq_true, decide_eq_true_eq, Option.isNone_iff_eq_none,
    Bool.not_eq_true'] at h
  obtain ⟨⟨⟨-, rfl⟩, rfl⟩, rfl⟩ := h
  rfl

/-- A scan passes each part of a list: the first one from where it stands, and every other one from
the start. -/
theorem passes_of_splitAtCommas {first : List Char} {more : List (List Char)}
    (h : splitAtCommas state s = first :: more) :
    (∃ final, Passes state first final) ∧ ∀ part ∈ more, ∃ final, Passes .start part final := by
  induction s generalizing state first more with
  | nil =>
      cases h
      exact ⟨⟨state, .nil⟩, by simp⟩
  | cons c rest ih =>
      rw [splitAtCommas] at h
      split at h
      case isTrue hc =>
          obtain rfl := eq_start_of_separates hc
          cases hrest : splitAtCommas .start rest with
          | nil => exact absurd hrest (splitAtCommas_ne_nil _ rest)
          | cons part others =>
              rw [hrest] at h
              cases h
              exact ⟨⟨.start, .nil⟩, List.forall_mem_cons.2 (ih hrest)⟩
      case isFalse hc =>
          cases hrest : splitAtCommas (state.next c) rest with
          | nil => exact absurd hrest (splitAtCommas_ne_nil _ rest)
          | cons part others =>
              rw [hrest] at h
              cases h
              obtain ⟨⟨final, hpart⟩, hothers⟩ := ih hrest
              exact ⟨⟨final, .cons (by simpa using hc) rfl hpart⟩, hothers⟩

theorem exists_passes_of_mem {part : List Char} (h : part ∈ splitAtCommas .start s) :
    ∃ final, Passes .start part final := by
  cases hs : splitAtCommas .start s with
  | nil => exact absurd hs (splitAtCommas_ne_nil .start s)
  | cons first more =>
      obtain ⟨hfirst, hmore⟩ := passes_of_splitAtCommas hs
      rw [hs] at h
      rcases List.mem_cons.1 h with rfl | h
      · exact hfirst
      · exact hmore part h

/-- The blanks around a text make no difference to whether a scan passes it. -/
theorem exists_passes_trim (h : Passes .start s final) : ∃ final, Passes .start (trim s) final := by
  obtain ⟨pre, post, hpre, -, hs⟩ := exists_eq_trim s
  rw [hs, List.append_assoc, passes_append_iff] at h
  obtain ⟨middle, hmiddle, hrest⟩ := h
  have hstart : Passes .start pre .start := passes_blanks hpre
  obtain rfl : .start = middle := (passes_iff.1 hstart).1.symm.trans (passes_iff.1 hmiddle).1
  obtain ⟨final', htrim, -⟩ := passes_append_iff.1 hrest
  exact ⟨final', htrim⟩

/-- A selector that is found in a list is the only selector of itself. -/
theorem splitSelectors_of_mem (h : p ∈ splitSelectors s) :
    p ≠ [] ∧ IsTrimmed p ∧ splitSelectors p = [p] := by
  obtain ⟨hparts, hne⟩ := List.mem_filter.1 h
  obtain ⟨part, hpart, rfl⟩ := List.mem_map.1 hparts
  obtain ⟨final, hpasses⟩ := exists_passes_of_mem hpart
  obtain ⟨final', htrim⟩ := exists_passes_trim hpasses
  have hne : trim part ≠ [] := by simpa using hne
  have htrimmed := isTrimmed_trim part
  refine ⟨hne, htrimmed, ?_⟩
  simp [splitSelectors, splitAtCommas_of_passes htrim, trim_of_isTrimmed htrimmed, hne]

/-- No comma of a text separates exactly if the text is the only part of itself. -/
theorem isSeparatorFree_iff : IsSeparatorFree s ↔ splitAtCommas .start s = [s] := by
  constructor
  · intro h
    exact splitAtCommas_of_passes (passes_iff.2 ⟨rfl, h⟩)
  · intro h
    obtain ⟨⟨final, hpasses⟩, -⟩ := passes_of_splitAtCommas h
    exact (passes_iff.1 hpasses).2

instance (s : List Char) : Decidable (IsClosed s) :=
  inferInstanceAs (Decidable (s.foldl SelectorScan.next .start = .start))

instance (s : List Char) : Decidable (IsSeparatorFree s) :=
  decidable_of_iff _ isSeparatorFree_iff.symm

/-- Splitting undoes joining: closed selectors are found again behind and before commas, whatever
blanks and blank entries come between. And what is found in any list, well formed or not, is a
selector that falls apart no further. -/
theorem selectors_split_and_rejoin :
    (∀ selectors entries : List String,
      (∀ s ∈ selectors, IsClosed s.toList ∧ IsSeparatorFree s.toList ∧ IsTrimmed s.toList ∧ s ≠ "") →
      Lists (selectors.map String.toList) (entries.map String.toList) →
        selectorsOf (",".intercalate entries) = selectors) ∧
    ∀ list : String, ∀ p ∈ selectorsOf list,
      p ≠ "" ∧ IsTrimmed p.toList ∧ selectorsOf p = [p] := by
  constructor
  · intro selectors entries hselectors hlists
    have hundivided : ∀ s ∈ selectors.map String.toList, IsUndivided s := by
      intro s hs
      obtain ⟨selector, hmem, rfl⟩ := List.mem_map.1 hs
      obtain ⟨hclosed, hfree, htrimmed, hne⟩ := hselectors selector hmem
      exact isUndivided_iff.2 ⟨htrimmed, by simpa using hne, hclosed, hfree⟩
    have hsplit := splitSelectors_of_lists hundivided hlists
    have htext : (",".intercalate entries).toList = [','].intercalate (entries.map String.toList) :=
      String.toList_intercalate
    rw [selectorsOf, htext, hsplit]
    simp
  · intro list p hp
    obtain ⟨part, hpart, rfl⟩ := List.mem_map.1 hp
    obtain ⟨hne, htrimmed, hself⟩ := splitSelectors_of_mem hpart
    refine ⟨ofList_ne_empty hne, by rwa [String.toList_ofList], ?_⟩
    rw [selectorsOf, String.toList_ofList, hself]
    rfl

/-- Commas in a quotation, behind a backslash and in brackets, and a bracket that closes nothing. -/
def unevenSelectors : List String :=
  [".a[b=',']", "c\\,d", "e:is(f, g))"]

/-- The same selectors among blanks and blank entries. -/
def unevenEntries : List String :=
  [" .a[b=',']\t", "", " \n", "c\\,d", "e:is(f, g)) ", ""]

theorem selectors_split_and_rejoin_sample :
    selectorsOf (",".intercalate unevenEntries) = unevenSelectors ∧
      selectorsOf ".x ,(a, 'b, c\\" = [".x", "(a, 'b, c\\"] ∧
      selectorsOf "(a, 'b, c\\" = ["(a, 'b, c\\"] := by
  have hpadded (pre s post : String) (hpre : pre.toList.all isBlank = true)
      (hpost : post.toList.all isBlank = true) :
      IsPadded s.toList (pre.toList ++ s.toList ++ post.toList) :=
    ⟨_, _, List.all_eq_true.1 hpre, List.all_eq_true.1 hpost, rfl⟩
  have hblank : AllBlank " \n".toList := List.all_eq_true.1 (by decide)
  have hlists : Lists (unevenSelectors.map String.toList) (unevenEntries.map String.toList) :=
    .selector (hpadded " " ".a[b=',']" "\t" (by decide) (by decide)) <|
      .blank (by simp [AllBlank]) <| .blank hblank <|
      .selector (hpadded "" "c\\,d" "" (by decide) (by decide)) <|
      .selector (hpadded "" "e:is(f, g))" " " (by decide) (by decide)) <|
      .blank (by simp [AllBlank]) .nil
  have hsplit : selectorsOf ".x ,(a, 'b, c\\" = [".x", "(a, 'b, c\\"] := by decide +kernel
  refine ⟨selectors_split_and_rejoin.1 unevenSelectors unevenEntries ?_ hlists, hsplit,
    (selectors_split_and_rejoin.2 ".x ,(a, 'b, c\\" _ (hsplit ▸ by simp)).2.2⟩
  decide +kernel

end StyleUsage.Stylesheet
