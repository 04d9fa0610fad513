import Mathlib
import StyleUsage.Files.Tree

/-!
# Normal paths

A normal path names what the text that it comes from names: its empty components and the dots among
them lead nowhere else.
-/

namespace StyleUsage.Files

section
variable {tree : Tree} {here place : Place} {s : List Char} {text : String}

/-! ## Components -/

theorem components_eq_splitOn (s : List Char) : components s = s.splitOn '/' := by
  induction s with
  | nil => rfl
  | cons c rest ih =>
      rw [components, List.splitOn, List.splitOnP_cons_eq_if_modifyHead, ih]
      by_cases hc : c = '/'
      · simp [hc, List.splitOn]
      · cases h : rest.splitOn '/' with
        | nil => exact absurd h (List.splitOn_ne_nil _ _)
        | cons first more =>
            rw [List.splitOn] at h
            simp [hc, h]

/-- A text that is empty or starts with a slash has an empty first component. -/
theorem nil_mem_components (h : s = [] ∨ s.head? = some '/') : [] ∈ components s := by
  cases s with
  | nil => exact List.mem_cons_self
  | cons c rest =>
      obtain rfl : c = '/' := by simpa using h
      exact List.mem_cons_self

theorem not_mem_of_mem_components {part : List Char} (h : part ∈ components s) : '/' ∉ part := by
  induction s generalizing part with
  | nil => simp_all [components]
  | cons c rest ih =>
      rw [components] at h
      split at h
      case isTrue hc =>
        rcases List.mem_cons.1 h with rfl | h
        · exact List.not_mem_nil
        · exact ih h
      case isFalse hc =>
        cases hrest : components rest with
        | nil =>
            rw [components_eq_splitOn] at hrest
            exact absurd hrest (List.splitOn_ne_nil _ _)
        | cons first more =>
            rw [hrest] at h ih
            rcases List.mem_cons.1 h with rfl | h
            · have hfirst := ih List.mem_cons_self
              simp [hfirst, Ne.symm hc]
            · exact ih (List.mem_cons_of_mem _ h)

/-- Some of the pieces, put together, are part of all of them put together. -/
theorem sublist_intercalate {α : Type} (sep : List α) {few all : List (List α)}
    (h : few.Sublist all) : (sep.intercalate few).Sublist (sep.intercalate all) := by
  induction h with
  | slnil => exact List.Sublist.refl _
  | @cons few all piece h ih =>
      by_cases hall : all = []
      · subst hall
        rw [List.sublist_nil.1 h]
        exact List.nil_sublist _
      · rw [List.intercalate_cons_of_ne_nil hall]
        exact ih.trans (List.sublist_append_right _ _)
  | @cons_cons few all piece h ih =>
      by_cases hfew : few = []
      · subst hfew
        by_cases hall : all = []
        · subst hall
          exact List.Sublist.refl _
        · rw [List.intercalate_singleton, List.intercalate_cons_of_ne_nil hall,
            List.append_assoc]
          exact List.sublist_append_left _ _
      · have hall : all ≠ [] := fun hnil => hfew (List.sublist_nil.1 (hnil ▸ h))
        rw [List.intercalate_cons_of_ne_nil hfew, List.intercalate_cons_of_ne_nil hall]
        exact (List.Sublist.refl _).append ih

/-- The slashes at the start of a text lead to empty components. -/
theorem components_slashes (n : Nat) (s : List Char) :
    components (List.replicate n '/' ++ s) = List.replicate n [] ++ components s := by
  induction n with
  | zero => rfl
  | succ n ih => simp [List.replicate_succ, components, ih]

/-- A text falls into the slashes at its start and the rest. -/
theorem eq_slashes_append (s : List Char) :
    s = List.replicate (s.takeWhile (· = '/')).length '/' ++ s.dropWhile (· = '/') := by
  have hslashes : s.takeWhile (· = '/') =
      List.replicate (s.takeWhile (· = '/')).length '/' := by
    refine List.eq_replicate_of_mem fun c hc => ?_
    simpa using List.mem_takeWhile_imp hc
  conv => lhs; rw [← List.takeWhile_append_dropWhile (p := (· = '/')) (l := s)]
  rw [← hslashes]

/-! ## The text of a normal path -/

/-- The components that a normal path keeps. -/
def isKept (part : String) : Bool :=
  part ≠ "" && part ≠ "."

theorem parts_ofText (text : String) :
    (Path.ofText text).parts = ((components text.toList).map String.ofList).filter isKept :=
  rfl

/-- The slashes at the start of a text add no part to its path. -/
theorem parts_of_rest (text : String) : (Path.ofText text).parts =
    ((components (text.toList.dropWhile (· = '/'))).map String.ofList).filter isKept := by
  rw [parts_ofText]
  conv => lhs; rw [eq_slashes_append text.toList, components_slashes]
  simp [isKept]

/-- The number of slashes at the start of a path. -/
def Root.slashes : Root → Nat
  | .workingDirectory => 0
  | .slash => 1
  | .twoSlashes => 2

theorem toList_root (root : Root) : root.text.toList = List.replicate root.slashes '/' := by
  cases root <;> rfl

theorem slashes_rootOf_le (s : List Char) :
    (Path.rootOf s).slashes ≤ (s.takeWhile (· = '/')).length := by
  unfold Path.rootOf
  split
  case h_1 hnone => simp [hnone, Root.slashes]
  case h_2 htwo => simp [htwo, Root.slashes]
  case h_3 hnone _ => exact Nat.pos_of_ne_zero hnone

/-- The text of a path is put together out of its parts. -/
theorem toList_text {p : Path} (hparts : p.parts ≠ [])
    (hkept : ∀ part ∈ p.parts, isKept part = true) :
    p.text.toList =
      List.replicate p.root.slashes '/' ++ ['/'].intercalate (p.parts.map String.toList) := by
  have hjoined : (p.root.text ++ "/".intercalate p.parts).toList =
      List.replicate p.root.slashes '/' ++ ['/'].intercalate (p.parts.map String.toList) := by
    rw [String.toList_append, String.toList_intercalate, toList_root]
    rfl
  rw [Path.text, if_neg, hjoined]
  intro hempty
  obtain ⟨part, hpart⟩ := List.exists_mem_of_ne_nil _ hparts
  have hchars : part.toList.Sublist (['/'].intercalate (p.parts.map String.toList)) := by
    have h := sublist_intercalate ['/']
      (List.singleton_sublist.2 (List.mem_map_of_mem hpart (f := String.toList)))
    rwa [List.intercalate_singleton] at h
  have hall := hchars.trans (List.sublist_append_right (List.replicate p.root.slashes '/') _)
  rw [← hjoined, hempty] at hall
  have hnone : part = "" := String.toList_injective (List.sublist_nil.1 hall)
  have h := hkept part hpart
  simp [isKept, hnone] at h

theorem isKept_of_mem {part : String} (h : part ∈ (Path.ofText text).parts) :
    isKept part = true :=
  (List.mem_filter.1 h).2

/-- The text of a normal path falls into the parts of the path again, behind empty components if
the path starts at the root. -/
theorem components_text_ofText (hparts : (Path.ofText text).parts ≠ []) :
    (components (Path.ofText text).text.toList).map String.ofList =
      List.replicate (Path.ofText text).root.slashes "" ++ (Path.ofText text).parts := by
  -- no part holds a slash
  have hslash : ∀ part ∈ (Path.ofText text).parts.map String.toList, '/' ∉ part := by
    intro part hpart
    obtain ⟨name, hname, rfl⟩ := List.mem_map.1 hpart
    obtain ⟨chars, hchars, rfl⟩ := List.mem_map.1 (List.mem_filter.1 hname).1
    rw [String.toList_ofList]
    exact not_mem_of_mem_components hchars
  rw [toList_text hparts fun _ => isKept_of_mem, components_slashes, components_eq_splitOn,
    List.splitOn_intercalate _ hslash (by simpa using hparts), List.map_append, List.map_map,
    List.map_replicate]
  simp [Function.comp_def]

/-- A normal path leaves characters out and adds none. -/
theorem sublist_text_ofText (hparts : (Path.ofText text).parts ≠ []) :
    ((Path.ofText text).text.toList).Sublist text.toList := by
  have hroot : (Path.ofText text).root.slashes ≤ (text.toList.takeWhile (· = '/')).length :=
    slashes_rootOf_le text.toList
  have hrest := sublist_intercalate ['/'] (List.filter_sublist (p := isKept)
    (l := (components (text.toList.dropWhile (· = '/'))).map String.ofList) |>.map String.toList)
  rw [← parts_of_rest, List.map_map, components_eq_splitOn] at hrest
  simp only [Function.comp_def, String.toList_ofList, List.map_id', List.intercalate_splitOn]
    at hrest
  rw [toList_text hparts fun _ => isKept_of_mem]
  conv => rhs; rw [eq_slashes_append text.toList]
  exact ((List.replicate_sublist_replicate _).2 hroot).append hrest

/-! ## Lookup -/

/-- Components that a normal path leaves out lead nowhere else. -/
theorem resolve_filter {parts : List String} (h : tree.resolve here parts = .ok place) :
    tree.resolve here (parts.filter isKept) = .ok place := by
  induction parts generalizing here with
  | nil => exact h
  | cons part rest ih =>
      rw [Tree.resolve] at h
      split at h
      case h_2 | h_3 => cases h
      case h_1 hentry =>
        split at h
        case isTrue hskip =>
          rw [List.filter_cons_of_neg (by rcases hskip with rfl | rfl <;> simp [isKept])]
          exact ih h
        case isFalse hskip =>
          rw [List.filter_cons_of_pos (by simpa [isKept] using hskip), Tree.resolve]
          simp only [hentry]
          rw [if_neg hskip]
          split at h
          case isTrue hup =>
            rw [if_pos hup]
            exact ih h
          case isFalse hup =>
            rw [if_neg hup]
            split at h
            case isTrue => cases h
            case isFalse hlong =>
              rw [if_neg hlong]
              split at h
              case isTrue hchild =>
                rw [if_pos hchild]
                exact ih h
              case isFalse => cases h

/-- Components lead on from directories only. -/
theorem isDirectory_of_resolve {parts : List String} (h : tree.resolve here parts = .ok place)
    (hparts : parts ≠ []) : tree.entry? here = some .directory := by
  cases parts with
  | nil => exact absurd rfl hparts
  | cons part rest =>
      rw [Tree.resolve] at h
      split at h
      case h_1 hentry => exact hentry
      case h_2 | h_3 => cases h

/-- Empty components lead nowhere else in a directory. -/
theorem resolve_empty {parts : List String} (hhere : tree.entry? here = some .directory) (n : Nat) :
    tree.resolve here (List.replicate n "" ++ parts) = tree.resolve here parts := by
  induction n with
  | zero => rfl
  | succ n ih =>
      rw [List.replicate_succ, List.cons_append, Tree.resolve]
      simpa [hhere] using ih

theorem locate_eq_ok_iff : tree.locate s = .ok place ↔
    s ≠ [] ∧ (String.ofList s).utf8ByteSize ≤ Tree.longestText ∧
      tree.resolve (if s.head? = some '/' then [] else tree.home)
        ((components s).map String.ofList) = .ok place := by
  unfold Tree.locate
  by_cases hs : s = []
  · simp [hs]
  · by_cases hlong : Tree.longestText < (String.ofList s).utf8ByteSize
    · simp [hs, hlong, Nat.not_le.2 hlong]
    · simp [hs, hlong, Nat.not_lt.1 hlong]

/-- A normal path starts at the root if its text does. -/
theorem slashes_ofText (text : String) :
    (Path.ofText text).root.slashes = 0 ↔ text.toList.head? ≠ some '/' := by
  show (Path.rootOf text.toList).slashes = 0 ↔ _
  unfold Path.rootOf
  cases text.toList with
  | nil => simp [Root.slashes]
  | cons c rest =>
      by_cases hc : c = '/'
      · subst hc
        simp only [decide_true, List.takeWhile_cons_of_pos, List.length_cons]
        split <;> simp_all [Root.slashes]
      · simp [hc, Root.slashes]

/-- The text of a normal path starts as the text that the path comes from. -/
theorem starts_text_ofText (hparts : (Path.ofText text).parts ≠ []) :
    (Path.ofText text).text.toList ≠ [] ∧
      ((Path.ofText text).text.toList.head? = some '/' ↔ text.toList.head? = some '/') := by
  have hslashes := slashes_ofText text
  cases hroot : (Path.ofText text).root.slashes with
  | zero =>
      have hrelative := hslashes.1 hroot
      have hstart : ¬ ((Path.ofText text).text.toList = [] ∨
          (Path.ofText text).text.toList.head? = some '/') := by
        intro hstart
        have hempty := List.mem_map_of_mem (nil_mem_components hstart) (f := String.ofList)
        rw [components_text_ofText hparts, hroot] at hempty
        have hkept : isKept "" = true := isKept_of_mem (by simpa using hempty)
        cases hkept
      rw [not_or] at hstart
      exact ⟨hstart.1, iff_of_false hstart.2 hrelative⟩
  | succ n =>
      have habsolute : text.toList.head? = some '/' :=
        Classical.byContradiction fun hne => by simp [hslashes.2 hne] at hroot
      rw [toList_text hparts fun _ => isKept_of_mem, hroot, List.replicate_succ, habsolute]
      simp

/-- A normal path leads to the file that its text names. -/
theorem locate_ofText {entry : Entry} (h : tree.locate text.toList = .ok place)
    (hentry : tree.entry? place = some entry) (hfile : entry ≠ .directory) :
    tree.locate (Path.ofText text).text.toList = .ok place := by
  obtain ⟨hne, hshort, hplace⟩ := locate_eq_ok_iff.1 h
  have hsome : (components text.toList).map String.ofList ≠ [] := by
    rw [components_eq_splitOn]
    simp
  have hstart := isDirectory_of_resolve hplace hsome
  have hkept := resolve_filter hplace
  rw [← parts_ofText] at hkept
  have hparts : (Path.ofText text).parts ≠ [] := by
    intro hnil
    rw [hnil] at hkept
    cases hkept
    rw [hstart] at hentry
    exact hfile (Option.some.inj hentry).symm
  obtain ⟨hne', hslash⟩ := starts_text_ofText hparts
  refine locate_eq_ok_iff.2 ⟨hne', ?_, ?_⟩
  · have hlength := String.utf8Len_le_of_sublist (sublist_text_ofText hparts)
    rw [String.utf8ByteSize_ofList] at hshort ⊢
    omega
  · simp only [hslash, components_text_ofText hparts, resolve_empty hstart, hkept]

/-- A file that a text names is read by the normal path of the text. -/
theorem read_ofText {bytes : List UInt8} {fault : Option Fault}
    (h : tree.find? text.toList = some (.file bytes fault)) :
    tree.read (Path.ofText text).text.toList = .ok bytes := by
  unfold Tree.find? at h
  cases hplace : tree.locate text.toList with
  | error e => simp [hplace, Except.toOption] at h
  | ok place =>
      have hentry : tree.entry? place = some (.file bytes fault) := by
        simpa [hplace, Except.toOption] using h
      have hlocate := locate_ofText hplace hentry (by simp)
      simp [Tree.read, hlocate, hentry, bind, Except.bind]

end

end StyleUsage.Files
