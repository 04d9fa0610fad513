import Mathlib
import StyleUsage.Stylesheet.ClassName

/-!
# Where classes are declared

A class is declared at every place of a selector where a dot stands with its name behind it, if the
name goes no further there. The declared classes are the ones with such a place, in the order of
their first places: by rules, then by selectors, then by characters.
-/

namespace StyleUsage.Stylesheet

/-! ## Items at places -/

/-- A list holds whatever stands at certain places, in the order of the places. -/
def Collects {ι α : Type} (before : ι → ι → Prop) (stands : ι → α → Prop) (l : List α) : Prop :=
  ∃ placed : List (ι × α), placed.map Prod.snd = l ∧
    placed.Pairwise (fun x y => before x.1 y.1) ∧ ∀ i a, stands i a ↔ (i, a) ∈ placed

section
variable {ι α β : Type} {before : ι → ι → Prop} {stands : ι → α → Prop} {l : List α}

theorem Collects.mem_iff (h : Collects before stands l) (a : α) :
    a ∈ l ↔ ∃ i, stands i a := by
  obtain ⟨placed, rfl, -, hplaced⟩ := h
  simp [hplaced]

theorem Collects.map (h : Collects before stands l) (g : α → β) :
    Collects before (fun i b => ∃ a, stands i a ∧ g a = b) (l.map g) := by
  obtain ⟨placed, rfl, hsorted, hplaced⟩ := h
  refine ⟨placed.map fun x => (x.1, g x.2), ?_, ?_, ?_⟩
  · simp
  · exact List.pairwise_map.2 hsorted
  · intro i b
    simp [hplaced]

/-- The places of a list of lists are pairs: first comes the number of the list. -/
theorem Collects.flatMap {f : β → List α} {stands : β → ι → α → Prop}
    (h : ∀ x, Collects before (stands x) (f x)) (xs : List β) :
    Collects (Prod.Lex (· < ·) before)
      (fun (p : Nat × ι) a => ∃ x, xs[p.1]? = some x ∧ stands x p.2 a) (xs.flatMap f) := by
  choose g hmap hsorted hplaced using h
  have hnumbers : xs.zipIdx.Pairwise fun x y => x.2 < y.2 := by
    have hrange : (xs.zipIdx.map Prod.snd).Pairwise (· < ·) := by
      rw [List.zipIdx_map_snd]
      exact List.pairwise_lt_range'
    exact List.pairwise_map.1 hrange
  refine ⟨xs.zipIdx.flatMap fun x => (g x.1).map fun y => ((x.2, y.1), y.2), ?_, ?_, ?_⟩
  · calc (xs.zipIdx.flatMap fun x => (g x.1).map fun y => ((x.2, y.1), y.2)).map Prod.snd
        = xs.zipIdx.flatMap fun x => f x.1 := by simp [List.map_flatMap, ← hmap, Function.comp_def]
      _ = (xs.zipIdx.map Prod.fst).flatMap f := by rw [List.flatMap_map]
      _ = xs.flatMap f := by rw [List.zipIdx_map_fst]
  · rw [List.pairwise_flatMap]
    constructor
    · intro x _
      rw [List.pairwise_map]
      apply (hsorted x.1).imp
      intro p q hlt
      exact Prod.Lex.right _ hlt
    · apply hnumbers.imp
      intro x y hlt p hp q hq
      obtain ⟨p, -, rfl⟩ := List.mem_map.1 hp
      obtain ⟨q, -, rfl⟩ := List.mem_map.1 hq
      exact Prod.Lex.left _ _ hlt
  · rintro ⟨n, i⟩ a
    simp only [List.mem_flatMap, List.mem_map, Prod.exists, Prod.mk.injEq,
      List.mk_mem_zipIdx_iff_getElem?, hplaced]
    constructor
    · rintro ⟨x, hx, ha⟩
      exact ⟨x, n, hx, i, a, ha, ⟨rfl, rfl⟩, rfl⟩
    · rintro ⟨x, n, hx, i, a, ha, ⟨rfl, rfl⟩, rfl⟩
      exact ⟨x, hx, ha⟩

/-- Of the items that are taken once each, an earlier one has a place before all places of a later
one. -/
theorem pairwise_eraseDups [BEq α] [LawfulBEq α] (placed : List (ι × α))
    (h : placed.Pairwise fun x y => before x.1 y.1) :
    (placed.map Prod.snd).eraseDups.Pairwise fun a b =>
      ∃ i, (i, a) ∈ placed ∧ ∀ j, (j, b) ∈ placed → before i j := by
  match placed with
  | [] => exact .nil
  | (i, a) :: rest =>
      obtain ⟨hfirst, hrest⟩ := List.pairwise_cons.1 h
      have hshorter : (rest.filter fun y => !y.2 == a).length < rest.length + 1 :=
        Nat.lt_succ_of_le (List.length_filter_le _ rest)
      have ih := pairwise_eraseDups (rest.filter fun y => !y.2 == a) (hrest.filter _)
      have hothers : (rest.map Prod.snd).filter (fun b => !b == a) =
          (rest.filter fun y => !y.2 == a).map Prod.snd := by
        rw [List.filter_map]
        rfl
      rw [List.map_cons, List.eraseDups_cons, hothers, List.pairwise_cons]
      -- what is left in the rest differs from the first item
      have hne {b : α} (hb : b ∈ ((rest.filter fun y => !y.2 == a).map Prod.snd).eraseDups) :
          b ≠ a := by
        rw [List.mem_eraseDups, List.mem_map] at hb
        obtain ⟨y, hy, rfl⟩ := hb
        simpa using (List.mem_filter.1 hy).2
      constructor
      · intro b hb
        refine ⟨i, List.mem_cons_self, fun j hj => ?_⟩
        rcases List.mem_cons.1 hj with heq | hj
        · exact absurd (Prod.mk.inj heq).2 (hne hb)
        · exact hfirst _ hj
      · apply ih.imp_of_mem
        rintro b c hb hc ⟨j, hj, hall⟩
        refine ⟨j, List.mem_cons_of_mem _ (List.mem_filter.1 hj).1, fun k hk => ?_⟩
        rcases List.mem_cons.1 hk with heq | hk
        · exact absurd (Prod.mk.inj heq).2 (hne hc)
        · exact hall k (List.mem_filter.2 ⟨hk, by simpa using hne hc⟩)
termination_by placed.length

theorem Collects.pairwise_eraseDups [BEq α] [LawfulBEq α] (h : Collects before stands l) :
    l.eraseDups.Pairwise fun a b => ∃ i, stands i a ∧ ∀ j, stands j b → before i j := by
  obtain ⟨placed, rfl, hsorted, hplaced⟩ := h
  simpa only [hplaced] using Stylesheet.pairwise_eraseDups placed hsorted

end

/-! ## Names in a selector -/

/-- A letter of ASCII. -/
def IsLetter (c : Char) : Prop :=
  'A' ≤ c ∧ c ≤ 'Z' ∨ 'a' ≤ c ∧ c ≤ 'z'

/-- A digit, letter, underscore or hyphen of ASCII. -/
def IsNameCharacter (c : Char) : Prop :=
  '0' ≤ c ∧ c ≤ '9' ∨ IsLetter c ∨ c = '_' ∨ c = '-'

/-- A letter, and any number of digits, letters, underscores and hyphens. -/
def IsClassName (name : List Char) : Prop :=
  ∃ first rest, name = first :: rest ∧ IsLetter first ∧ ∀ c ∈ rest, IsNameCharacter c

/-- At the given character of a text stands a dot, and behind it a class name that goes no
further. -/
def NamesAt (s : List Char) (i : Nat) (name : List Char) : Prop :=
  ∃ before after, s = before ++ '.' :: (name ++ after) ∧ before.length = i ∧ IsClassName name ∧
    ∀ c ∈ after.head?, ¬ IsNameCharacter c

theorem startsClassName_iff (c : Char) : startsClassName c = true ↔ IsLetter c := by
  simp [startsClassName, IsLetter, Char.isAlpha, Char.isUpper, Char.isLower, Char.le_def]

theorem continuesClassName_iff (c : Char) : continuesClassName c = true ↔ IsNameCharacter c := by
  simp only [continuesClassName, Char.isAlphanum, Bool.or_eq_true, decide_eq_true_eq,
    IsNameCharacter, ← startsClassName_iff, startsClassName]
  have hdigit : c.isDigit = true ↔ '0' ≤ c ∧ c ≤ '9' := by simp [Char.isDigit, Char.le_def]
  rw [hdigit]
  tauto

/-- The name that a text starts with goes as far as it can. -/
theorem leadingClassName?_eq_some_iff {s name : List Char} : leadingClassName? s = some name ↔
    ∃ after, s = name ++ after ∧ IsClassName name ∧ ∀ c ∈ after.head?, ¬ IsNameCharacter c := by
  constructor
  · intro h
    cases s with
    | nil => simp [leadingClassName?] at h
    | cons first rest =>
        simp only [leadingClassName?] at h
        split at h
        case isFalse => cases h
        case isTrue hfirst =>
            cases h
            refine ⟨rest.dropWhile continuesClassName, ?_, ⟨first, _, rfl, ?_, ?_⟩, ?_⟩
            · rw [List.cons_append, List.takeWhile_append_dropWhile]
            · exact (startsClassName_iff first).1 hfirst
            · intro c hc
              exact (continuesClassName_iff c).1 (List.all_eq_true.1 List.all_takeWhile c hc)
            · intro c hc hname
              have hstop := List.head?_dropWhile_not continuesClassName rest
              rw [Option.mem_def] at hc
              simp only [hc, (continuesClassName_iff c).2 hname, Bool.true_eq_false] at hstop
  · rintro ⟨after, rfl, ⟨first, rest, rfl, hfirst, hrest⟩, hafter⟩
    have hall (c : Char) (hc : c ∈ rest) : continuesClassName c = true :=
      (continuesClassName_iff c).2 (hrest c hc)
    have hstop : after.takeWhile continuesClassName = [] := by
      cases after with
      | nil => rfl
      | cons c more =>
          have hc : ¬ continuesClassName c = true := by
            rw [continuesClassName_iff]
            exact hafter c rfl
          rw [List.takeWhile_cons_of_neg hc]
    simp only [leadingClassName?, List.cons_append, (startsClassName_iff first).2 hfirst, if_true,
      List.takeWhile_append_of_pos hall, hstop, List.append_nil]

theorem not_namesAt_nil (i : Nat) (name : List Char) : ¬ NamesAt [] i name := by
  rintro ⟨before, after, h, -⟩
  simp at h

theorem namesAt_zero {c : Char} {rest name : List Char} :
    NamesAt (c :: rest) 0 name ↔ c = '.' ∧ leadingClassName? rest = some name := by
  rw [leadingClassName?_eq_some_iff]
  constructor
  · rintro ⟨before, after, hs, hlength, hname, hafter⟩
    rw [List.length_eq_zero_iff] at hlength
    subst hlength
    obtain ⟨rfl, rfl⟩ := List.cons.inj hs
    exact ⟨rfl, after, rfl, hname, hafter⟩
  · rintro ⟨rfl, after, rfl, hname, hafter⟩
    exact ⟨[], after, rfl, rfl, hname, hafter⟩

theorem namesAt_succ {c : Char} {rest name : List Char} {i : Nat} :
    NamesAt (c :: rest) (i + 1) name ↔ NamesAt rest i name := by
  constructor
  · rintro ⟨before, after, hs, hlength, hname, hafter⟩
    cases before with
    | nil => cases hlength
    | cons d before =>
        obtain ⟨rfl, rfl⟩ := List.cons.inj hs
        exact ⟨before, after, rfl, Nat.succ.inj hlength, hname, hafter⟩
  · rintro ⟨before, after, rfl, rfl, hname, hafter⟩
    exact ⟨c :: before, after, rfl, rfl, hname, hafter⟩

/-- A selector is scanned for names from left to right, and none of them is missed. -/
theorem collects_classNames (s : List Char) : Collects (· < ·) (NamesAt s) (classNames s) := by
  induction s with
  | nil => exact ⟨[], rfl, .nil, fun i name => by simp [not_namesAt_nil]⟩
  | cons c rest ih =>
      obtain ⟨placed, hmap, hsorted, hplaced⟩ := ih
      -- the places of the rest move on by one
      let moved : List (Nat × List Char) := placed.map fun x => (x.1 + 1, x.2)
      have hmoved : moved.map Prod.snd = classNames rest := by simp [moved, ← hmap]
      have hsortedMoved : moved.Pairwise fun x y => x.1 < y.1 :=
        List.pairwise_map.2 (hsorted.imp fun hlt => Nat.succ_lt_succ hlt)
      have hmem (i : Nat) (name : List Char) : (i, name) ∈ moved ↔
          ∃ j, i = j + 1 ∧ NamesAt rest j name := by
        simp only [moved, List.mem_map, Prod.exists, Prod.mk.injEq, ← hplaced]
        constructor
        · rintro ⟨j, name, hj, rfl, rfl⟩
          exact ⟨j, rfl, hj⟩
        · rintro ⟨j, rfl, hj⟩
          exact ⟨j, name, hj, rfl, rfl⟩
      cases hname : (if c = '.' then leadingClassName? rest else none) with
      | none =>
          have hnone (name : List Char) : ¬ NamesAt (c :: rest) 0 name := by
            rw [namesAt_zero]
            rintro ⟨rfl, hsome⟩
            simp [hsome] at hname
          refine ⟨moved, ?_, hsortedMoved, fun i name => ?_⟩
          · rw [classNames, hname, hmoved]
          · rw [hmem]
            cases i with
            | zero => simp [hnone]
            | succ i => simp [namesAt_succ]
      | some first =>
          have hfirst (name : List Char) : NamesAt (c :: rest) 0 name ↔ name = first := by
            rw [namesAt_zero]
            split at hname
            case isTrue hc => simp [hc, hname, eq_comm]
            case isFalse => cases hname
          refine ⟨(0, first) :: moved, ?_, ?_, fun i name => ?_⟩
          · rw [classNames, hname, List.map_cons, hmoved]
          · refine List.pairwise_cons.2 ⟨fun x hx => ?_, hsortedMoved⟩
            obtain ⟨j, hj, -⟩ := (hmem x.1 x.2).1 hx
            omega
          · rw [List.mem_cons, hmem]
            cases i with
            | zero => simp [hfirst]
            | succ i => simp [namesAt_succ]

/-! ## Names in a stylesheet -/

/-- A character of a selector: the number of the outermost rule, that of its selector, and that of
the character. -/
abbrev Place := Nat × Nat × Nat

/-- Places come by rules, then by selectors, then by characters. -/
def Place.Precedes : Place → Place → Prop :=
  Prod.Lex (· < ·) (Prod.Lex (· < ·) (· < ·))

theorem Place.not_precedes_self (p : Place) : ¬ p.Precedes p := by
  intro h
  simp [Precedes, Prod.lex_def] at h

end StyleUsage.Stylesheet

namespace StyleUsage

open Stylesheet

/-- The selector at a place of a stylesheet names a class there. -/
def Stylesheet.Declares (sheet : Stylesheet) (p : Place) (name : String) : Prop :=
  ∃ rule, sheet.rules[p.1]? = some rule ∧ ∃ selector, rule.selectors[p.2.1]? = some selector ∧
    NamesAt selector.toList p.2.2 name.toList

theorem Stylesheet.collects_ruleClasses (rule : Rule) :
    Collects (Prod.Lex (· < ·) (· < ·))
      (fun (p : Nat × Nat) name => ∃ selector, rule.selectors[p.1]? = some selector ∧
        NamesAt selector.toList p.2 name.toList) (ruleClasses rule) := by
  have hall (selector : String) : Collects (· < ·)
      (fun i (name : String) => NamesAt selector.toList i name.toList)
      ((classNames selector.toList).map String.ofList) := by
    have hstands : (fun i (name : String) =>
        ∃ l, NamesAt selector.toList i l ∧ String.ofList l = name) =
          fun i name => NamesAt selector.toList i name.toList := by
      funext i name
      apply propext
      constructor
      · rintro ⟨l, hl, rfl⟩
        simpa using hl
      · intro h
        exact ⟨name.toList, h, by simp⟩
    rw [← hstands]
    exact (collects_classNames selector.toList).map String.ofList
  exact Collects.flatMap hall rule.selectors

theorem Stylesheet.collects_rules (sheet : Stylesheet) :
    Collects Place.Precedes sheet.Declares (sheet.rules.flatMap ruleClasses) :=
  Collects.flatMap collects_ruleClasses sheet.rules

theorem Stylesheet.mem_declared (sheet : Stylesheet) (name : String) :
    name ∈ sheet.declared ↔ ∃ p, sheet.Declares p name := by
  rw [declared, List.mem_eraseDups]
  exact sheet.collects_rules.mem_iff name

/-- The declared classes come in the order of their first places. -/
theorem Stylesheet.pairwise_declared (sheet : Stylesheet) :
    sheet.declared.Pairwise fun a b =>
      ∃ p, sheet.Declares p a ∧ ∀ q, sheet.Declares q b → p.Precedes q :=
  sheet.collects_rules.pairwise_eraseDups

theorem Stylesheet.nodup_declared (sheet : Stylesheet) : sheet.declared.Nodup := by
  apply sheet.pairwise_declared.imp
  rintro a b ⟨p, hp, hall⟩ rfl
  exact p.not_precedes_self (hall p hp)

/-- What a stylesheet declares depends on the selectors of its outermost rules alone. -/
theorem Stylesheet.declared_of_selectors {sheet other : Stylesheet}
    (h : other.rules.flatMap Rule.selectors = sheet.rules.flatMap Rule.selectors) :
    other.declared = sheet.declared := by
  have hclasses (sheet : Stylesheet) : sheet.rules.flatMap ruleClasses =
      (sheet.rules.flatMap Rule.selectors).flatMap fun selector =>
        (classNames selector.toList).map String.ofList := by
    rw [List.flatMap_assoc]
    rfl
  rw [declared, declared, hclasses, hclasses, h]

end StyleUsage
