import StyleUsage.Proofs.Markup.OpeningTags

/-!
# Reading written markup

What is read in the written form of a tree are the tags of its elements, in the order in which they
are opened.
-/

namespace StyleUsage.Markup

open StyleUsage.Text

section
variable {final selfClosing : Bool} {s rest after : List Char} {c : Char} {tag : Tag}

/-! ## Steps of a scan -/

theorem scan_of_tag (h : construct (c :: rest) = .ok (.tag tag selfClosing after)) :
    scan final none ('<' :: c :: rest) =
      (scan final (if isRaw tag.name && !selfClosing then some tag.name.toList else none)
        after).map (.add tag) := by
  rw [scan]
  split
  all_goals
    rename_i heq
    rw [h] at heq
    cases heq
  rfl

theorem scan_of_text (h : construct (c :: rest) = .ok (.text after)) :
    scan final none ('<' :: c :: rest) = scan final none after := by
  rw [scan]
  split
  all_goals
    rename_i heq
    rw [h] at heq
    cases heq
  rfl

theorem scan_of_passed (h : ampersand rest = .passed) :
    scan final none ('&' :: rest) = scan final none rest := by
  rw [scan, h]

theorem scan_of_plain (hopen : c ≠ '<') (hamp : c ≠ '&') :
    scan final none (c :: rest) = scan final none rest := by
  rw [scan]
  all_goals simp [hopen, hamp]

end

/-! ## What a piece of markup shows -/

/-- Whatever follows the piece, a scan finds the tags in it and goes on behind it. -/
def Shows (s : List Char) (tags : List Tag) : Prop :=
  ∀ final rest found, scan final none rest = .ok found →
    scan final none (s ++ rest) = .ok { found with tags := tags ++ found.tags }

theorem shows_nil : Shows [] [] := by
  intro final rest found h
  exact h

theorem Shows.append {s t : List Char} {tags more : List Tag} (hs : Shows s tags)
    (ht : Shows t more) : Shows (s ++ t) (tags ++ more) := by
  intro final rest found h
  rw [List.append_assoc, hs final _ _ (ht final rest found h), List.append_assoc]

theorem shows_cons {c : Char} {s : List Char} (hopen : c ≠ '<') (hamp : c ≠ '&')
    (h : Shows s []) : Shows (c :: s) [] := by
  intro final rest found hrest
  rw [List.cons_append, scan_of_plain hopen hamp]
  exact h final rest found hrest

theorem shows_of_forall {s : List Char} (h : ∀ c ∈ s, c ≠ '<' ∧ c ≠ '&') : Shows s [] := by
  induction s with
  | nil => exact shows_nil
  | cons c rest ih =>
      obtain ⟨hopen, hamp⟩ := h c List.mem_cons_self
      exact shows_cons hopen hamp (ih fun d hd => h d (List.mem_cons_of_mem c hd))

theorem ampersand_of_isEntity {name : String} {c : Char} {rest : List Char}
    (h : IsEntity name c) : ampersand (name.toList ++ ';' :: rest) = .passed := by
  obtain ⟨first, more, hname, hfirst, hletters⟩ := h.exists_name
  have hmore (d : Char) (hd : d ∈ more) : inEntityName d = true := by
    simp [inEntityName, Char.isAlphanum, hletters d hd]
  have hend := (span_append (';' :: rest) hmore rfl).2
  rw [hname, List.cons_append, ampersand.eq_3, hend]
  · simp
  · intro heq
    exact absurd heq (ne_of_test hfirst rfl)

/-- A reference by name is text, and does not run into what follows it. -/
theorem shows_namedReference {name : String} {c : Char} (h : IsEntity name c) :
    Shows (namedReference name) [] := by
  have hname : Shows (name.toList ++ [';']) [] := by
    refine shows_of_forall fun d hd => ?_
    rcases List.mem_append.1 hd with hd | hd
    · have hletter := h.isAlpha_of_mem hd
      exact ⟨ne_of_test hletter rfl, ne_of_test hletter rfl⟩
    · rw [List.mem_singleton.1 hd]
      decide
  intro final rest found hfound
  have hpassed : ampersand (name.toList ++ [';'] ++ rest) = .passed := by
    rw [List.append_assoc]
    exact ampersand_of_isEntity h
  rw [namedReference, List.cons_append, scan_of_passed hpassed]
  exact hname final rest found hfound

theorem shows_writtenText (s : String) : Shows (writtenText s) [] := by
  unfold writtenText
  induction s.toList with
  | nil => exact shows_nil
  | cons c rest ih =>
      rw [escaped_cons]
      split
      case isTrue => exact (shows_namedReference isEntity_amp).append ih
      case isFalse hamp =>
          split
          case isTrue => exact (shows_namedReference isEntity_lt).append ih
          case isFalse hopen => exact shows_cons hopen hamp ih

theorem Element.shows_opening (e : Element) : Shows e.opening [e.tag] := by
  intro final rest found h
  have hconstruct := construct_opening e.isName e.distinct rest
  obtain ⟨c, more, hname, -⟩ := exists_elementName e.isName
  rw [hname, List.cons_append] at hconstruct
  have hopening : e.opening ++ rest =
      '<' :: c :: (more ++ (writtenAll e.attributes ++ '>' :: rest)) := by
    simp [Element.opening, hname]
  rw [hopening, scan_of_tag hconstruct, if_neg (by simp [e.notRaw]), h]
  rfl

theorem afterBracket?_append {s after : List Char} (h : ∀ c ∈ s, c ≠ '>') :
    afterBracket? (s ++ '>' :: after) = some after := by
  induction s with
  | nil => rfl
  | cons c rest ih =>
      rw [List.cons_append, afterBracket?, if_neg (h c List.mem_cons_self)]
      exact ih fun d hd => h d (List.mem_cons_of_mem c hd)

theorem Element.shows_closing (e : Element) : Shows e.closing [] := by
  intro final rest found h
  have hname (c : Char) (hc : c ∈ e.name.toList) : c ≠ '>' :=
    ne_of_test (inElementName_of_mem e.isName hc) rfl
  have hclosing : e.closing ++ rest = '<' :: '/' :: (e.name.toList ++ '>' :: rest) := by
    simp [Element.closing]
  have hconstruct : construct ('/' :: (e.name.toList ++ '>' :: rest)) = .ok (.text rest) := by
    rw [construct, afterBracket?_append hname]
    rfl
  rw [hclosing, scan_of_text hconstruct]
  exact h

/-- A text from which a scan always goes on is read to its end. -/
theorem Shows.tags_eq {s : List Char} {tags : List Tag} (h : Shows s tags) :
    Markup.tags (String.ofList s) = .ok tags := by
  have hempty (final : Bool) : scan final none [] = .ok ⟨[], none, []⟩ := by rw [scan]
  have hscan := h false [] _ (hempty false)
  rw [List.append_nil] at hscan
  rw [Markup.tags, String.toList_ofList, hscan]
  change (do let second ← scan true none []; pure _) = _
  rw [hempty]
  simp [pure, Except.pure, bind, Except.bind]

/-! ## Trees -/

namespace Node

mutual

theorem shows_written (node : Node) : Shows node.written (node.elements.map (·.tag)) := by
  cases node with
  | text s => exact shows_writtenText s
  | element e children =>
      have hinner := (shows_writtenForest children).append e.shows_closing
      rw [List.append_nil] at hinner
      exact e.shows_opening.append hinner

/-- The induction is on how deep elements are nested, and within that on the list of trees. -/
theorem shows_writtenForest (forest : List Node) :
    Shows (writtenForest forest) ((elementsOf forest).map (·.tag)) := by
  cases forest with
  | nil => exact shows_nil
  | cons node rest =>
      rw [writtenForest, elementsOf, List.map_append]
      exact (shows_written node).append (shows_writtenForest rest)

end

/-- Reading undoes writing: one tag for each element, with all its attributes. -/
theorem tags_writtenForest (forest : List Node) :
    Markup.tags (String.ofList (writtenForest forest)) =
      .ok ((elementsOf forest).map (·.tag)) :=
  (shows_writtenForest forest).tags_eq

end Node

end StyleUsage.Markup
