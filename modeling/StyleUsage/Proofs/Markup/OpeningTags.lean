import StyleUsage.Proofs.Markup.Escapes
import StyleUsage.Proofs.Text.Lowercase

/-!
# Opening tags

An opening tag is read back from its written form, and nothing of what follows it is read with it.
-/

namespace StyleUsage.Markup

open StyleUsage.Text

/-! ## How attributes are read -/

section
variable {canStart : Bool} {s rest value after : List Char} {c : Char}

/-- A space is all that has to stand before an attribute. -/
theorem separated_space (rest : List Char) (hblank : isBlank c = false) (hslash : c ≠ '/') :
    startsSeparated (' ' :: c :: rest) = true ∧ skipSeparators (' ' :: c :: rest) = c :: rest := by
  have hspace : startsSeparated (' ' :: c :: rest) = true := by
    rw [startsSeparated, Bool.or_eq_true]
    exact .inl (by decide)
  constructor
  · exact hspace
  · rw [skipSeparators, if_pos hspace, skipSeparators,
      if_neg (by simp [startsSeparated, hblank, hslash])]

theorem writtenAttributes_of_end (hs : skipSeparators s = '>' :: rest) :
    writtenAttributes canStart s = ([], '>' :: rest) := by
  rw [writtenAttributes]
  split
  · rename_i hnil
    rw [hs] at hnil
    cases hnil
  · rename_i hcons
    rw [hs] at hcons
    cases hcons
    simp

/-- The attribute that a text starts with, behind its separators. -/
theorem writtenAttributes_of_start (hs : skipSeparators s = c :: rest)
    (hstart : startsSeparated s = true) (hc : c ≠ '>' ∧ c ≠ '/') :
    writtenAttributes canStart s =
      match value? (rest.dropWhile inAttributeName) with
      | some (value, after) =>
          ((c :: rest.takeWhile inAttributeName, value) :: (writtenAttributes true after).1,
            (writtenAttributes true after).2)
      | none =>
          let next := writtenAttributes
            ((c :: rest.takeWhile inAttributeName).getLast?.any precedesAttribute)
            (rest.dropWhile inAttributeName)
          ((c :: rest.takeWhile inAttributeName, []) :: next.1, next.2) := by
  rw [writtenAttributes]
  split
  · rename_i hnil
    rw [hs] at hnil
    cases hnil
  · rename_i hcons
    rw [hs] at hcons
    cases hcons
    simp only [hstart, hc.1, hc.2, Bool.not_true, Bool.and_false, decide_false, Bool.or_self,
      Bool.false_eq_true, if_false]
    split
    · rename_i hv
      rw [hv]
    · rename_i hv
      rw [hv]

end

/-! ## How attributes are written -/

namespace WrittenAttribute

theorem of_mem_name {a : WrittenAttribute} {c : Char} (h : c ∈ a.name.toList) :
    isBlank c = false ∧ c ≠ '"' ∧ c ≠ '\'' ∧ c ≠ '/' ∧ c ≠ '=' ∧ c ≠ '<' ∧ c ≠ '>' := by
  have hin := List.all_eq_true.1 a.inName c h
  simpa [inWrittenAttribute, not_or] using hin

theorem inAttributeName_of_mem {a : WrittenAttribute} {c : Char} (h : c ∈ a.name.toList) :
    inAttributeName c = true := by
  obtain ⟨hblank, -, -, hslash, hequals, -, hclose⟩ := of_mem_name h
  simp [inAttributeName, hblank, hslash, hequals, hclose]

theorem exists_name (a : WrittenAttribute) : ∃ c rest, a.name.toList = c :: rest := by
  refine List.exists_cons_of_ne_nil fun hnil => a.name_ne ?_
  exact String.toList_inj.1 hnil

/-- What is read of an attribute. -/
def read (a : WrittenAttribute) : List Char × List Char :=
  (a.name.toList, writtenValue a.content)

end WrittenAttribute

open WrittenAttribute (writtenContent)

variable {a : WrittenAttribute} {attributes : List WrittenAttribute} {text after : List Char}

/-- Behind a name, the next attribute or the end of the tag is no value. -/
theorem value?_writtenAll : value? (writtenAll attributes ++ '>' :: text) = none := by
  cases attributes with
  | nil => rfl
  | cons a rest =>
      obtain ⟨c, more, hname⟩ := a.exists_name
      obtain ⟨hblank, -, -, -, hequals, -⟩ := a.of_mem_name (hname ▸ List.mem_cons_self)
      simp only [writtenAll, List.flatMap_cons, WrittenAttribute.written, hname, List.cons_append,
        value?]
      rw [List.dropWhile_cons_of_pos (by decide), List.dropWhile_cons_of_neg (by simp [hblank])]
      split
      · rename_i heq
        exact absurd (List.cons.inj heq).1 hequals
      · rfl

theorem value?_value (v : String) :
    value? ('=' :: '"' :: (writtenValue v ++ '"' :: after)) = some (writtenValue v, after) := by
  have hquote (c : Char) (hc : c ∈ writtenValue v) : decide (c ≠ '"') = true :=
    decide_eq_true fun heq => quote_not_mem_writtenValue v (heq ▸ hc)
  obtain ⟨hbefore, hafter⟩ := span_append ('"' :: after) hquote (by simp)
  rw [value?, List.dropWhile_cons_of_neg (by decide)]
  simp only
  rw [List.dropWhile_cons_of_neg (by decide), List.dropWhile_cons_of_neg (by decide)]
  simp only [isQuote, decide_true, Bool.true_or, if_true, hbefore, hafter]

/-- A name ends where its value starts, or where the next attribute or the end of the tag does. -/
theorem ends_attributeName (content : Option String) (attributes : List WrittenAttribute)
    (text : List Char) :
    (writtenContent content ++ (writtenAll attributes ++ '>' :: text)).head?.all
      (fun c => !inAttributeName c) = true := by
  cases content with
  | some v => rfl
  | none => cases attributes <;> rfl

/-- Attributes are read back from their written forms. The induction goes from the first to the
last attribute. -/
theorem writtenAttributes_writtenAll (canStart : Bool) :
    writtenAttributes canStart (writtenAll attributes ++ '>' :: text) =
      (attributes.map (·.read), '>' :: text) := by
  induction attributes generalizing canStart with
  | nil => exact writtenAttributes_of_end rfl
  | cons a rest ih =>
      obtain ⟨c, more, hname⟩ := a.exists_name
      obtain ⟨hblank, -, -, hslash, -, -, hclose⟩ := a.of_mem_name (hname ▸ List.mem_cons_self)
      have hmore (d : Char) (hd : d ∈ more) : inAttributeName d = true :=
        a.inAttributeName_of_mem (hname ▸ List.mem_cons_of_mem c hd)
      have hwritten : writtenAll (a :: rest) ++ '>' :: text =
          ' ' :: c :: (more ++ (writtenContent a.value ++ (writtenAll rest ++ '>' :: text))) := by
        simp [writtenAll, WrittenAttribute.written, hname]
      obtain ⟨htake, hdrop⟩ := span_append _ hmore (ends_attributeName a.value rest text)
      obtain ⟨hstart, hskip⟩ := separated_space
        (more ++ (writtenContent a.value ++ (writtenAll rest ++ '>' :: text))) hblank hslash
      rw [hwritten, writtenAttributes_of_start hskip hstart ⟨hclose, hslash⟩, htake, hdrop,
        List.map_cons, WrittenAttribute.read, WrittenAttribute.content, hname]
      cases hvalue : a.value with
      | some v =>
          have hv : value? (writtenContent (some v) ++ (writtenAll rest ++ '>' :: text)) =
              some (writtenValue v, writtenAll rest ++ '>' :: text) := by
            simpa [writtenContent] using value?_value v
          simp only [hv, ih, Option.getD_some]
      | none =>
          simp only [writtenContent, List.nil_append, value?_writtenAll, ih, Option.getD_none]
          rfl

/-! ## Tags -/

section
variable {name : String}

theorem inElementName_of_mem (hname : isElementName name = true) {c : Char}
    (h : c ∈ name.toList) : inElementName c = true := by
  rw [isElementName, Bool.and_eq_true, List.all_eq_true] at hname
  exact hname.2 c h

theorem exists_elementName (hname : isElementName name = true) :
    ∃ c rest, name.toList = c :: rest ∧ c.isLower = true := by
  rw [isElementName, Bool.and_eq_true] at hname
  cases hchars : name.toList with
  | nil => simp [hchars] at hname
  | cons c rest => exact ⟨c, rest, rfl, by simpa [hchars] using hname.1⟩

theorem isSmallAscii_of_inElementName {c : Char} (h : inElementName c = true) :
    isSmallAscii c = true := by
  rw [inElementName, Bool.or_eq_true, Bool.or_eq_true, isLower_iff, isDigit_iff,
    decide_eq_true_eq] at h
  rw [isSmallAscii, Bool.and_eq_true, decide_eq_true_eq, Bool.not_eq_true', ← Bool.not_eq_true,
    isUpper_iff]
  rcases h with (hlower | hdigit) | rfl
  · omega
  · omega
  · decide

theorem lowercaseText_elementName (hname : isElementName name = true) :
    lowercaseText name = name := by
  apply lowercaseText_of_isSmallAscii
  intro c hc
  exact isSmallAscii_of_inElementName (inElementName_of_mem hname hc)

end

theorem insertAttribute_of_notMem {found : List (String × String)} {name value : String}
    (h : name ∉ found.map Prod.fst) :
    insertAttribute found name value = found ++ [(name, value)] := by
  induction found with
  | nil => rfl
  | cons entry rest ih =>
      obtain ⟨other, old⟩ := entry
      rw [List.map_cons, List.mem_cons, not_or] at h
      rw [insertAttribute, if_neg (Ne.symm h.1), ih h.2]
      rfl

/-- Attributes with different names are taken as they come. -/
theorem foldl_insertAttribute {found : List (String × String)}
    (h : (found.map Prod.fst ++ attributes.map (·.key)).Nodup) :
    (attributes.map (·.read)).foldl (fun found (name, value) =>
      insertAttribute found (String.ofList (lowercase name))
        (String.ofList (resolveReferences value))) found = found ++ attributes.map (·.entry) := by
  induction attributes generalizing found with
  | nil => exact (List.append_nil found).symm
  | cons a rest ih =>
      have hnew : a.key ∉ found.map Prod.fst := by
        intro hmem
        exact (List.nodup_append.1 h).2.2 _ hmem _ List.mem_cons_self rfl
      have hentry : insertAttribute found (String.ofList (lowercase a.read.1))
          (String.ofList (resolveReferences a.read.2)) = found ++ [a.entry] := by
        rw [WrittenAttribute.read, resolveReferences_writtenValue, String.ofList_toList]
        exact insertAttribute_of_notMem hnew
      rw [List.map_cons, List.foldl_cons]
      simp only
      rw [hentry, ih, List.map_cons, List.append_assoc]
      · rfl
      · simpa [WrittenAttribute.entry] using h

theorem tagOf_read {name : String} (hname : isElementName name = true)
    (hdistinct : (attributes.map (·.key)).Nodup) :
    tagOf name.toList (attributes.map (·.read)) = ⟨name, attributes.map (·.entry)⟩ := by
  have hlower : String.ofList (lowercase name.toList) = name := lowercaseText_elementName hname
  rw [tagOf, foldl_insertAttribute (by simpa using hdistinct), hlower]
  rfl

theorem checkNumbers_read (attributes : List WrittenAttribute) :
    checkNumbers (attributes.map (·.read)) = .ok () := by
  have hnone : (attributes.map (·.read)).findSome? (fun (_, value) => tooLongNumber? value) =
      none := by
    rw [List.findSome?_eq_none_iff]
    intro entry hentry
    obtain ⟨a, -, rfl⟩ := List.mem_map.1 hentry
    exact tooLongNumber?_writtenValue a.content
  rw [checkNumbers, hnone]

/-- An opening tag is read back from its written form, whatever follows it. -/
theorem construct_opening {name : String} (hname : isElementName name = true)
    (hdistinct : (attributes.map (·.key)).Nodup) (after : List Char) :
    construct (name.toList ++ (writtenAll attributes ++ '>' :: after)) =
      .ok (.tag ⟨name, attributes.map (·.entry)⟩ false after) := by
  obtain ⟨c, rest, hchars, hlower⟩ := exists_elementName hname
  have hrest (d : Char) (hd : d ∈ rest) : inTagName d = true := by
    have hmem : d ∈ name.toList := hchars ▸ List.mem_cons_of_mem c hd
    have hne {x : Char} (hx : inElementName x = false) : d ≠ x :=
      ne_of_test (inElementName_of_mem hname hmem) hx
    simp [inTagName, hne (x := '\t') rfl, hne (x := '\n') rfl, hne (x := '\r') rfl,
      hne (x := '\x0c') rfl, hne (x := ' ') rfl, hne (x := '/') rfl, hne (x := '>') rfl,
      hne (x := '\x00') rfl]
  have hend : (writtenAll attributes ++ '>' :: after).head?.all
      (fun c => !inTagName c) = true := by
    cases attributes <;> rfl
  obtain ⟨htake, hdrop⟩ := span_append _ hrest hend
  have hopen : openTag c (rest ++ (writtenAll attributes ++ '>' :: after)) =
      .ok (.tag ⟨name, attributes.map (·.entry)⟩ false after) := by
    rw [openTag]
    simp only [htake, hdrop, writtenAttributes_writtenAll, checkNumbers_read]
    rw [← hchars, tagOf_read hname hdistinct]
    rfl
  have hletter : c.isAlpha = true := isAlpha_iff.2 (.inr hlower)
  have hne {d : Char} (hd : d.isLower = false) : c ≠ d := ne_of_test hlower hd
  rw [hchars, List.cons_append, construct, if_pos hletter, hopen]
  all_goals simp [hne (d := '!') rfl, hne (d := '?') rfl, hne (d := '/') rfl]

end StyleUsage.Markup
