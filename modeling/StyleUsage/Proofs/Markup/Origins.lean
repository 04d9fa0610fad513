import StyleUsage.Markup.Scan

/-!
# Where attributes come from

What is read of a markup text stands in it: an attribute's name but for its letter case, and its
value but for the references in it.
-/

namespace StyleUsage.Markup

open StyleUsage.Text

variable {s t : List Char}

/-! ## Tags from a text -/

/-- The attribute's name and its value are written in the text. -/
def IsAttributeOf (s : List Char) (entry : String × String) : Prop :=
  ∃ name value, name <:+: s ∧ value <:+: s ∧
    entry = (String.ofList (lowercase name), String.ofList (resolveReferences value))

def IsTagOf (s : List Char) (tag : Tag) : Prop :=
  ∀ entry ∈ tag.attributes, IsAttributeOf s entry

theorem IsTagOf.of_suffix {tag : Tag} (h : IsTagOf t tag) (ht : t <:+ s) : IsTagOf s tag := by
  intro entry hentry
  obtain ⟨name, value, hname, hvalue, heq⟩ := h entry hentry
  exact ⟨name, value, hname.trans ht.isInfix, hvalue.trans ht.isInfix, heq⟩

theorem infix_of_mem_writtenAttributes {canStart : Bool} {name value : List Char}
    (h : (name, value) ∈ (writtenAttributes canStart s).1) : name <:+: s ∧ value <:+: s := by
  have hname {c : Char} {rest : List Char} {s : List Char} (hrest : c :: rest <:+ s) :
      c :: rest.takeWhile inAttributeName <:+: s ∧ rest.dropWhile inAttributeName <:+ s :=
    ⟨((List.prefix_cons_inj c).2 (List.takeWhile_prefix _)).isInfix.trans hrest.isInfix,
      (List.dropWhile_suffix _).trans ((List.suffix_cons c rest).trans hrest)⟩
  fun_induction writtenAttributes canStart s with
  | case1 => cases h
  | case2 => cases h
  | case3 canStart s c rest hs _ hlt written found after hv _ more tail heq ih =>
      obtain ⟨hwritten, hbehind⟩ := hname (hs ▸ suffix_skipSeparators s)
      obtain ⟨hfound, hafter⟩ := infix_of_value? hv
      rcases List.mem_cons.1 h with heq | h
      · obtain ⟨rfl, rfl⟩ := Prod.mk.inj heq
        exact ⟨hwritten, hfound.trans hbehind.isInfix⟩
      · obtain ⟨h₁, h₂⟩ := ih (by rwa [heq])
        have hsuffix := (hafter.trans hbehind).isInfix
        exact ⟨h₁.trans hsuffix, h₂.trans hsuffix⟩
  | case4 canStart s c rest hs _ hlt written hv more tail heq ih =>
      obtain ⟨hwritten, hbehind⟩ := hname (hs ▸ suffix_skipSeparators s)
      rcases List.mem_cons.1 h with heq | h
      · obtain ⟨rfl, rfl⟩ := Prod.mk.inj heq
        exact ⟨hwritten, List.nil_infix⟩
      · obtain ⟨h₁, h₂⟩ := ih (by rwa [heq])
        exact ⟨h₁.trans hbehind.isInfix, h₂.trans hbehind.isInfix⟩

theorem mem_insertAttribute {found : List (String × String)} {name value : String}
    {entry : String × String} (h : entry ∈ insertAttribute found name value) :
    entry = (name, value) ∨ entry ∈ found := by
  induction found with
  | nil => exact .inl (List.mem_singleton.1 h)
  | cons first rest ih =>
      obtain ⟨other, old⟩ := first
      rw [insertAttribute] at h
      split at h
      case isTrue =>
          rcases List.mem_cons.1 h with rfl | h
          · exact .inl rfl
          · exact .inr (List.mem_cons_of_mem _ h)
      case isFalse =>
          rcases List.mem_cons.1 h with rfl | h
          · exact .inr List.mem_cons_self
          · rcases ih h with heq | h
            · exact .inl heq
            · exact .inr (List.mem_cons_of_mem _ h)

theorem mem_foldl_insertAttribute {attributes : List (List Char × List Char)}
    {found : List (String × String)} {entry : String × String}
    (h : entry ∈ attributes.foldl (fun found (name, value) =>
      insertAttribute found (String.ofList (lowercase name))
        (String.ofList (resolveReferences value))) found) :
    entry ∈ found ∨ ∃ name value, (name, value) ∈ attributes ∧
      entry = (String.ofList (lowercase name), String.ofList (resolveReferences value)) := by
  induction attributes generalizing found with
  | nil => exact .inl h
  | cons first rest ih =>
      obtain ⟨name, value⟩ := first
      rcases ih h with h | ⟨name', value', hmem, heq⟩
      · rcases mem_insertAttribute h with heq | h
        · exact .inr ⟨name, value, List.mem_cons_self, heq⟩
        · exact .inl h
      · exact .inr ⟨name', value', List.mem_cons_of_mem _ hmem, heq⟩

/-- A tag has no attributes but those that are written. -/
theorem mem_tagOf {name : List Char} {attributes : List (List Char × List Char)}
    {entry : String × String} (h : entry ∈ (tagOf name attributes).attributes) :
    ∃ name value, (name, value) ∈ attributes ∧
      entry = (String.ofList (lowercase name), String.ofList (resolveReferences value)) :=
  (mem_foldl_insertAttribute h).resolve_left List.not_mem_nil

/-! ## What a scan finds -/

theorem isTagOf_openTag {c : Char} {tag : Tag} {selfClosing : Bool} {after : List Char}
    (h : openTag c s = .ok (.tag tag selfClosing after)) : IsTagOf s tag := by
  have hwritten {name : List Char} {canStart : Bool} : IsTagOf s (tagOf name
      (writtenAttributes canStart (s.dropWhile inTagName)).1) := by
    intro entry hentry
    obtain ⟨name, value, hmem, heq⟩ := mem_tagOf hentry
    obtain ⟨hname, hvalue⟩ := infix_of_mem_writtenAttributes hmem
    have hsuffix := (List.dropWhile_suffix (l := s) inTagName).isInfix
    exact ⟨name, value, hname.trans hsuffix, hvalue.trans hsuffix, heq⟩
  unfold openTag at h
  simp only at h
  split at h
  · cases h
  · cases eq_of_checkNumbers_bind h
    exact hwritten
  · cases eq_of_checkNumbers_bind h
    exact hwritten
  · split at h
    · cases h
    · cases eq_of_checkNumbers_bind h

theorem isTagOf_construct {tag : Tag} {selfClosing : Bool} {after : List Char}
    (h : construct s = .ok (.tag tag selfClosing after)) : IsTagOf s tag := by
  have hnone {after? : Option (List Char)} : Opened.upTo after? ≠ .tag tag selfClosing after := by
    cases after? <;> simp [Opened.upTo]
  unfold construct at h
  split at h
  · exact absurd (Except.ok.inj h) hnone
  · rename_i rest
    cases hsection : section? ['<', '!', '['] rest with
    | error e => simp [hsection, Except.map] at h
    | ok after? =>
        simp only [hsection, Except.map, Except.ok.injEq] at h
        exact absurd h hnone
  iterate 3 exact absurd (Except.ok.inj h) hnone
  · split at h
    · exact (isTagOf_openTag h).of_suffix (List.suffix_cons _ _)
    · cases h
  · cases h

/-- All tags come from the text, of which an end is left unread. -/
structure Scanned.IsFrom (s : List Char) (found : Scanned) : Prop where
  tags : ∀ tag ∈ found.tags, IsTagOf s tag
  unread : found.unread <:+ s

theorem Scanned.IsFrom.of_suffix {found : Scanned} (h : found.IsFrom t) (ht : t <:+ s) :
    found.IsFrom s :=
  ⟨fun tag htag => (h.tags tag htag).of_suffix ht, h.unread.trans ht⟩

/-- A scan that finds no tag and leaves the end of a text. -/
theorem Scanned.isFrom_of_suffix (raw : Option (List Char)) (ht : t <:+ s) :
    Scanned.IsFrom s ⟨[], raw, t⟩ :=
  ⟨fun _ h => absurd h List.not_mem_nil, ht⟩

/-- The induction follows the scan, which goes on with a shorter end of the text each time. -/
theorem Scanned.isFrom_of_scan {final : Bool} {raw : Option (List Char)} {found : Scanned}
    (h : scan final raw s = .ok found) : found.IsFrom s := by
  fun_induction scan final raw s generalizing found with
  | case1 s name hnone =>
      cases h
      exact isFrom_of_suffix _ (List.suffix_refl s)
  | case2 s name after hafter hlt ih =>
      exact (ih h).of_suffix ((suffix_of_afterClosing? hafter).trans (List.tail_suffix s))
  | case3 =>
      cases h
      exact isFrom_of_suffix _ (List.suffix_refl _)
  | case4 =>
      cases h
      exact isFrom_of_suffix _ (List.suffix_refl _)
  | case5 => cases h
  | case6 c rest hconstruct hle hfinal ih =>
      exact (ih h).of_suffix ((suffix_skipIncomplete _).trans (List.suffix_cons _ _))
  | case7 c rest hconstruct hle hfinal =>
      cases h
      exact isFrom_of_suffix _ (List.suffix_refl _)
  | case8 c rest after hconstruct hle ih =>
      have hafter : after <:+ c :: rest := endsIn_construct hconstruct
      exact (ih h).of_suffix (hafter.trans (List.suffix_cons _ _))
  | case9 c rest tag selfClosing after hconstruct hle ih =>
      have hafter : after <:+ c :: rest := endsIn_construct hconstruct
      have hbehind := List.suffix_cons '<' (c :: rest)
      cases hscan : scan final (if (isRaw tag.name && !selfClosing) = true then
          some tag.name.toList else none) after with
      | error e =>
          rw [hscan] at h
          cases h
      | ok more =>
          rw [hscan] at h
          cases h
          have hmore := (ih hscan).of_suffix (hafter.trans hbehind)
          refine ⟨fun tag' htag => ?_, hmore.unread⟩
          rcases List.mem_cons.1 htag with rfl | htag
          · exact (isTagOf_construct hconstruct).of_suffix hbehind
          · exact hmore.tags tag' htag
  | case10 rest hpassed ih => exact (ih h).of_suffix (List.suffix_cons _ _)
  | case11 => cases h
  | case12 rest hbefore =>
      cases h
      exact isFrom_of_suffix _ (List.suffix_refl _)
  | case13 rest hbehind =>
      cases h
      exact isFrom_of_suffix _ ((List.drop_suffix 1 rest).trans (List.suffix_cons _ _))
  | case14 c rest _ _ _ ih => exact (ih h).of_suffix (List.suffix_cons c rest)

/-- All attributes that are reported are written in the markup. -/
theorem isTagOf_of_tags {markup : String} {tags : List Tag} (h : Markup.tags markup = .ok tags)
    {tag : Tag} (htag : tag ∈ tags) : IsTagOf markup.toList tag := by
  unfold Markup.tags at h
  cases hfirst : scan false none markup.toList with
  | error e => simp [hfirst, bind, Except.bind] at h
  | ok first =>
      cases hsecond : scan true first.raw first.unread with
      | error e => simp [hfirst, hsecond, bind, Except.bind] at h
      | ok second =>
          simp only [hfirst, hsecond, bind, Except.bind, pure, Except.pure,
            Except.ok.injEq] at h
          have hfrom := Scanned.isFrom_of_scan hfirst
          rw [← h, List.mem_append] at htag
          rcases htag with htag | htag
          · exact hfrom.tags tag htag
          · exact ((Scanned.isFrom_of_scan hsecond).of_suffix hfrom.unread).tags tag htag

end StyleUsage.Markup
