import StyleUsage.Proofs.Markup.Escapes
import StyleUsage.Proofs.Markup.Origins
import StyleUsage.Proofs.Text.Lowercase
import StyleUsage.Proofs.Usage.Bindings
import StyleUsage.Proofs.Usage.Feeding
import StyleUsage.Proofs.Usage.Names

/-!
# How used names are spelled

In markup without references and escapes, a used name stands as it is counted. The names that tags
bind are the exception, because the tags show them in lowercase.
-/

namespace StyleUsage.Usage

open StyleUsage.Text Markup

variable {s : List Char} {markup name : String} {tags : List Tag} {directives : Bool}

/-- The name stands in the markup, in its letter case. -/
def Occurs (markup name : String) : Prop :=
  name.toList <:+: markup.toList

instance (markup name : String) : Decidable (Occurs markup name) :=
  inferInstanceAs (Decidable (name.toList <:+: markup.toList))

/-- A tag has an attribute that binds the name. -/
def BindsAtTag (tags : List Tag) (name : String) : Prop :=
  ∃ tag ∈ tags, ∃ entry ∈ tag.attributes, IsBindingName entry.1.toList name.toList

/-! ## Bindings at tags -/

/-- An attribute that binds a name is none whose value is an expression. -/
theorem mem_directiveClasses_of_isBindingName {entry : Attribute}
    (h : IsBindingName entry.1.toList name.toList) : name ∈ directiveClasses entry := by
  obtain ⟨key, value⟩ := entry
  have hkey : '.' ∈ key.toList := by
    obtain ⟨keyword, ending, -, -, -, -, hkey⟩ := h
    rw [hkey]
    simp
  have hdot : lowercaseText key ∉ expressionAttributes := by
    intro hmem
    have hnone : ∀ key ∈ expressionAttributes, '.' ∉ key.toList := by decide
    apply hnone _ hmem
    rw [lowercaseText, String.toList_ofList]
    exact mem_lowercaseAfter (by decide) hkey
  rw [directiveClasses, if_neg hdot]
  simp [boundName?_eq_some_iff.2 h]

theorem uses_of_bindsAtTag (htags : Markup.tags markup = .ok tags) (h : BindsAtTag tags name) :
    Uses (collectors true) markup name := by
  obtain ⟨tag, htag, entry, hentry, hbound⟩ := h
  refine ⟨?_, tags, htags, .directives, by simp [collectors], .inl ⟨tag, htag, ?_⟩⟩
  · rintro rfl
    obtain ⟨-, -, -, hne, -⟩ := hbound
    exact hne rfl
  · exact List.mem_flatMap.2 ⟨entry, hentry, mem_directiveClasses_of_isBindingName hbound⟩

/-- A name that a tag binds is in the lowercase form of what is written. -/
theorem exists_written_of_bindsAtTag (htags : Markup.tags markup = .ok tags)
    (h : BindsAtTag tags name) : ∃ written, written <:+: markup.toList ∧
      IsBindingName (lowercase written) name.toList := by
  obtain ⟨tag, htag, entry, hentry, hbound⟩ := h
  obtain ⟨written, value, hwritten, -, rfl⟩ := isTagOf_of_tags htags htag entry hentry
  rw [String.toList_ofList] at hbound
  exact ⟨written, hwritten, hbound⟩

/-! ## Names that stand in the markup -/

/-- Without references, the value of an attribute stands in the markup. -/
theorem infix_of_mem_attributes (hamp : '&' ∉ markup.toList)
    (htags : Markup.tags markup = .ok tags) {tag : Tag} (htag : tag ∈ tags) {entry : Attribute}
    (hentry : entry ∈ tag.attributes) : entry.2.toList <:+: markup.toList := by
  obtain ⟨-, value, -, hvalue, rfl⟩ := isTagOf_of_tags htags htag entry hentry
  rwa [String.toList_ofList, resolveReferences_of_notMem fun hmem => hamp (hvalue.subset hmem)]

theorem occurs_of_mem_attributes (hamp : '&' ∉ markup.toList) (hslash : '\\' ∉ markup.toList)
    (htags : Markup.tags markup = .ok tags) {tag : Tag} (htag : tag ∈ tags) {collector : Collector}
    (h : name ∈ collector.fromAttributes tag.attributes) :
    Occurs markup name ∨ collector = .directives ∧ BindsAtTag tags name := by
  cases collector with
  | classAttribute =>
      left
      rw [Collector.fromAttributes] at h
      cases hlookup : tag.attributes.lookup "class" with
      | none => simp [hlookup, wordsOf, words] at h
      | some value =>
          obtain ⟨before, after, heq, -⟩ := List.lookup_eq_some_iff.1 hlookup
          have hvalue := infix_of_mem_attributes hamp htags htag
            (show ("class", value) ∈ tag.attributes by simp [heq])
          rw [hlookup, Option.getD_some, wordsOf] at h
          obtain ⟨word, hword, rfl⟩ := List.mem_map.1 h
          rw [Occurs, String.toList_ofList]
          exact (infix_of_mem_words hword).trans hvalue
  | directives =>
      obtain ⟨entry, hentry, hname⟩ := List.mem_flatMap.1 h
      have hvalue := infix_of_mem_attributes hamp htags htag hentry
      obtain ⟨key, value⟩ := entry
      rw [directiveClasses] at hname
      split at hname
      case isTrue =>
          left
          have hslash' : '\\' ∉ value.toList := fun hmem => hslash (hvalue.subset hmem)
          exact (infix_of_mem_expressionClasses hslash' hname).trans hvalue
      case isFalse =>
          refine .inr ⟨rfl, tag, htag, (key, value), hentry, ?_⟩
          obtain ⟨bound, hbound, rfl⟩ := Option.map_eq_some_iff.1 (Option.mem_toList.1 hname)
          rw [String.toList_ofList]
          exact boundName?_eq_some_iff.1 hbound

theorem occurs_of_uses (hamp : '&' ∉ markup.toList) (hslash : '\\' ∉ markup.toList)
    (htags : Markup.tags markup = .ok tags) (h : Uses (collectors directives) markup name) :
    Occurs markup name ∨ directives = true ∧ BindsAtTag tags name := by
  obtain ⟨-, tags', htags', collector, hcollector, hfound⟩ := h
  obtain rfl : tags = tags' := Except.ok.inj (htags.symm.trans htags')
  rcases hfound with ⟨tag, htag, hname⟩ | hname
  · rcases occurs_of_mem_attributes hamp hslash htags htag hname with hoccurs | ⟨rfl, hbinds⟩
    · exact .inl hoccurs
    · cases directives with
      | true => exact .inr ⟨rfl, hbinds⟩
      | false => cases List.mem_singleton.1 hcollector
  · cases collector with
    | classAttribute => cases hname
    | directives => exact .inl (mem_fromMarkup.1 hname).infix_name

/-- Markup that is read is taken. A name that it adds stands in it, unless the name is bound by what
is written in another letter case. So all the names stand in the markup if and only if those do that
its tags bind. -/
theorem used_occurs_iff (hamp : '&' ∉ markup.toList) (hslash : '\\' ∉ markup.toList)
    (htags : Markup.tags markup = .ok tags) {a : Accumulator} (hopen : a.isFrozen = false)
    (hcollectors : a.collectors = collectors directives) :
    ∃ b, a.feed markup = .ok b ∧
      (∀ name ∈ b.used, name ∈ a.used ∨ Occurs markup name ∨
        directives = true ∧ ∃ written, written <:+: markup.toList ∧
          IsBindingName (lowercase written) name.toList) ∧
      ((∀ name ∈ b.used, name ∈ a.used ∨ Occurs markup name) ↔
        (directives = true → ∀ name, BindsAtTag tags name →
          name ∈ a.used ∨ Occurs markup name)) := by
  have hfeed := Accumulator.feed_of_tags hopen htags
  obtain ⟨-, -, -, hused⟩ := Accumulator.feed_eq_ok hfeed
  rw [hcollectors] at hused
  refine ⟨_, hfeed, ?_, ?_⟩
  · intro name hname
    rcases (hused name).1 hname with hold | huses
    · exact .inl hold
    · rcases occurs_of_uses hamp hslash htags huses with hoccurs | ⟨hdirectives, hbinds⟩
      · exact .inr (.inl hoccurs)
      · exact .inr (.inr ⟨hdirectives, exists_written_of_bindsAtTag htags hbinds⟩)
  · constructor
    · rintro hall rfl name hbinds
      exact hall name ((hused name).2 (.inr (uses_of_bindsAtTag htags hbinds)))
    · intro hbound name hname
      rcases (hused name).1 hname with hold | huses
      · exact .inl hold
      · rcases occurs_of_uses hamp hslash htags huses with hoccurs | ⟨hdirectives, hbinds⟩
        · exact .inr hoccurs
        · exact hbound hdirectives name hbinds

/-! ### A sample -/

def sampleBound : String :=
  "<p class=\"isactive\" [class.isActive]=\"x\" [ngClass]=\"\x7b'b c': y\x7d\"></p>"

def sampleTags : List Tag :=
  [⟨"p", [("class", "isactive"), ("[class.isactive]", "x"), ("[ngclass]", "\x7b'b c': y\x7d")]⟩]

theorem used_occurs_iff_sample :
    ('&' ∉ sampleBound.toList ∧ '\\' ∉ sampleBound.toList ∧
      Markup.tags sampleBound = .ok sampleTags) ∧
    ∃ b, (Accumulator.start (collectors true)).feed sampleBound = .ok b ∧
      ∀ name ∈ b.used, Occurs sampleBound name := by
  have hamp : '&' ∉ sampleBound.toList := by decide
  have hslash : '\\' ∉ sampleBound.toList := by decide
  have htags : Markup.tags sampleBound = .ok sampleTags := by decide +kernel
  obtain ⟨b, hb, -, hiff⟩ := @used_occurs_iff sampleBound sampleTags true hamp hslash htags
    (.start (collectors true)) rfl rfl
  have hbound : ∀ tag ∈ sampleTags, ∀ entry ∈ tag.attributes,
      ∀ bound ∈ boundName? entry.1.toList, bound = "isactive".toList := by decide +kernel
  refine ⟨⟨hamp, hslash, htags⟩, b, hb, fun name hname => ?_⟩
  refine (hiff.2 ?_ name hname).resolve_left List.not_mem_nil
  rintro - name ⟨tag, htag, entry, hentry, hname⟩
  right
  have hlower := hbound tag htag entry hentry name.toList (boundName?_eq_some_iff.2 hname)
  rw [String.toList_inj.1 hlower]
  decide +kernel

/-- A binding with a capital letter also counts in lowercase, which nobody has written. -/
theorem lowered_binding_counts :
    '&' ∉ "<p [class.isActive]=\"x\"></p>".toList ∧
    '\\' ∉ "<p [class.isActive]=\"x\"></p>".toList ∧
    ((Accumulator.start (collectors true)).feed
      "<p [class.isActive]=\"x\"></p>").toOption.map (·.used) = some ["isActive", "isactive"] ∧
    ¬ Occurs "<p [class.isActive]=\"x\"></p>" "isactive" := by
  refine ⟨by decide, by decide, by decide +kernel, by decide +kernel⟩

end StyleUsage.Usage
