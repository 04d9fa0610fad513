import Mathlib.Data.List.Basic
import StyleUsage.Proofs.Markup.Reading
import StyleUsage.Proofs.Usage.Bindings
import StyleUsage.Proofs.Usage.Feeding
import StyleUsage.Proofs.Usage.Names

/-!
# What documents use

No class that a document uses is missed. Without the directives the used classes are exactly the
words of the attributes `class`, in whatever letter case these are written; with the directives they
include all that class expressions and bindings give.
-/

namespace StyleUsage

open StyleUsage.Text

/-! ## Attributes of a document -/

namespace Markup

/-- The attributes in some trees. -/
def Node.attributesOf (forest : List Node) : List WrittenAttribute :=
  (elementsOf forest).flatMap (·.attributes)

/-- The markup text of some trees. -/
def Node.markup (forest : List Node) : String :=
  String.ofList (writtenForest forest)

theorem infix_opening {e : Element} {a : WrittenAttribute} (h : a ∈ e.attributes) :
    ' ' :: a.written <:+: e.opening := by
  have hall : ' ' :: a.written <:+: writtenAll e.attributes :=
    List.infix_of_mem_flatten (List.mem_map_of_mem h)
  have hopening : writtenAll e.attributes <:+: e.opening :=
    ⟨'<' :: e.name.toList, ['>'], by simp [Element.opening]⟩
  exact hall.trans hopening

namespace Node

mutual

theorem infix_written {e : Element} {node : Node} (h : e ∈ node.elements) :
    e.opening <:+: node.written := by
  cases node with
  | text s => cases h
  | element outer children =>
      rw [written]
      rcases List.mem_cons.1 h with rfl | h
      · exact (List.prefix_append _ _).isInfix
      · have hinner := infix_writtenForest h
        have hchildren : writtenForest children <:+: outer.opening ++
            (writtenForest children ++ outer.closing) :=
          ⟨outer.opening, outer.closing, by simp⟩
        exact hinner.trans hchildren

theorem infix_writtenForest {e : Element} {forest : List Node} (h : e ∈ elementsOf forest) :
    e.opening <:+: writtenForest forest := by
  cases forest with
  | nil => cases h
  | cons node rest =>
      rw [writtenForest]
      rcases List.mem_append.1 h with h | h
      · exact (infix_written h).trans (List.prefix_append _ _).isInfix
      · exact (infix_writtenForest h).trans (List.suffix_append _ _).isInfix

end

/-- Every attribute stands in the text of its document, behind a space. -/
theorem infix_of_mem_attributesOf {a : WrittenAttribute} {forest : List Node}
    (h : a ∈ attributesOf forest) : ' ' :: a.written <:+: writtenForest forest := by
  obtain ⟨e, he, ha⟩ := List.mem_flatMap.1 h
  exact (infix_opening ha).trans (infix_writtenForest he)

end Node

end Markup

namespace Usage

open Markup

/-! ## What the collectors find in a document -/

variable {directives : Bool} {forest : List Node} {name : String}

/-- An attribute is looked up by its name. -/
theorem lookup_entry {attributes : List WrittenAttribute} (h : (attributes.map (·.key)).Nodup)
    {a : WrittenAttribute} (ha : a ∈ attributes) :
    (attributes.map (·.entry)).lookup a.key = some a.content := by
  induction attributes with
  | nil => cases ha
  | cons first rest ih =>
      rw [List.map_cons, List.nodup_cons] at h
      rw [List.map_cons, WrittenAttribute.entry, List.lookup_cons]
      rcases List.mem_cons.1 ha with rfl | ha
      · rw [beq_self_eq_true]
      · have hne : a.key ≠ first.key := fun heq => h.1 (heq ▸ List.mem_map_of_mem ha)
        rw [beq_false_of_ne hne]
        exact ih h.2 ha

theorem mem_classAttribute {e : Element} :
    name ∈ Collector.classAttribute.fromAttributes e.tag.attributes ↔
      ∃ a ∈ e.attributes, a.key = "class" ∧ name ∈ wordsOf a.content := by
  by_cases h : ∃ a ∈ e.attributes, a.key = "class"
  · obtain ⟨a, ha, hkey⟩ := h
    have hlookup := lookup_entry e.distinct ha
    rw [hkey] at hlookup
    have hclasses : Collector.classAttribute.fromAttributes e.tag.attributes =
        wordsOf a.content := by
      rw [Collector.fromAttributes, Element.tag, hlookup, Option.getD_some]
    rw [hclasses]
    constructor
    · intro hname
      exact ⟨a, ha, hkey, hname⟩
    · rintro ⟨b, hb, hkey', hname⟩
      have hlookup' := lookup_entry e.distinct hb
      rw [hkey', hlookup] at hlookup'
      rwa [Option.some.inj hlookup']
  · have hnone : e.tag.attributes.lookup "class" = none := by
      rw [List.lookup_eq_none_iff]
      intro entry hentry
      obtain ⟨a, ha, rfl⟩ := List.mem_map.1 hentry
      exact bne_iff_ne.2 fun heq => h ⟨a, ha, heq.symm⟩
    constructor
    · intro hname
      rw [Collector.fromAttributes, hnone] at hname
      simp [wordsOf, words] at hname
    · rintro ⟨a, ha, hkey, -⟩
      exact absurd ⟨a, ha, hkey⟩ h

theorem uses_markup {found : List Collector} : Uses found (Node.markup forest) name ↔
    name ≠ "" ∧ ∃ collector ∈ found,
      (∃ e ∈ Node.elementsOf forest, name ∈ collector.fromAttributes e.tag.attributes) ∨
        name ∈ collector.fromMarkup (Node.markup forest) := by
  simp only [Uses, Node.markup, Node.tags_writtenForest, Except.ok.injEq, exists_eq_left',
    List.mem_map, exists_exists_and_eq_and]

theorem exists_classAttribute_iff : (∃ e ∈ Node.elementsOf forest,
      name ∈ Collector.classAttribute.fromAttributes e.tag.attributes) ↔
    ∃ a ∈ Node.attributesOf forest, a.key = "class" ∧ name ∈ wordsOf a.content := by
  simp only [mem_classAttribute, Node.attributesOf, List.mem_flatMap]
  constructor
  · rintro ⟨e, he, a, ha, hname⟩
    exact ⟨a, ⟨e, he, ha⟩, hname⟩
  · rintro ⟨a, ⟨e, he, ha⟩, hname⟩
    exact ⟨e, he, a, ha, hname⟩

/-- The class names that an attribute gives, with the directives or without them. -/
inductive Names (a : WrittenAttribute) : Bool → String → Prop where
  | word {directives : Bool} {name : String} (hkey : a.key = "class")
      (hname : name ∈ wordsOf a.content) : Names a directives name
  | expression {name : String} (hkey : a.key ∈ expressionAttributes)
      (hname : name ∈ expressionClasses a.content) : Names a true name
  /-- The name stands in the attribute's own name, in its letter case; the empty text is no name. -/
  | binding {name value : String} (hbinding : a.name = "[class." ++ name ++ "]")
      (hvalue : a.value = some value) (hne : name ≠ "") (hname : ']' ∉ name.toList) :
      Names a true name

/-- The names of the directives are in lowercase already. -/
theorem lowercaseText_of_mem {key : String} (h : key ∈ expressionAttributes) :
    lowercaseText key = key := by
  have hall : ∀ key ∈ expressionAttributes, key.toList.all isSmallAscii = true := by decide
  exact lowercaseText_of_isSmallAscii (List.all_eq_true.1 (hall key h))

variable {a : WrittenAttribute}

theorem uses_of_word (ha : a ∈ Node.attributesOf forest) (hkey : a.key = "class")
    (hname : name ∈ wordsOf a.content) :
    Uses (collectors directives) (Node.markup forest) name := by
  have hmem : Collector.classAttribute ∈ collectors directives := by
    cases directives <;> simp [collectors]
  rw [uses_markup]
  exact ⟨ne_empty_of_mem_wordsOf hname, _, hmem,
    .inl (exists_classAttribute_iff.2 ⟨a, ha, hkey, hname⟩)⟩

theorem uses_of_expression (ha : a ∈ Node.attributesOf forest)
    (hkey : a.key ∈ expressionAttributes) (hname : name ∈ expressionClasses a.content) :
    Uses (collectors true) (Node.markup forest) name := by
  obtain ⟨e, he, hattribute⟩ := List.mem_flatMap.1 ha
  have hfound : name ∈ directiveClasses a.entry := by
    rw [WrittenAttribute.entry, directiveClasses, lowercaseText_of_mem hkey, if_pos hkey]
    exact hname
  rw [uses_markup]
  refine ⟨ne_empty_of_mem_expressionClasses hname, .directives, by simp [collectors],
    .inl ⟨e, he, ?_⟩⟩
  exact List.mem_flatMap.2 ⟨a.entry, List.mem_map_of_mem hattribute, hfound⟩

/-- A binding is found in the text of its document. The tag shows it in lowercase alone. -/
theorem uses_of_binding {value : String} (ha : a ∈ Node.attributesOf forest)
    (hbinding : a.name = "[class." ++ name ++ "]") (hvalue : a.value = some value)
    (hne : name ≠ "") (hname : ']' ∉ name.toList) :
    Uses (collectors true) (Node.markup forest) name := by
  have hchars : a.name.toList = "[class.".toList ++ (name.toList ++ [']']) := by
    rw [hbinding, String.toList_append, String.toList_append, List.append_assoc]
    rfl
  have hin (c : Char) (hc : c ∈ name.toList) : inWrittenName c = true := by
    have hmem : c ∈ a.name.toList := by simp [hchars, hc]
    obtain ⟨hblank, hquote, hquote', hslash, hequals, hopen, hclose⟩ := a.of_mem_name hmem
    have hbracket : c ≠ ']' := fun heq => hname (heq ▸ hc)
    simp [inWrittenName, hblank, hquote, hquote', hslash, hequals, hopen, hclose, hbracket]
  have hbinds : Binds (Node.writtenForest forest) name.toList := by
    have hbefore : precedesBinding ' ' = true := by decide
    have hkeyword : IsKeyword ['c', 'l', 'a', 's', 's'] := by simp [IsKeyword, sameLetter]
    have hnil : name.toList ≠ [] := fun heq => hne (String.toList_inj.1 heq)
    have hprefix : ' ' :: '[' :: (['c', 'l', 'a', 's', 's'] ++ '.' :: (name.toList ++ ']' ::
        ([] ++ ['=']))) <+: ' ' :: a.written :=
      ⟨'"' :: (writtenValue value ++ ['"']), by
        simp [WrittenAttribute.written, WrittenAttribute.writtenContent, hchars, hvalue]⟩
    exact ⟨_, .intro hbefore hkeyword hnil hin (fun _ h => absurd h List.not_mem_nil),
      hprefix.isInfix.trans (Node.infix_of_mem_attributesOf ha)⟩
  rw [uses_markup]
  refine ⟨hne, .directives, by simp [collectors], .inr (mem_fromMarkup.2 ?_)⟩
  rw [Node.markup, String.toList_ofList]
  exact hbinds

theorem uses_of_names (ha : a ∈ Node.attributesOf forest) (h : Names a directives name) :
    Uses (collectors directives) (Node.markup forest) name := by
  cases h with
  | word hkey hname => exact uses_of_word ha hkey hname
  | expression hkey hname => exact uses_of_expression ha hkey hname
  | binding hbinding hvalue hne hname => exact uses_of_binding ha hbinding hvalue hne hname

/-- Without the directives, a document uses the words of its attributes `class` and no more. -/
theorem uses_markup_iff : Uses (collectors false) (Node.markup forest) name ↔
    ∃ a ∈ Node.attributesOf forest, a.key = "class" ∧ name ∈ wordsOf a.content := by
  constructor
  · rw [uses_markup]
    rintro ⟨-, collector, hcollector, hfound⟩
    cases List.mem_singleton.1 hcollector
    rcases hfound with hfound | hfound
    · exact exists_classAttribute_iff.1 hfound
    · cases hfound
  · rintro ⟨a, ha, hkey, hname⟩
    exact uses_of_word ha hkey hname

/-! ## Several documents -/

/-- Documents are markup of their own, so none of them is refused. -/
theorem exists_feedAll (start : Accumulator) (hopen : start.isFrozen = false)
    (documents : List (List Node)) :
    ∃ found, start.feedAll (documents.map Node.markup) = .ok found := by
  induction documents generalizing start with
  | nil => exact ⟨start, rfl⟩
  | cons forest rest ih =>
      have hfeed := Accumulator.feed_of_tags hopen (Node.tags_writtenForest forest)
      rw [← Node.markup] at hfeed
      simp only [List.map_cons, Accumulator.feedAll, hfeed]
      exact ih _ hopen

/-- In whatever order documents are taken, none is refused, and no class that an attribute of theirs
gives is missing in the end. Without the directives the used classes are exactly the words of the
attributes `class`. -/
theorem used_of_documents {documents fed : List (List Node)} (hfed : fed.Perm documents)
    (directives : Bool) :
    ∃ found, (Accumulator.start (collectors directives)).feedAll (fed.map Node.markup) =
        .ok found ∧
      (∀ a ∈ documents.flatMap Node.attributesOf, ∀ name, Names a directives name →
        name ∈ found.freeze.used) ∧
      (directives = false → ∀ name, name ∈ found.freeze.used ↔
        ∃ a ∈ documents.flatMap Node.attributesOf, a.key = "class" ∧
          name ∈ wordsOf a.content) := by
  obtain ⟨found, hfound⟩ := exists_feedAll (.start (collectors directives)) rfl fed
  obtain ⟨-, -, hused⟩ := Accumulator.feedAll_eq_ok hfound
  have hmem (name : String) : name ∈ found.freeze.used ↔ ∃ forest ∈ documents,
      Uses (collectors directives) (Node.markup forest) name := by
    change name ∈ found.used ↔ _
    rw [hused]
    constructor
    · rintro (hname | ⟨text, htext, hname⟩)
      · cases hname
      · obtain ⟨forest, hforest, rfl⟩ := List.mem_map.1 htext
        exact ⟨forest, hfed.mem_iff.1 hforest, hname⟩
    · rintro ⟨forest, hforest, hname⟩
      exact .inr ⟨_, List.mem_map_of_mem (hfed.mem_iff.2 hforest), hname⟩
  refine ⟨found, hfound, ?_, ?_⟩
  · intro a ha name hname
    obtain ⟨forest, hforest, ha⟩ := List.mem_flatMap.1 ha
    exact (hmem name).2 ⟨forest, hforest, uses_of_names ha hname⟩
  · rintro rfl name
    rw [hmem]
    constructor
    · rintro ⟨forest, hforest, hname⟩
      obtain ⟨a, ha, hname⟩ := uses_markup_iff.1 hname
      exact ⟨a, List.mem_flatMap.2 ⟨forest, hforest, ha⟩, hname⟩
    · rintro ⟨a, ha, hname⟩
      obtain ⟨forest, hforest, ha⟩ := List.mem_flatMap.1 ha
      exact ⟨forest, hforest, uses_markup_iff.2 ⟨a, ha, hname⟩⟩

/-! ### A sample with an attribute of every kind -/

def sampleAttribute : WrittenAttribute :=
  ⟨"CLASS", some "a \"b\"", by decide, by decide⟩

def sampleBinding : WrittenAttribute :=
  ⟨"[class.isOn]", some "on", by decide, by decide⟩

def sampleExpression : WrittenAttribute :=
  ⟨"Ng-Class", some "\x7b'c': x < y && z\x7d", by decide, by decide⟩

def sampleOuter : Element :=
  ⟨"div", [sampleAttribute, sampleBinding], by decide, by decide, by decide +kernel⟩

def sampleInner : Element :=
  ⟨"p", [sampleExpression], by decide, by decide, by decide +kernel⟩

def sampleForest : List Node :=
  [.element sampleOuter [.text "1 < 2", .element sampleInner []], .element sampleInner []]

theorem used_of_documents_sample :
    Node.markup sampleForest = "<div CLASS=\"a &quot;b&quot;\" [class.isOn]=\"on\">1 &lt; 2" ++
      "<p Ng-Class=\"\x7b'c': x < y &amp;&amp; z\x7d\"></p></div>" ++
      "<p Ng-Class=\"\x7b'c': x < y &amp;&amp; z\x7d\"></p>" ∧
    [[], sampleForest].Perm [sampleForest, []] ∧
    (∃ found, (Accumulator.start (collectors true)).feedAll [Node.markup [],
        Node.markup sampleForest] = .ok found ∧
      ∀ name ∈ ["a", "\"b\"", "isOn", "c"], name ∈ found.freeze.used) ∧
    ∃ found, (Accumulator.start (collectors false)).feedAll [Node.markup [],
        Node.markup sampleForest] = .ok found ∧
      ∀ name, name ∈ found.freeze.used ↔ name = "a" ∨ name = "\"b\"" := by
  have hperm : [[], sampleForest].Perm [sampleForest, []] := List.Perm.swap ..
  obtain ⟨found, hfound, hnames, -⟩ := used_of_documents hperm true
  obtain ⟨found', hfound', -, hwords⟩ := used_of_documents hperm false
  have hattributes : [sampleForest, []].flatMap Node.attributesOf =
      [sampleAttribute, sampleBinding, sampleExpression, sampleExpression] := rfl
  have hkeys : sampleAttribute.key = "class" ∧ sampleBinding.key ≠ "class" ∧
      sampleExpression.key ≠ "class" ∧ sampleExpression.key ∈ expressionAttributes := by
    decide +kernel
  have hword : wordsOf sampleAttribute.content = ["a", "\"b\""] := by decide +kernel
  obtain ⟨hclass, hbinding, hexpression, hdirective⟩ := hkeys
  rw [hattributes] at hnames hwords
  refine ⟨by decide +kernel, hperm, ⟨found, hfound, ?_⟩, found', hfound', fun name => ?_⟩
  · simp only [List.forall_mem_cons, List.not_mem_nil, false_imp_iff, implies_true, and_true]
    refine ⟨?_, ?_, ?_, ?_⟩
    · exact hnames sampleAttribute (by simp) "a" (.word hclass (by simp [hword]))
    · exact hnames sampleAttribute (by simp) "\"b\"" (.word hclass (by simp [hword]))
    · exact hnames sampleBinding (by simp) "isOn" (.binding rfl rfl (by decide) (by decide))
    · exact hnames sampleExpression (by simp) "c" (.expression hdirective (by decide +kernel))
  · rw [hwords rfl]
    simp [hclass, hbinding, hexpression, hword]

end Usage

end StyleUsage
