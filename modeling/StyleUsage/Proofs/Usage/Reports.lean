import Mathlib
import StyleUsage.Proofs.Usage.Documents

/-!
# Reports of tags

The reader of markup reports every element of a document once, in the order in which the elements
are opened, with exactly the attributes that are written there. An accumulator takes the markup by
taking what is reported, tag by tag.
-/

namespace StyleUsage

open StyleUsage.Text

namespace Markup

/-! ## What is reported of a document -/

section
variable {forest : List Node} {e : Element}

/-- The attributes of an element, with their values as they were before they were written. -/
def Element.content (e : Element) : List (String × String) :=
  e.attributes.map fun a => (a.name, a.value.getD "")

/-- The attributes in a document have names in lowercase. -/
def Node.IsLowercase (forest : List Node) : Prop :=
  ∀ a ∈ Node.attributesOf forest, lowercaseText a.name = a.name

theorem Element.attributes_tag (h : Node.IsLowercase forest) (he : e ∈ Node.elementsOf forest) :
    e.tag.attributes = e.content := by
  rw [Element.tag, Element.content]
  refine List.map_congr_left fun a ha => ?_
  have hname : a.key = a.name := h a (List.mem_flatMap.2 ⟨e, he, ha⟩)
  rw [WrittenAttribute.entry, WrittenAttribute.content, hname]

theorem Node.tags_markup (h : Node.IsLowercase forest) :
    Markup.tags (Node.markup forest) =
      .ok ((Node.elementsOf forest).map fun e => ⟨e.name, e.content⟩) := by
  rw [Node.markup, Node.tags_writtenForest, Except.ok.injEq]
  refine List.map_congr_left fun e he => ?_
  rw [← Element.attributes_tag h he]
  rfl

theorem report_markup {m : Type → Type} [Monad m] [LawfulMonad m] (h : Node.IsLowercase forest)
    (onOpenTag : String → List (String × String) → m Unit) :
    report (Node.markup forest) onOpenTag = do
      (Node.elementsOf forest).forM fun e => onOpenTag e.name e.content
      return .ok (Node.elementsOf forest).length := by
  rw [report, Node.tags_markup h]
  simp only [List.forM_eq_forM, List.forM_map, List.length_map]

end

end Markup

namespace Usage

open Markup

/-! ## How an accumulator takes a report -/

section
variable {a : Accumulator} {markup : String}

theorem insertNames_append (used names more : List String) :
    insertNames used (names ++ more) = insertNames (insertNames used names) more := by
  rw [insertNames, List.filter_append, List.foldl_append]
  rfl

namespace Accumulator

theorem insert_append (names more : List String) :
    a.insert (names ++ more) = (a.insert names).insert more := by
  rw [insert, insertNames_append]
  rfl

/-- An accumulator takes all tags while it is open. -/
theorem foldlM_addTag (ha : a.isFrozen = false) (tags : List (List Attribute)) :
    tags.foldlM addTag a = .ok (a.insert (tags.flatMap a.namesOfAttributes)) := by
  induction tags generalizing a with
  | nil => rfl
  | cons attributes rest ih =>
      have hfirst : a.addTag attributes = .ok (a.insert (a.namesOfAttributes attributes)) := by
        rw [addTag, ha]
        rfl
      rw [List.foldlM_cons, hfirst, List.flatMap_cons, insert_append]
      exact ih ha

/-- An accumulator hears of a tag. -/
def hear (_ : String) (attributes : List Attribute) : StateT Accumulator (Except Refusal) Unit :=
  fun a => (a.addTag attributes).map ((), ·)

theorem run_forM_hear {α : Type} (name : α → String) (attributes : α → List Attribute)
    (tags : List α) :
    (tags.forM fun tag => hear (name tag) (attributes tag)).run a =
      (tags.foldlM (fun (a : Accumulator) tag => a.addTag (attributes tag)) a).map ((), ·) := by
  induction tags generalizing a with
  | nil => rfl
  | cons tag rest ih =>
      rw [List.forM, StateT.run_bind, List.foldlM_cons]
      cases hfirst : a.addTag (attributes tag) with
      | error refusal =>
          have hhear : (hear (name tag) (attributes tag)).run a = .error refusal := by
            rw [StateT.run, hear, hfirst]
            rfl
          rw [hhear]
          rfl
      | ok b =>
          have hhear : (hear (name tag) (attributes tag)).run a = .ok ((), b) := by
            rw [StateT.run, hear, hfirst]
            rfl
          rw [hhear]
          exact ih

/-- The names that are found in the markup as such, after those of its tags. -/
def insertMarkup (a : Accumulator) (markup : String) : Accumulator :=
  a.insert (a.collectors.flatMap (·.fromMarkup markup))

/-- An accumulator takes a markup text by hearing of its tags, and then of the text itself. -/
theorem feed_eq_report (ha : a.isFrozen = false) (markup : String) :
    a.feed markup =
      match (Markup.report markup hear).run a with
      | .ok (.ok _, b) => .ok (b.insertMarkup markup)
      | .ok (.error rejection, _) => .error (.rejected rejection)
      | .error refusal => .error refusal := by
  rw [Markup.report]
  cases htags : Markup.tags markup with
  | error rejection =>
      rw [feed, ha, htags]
      rfl
  | ok tags =>
      have htake := foldlM_addTag ha (tags.map (·.attributes))
      rw [List.foldlM_map] at htake
      rw [feed_of_tags ha htags, namesOfMarkup, insert_append, StateT.run_bind,
        run_forM_hear Tag.name Tag.attributes, htake, List.flatMap_map]
      rfl

end Accumulator

end

/-! ## Documents and their tags -/

/-- A handler is called once for each element of a document, in the order in which these are opened,
with the name of the element and exactly its attributes, and the elements are counted. An open
accumulator takes the document by taking the attributes of its elements in this order, and refuses
none of them. -/
theorem reports_mirror_documents (forest : List Node) (h : Node.IsLowercase forest) :
    (∀ (m : Type → Type) [Monad m] [LawfulMonad m]
        (onOpenTag : String → List (String × String) → m Unit),
      Markup.report (Node.markup forest) onOpenTag = do
        (Node.elementsOf forest).forM fun e =>
          onOpenTag e.name (e.attributes.map fun a => (a.name, a.value.getD ""))
        return .ok (Node.elementsOf forest).length) ∧
    ∀ a : Accumulator, a.isFrozen = false → ∃ b,
      (Node.elementsOf forest).foldlM (fun (a : Accumulator) e =>
        a.addTag (e.attributes.map fun a => (a.name, a.value.getD ""))) a = .ok b ∧
      a.feed (Node.markup forest) = .ok (b.insertMarkup (Node.markup forest)) := by
  refine ⟨fun m _ _ onOpenTag => report_markup h onOpenTag, fun a ha => ?_⟩
  have htake := Accumulator.foldlM_addTag ha ((Node.elementsOf forest).map Element.content)
  rw [List.foldlM_map] at htake
  refine ⟨_, htake, ?_⟩
  rw [Accumulator.feed_eq_report ha, report_markup h, StateT.run_bind,
    Accumulator.run_forM_hear Element.name Element.content, htake]
  rfl

/-! ### A sample with values that look like markup -/

def sampleReported : List Node :=
  [.element ⟨"a-1", [⟨"title", some "x > \"y\" & <z a='&lt;'>", by decide, by decide⟩,
      ⟨"hidden", none, by decide, by decide⟩, ⟨"ng-class", some "'u v'", by decide, by decide⟩],
      by decide, by decide, by decide +kernel⟩
    [.text "<p class=\"w\"> &amp;", .element ⟨"b", [], by decide, by decide, List.nodup_nil⟩ []],
    .text "<",
    .element ⟨"i", [⟨"ng-class", some "'u'", by decide, by decide⟩], by decide, by decide,
      by decide +kernel⟩ []]

theorem reports_mirror_documents_sample :
    Node.markup sampleReported =
      "<a-1 title=\"x > &quot;y&quot; &amp; <z a='&amp;lt;'>\" hidden ng-class=\"'u v'\">" ++
        "&lt;p class=\"w\"> &amp;amp;<b></b></a-1>&lt;<i ng-class=\"'u'\"></i>" ∧
    Node.IsLowercase sampleReported ∧
    (Markup.report (Node.markup sampleReported) fun name attributes =>
      (modify (· ++ [⟨name, attributes⟩]) : StateM (List Tag) Unit)).run [] =
        (.ok 3, [⟨"a-1", [("title", "x > \"y\" & <z a='&lt;'>"), ("hidden", ""),
          ("ng-class", "'u v'")]⟩, ⟨"b", []⟩, ⟨"i", [("ng-class", "'u'")]⟩]) ∧
    (Accumulator.start (collectors true)).feed (Node.markup sampleReported) =
      .ok ⟨collectors true, ["v", "u"], false⟩ := by
  have hlower : Node.IsLowercase sampleReported := by
    unfold Node.IsLowercase
    decide +kernel
  obtain ⟨hreport, hfeed⟩ := reports_mirror_documents sampleReported hlower
  obtain ⟨b, htake, hb⟩ := hfeed (.start (collectors true)) rfl
  have hnames : (Node.elementsOf sampleReported).foldlM (fun (a : Accumulator) e =>
      a.addTag (e.attributes.map fun a => (a.name, a.value.getD ""))) (.start (collectors true)) =
        .ok ⟨collectors true, ["v", "u"], false⟩ := by
    decide +kernel
  have hmarkup : Accumulator.insertMarkup ⟨collectors true, ["v", "u"], false⟩
      (Node.markup sampleReported) = ⟨collectors true, ["v", "u"], false⟩ := by
    decide +kernel
  cases htake.symm.trans hnames
  rw [hmarkup] at hb
  refine ⟨by decide +kernel, hlower, ?_, hb⟩
  rw [hreport]
  rfl

end Usage

end StyleUsage
