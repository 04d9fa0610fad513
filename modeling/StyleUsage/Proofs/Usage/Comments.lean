import StyleUsage.Proofs.Markup.Contents
import StyleUsage.Proofs.Usage.Bindings
import StyleUsage.Proofs.Usage.Feeding

/-!
# What comments add

A comment adds the names that are bound in its body, and no others. The bindings in the rest of a
document are the same with the comment and without it.
-/

namespace StyleUsage

open Markup Usage

/-! ## Where a comment may stand -/

namespace Markup.Content

variable {left right forest inserted : List Content} {node : Content}

/-- What is no text stands between angle brackets. -/
theorem exists_written (h : ∀ s, node ≠ .text s) :
    ∃ inner, node.written = '<' :: (inner ++ ['>']) := by
  cases node with
  | text s => exact absurd rfl (h s)
  | comment c => exact ⟨'!' :: '-' :: '-' :: (c.body.toList ++ ['-', '-']), by
      simp [written, Comment.written]⟩
  | void e => exact ⟨e.name.toList ++ writtenAll e.attributes, by simp [written, Element.opening]⟩
  | raw e => exact ⟨e.name.toList ++ (writtenAll e.attributes ++ '>' :: (e.content.toList ++
      '<' :: '/' :: e.name.toList)), by simp [written, RawElement.written]⟩
  | element e children => exact ⟨e.name.toList ++ (writtenAll e.attributes ++ '>' ::
      (writtenForest children ++ '<' :: '/' :: e.name.toList)), by
      simp [written, Element.opening, Element.closing]⟩

theorem IsGap.parted (h : IsGap left right) :
    Parted (writtenForest left) (writtenForest right) := by
  rcases h with hlast | hfirst
  · rcases List.eq_nil_or_concat left with rfl | ⟨before, node, rfl⟩
    · exact .inl fun c hc => absurd hc (by simp [writtenForest])
    · obtain ⟨inner, hinner⟩ := @exists_written node fun s heq => hlast s (by simp [heq])
      have hwritten : writtenForest (before ++ [node]) =
          (writtenForest before ++ '<' :: inner) ++ ['>'] := by
        simp [writtenForest_append, writtenForest, hinner]
      rw [List.concat_eq_append, hwritten]
      exact parted_of_close _ _
  · cases right with
    | nil => exact .inr fun c hc => absurd hc (by simp [writtenForest])
    | cons node rest =>
        obtain ⟨inner, hinner⟩ := @exists_written node fun s heq => hfirst s (by simp [heq])
        rw [writtenForest, hinner]
        exact parted_of_open _ _

/-- The text of a document is cut at a bracket to take in one more part. The induction is on how
deep the part is put. -/
theorem Inserts.exists_cut (h : Inserts node forest inserted) :
    ∃ before after, writtenForest forest = before ++ after ∧
      writtenForest inserted = before ++ (node.written ++ after) ∧ Parted before after := by
  induction h with
  | @here left right hgap =>
      refine ⟨writtenForest left, writtenForest right, writtenForest_append left right, ?_,
        hgap.parted⟩
      rw [writtenForest_append, writtenForest]
  | @inside left right children inserted e h ih =>
      obtain ⟨before, after, hplain, hinserted, hparted⟩ := ih
      refine ⟨(writtenForest left ++ '<' :: (e.name.toList ++ writtenAll e.attributes)) ++
          '>' :: before, after ++ '<' :: ('/' :: (e.name.toList ++ '>' :: writtenForest right)),
        ?_, ?_, hparted.enclosed⟩
      · simp [writtenForest_append, writtenForest, written, Element.opening, Element.closing,
          hplain]
      · simp [writtenForest_append, writtenForest, written, Element.opening, Element.closing,
          hinserted]

end Markup.Content

namespace Usage

open Content (Inserts)

variable {comment : Comment} {forest commented : List Content}

/-! ## What a comment binds -/

/-- The names that are bound in a comment are bound in its body. -/
theorem binds_comment {name : List Char} :
    Binds comment.written name ↔ Binds comment.body.toList name := by
  rw [Comment.written, binds_cons (by decide), binds_cons (by decide), binds_cons (by decide),
    binds_cons (by decide), binds_append_of_notMem (by decide)]

theorem binds_of_inserts {name : List Char} (h : Inserts (.comment comment) forest commented) :
    Binds (Content.writtenForest commented) name ↔
      Binds (Content.writtenForest forest) name ∨ Binds comment.body.toList name := by
  obtain ⟨before, after, hplain, hcommented, hparted⟩ := h.exists_cut
  have hopening : Parted before (comment.written ++ after) := parted_of_open _ _
  have hclosing : Parted comment.written after := by
    have hwritten : comment.written =
        ('<' :: '!' :: '-' :: '-' :: (comment.body.toList ++ ['-', '-'])) ++ ['>'] := by
      simp [Comment.written]
    rw [hwritten]
    exact parted_of_close _ _
  rw [hplain, hcommented, Content.written, binds_append hopening, binds_append hclosing,
    binds_comment, binds_append hparted]
  constructor
  · rintro (hname | hname | hname)
    · exact .inl (.inl hname)
    · exact .inr hname
    · exact .inl (.inr hname)
  · rintro ((hname | hname) | hname)
    · exact .inl hname
    · exact .inr (.inr hname)
    · exact .inr (.inl hname)

/-- With the directives, a document uses what its tags show and what is bound in its text. -/
theorem uses_content_iff {name : String} : Uses (collectors true) (Content.markup forest) name ↔
    name ≠ "" ∧ (∃ collector ∈ collectors true, ∃ tag ∈ Content.tagsOf forest,
        name ∈ collector.fromAttributes tag.attributes) ∨
      Binds (Content.writtenForest forest) name.toList := by
  have hmarkup : (Content.markup forest).toList = Content.writtenForest forest :=
    String.toList_ofList
  simp only [Uses, Content.tags_markup, Except.ok.injEq, exists_eq_left']
  constructor
  · rintro ⟨hne, collector, hcollector, htag | htext⟩
    · exact .inl ⟨hne, collector, hcollector, htag⟩
    · cases collector with
      | classAttribute => cases htext
      | directives => exact .inr (hmarkup ▸ mem_fromMarkup.1 htext)
  · rintro (⟨hne, collector, hcollector, htag⟩ | hbinds)
    · exact ⟨hne, collector, hcollector, .inl htag⟩
    · exact ⟨hbinds.ne_empty, .directives, by simp [collectors],
        .inr (mem_fromMarkup.2 (hmarkup ▸ hbinds))⟩

/-- What a document uses with one more comment in it. -/
theorem uses_of_inserts (h : Inserts (.comment comment) forest commented) {name : String} :
    Uses (collectors true) (Content.markup commented) name ↔
      Uses (collectors true) (Content.markup forest) name ∨
        Binds comment.body.toList name.toList := by
  rw [uses_content_iff, uses_content_iff, h.tagsOf_eq, binds_of_inserts h, or_assoc]

/-- A document is not refused because of a comment. The comment adds the names that are bound in its
body, so nothing changes if these are used anyway, and only then. -/
theorem used_of_comment (h : Inserts (.comment comment) forest commented) {a : Accumulator}
    (hopen : a.isFrozen = false) (hcollectors : a.collectors = collectors true) :
    ∃ plain found, a.feed (Content.markup forest) = .ok plain ∧
      a.feed (Content.markup commented) = .ok found ∧
      (∀ name, name ∈ found.used ↔
        name ∈ plain.used ∨ Binds comment.body.toList name.toList) ∧
      ((∀ name, name ∈ found.used ↔ name ∈ plain.used) ↔
        ∀ name, Binds comment.body.toList name.toList → name ∈ plain.used) := by
  have hfeed (forest : List Content) : ∃ found, a.feed (Content.markup forest) = .ok found ∧
      ∀ name, name ∈ found.used ↔
        name ∈ a.used ∨ Uses (collectors true) (Content.markup forest) name := by
    have hfound := Accumulator.feed_of_tags hopen (Content.tags_markup forest)
    obtain ⟨-, -, -, hused⟩ := Accumulator.feed_eq_ok hfound
    exact ⟨_, hfound, by rwa [hcollectors] at hused⟩
  obtain ⟨plain, hplain, hused⟩ := hfeed forest
  obtain ⟨found, hfound, hused'⟩ := hfeed commented
  have hadded (name : String) : name ∈ found.used ↔
      name ∈ plain.used ∨ Binds comment.body.toList name.toList := by
    rw [hused', hused, uses_of_inserts h, or_assoc]
  refine ⟨plain, found, hplain, hfound, hadded, ?_⟩
  constructor
  · intro hsame name hname
    exact (hsame name).1 ((hadded name).2 (.inr hname))
  · intro hbound name
    rw [hadded]
    constructor
    · rintro (hname | hname)
      · exact hname
      · exact hbound name hname
    · exact .inl

/-! ### A sample -/

def sampleComment : Comment :=
  ⟨" <p [class.old]=\"x\"></p> ", by decide⟩

theorem isElementName_div : isElementName "div" = true := by
  decide

theorem isRaw_div : isRaw "div" = false := by
  decide

def sampleBox : Element :=
  ⟨"div", [], isElementName_div, isRaw_div, List.nodup_nil⟩

def sampleLine : Element :=
  ⟨"hr", [⟨"class", some "old", by decide, by decide⟩], by decide, by decide, by decide +kernel⟩

def sampleScript : RawElement :=
  ⟨"script", [], "if (a</b/.c) d()", by decide, by decide, by decide +kernel⟩

def samplePlain : List Content :=
  [.element sampleBox [.raw sampleScript, .text "a < b"], .void sampleLine]

def sampleCommented : List Content :=
  [.element sampleBox [.raw sampleScript, .comment sampleComment, .text "a < b"], .void sampleLine]

theorem used_of_comment_sample :
    Content.markup sampleCommented = "<div><script>if (a</b/.c) d()</script>" ++
      "<!-- <p [class.old]=\"x\"></p> -->a &lt; b</div><hr class=\"old\">" ∧
    Inserts (.comment sampleComment) samplePlain sampleCommented ∧
    ∃ plain found,
      (Accumulator.start (collectors true)).feed (Content.markup samplePlain) = .ok plain ∧
      (Accumulator.start (collectors true)).feed (Content.markup sampleCommented) = .ok found ∧
      (∀ name, name ∈ found.used ↔ name ∈ plain.used) ∧ plain.used = ["old"] := by
  have hgap : Content.IsGap [.raw sampleScript] [.text "a < b"] := .inl (by simp)
  have hinserts : Inserts (.comment sampleComment) samplePlain sampleCommented :=
    @Inserts.inside _ [] _ _ _ _ (.here hgap)
  obtain ⟨plain, found, hplain, hfound, -, hsame⟩ :=
    @used_of_comment _ _ _ hinserts (.start (collectors true)) rfl rfl
  have hold : plain.used = ["old"] := by
    have hused : ((Accumulator.start (collectors true)).feed
        (Content.markup samplePlain)).toOption.map (·.used) = some ["old"] := by decide +kernel
    rw [hplain] at hused
    exact Option.some.inj hused
  have hbound : writtenBindings sampleComment.body.toList = ["old".toList] := by decide +kernel
  refine ⟨by decide +kernel, hinserts, plain, found, hplain, hfound, hsame.2 ?_, hold⟩
  intro name hname
  rw [← mem_writtenBindings_iff, hbound, List.mem_singleton, String.toList_inj] at hname
  rw [hold, hname]
  exact List.mem_cons_self

/-- A binding that nobody uses any more counts as long as it stands in a comment. -/
theorem commented_binding_counts :
    Inserts (.comment sampleComment) [.element sampleBox []]
        [.element sampleBox [.comment sampleComment]] ∧
    Content.markup [.element sampleBox [.comment sampleComment]] =
      "<div><!-- <p [class.old]=\"x\"></p> --></div>" ∧
    ((Accumulator.start (collectors true)).feed
      (Content.markup [.element sampleBox []])).toOption.map (·.used) = some [] ∧
    ((Accumulator.start (collectors true)).feed
      (Content.markup [.element sampleBox [.comment sampleComment]])).toOption.map (·.used) =
        some ["old"] := by
  have hgap : Content.IsGap [] [] := .inl (by simp)
  refine ⟨@Inserts.inside _ [] [] _ _ _ (@Inserts.here _ [] [] hgap), ?_, ?_, ?_⟩
  all_goals decide +kernel

end Usage

end StyleUsage
