import Mathlib.Data.List.Infix
import StyleUsage.Proofs.Markup.Reading

/-!
# Documents with comments

Trees of elements, texts and comments, in which an element may also lack content or have content
that is no markup. Comments show no tags, wherever they stand.
-/

namespace StyleUsage.Markup

open StyleUsage.Text

variable {s t rest name : List Char}

/-! ## Comments -/

/-- A comment that ends where it is meant to. -/
structure Comment where
  body : String
  isBody : ¬ ['-', '-'] <:+: body.toList

def Comment.written (comment : Comment) : List Char :=
  '<' :: '!' :: '-' :: '-' :: (comment.body.toList ++ ['-', '-', '>'])

/-- A comment goes on up to its first two hyphens. -/
theorem afterComment?_append (h : ¬ ['-', '-'] <:+: s) (rest : List Char) :
    afterComment? (s ++ '-' :: '-' :: '>' :: rest) = some rest := by
  induction s with
  | nil =>
      rw [List.nil_append, afterComment?, List.dropWhile_cons_of_neg (by decide)]
      rfl
  | cons c s ih =>
      have hrest := ih fun hinfix => h (List.infix_cons hinfix)
      rw [List.cons_append]
      by_cases hc : c = '-'
      · subst hc
        cases s with
        | nil =>
            rw [List.nil_append, afterComment?, List.dropWhile_cons_of_neg (by decide)]
            exact hrest
        | cons d s =>
            have hd : d ≠ '-' := by
              rintro rfl
              exact h ⟨[], s, rfl⟩
            rw [List.cons_append, afterComment?.eq_3 _ _ (fun _ _ heq => hd (List.cons.inj heq).1)]
            exact hrest
      · rw [afterComment?.eq_3 _ _ (fun _ heq => absurd heq hc)]
        exact hrest

theorem Comment.shows_written (comment : Comment) : Shows comment.written [] := by
  intro final rest found h
  have hconstruct : construct ('!' :: '-' :: '-' ::
      (comment.body.toList ++ '-' :: '-' :: '>' :: rest)) = .ok (.text rest) := by
    rw [construct, afterComment?_append comment.isBody]
    rfl
  have hwritten : comment.written ++ rest =
      '<' :: '!' :: '-' :: '-' :: (comment.body.toList ++ '-' :: '-' :: '>' :: rest) := by
    simp [Comment.written]
  rw [hwritten, scan_of_text hconstruct]
  exact h

/-! ## Content that is no markup -/

theorem scan_of_afterClosing? {final : Bool} (h : afterClosing? name s = some rest) :
    scan final (some name) s = scan final none rest := by
  rw [scan]
  split
  all_goals
    rename_i heq
    rw [h] at heq
    cases heq
  rfl

theorem dropWhile_append_cons {p : Char → Bool} {d : Char} (hd : p d = false) (s t : List Char) :
    (s ++ d :: t).dropWhile p = s.dropWhile p ++ d :: t := by
  rw [List.dropWhile_append]
  split
  case isTrue hempty =>
      rw [List.isEmpty_iff.1 hempty, List.dropWhile_cons_of_neg (by simp [hd]), List.nil_append]
  case isFalse => rfl

/-- An angle bracket behind a text does not make it the end of a closing tag. -/
theorem afterName?_append (hname : '<' ∉ name) (h : afterName? name s = none) (t : List Char) :
    afterName? name (s ++ '<' :: t) = none := by
  have hblank : isBlank '<' = false := by decide
  simp only [afterName?, dropWhile_append_cons hblank] at h ⊢
  by_cases hlength : name.length ≤ (s.dropWhile isBlank).length
  · rw [List.take_append_of_le_length hlength, List.drop_append_of_le_length hlength,
      dropWhile_append_cons hblank]
    split
    case isTrue hspelled =>
        rw [if_pos hspelled] at h
        cases hbehind : ((s.dropWhile isBlank).drop name.length).dropWhile isBlank with
        | nil => rfl
        | cons d behind =>
            rw [hbehind] at h
            have hd : d ≠ '>' := by
              rintro rfl
              cases h
            simp [hd]
    case isFalse => rfl
  · rw [if_neg]
    intro hspelled
    -- the bracket would be a letter of the name
    apply hname
    rw [← hspelled, List.mem_map]
    refine ⟨'<', ?_, by decide⟩
    rw [List.take_append, List.mem_append]
    right
    obtain ⟨more, hmore⟩ : ∃ more, name.length - (s.dropWhile isBlank).length = more + 1 :=
      ⟨_, (Nat.succ_pred_eq_of_pos (by omega)).symm⟩
    rw [hmore, List.take_succ_cons]
    exact List.mem_cons_self

/-- The first closing tag behind a text that has none in it. -/
theorem afterClosing?_append {inner : List Char} (hname : '<' ∉ name)
    (hclosing : afterName? name inner = some rest) (h : afterClosing? name s = none) :
    afterClosing? name (s ++ '<' :: '/' :: inner) = some rest := by
  fun_induction afterClosing? name s with
  | case1 => rw [List.nil_append, afterClosing?, hclosing]
  | case2 => cases h
  | case3 inner' hnone ih =>
      rw [List.cons_append, List.cons_append, afterClosing?, afterName?_append hname hnone]
      exact ih h
  | case4 c s hopen ih =>
      rw [List.cons_append, afterClosing?.eq_3]
      · exact ih h
      · intro behind hc heq
        cases s with
        | nil => cases (List.cons.inj heq).1
        | cons d s =>
            obtain ⟨rfl, -⟩ := List.cons.inj heq
            exact hopen s hc rfl

/-- An element with its content, which is no markup and does not close the element. -/
structure RawElement where
  name : String
  attributes : List WrittenAttribute
  content : String
  isRaw : isRaw name = true
  distinct : (attributes.map (·.key)).Nodup
  isContent : afterClosing? name.toList content.toList = none

namespace RawElement

variable (e : RawElement)

def tag : Tag where
  name := e.name
  attributes := e.attributes.map (·.entry)

def written : List Char :=
  '<' :: (e.name.toList ++ (writtenAll e.attributes ++ '>' :: (e.content.toList ++
    '<' :: '/' :: (e.name.toList ++ ['>']))))

theorem name_eq : e.name = "script" ∨ e.name = "style" := by
  simpa [Markup.isRaw] using e.isRaw

theorem isName : isElementName e.name = true := by
  rcases e.name_eq with h | h
  all_goals
    rw [h]
    decide

theorem afterName?_name (rest : List Char) :
    afterName? e.name.toList (e.name.toList ++ '>' :: rest) = some rest := by
  rcases e.name_eq with h | h
  all_goals
    rw [h]
    rfl

theorem shows_written : Shows e.written [e.tag] := by
  intro final rest found h
  have hname : '<' ∉ e.name.toList := fun hmem =>
    ne_of_test (inElementName_of_mem e.isName hmem) rfl rfl
  have hcontent := afterClosing?_append hname (e.afterName?_name rest) e.isContent
  have hconstruct := construct_opening e.isName e.distinct
    (e.content.toList ++ '<' :: '/' :: (e.name.toList ++ '>' :: rest))
  obtain ⟨c, more, hchars, -⟩ := exists_elementName e.isName
  have hwritten : e.written ++ rest = '<' :: c :: (more ++ (writtenAll e.attributes ++
      '>' :: (e.content.toList ++ '<' :: '/' :: (e.name.toList ++ '>' :: rest)))) := by
    simp [written, hchars]
  rw [hchars, List.cons_append, ← hchars] at hconstruct
  rw [hwritten, scan_of_tag hconstruct, if_pos (by simp [e.isRaw]),
    scan_of_afterClosing? hcontent, h]
  rfl

end RawElement

/-! ## Trees -/

/-- A part of a document. -/
inductive Content where
  | text (text : String)
  | comment (comment : Comment)
  /-- An element without content and without a closing tag. -/
  | void (e : Element)
  | raw (e : RawElement)
  | element (e : Element) (children : List Content)

namespace Content

mutual

def written : Content → List Char
  | text s => writtenText s
  | comment c => c.written
  | void e => e.opening
  | raw e => e.written
  | element e children => e.opening ++ (writtenForest children ++ e.closing)

/-- Some parts one after the other, as they are written. -/
def writtenForest : List Content → List Char
  | [] => []
  | node :: rest => node.written ++ writtenForest rest

end

/-- The text of a document. -/
def markup (forest : List Content) : String :=
  String.ofList (writtenForest forest)

mutual

/-- The opening tags of a part, each before those that are inside it. -/
def tags : Content → List Tag
  | text _ | comment _ => []
  | void e => [e.tag]
  | raw e => [e.tag]
  | element e children => e.tag :: tagsOf children

/-- The opening tags of some parts, in the same order. -/
def tagsOf : List Content → List Tag
  | [] => []
  | node :: rest => node.tags ++ tagsOf rest

end

mutual

theorem shows_written (node : Content) : Shows node.written node.tags := by
  cases node with
  | text s => exact shows_writtenText s
  | comment c => exact c.shows_written
  | void e => exact e.shows_opening
  | raw e => exact e.shows_written
  | element e children =>
      have hinner := (shows_writtenForest children).append e.shows_closing
      rw [List.append_nil] at hinner
      exact e.shows_opening.append hinner

theorem shows_writtenForest (forest : List Content) :
    Shows (writtenForest forest) (tagsOf forest) := by
  cases forest with
  | nil => exact shows_nil
  | cons node rest => exact (shows_written node).append (shows_writtenForest rest)

end

theorem tags_markup (forest : List Content) : Markup.tags (markup forest) = .ok (tagsOf forest) :=
  (shows_writtenForest forest).tags_eq

theorem writtenForest_append (left right : List Content) :
    writtenForest (left ++ right) = writtenForest left ++ writtenForest right := by
  induction left with
  | nil => rfl
  | cons node rest ih => rw [List.cons_append, writtenForest, writtenForest, ih, List.append_assoc]

theorem tagsOf_append (left right : List Content) :
    tagsOf (left ++ right) = tagsOf left ++ tagsOf right := by
  induction left with
  | nil => rfl
  | cons node rest ih => rw [List.cons_append, tagsOf, tagsOf, ih, List.append_assoc]

/-! ## Further parts -/

/-- A text does not stand on both sides of the place between some parts. -/
def IsGap (left right : List Content) : Prop :=
  (∀ s, left.getLast? ≠ some (.text s)) ∨ ∀ s, right.head? ≠ some (.text s)

/-- One more part is in the second forest, at some depth and in a gap between other parts. -/
inductive Inserts (node : Content) : List Content → List Content → Prop where
  | here {left right : List Content} (hgap : IsGap left right) :
      Inserts node (left ++ right) (left ++ node :: right)
  | inside {left right children inserted : List Content} {e : Element}
      (h : Inserts node children inserted) :
      Inserts node (left ++ .element e children :: right) (left ++ .element e inserted :: right)

/-- A comment shows no tags at whatever place it stands. -/
theorem Inserts.tagsOf_eq {c : Comment} {forest inserted : List Content}
    (h : Inserts (.comment c) forest inserted) : tagsOf inserted = tagsOf forest := by
  induction h with
  | here hgap => simp only [tagsOf_append, tagsOf, tags, List.nil_append]
  | inside h ih => simp only [tagsOf_append, tagsOf, tags, ih]

end Content

end StyleUsage.Markup
