import StyleUsage.Usage.Accumulator

/-!
# Feeding an accumulator

An accumulator that takes several markup texts, one after the other, holds exactly the names that
one of them uses.
-/

namespace StyleUsage.Usage

/-- A markup text uses a name if one of the collectors finds it there, at a tag or in the text. -/
def Uses (collectors : List Collector) (markup name : String) : Prop :=
  name ≠ "" ∧ ∃ tags, Markup.tags markup = .ok tags ∧ ∃ collector ∈ collectors,
    (∃ tag ∈ tags, name ∈ collector.fromAttributes tag.attributes) ∨
      name ∈ collector.fromMarkup markup

theorem mem_foldl_insert {names used : List String} {name : String} :
    name ∈ names.foldl (fun found name => found.insert name) used ↔
      name ∈ used ∨ name ∈ names := by
  induction names generalizing used with
  | nil => simp
  | cons first rest ih =>
      rw [List.foldl_cons, ih, List.mem_insert_iff, List.mem_cons]
      constructor
      · rintro ((h | h) | h)
        · exact .inr (.inl h)
        · exact .inl h
        · exact .inr (.inr h)
      · rintro (h | h | h)
        · exact .inl (.inr h)
        · exact .inl (.inl h)
        · exact .inr h

theorem mem_insertNames {used names : List String} {name : String} :
    name ∈ insertNames used names ↔ name ∈ used ∨ name ≠ "" ∧ name ∈ names := by
  rw [insertNames, mem_foldl_insert, List.mem_filter]
  simp [and_comm]

/-- Further names are put before the old ones, each of them once. -/
theorem exists_news (names : List String) {used : List String} (hused : used.Nodup) :
    ∃ news, insertNames used names = news ++ used ∧ (news ++ used).Nodup := by
  have hfold (more : List String) : ∃ news,
      more.foldl (fun found name => found.insert name) used = news ++ used ∧
        (news ++ used).Nodup := by
    induction more generalizing used with
    | nil => exact ⟨[], rfl, hused⟩
    | cons name rest ih =>
        rw [List.foldl_cons]
        by_cases hname : name ∈ used
        · rw [List.insert_of_mem hname]
          exact ih hused
        · rw [List.insert_of_not_mem hname]
          obtain ⟨news, hnews, hnodup⟩ := ih (List.nodup_cons.2 ⟨hname, hused⟩)
          rw [List.append_cons] at hnews hnodup
          exact ⟨news ++ [name], hnews, hnodup⟩
  exact hfold _

namespace Accumulator

/-- The accumulator after some markup texts, unless it refuses one of them. -/
def feedAll (a : Accumulator) : List String → Except Refusal Accumulator
  | [] => .ok a
  | markup :: rest =>
      match a.feed markup with
      | .ok b => b.feedAll rest
      | .error refusal => .error refusal

/-- How the reader of markup rejects the first of some texts that it rejects. -/
def firstRejection? (texts : List String) : Option Markup.Rejection :=
  texts.findSome? fun text =>
    match Markup.tags text with
    | .error rejection => some rejection
    | .ok _ => none

variable {a b c : Accumulator}

theorem mem_namesOfMarkup {markup name : String} {tags : List Tag} :
    name ∈ a.namesOfMarkup markup tags ↔ ∃ collector ∈ a.collectors,
      (∃ tag ∈ tags, name ∈ collector.fromAttributes tag.attributes) ∨
        name ∈ collector.fromMarkup markup := by
  simp only [namesOfMarkup, namesOfAttributes, List.mem_append, List.mem_flatMap]
  constructor
  · rintro (⟨tag, ht, collector, hc, hname⟩ | ⟨collector, hc, hname⟩)
    · exact ⟨collector, hc, .inl ⟨tag, ht, hname⟩⟩
    · exact ⟨collector, hc, .inr hname⟩
  · rintro ⟨collector, hc, ⟨tag, ht, hname⟩ | hname⟩
    · exact .inl ⟨tag, ht, collector, hc, hname⟩
    · exact .inr ⟨collector, hc, hname⟩

/-- An open accumulator takes all markup that is read. -/
theorem feed_of_tags {markup : String} {tags : List Tag} (ha : a.isFrozen = false)
    (h : Markup.tags markup = .ok tags) :
    a.feed markup = .ok (a.insert (a.namesOfMarkup markup tags)) := by
  rw [feed, ha, h]
  rfl

/-- Whatever is taken is taken by an accumulator that is open, and leaves it open. -/
theorem feed_eq_ok {markup : String} (h : a.feed markup = .ok b) :
    a.isFrozen = false ∧ b.isFrozen = false ∧ b.collectors = a.collectors ∧
      ∀ name, name ∈ b.used ↔ name ∈ a.used ∨ Uses a.collectors markup name := by
  unfold feed at h
  cases hfrozen : a.isFrozen with
  | true => simp [hfrozen] at h
  | false =>
      cases htags : Markup.tags markup with
      | error rejection => simp [hfrozen, htags] at h
      | ok tags =>
          simp only [hfrozen, htags, Bool.false_eq_true, if_false, Except.ok.injEq] at h
          subst h
          refine ⟨rfl, hfrozen, rfl, fun name => ?_⟩
          simp only [insert, mem_insertNames, mem_namesOfMarkup, Uses, htags, Except.ok.injEq,
            exists_eq_left']

theorem exists_tags_of_feed {markup : String} (h : a.feed markup = .ok b) :
    ∃ tags, Markup.tags markup = .ok tags := by
  unfold feed at h
  split at h
  case isTrue => cases h
  case isFalse =>
      split at h
      case h_1 tags htags => exact ⟨tags, htags⟩
      case h_2 => cases h

/-- What an open accumulator refuses is rejected by the reader of markup. -/
theorem feed_eq_error {markup : String} {refusal : Refusal} (ha : a.isFrozen = false)
    (h : a.feed markup = .error refusal) :
    ∃ rejection, Markup.tags markup = .error rejection ∧ refusal = .rejected rejection := by
  unfold feed at h
  rw [ha] at h
  cases htags : Markup.tags markup with
  | ok tags => simp [htags] at h
  | error rejection =>
      simp only [htags, Bool.false_eq_true, if_false, Except.error.injEq] at h
      exact ⟨rejection, rfl, h.symm⟩

/-- What is taken adds the names that it uses and that are new, each of them once. -/
theorem exists_news_of_feed {markup : String} (ha : a.used.Nodup) (h : a.feed markup = .ok b) :
    ∃ news, b.used = news ++ a.used ∧ b.used.Nodup ∧
      ∀ name, name ∈ news ↔ Uses a.collectors markup name ∧ name ∉ a.used := by
  obtain ⟨-, -, -, hmem⟩ := feed_eq_ok h
  obtain ⟨news, hnews, hnodup⟩ : ∃ news, b.used = news ++ a.used ∧ b.used.Nodup := by
    unfold feed at h
    split at h
    case isTrue => cases h
    case isFalse =>
        split at h
        case h_1 tags _ =>
            cases h
            obtain ⟨news, hnews, hnodup⟩ := exists_news (a.namesOfMarkup markup tags) ha
            rw [← hnews] at hnodup
            exact ⟨news, hnews, hnodup⟩
        case h_2 => cases h
  refine ⟨news, hnews, hnodup, fun name => ?_⟩
  have hdisjoint := (List.nodup_append.1 (hnews ▸ hnodup)).2.2
  have hall := hmem name
  rw [hnews, List.mem_append] at hall
  constructor
  · intro hname
    have hold : name ∉ a.used := fun hold => hdisjoint name hname name hold rfl
    exact ⟨(hall.1 (.inl hname)).resolve_left hold, hold⟩
  · rintro ⟨huses, hold⟩
    exact (hall.2 (.inr huses)).resolve_right hold

theorem feedAll_append {texts : List String} {markup : String} (ha : a.feedAll texts = .ok b)
    (hb : b.feed markup = .ok c) : a.feedAll (texts ++ [markup]) = .ok c := by
  induction texts generalizing a with
  | nil =>
      cases ha
      simp [feedAll, hb]
  | cons text rest ih =>
      simp only [List.cons_append, feedAll] at ha ⊢
      cases hfeed : a.feed text with
      | error refusal => simp [hfeed] at ha
      | ok a' =>
          simp only [hfeed] at ha ⊢
          exact ih ha

/-- An accumulator that takes some texts stays open, and holds their names with its own. -/
theorem feedAll_eq_ok {texts : List String} (h : a.feedAll texts = .ok b) :
    b.isFrozen = a.isFrozen ∧ b.collectors = a.collectors ∧
      ∀ name, name ∈ b.used ↔ name ∈ a.used ∨ ∃ text ∈ texts, Uses a.collectors text name := by
  induction texts generalizing a with
  | nil =>
      cases h
      simp
  | cons text rest ih =>
      simp only [feedAll] at h
      cases hfeed : a.feed text with
      | error refusal => simp [hfeed] at h
      | ok a' =>
          simp only [hfeed] at h
          obtain ⟨hopen, hopen', hcollectors, hused⟩ := feed_eq_ok hfeed
          obtain ⟨hfrozen, hsame, hall⟩ := ih h
          refine ⟨?_, hsame.trans hcollectors, fun name => ?_⟩
          · rw [hfrozen, hopen, hopen']
          · rw [hall, hused, hcollectors]
            simp [or_assoc]

theorem nodup_feedAll {texts : List String} (ha : a.used.Nodup) (h : a.feedAll texts = .ok b) :
    b.used.Nodup := by
  induction texts generalizing a with
  | nil =>
      cases h
      exact ha
  | cons text rest ih =>
      simp only [feedAll] at h
      cases hfeed : a.feed text with
      | error refusal => simp [hfeed] at h
      | ok a' =>
          simp only [hfeed] at h
          obtain ⟨-, -, hnodup, -⟩ := exists_news_of_feed ha hfeed
          exact ih hnodup h

/-- Some texts are taken up to the first that the reader of markup rejects. -/
theorem feedAll_of_firstRejection? (ha : a.isFrozen = false) (texts : List String) :
    match firstRejection? texts with
    | some rejection => a.feedAll texts = .error (.rejected rejection)
    | none => ∃ b, a.feedAll texts = .ok b := by
  induction texts generalizing a with
  | nil => exact ⟨a, rfl⟩
  | cons text rest ih =>
      cases hfeed : a.feed text with
      | error refusal =>
          obtain ⟨rejection, htags, rfl⟩ := feed_eq_error ha hfeed
          simp [firstRejection?, htags, feedAll, hfeed]
      | ok b =>
          obtain ⟨tags, htags⟩ := exists_tags_of_feed hfeed
          have hrest := ih (feed_eq_ok hfeed).2.1
          simpa [firstRejection?, htags, feedAll, hfeed] using hrest

theorem freeze_of_isFrozen (h : a.isFrozen = true) : a.freeze = a := by
  obtain ⟨collectors, used, isFrozen⟩ := a
  cases h
  rfl

end Accumulator

end StyleUsage.Usage
