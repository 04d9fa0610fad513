import Mathlib
import StyleUsage.Proofs.Usage.Bindings
import StyleUsage.Proofs.Usage.Feeding
import StyleUsage.Proofs.Usage.Names
import StyleUsage.Proofs.Usage.Scanning

/-!
# Runs of an accumulator

Texts, tags, a freeze and questions reach an accumulator in any order. Until the freeze it holds
what each of them would add to an empty one, and afterwards nothing about it changes.
-/

namespace StyleUsage.Usage

open StyleUsage.Text

/-- What is done with an accumulator. -/
inductive Operation where
  | feed (markup : String)
  | addTag (attributes : List Attribute)
  | freeze
  | contains (name : String)
  | size
  deriving Repr, DecidableEq

inductive Answer where
  /-- How many names a markup text has added. -/
  | added (count : Nat)
  | taken
  | refused (refusal : Refusal)
  | names (used : List String)
  | contained (holds : Bool)
  | counted (count : Nat)
  deriving Repr, DecidableEq

/-- An accumulator, and the names that it hands out since it is frozen. -/
structure Register where
  accumulator : Accumulator
  final : Option (List String)
  deriving Repr, DecidableEq

/-- One operation with what comes of it. -/
structure Step where
  before : Register
  operation : Operation
  answer : Answer
  after : Register

namespace Register

def start (collectors : List Collector) : Register :=
  ⟨.start collectors, none⟩

def used (r : Register) : List String :=
  r.accumulator.used

/-- The register and its answer after what the accumulator took or refused. -/
def afterAddition (r : Register) (answer : Accumulator → Answer) :
    Except Refusal Accumulator → Register × Answer
  | .ok accumulator => ({ r with accumulator }, answer accumulator)
  | .error refusal => (r, .refused refusal)

def perform (r : Register) : Operation → Register × Answer
  | .feed markup =>
      r.afterAddition (fun after => .added (after.size - r.accumulator.size))
        (r.accumulator.feed markup)
  | .addTag attributes => r.afterAddition (fun _ => .taken) (r.accumulator.addTag attributes)
  | .freeze =>
      match r.final with
      | some names => (r, .names names)
      | none => (⟨r.accumulator.freeze, some r.used⟩, .names r.used)
  | .contains name => (r, .contained (r.accumulator.contains name))
  | .size => (r, .counted r.accumulator.size)

/-- The register after some operations. -/
def run (r : Register) (operations : List Operation) : Register :=
  operations.foldl (fun r operation => (r.perform operation).1) r

/-- An operation with what comes of it. -/
def step (r : Register) (operation : Operation) : Step :=
  ⟨r, operation, (r.perform operation).2, (r.perform operation).1⟩

/-- The steps of some operations, one after the other. -/
def trace (r : Register) : List Operation → List Step
  | [] => []
  | operation :: rest => r.step operation :: (r.perform operation).1.trace rest

end Register

namespace Step

/-- The names that an operation has added. -/
def news (step : Step) : List String :=
  step.after.used.filter (· ∉ step.before.used)

/-- How many names were added, as the answer to a markup text has it. -/
def fed (step : Step) : Nat :=
  match step.answer with
  | .added count => count
  | _ => 0

/-- How many names a tag has added. -/
def tagged (step : Step) : Nat :=
  match step.operation with
  | .addTag _ => step.news.length
  | _ => 0

end Step

/-- The answers of a frozen accumulator with the given names. -/
def finalAnswer (names : List String) : Operation → Answer
  | .feed _ | .addTag _ => .refused .frozen
  | .freeze => .names names
  | .contains name => .contained (names.contains name)
  | .size => .counted names.length

/-- What a collector may take for the name of a class. -/
def IsClassName (name : String) : Prop :=
  name ≠ "" ∧ ∀ c ∈ name.toList, isBlank c = false

variable {c : Char} {s : List Char} {name : String} {r : Register} {operation : Operation}
  {operations more : List Operation} {directives : Bool}

/-! ## Names hold no blanks -/

theorem isBlank_of_mem_wordsOf {s : String} (h : name ∈ wordsOf s) (hc : c ∈ name.toList) :
    isBlank c = false := by
  obtain ⟨word, hword, rfl⟩ := List.mem_map.1 h
  rw [String.toList_ofList] at hc
  exact isBlank_of_mem_words hword hc

theorem continuesName_of_mem_lexemes {n : List Char} (h : .name n ∈ lexemes s) (hc : c ∈ n) :
    continuesName c = true := by
  fun_induction lexemes s with
  | case1 => cases h
  | case2 d rest inner after hq hlt ih =>
      rcases List.mem_cons.1 h with h | h
      · cases h
      · exact ih h
  | case3 d rest hq hd hle ih =>
      rcases List.mem_cons.1 h with h | h
      · cases h
        rcases List.mem_cons.1 hc with rfl | hc
        · exact continuesName_of_startsName hd
        · exact List.all_eq_true.1 List.all_takeWhile c hc
      · exact ih h
  | case4 d rest hq hd ih =>
      rcases List.mem_append.1 h with hmark | h
      · rw [Option.mem_toList, mark?.eq_def] at hmark
        split at hmark <;> cases hmark
      · exact ih h

theorem isBlank_of_mem_expressionClasses {s : String} (h : name ∈ expressionClasses s)
    (hc : c ∈ name.toList) : isBlank c = false := by
  obtain ⟨n, hn, rfl⟩ := List.mem_map.1 h
  rw [String.toList_ofList] at hc
  rcases exists_of_mem_namesFrom hn with hname | ⟨content, -, hword⟩
  · have hcontinues := continuesName_of_mem_lexemes hname hc
    rw [← Bool.not_eq_true]
    intro hblank
    rw [continuesName_of_isBlank hblank] at hcontinues
    cases hcontinues
  · exact isBlank_of_mem_words hword hc

theorem isBlank_of_mem_directiveClasses {entry : Attribute} (h : name ∈ directiveClasses entry)
    (hc : c ∈ name.toList) : isBlank c = false := by
  obtain ⟨key, value⟩ := entry
  rw [directiveClasses] at h
  split at h
  case isTrue => exact isBlank_of_mem_expressionClasses h hc
  case isFalse =>
      obtain ⟨bound, hbound, rfl⟩ := Option.map_eq_some_iff.1 (Option.mem_toList.1 h)
      rw [String.toList_ofList] at hc
      obtain ⟨-, -, -, -, hname, -⟩ := boundName?_eq_some_iff.1 hbound
      exact (hname c hc).2

theorem isBlank_of_mem_fromAttributes {collector : Collector} {attributes : List Attribute}
    (h : name ∈ collector.fromAttributes attributes) (hc : c ∈ name.toList) :
    isBlank c = false := by
  cases collector with
  | classAttribute => exact isBlank_of_mem_wordsOf h hc
  | directives =>
      obtain ⟨entry, -, hname⟩ := List.mem_flatMap.1 h
      exact isBlank_of_mem_directiveClasses hname hc

theorem isBlank_of_mem_fromMarkup {collector : Collector} {markup : String}
    (h : name ∈ collector.fromMarkup markup) (hc : c ∈ name.toList) : isBlank c = false := by
  cases collector with
  | classAttribute => cases h
  | directives =>
      obtain ⟨-, ⟨-, -, -, hname, -⟩, -⟩ := mem_fromMarkup.1 h
      have hin := hname c hc
      simp only [inWrittenName, Bool.and_eq_true, Bool.not_eq_true'] at hin
      exact hin.1

/-! ## Single operations -/

/-- The names that the collectors find in what an operation gives them. -/
def offers (collectors : List Collector) : Operation → List String
  | .feed markup =>
      match Markup.tags markup with
      | .ok tags => (Accumulator.start collectors).namesOfMarkup markup tags
      | .error _ => []
  | .addTag attributes => (Accumulator.start collectors).namesOfAttributes attributes
  | _ => []

theorem isBlank_of_mem_offers {collectors : List Collector} (h : name ∈ offers collectors operation)
    (hc : c ∈ name.toList) : isBlank c = false := by
  cases operation with
  | feed markup =>
      rw [offers] at h
      split at h
      case h_1 tags _ =>
          obtain ⟨collector, -, ⟨tag, -, hname⟩ | hname⟩ := Accumulator.mem_namesOfMarkup.1 h
          · exact isBlank_of_mem_fromAttributes hname hc
          · exact isBlank_of_mem_fromMarkup hname hc
      case h_2 => cases h
  | addTag attributes =>
      obtain ⟨collector, -, hname⟩ := List.mem_flatMap.1 h
      exact isBlank_of_mem_fromAttributes hname hc
  | freeze | contains | size => cases h

namespace Register

/-- A register of the given collectors as runs make it. -/
structure IsSound (collectors : List Collector) (r : Register) : Prop where
  collectors_eq : r.accumulator.collectors = collectors
  frozen : r.accumulator.isFrozen = r.final.isSome
  final : ∀ names, r.final = some names → names = r.used
  nodup : r.used.Nodup
  names : ∀ name ∈ r.used, IsClassName name

variable {collectors : List Collector} {names : List String}

theorem isSound_start (collectors : List Collector) : (start collectors).IsSound collectors where
  collectors_eq := rfl
  frozen := rfl
  final _ h := by cases h
  nodup := List.nodup_nil
  names _ h := by cases h

/-- The register with some more names. -/
def insert (r : Register) (names : List String) : Register :=
  { r with accumulator := r.accumulator.insert names }

/-- An open register takes what is offered, and a freeze keeps what is there. -/
theorem perform_of_open (h : r.IsSound collectors) (hopen : r.final = none)
    (operation : Operation) :
    (r.perform operation).1 =
      if operation = .freeze then ⟨r.accumulator.freeze, some r.used⟩
      else r.insert (offers collectors operation) := by
  have hfrozen : r.accumulator.isFrozen = false := by rw [h.frozen, hopen]; rfl
  obtain rfl := h.collectors_eq
  cases operation with
  | feed markup =>
      rw [if_neg (by simp), perform, Accumulator.feed, hfrozen, offers]
      cases Markup.tags markup <;> rfl
  | addTag attributes =>
      rw [if_neg (by simp), perform, Accumulator.addTag, hfrozen]
      rfl
  | freeze => simp [perform, hopen]
  | contains | size => rfl

/-- A frozen register stays as it is, and answers from its final names. -/
theorem perform_of_final (h : r.IsSound collectors) (hfinal : r.final = some names)
    (operation : Operation) :
    r.perform operation = (r, finalAnswer names operation) := by
  have hfrozen : r.accumulator.isFrozen = true := by rw [h.frozen, hfinal]; rfl
  obtain rfl := h.final names hfinal
  cases operation with
  | feed | addTag => simp [perform, Accumulator.feed, Accumulator.addTag, hfrozen, afterAddition,
      finalAnswer]
  | freeze => simp [perform, hfinal, finalAnswer]
  | contains | size => rfl

/-- A freeze hands out the names that are there, now and ever after. -/
theorem perform_freeze (h : r.IsSound collectors) :
    (r.perform .freeze).2 = .names r.used ∧ (r.perform .freeze).1.used = r.used ∧
      (r.perform .freeze).1.final = some r.used := by
  rw [perform]
  cases hfinal : r.final with
  | some names =>
      obtain rfl := h.final names hfinal
      exact ⟨rfl, rfl, hfinal⟩
  | none => exact ⟨rfl, rfl, rfl⟩

/-- Markup that the reader rejects leaves the register as it is. -/
theorem perform_of_rejected (h : r.IsSound collectors) {markup : String}
    {rejection : Markup.Rejection} (hrejected : Markup.tags markup = .error rejection) :
    r.perform (.feed markup) =
      (r, .refused (if r.final.isSome then .frozen else .rejected rejection)) := by
  rw [perform, Accumulator.feed, h.frozen, hrejected]
  cases r.final.isSome <;> rfl

theorem isSound_insert (h : r.IsSound collectors) (hopen : r.final = none)
    (hnames : ∀ name ∈ names, ∀ c ∈ name.toList, isBlank c = false) :
    (r.insert names).IsSound collectors where
  collectors_eq := h.collectors_eq
  frozen := h.frozen
  final found hfound := by
    have hfound : r.final = some found := hfound
    rw [hopen] at hfound
    cases hfound
  nodup := by
    obtain ⟨news, hnews, hnodup⟩ := exists_news names h.nodup
    rwa [← hnews] at hnodup
  names name hname := by
    rcases mem_insertNames.1 hname with hold | ⟨hne, hnew⟩
    · exact h.names name hold
    · exact ⟨hne, hnames name hnew⟩

theorem isSound_perform (h : r.IsSound collectors) (operation : Operation) :
    (r.perform operation).1.IsSound collectors := by
  cases hfinal : r.final with
  | some names => rwa [perform_of_final h hfinal]
  | none =>
      rw [perform_of_open h hfinal]
      split
      case isTrue =>
          exact ⟨h.collectors_eq, rfl, by rintro _ ⟨⟩; rfl, h.nodup, h.names⟩
      case isFalse =>
          exact isSound_insert h hfinal fun _ hname _ hc => isBlank_of_mem_offers hname hc

/-- An operation puts new names before the old ones. -/
theorem exists_news_of_perform (h : r.IsSound collectors) (operation : Operation) :
    ∃ news, (r.perform operation).1.used = news ++ r.used := by
  cases hfinal : r.final with
  | some names => exact ⟨[], by rw [perform_of_final h hfinal]; rfl⟩
  | none =>
      rw [perform_of_open h hfinal]
      split
      case isTrue => exact ⟨[], rfl⟩
      case isFalse =>
          obtain ⟨news, hnews, -⟩ := exists_news (offers collectors operation) h.nodup
          exact ⟨news, hnews⟩

theorem length_news (h : r.IsSound collectors) (operation : Operation) :
    (r.step operation).news.length + r.used.length = (r.perform operation).1.used.length := by
  obtain ⟨news, hnews⟩ := exists_news_of_perform h operation
  have hnodup := (isSound_perform h operation).nodup
  rw [hnews] at hnodup ⊢
  have hdisjoint := (List.nodup_append.1 hnodup).2.2
  have hfresh : (r.step operation).news = news := by
    rw [Step.news, step, hnews, List.filter_append, List.filter_eq_self.2, List.filter_eq_nil_iff.2,
      List.append_nil]
    · simp
    · intro name hname
      simpa using fun hold => hdisjoint name hname name hold rfl
  rw [hfresh, List.length_append]

/-- A markup text is answered by the number of names that it has added. -/
theorem eq_length_news {n : Nat} (h : r.IsSound collectors)
    (hanswer : (r.step operation).answer = .added n) : n = (r.step operation).news.length := by
  have hlength := length_news h operation
  cases operation with
  | feed markup =>
      rw [step, perform] at hanswer
      cases hfeed : r.accumulator.feed markup with
      | ok after =>
          have hused : (r.perform (.feed markup)).1.used = after.used := by rw [perform, hfeed]; rfl
          have hn : after.used.length - r.used.length = n := by
            rw [hfeed] at hanswer
            exact Answer.added.inj hanswer
          rw [hused] at hlength
          omega
      | error refusal =>
          rw [hfeed] at hanswer
          cases hanswer
  | addTag attributes =>
      rw [step, perform] at hanswer
      cases hadd : r.accumulator.addTag attributes <;> rw [hadd] at hanswer <;> cases hanswer
  | freeze =>
      rw [step, perform] at hanswer
      cases hfinal : r.final <;> rw [hfinal] at hanswer <;> cases hanswer
  | contains | size => cases hanswer

/-- What is counted is what was added. -/
theorem fed_add_tagged (h : r.IsSound collectors) (operation : Operation) :
    (r.step operation).fed + (r.step operation).tagged = (r.step operation).news.length := by
  have hnone (hused : (r.perform operation).1.used = r.used) :
      (r.step operation).news.length = 0 := by
    have hlength := length_news h operation
    rw [hused] at hlength
    omega
  cases operation with
  | feed markup =>
      cases hfeed : r.accumulator.feed markup with
      | ok after =>
          have hanswer : (r.step (.feed markup)).answer =
              .added (after.size - r.accumulator.size) := by
            rw [step, perform, hfeed]
            rfl
          rw [← eq_length_news h hanswer, Step.fed, hanswer]
          rfl
      | error refusal =>
          have hsame : r.perform (.feed markup) = (r, .refused refusal) := by
            rw [perform, hfeed]
            rfl
          rw [hnone (by rw [hsame]), Step.fed, step, hsame]
          rfl
  | addTag attributes =>
      have hfed : (r.step (.addTag attributes)).fed = 0 := by
        rw [Step.fed, step, perform]
        cases r.accumulator.addTag attributes <;> rfl
      rw [hfed, Nat.zero_add]
      rfl
  | freeze =>
      obtain ⟨hanswer, hused, -⟩ := perform_freeze h
      rw [hnone hused, Step.fed, step, hanswer]
      rfl
  | contains | size => exact (hnone rfl).symm

/-! ## Runs -/

theorem isSound_run (h : r.IsSound collectors) (operations : List Operation) :
    (r.run operations).IsSound collectors := by
  induction operations generalizing r with
  | nil => exact h
  | cons operation rest ih => exact ih (isSound_perform h operation)

theorem run_append (r : Register) (operations more : List Operation) :
    r.run (operations ++ more) = (r.run operations).run more :=
  List.foldl_append

theorem used_subset_run (h : r.IsSound collectors) (operations : List Operation) :
    r.used ⊆ (r.run operations).used := by
  induction operations generalizing r with
  | nil => exact List.Subset.refl _
  | cons operation rest ih =>
      obtain ⟨news, hnews⟩ := exists_news_of_perform h operation
      have hold : r.used ⊆ (r.perform operation).1.used :=
        hnews ▸ List.subset_append_right news r.used
      exact List.Subset.trans hold (ih (isSound_perform h operation))

theorem run_of_final (h : r.IsSound collectors) (hfinal : r.final = some names)
    (operations : List Operation) : r.run operations = r := by
  induction operations with
  | nil => rfl
  | cons operation rest ih =>
      rw [run, List.foldl_cons, perform_of_final h hfinal]
      exact ih

theorem answers_of_final (h : r.IsSound collectors) (hfinal : r.final = some names)
    (operations : List Operation) :
    (r.trace operations).map Step.answer = operations.map (finalAnswer names) := by
  induction operations with
  | nil => rfl
  | cons operation rest ih =>
      rw [trace, List.map_cons, List.map_cons, step, perform_of_final h hfinal, ih]

/-- Until the freeze, a name is there if it was there before or one of the operations offers it. -/
theorem mem_used_run (h : r.IsSound collectors) (hopen : r.final = none) :
    name ∈ (r.run operations).used ↔ name ∈ r.used ∨
      ∃ operation ∈ operations.takeWhile (· ≠ .freeze),
        name ≠ "" ∧ name ∈ offers collectors operation := by
  induction operations generalizing r with
  | nil => simp [run]
  | cons operation rest ih =>
      have hsound := isSound_perform h operation
      rw [run, List.foldl_cons]
      by_cases hfreeze : operation = .freeze
      · subst hfreeze
        obtain ⟨-, hused, hfinal⟩ := perform_freeze h
        rw [← run, run_of_final hsound hfinal, hused]
        simp
      · have hnext := perform_of_open h hopen operation
        rw [if_neg hfreeze] at hnext
        rw [← run, ih hsound (by rw [hnext]; exact hopen), hnext,
          List.takeWhile_cons_of_pos (by simpa using hfreeze), List.exists_mem_cons_iff, ← or_assoc]
        exact or_congr_left mem_insertNames

/-- Every step of a run is taken by the register that the operations before it leave. -/
theorem exists_of_mem_trace {step : Step} (h : step ∈ r.trace operations) :
    ∃ before operation, step = (r.run before).step operation := by
  induction operations generalizing r with
  | nil => cases h
  | cons operation rest ih =>
      rcases List.mem_cons.1 h with rfl | h
      · exact ⟨[], operation, rfl⟩
      · obtain ⟨before, next, rfl⟩ := ih h
        exact ⟨operation :: before, next, rfl⟩

theorem sum_fed_add_sum_tagged (h : r.IsSound collectors) (operations : List Operation) :
    ((r.trace operations).map Step.fed).sum + ((r.trace operations).map Step.tagged).sum +
      r.used.length = (r.run operations).used.length := by
  induction operations generalizing r with
  | nil => simp [trace, run]
  | cons operation rest ih =>
      have hrest := ih (isSound_perform h operation)
      have hstep := length_news h operation
      rw [← fed_add_tagged h] at hstep
      rw [run, List.foldl_cons, ← run, ← hrest, ← hstep, trace]
      simp only [List.map_cons, List.sum_cons]
      omega

/-- What an operation does to an empty register. -/
theorem mem_used_perform_start : name ∈ ((start collectors).perform operation).1.used ↔
    name ≠ "" ∧ name ∈ offers collectors operation := by
  rw [perform_of_open (isSound_start collectors) rfl]
  split
  case isTrue hfreeze =>
      subst hfreeze
      simp [start, used, Accumulator.start, Accumulator.freeze, offers]
  case isFalse =>
      rw [insert, used, Accumulator.insert, mem_insertNames]
      simp [start, Accumulator.start]

/-- Whatever is done with an accumulator, in whatever order. It holds names without blanks, each of
them once, and loses none. Every markup text is answered by the number of names that it adds, and
the names of texts and tags add up to all of them. Markup that is rejected changes nothing. What is
there is what the operations before the first freeze add to an empty accumulator, so that neither
their order nor a repetition matters. From the first freeze on, additions are refused, nothing
changes, and all answers are about the same names. -/
theorem runs_accumulate (directives : Bool) (operations : List Operation) :
    let empty := start (Usage.collectors directives)
    let last := empty.run operations
    (last.used.Nodup ∧ ∀ name ∈ last.used, IsClassName name) ∧
    (∀ later, last.used ⊆ (empty.run (operations ++ later)).used) ∧
    (∀ step ∈ empty.trace operations, ∀ count, step.answer = .added count →
      count = step.news.length) ∧
    ((empty.trace operations).map Step.fed).sum + ((empty.trace operations).map Step.tagged).sum =
      last.used.length ∧
    (∀ markup rejection, Markup.tags markup = .error rejection →
      last.perform (.feed markup) =
        (last, .refused (if last.final.isSome then .frozen else .rejected rejection))) ∧
    (∀ name, name ∈ last.used ↔ ∃ operation ∈ operations.takeWhile (· ≠ .freeze),
      name ∈ (empty.perform operation).1.used) ∧
    (∀ others : List Operation, (∀ operation, operation ∈ others.takeWhile (· ≠ .freeze) ↔
        operation ∈ operations.takeWhile (· ≠ .freeze)) →
      ∀ name, name ∈ (empty.run others).used ↔ name ∈ last.used) ∧
    ∀ later, (empty.run (operations ++ .freeze :: later)).used = last.used ∧
      empty.run (operations ++ .freeze :: later) = empty.run (operations ++ [.freeze]) ∧
      (last.trace (.freeze :: later)).map Step.answer =
        (.freeze :: later).map (finalAnswer last.used) := by
  intro empty last
  have hempty : empty.IsSound (Usage.collectors directives) := isSound_start _
  have hlast : last.IsSound (Usage.collectors directives) := isSound_run hempty operations
  have hunion (operations : List Operation) (name : String) :
      name ∈ (empty.run operations).used ↔ ∃ operation ∈ operations.takeWhile (· ≠ .freeze),
        name ∈ (empty.perform operation).1.used := by
    rw [mem_used_run hempty rfl]
    simp only [empty, mem_used_perform_start]
    simp [start, used, Accumulator.start]
  refine ⟨⟨hlast.nodup, hlast.names⟩, ?_, ?_, ?_, ?_, hunion operations, ?_, ?_⟩
  · intro later
    rw [run_append]
    exact used_subset_run hlast later
  · intro step hstep count hanswer
    obtain ⟨before, operation, rfl⟩ := exists_of_mem_trace hstep
    exact eq_length_news (isSound_run hempty before) hanswer
  · exact sum_fed_add_sum_tagged hempty operations
  · exact fun markup rejection => perform_of_rejected hlast
  · intro others hothers name
    rw [hunion, hunion]
    simp only [hothers]
  · intro later
    obtain ⟨hanswer, hused, hfinal⟩ := perform_freeze hlast
    have hfrozen := isSound_perform hlast .freeze
    have hrun (later : List Operation) :
        empty.run (operations ++ .freeze :: later) = (last.perform .freeze).1 := by
      rw [run_append]
      exact run_of_final hfrozen hfinal later
    rw [hrun, hrun, trace, List.map_cons, answers_of_final hfrozen hfinal, step, hanswer]
    exact ⟨hused, rfl, rfl⟩

example : ((start (Usage.collectors false)).trace [.addTag [("class", "b a  b")], .size, .freeze,
      .addTag [("class", "c")], .contains "c"]).map Step.answer =
    [.taken, .counted 2, .names ["a", "b"], .refused .frozen, .contained false] := by
  decide +kernel

end Register

end StyleUsage.Usage
