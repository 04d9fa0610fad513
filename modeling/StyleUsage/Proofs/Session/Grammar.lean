import StyleUsage.Proofs.Session.Chronicle
import StyleUsage.Proofs.Session.Conclusion
import StyleUsage.Proofs.Session.Passage
import StyleUsage.Proofs.Session.Progress
import StyleUsage.Proofs.Session.SoleClient

/-!
# The grammar of the record

Apart from the news of stylesheets that wait, the record of a session with one client is at every
moment the beginning of a word: the start of the collection, the news of the sources, and then
either the failure, or the completion and after it each analysis of a stylesheet with its verdict.
There is no verdict on a stylesheet that is too deep. The numbers of classes that the record tells
of add up.
-/

namespace StyleUsage.Session

open StyleUsage.Usage

/-- Each analysis is announced, and then its verdict, before the next one begins. -/
inductive ArePaired : List Event → Prop where
  | nil : ArePaired []
  | resolved {events : List Event} {path : String} {unused : List String}
      (h : ArePaired events) :
      ArePaired (events ++ [.documentAnalyzing path, .documentResolved path unused])
  | failed {events : List Event} {path error : String} (h : ArePaired events) :
      ArePaired (events ++ [.documentAnalyzing path, .documentFailed path error])

/-- The analyses of some stylesheets, one after the other. Each is announced and then its verdict,
unless the stylesheet is too deep: then there is no verdict. -/
inductive AreAnalyses (texts : List (String × String)) : List Event → Prop where
  | nil : AreAnalyses texts []
  | resolved {events : List Event} {path css : String} {unused : List String}
      (h : AreAnalyses texts events) (hmem : (path, css) ∈ texts)
      (hroom : Stylesheet.isTooDeep css = false) :
      AreAnalyses texts (events ++ [.documentAnalyzing path, .documentResolved path unused])
  | failed {events : List Event} {path css error : String} (h : AreAnalyses texts events)
      (hmem : (path, css) ∈ texts) (hroom : Stylesheet.isTooDeep css = false) :
      AreAnalyses texts (events ++ [.documentAnalyzing path, .documentFailed path error])
  | foundered {events : List Event} {path css : String} (h : AreAnalyses texts events)
      (hmem : (path, css) ∈ texts) (hdeep : Stylesheet.isTooDeep css = true) :
      AreAnalyses texts (events ++ [.documentAnalyzing path])

/-- The classes that some sources use. -/
def Setup.namesOf (setup : Setup) (sources : List MarkupSource) : Set String :=
  {name | ∃ source ∈ sources, Uses (collectors setup.directives) source.text name}

/-- The words that a session can put on record, given what its analyses come to. -/
inductive Setup.IsWord (setup : Setup) (CanEnd : List Event → Prop) : List Event → Prop where
  | failed {done : List MarkupSource} {events : List Event} {failure : Failure}
      (hbreak : setup.BreaksOffAfter done failure) (h : Announces setup done events) :
      setup.IsWord CanEnd (.collectionStarted setup.patterns ::
        (events ++ [.collectionFailed failure.message]))
  | completed {events analyses : List Event} {size : Nat} (hload : setup.load.failure = none)
      (h : Announces setup setup.load.sources events)
      (hsize : (setup.namesOf setup.load.sources).encard = size) (hanalyses : CanEnd analyses) :
      setup.IsWord CanEnd (.collectionStarted setup.patterns :: (events ++
        .collectionCompleted setup.load.sources.length size :: analyses))

/-- Whether an event is the news of a source. -/
def isOfSource : Event → Bool
  | .sourceParsed .. => true
  | _ => false

/-- The number of new classes that an event tells of. -/
def classCount : Event → Int
  | .sourceParsed _ count => count
  | _ => 0

/-- The worker is through with the news of the collection. -/
def Worker.HasClosed : Worker → Prop
  | .draining _ | .analysing .. | .ended | .died _ => True
  | _ => False

/-- Whether an event is the news of a stylesheet that waits. -/
def isOfQueue : Event → Bool
  | .documentQueued _ => true
  | _ => false

/-- The record without the news of stylesheets that wait. -/
def State.chronicle (s : State) : List Event :=
  (eventsOf s.log).filter fun e => !isOfQueue e

section
variable {setup : Setup} {s t : State} {m : Move} {e : Event} {events : List Event}
  {done rest : List MarkupSource} {moves : List Move} {texts : List (String × String)}
  {CanEnd : List Event → Prop}

/-! ## Numbers of classes -/

theorem finite_uses (patterns : List Collector) (text : String) :
    {name | Uses patterns text name}.Finite := by
  cases h : (Accumulator.start patterns).feed text with
  | ok b =>
      obtain ⟨-, -, -, hused⟩ := Accumulator.feed_eq_ok h
      refine (List.finite_toSet b.used).subset fun name hname => ?_
      exact (hused name).2 (.inr hname)
  | error refusal =>
      obtain ⟨rejection, htags, -⟩ := Accumulator.feed_eq_error rfl h
      refine Set.finite_empty.subset fun name hname => ?_
      obtain ⟨-, tags, hok, -⟩ := hname
      rw [htags] at hok
      cases hok

theorem exists_encard_newNames (setup : Setup) (done : List MarkupSource)
    (source : MarkupSource) : ∃ count : Nat, (setup.newNames done source).encard = count := by
  have hfinite : (setup.newNames done source).Finite :=
    (finite_uses _ source.text).subset fun name hname => hname.1
  exact ⟨_, hfinite.encard_eq_coe_toFinset_card⟩

/-- The new classes of each source add up to the classes of all. -/
theorem Announces.sum_classCount (h : Announces setup done events) : ∃ size : Nat,
    (setup.namesOf done).encard = size ∧ (events.map classCount).sum = size := by
  induction h with
  | nil => exact ⟨0, by simp [Setup.namesOf], rfl⟩
  | @snoc done events source tags count h htags hcount ih =>
      obtain ⟨size, hsize, hsum⟩ := ih
      have hunion : setup.namesOf (done ++ [source]) =
          setup.namesOf done ∪ setup.newNames done source := by
        ext name
        simp only [Setup.namesOf, Setup.newNames, List.mem_append, List.mem_singleton,
          Set.mem_union, Set.mem_ofPred_eq]
        constructor
        · rintro ⟨found, hfound | rfl, huses⟩
          · exact .inl ⟨found, hfound, huses⟩
          · by_cases hold : ∃ earlier ∈ done,
                Uses (collectors setup.directives) earlier.text name
            · exact .inl hold
            · exact .inr ⟨huses, fun earlier hmem hearlier => hold ⟨earlier, hmem, hearlier⟩⟩
        · rintro (⟨found, hfound, huses⟩ | ⟨huses, -⟩)
          · exact ⟨found, .inl hfound, huses⟩
          · exact ⟨source, .inr rfl, huses⟩
      have hdisjoint : Disjoint (setup.namesOf done) (setup.newNames done source) := by
        rw [Set.disjoint_left]
        rintro name ⟨found, hfound, huses⟩ ⟨-, hnew⟩
        exact hnew found hfound huses
      refine ⟨size + count, ?_, ?_⟩
      · rw [hunion, Set.encard_union_eq hdisjoint, hsize, hcount]
        rfl
      · simp [hsum, classCount]

theorem Announces.length_eq (h : Announces setup done events) : events.length = done.length := by
  induction h with
  | nil => rfl
  | snoc h htags hcount ih => simp [ih]

theorem Announces.filter_isOfSource (h : Announces setup done events) :
    events.filter isOfSource = events := by
  rw [List.filter_eq_self]
  intro e he
  have hkind := h.kind_eq he
  cases e <;> simp [Event.kind] at hkind
  rfl

/-! ## Words -/

theorem Setup.IsWord.mono {word : List Event} {CanEnd' : List Event → Prop}
    (h : setup.IsWord CanEnd word) (hend : ∀ analyses, CanEnd analyses → CanEnd' analyses) :
    setup.IsWord CanEnd' word := by
  cases h with
  | failed hbreak h => exact .failed hbreak h
  | completed hload h hsize hanalyses => exact .completed hload h hsize (hend _ hanalyses)

/-- The news of some sources can be carried on to a word. -/
theorem Announces.exists_word (hnil : CanEnd []) (h : Announces setup done events)
    (hdone : done ++ rest = setup.load.sources) :
    ∃ word, setup.IsWord CanEnd word ∧ .collectionStarted setup.patterns :: events <+: word := by
  induction rest generalizing done events with
  | nil =>
      rw [List.append_nil] at hdone
      subst hdone
      cases hload : setup.load.failure with
      | some failure =>
          exact ⟨_, .failed (.loader hload) h, List.prefix_append _ _⟩
      | none =>
          obtain ⟨size, hsize, -⟩ := h.sum_classCount
          exact ⟨_, .completed hload h hsize hnil, List.prefix_append _ _⟩
  | cons source rest ih =>
      cases htags : Markup.tags source.text with
      | error rejection =>
          exact ⟨_, .failed (.source hdone htags) h, List.prefix_append _ _⟩
      | ok tags =>
          obtain ⟨count, hcount⟩ := exists_encard_newNames setup done source
          obtain ⟨word, hword, hprefix⟩ :=
            ih (h.snoc htags hcount) (by rw [← hdone, List.append_assoc]; rfl)
          exact ⟨word, hword, List.IsPrefix.trans (List.prefix_append _ _) hprefix⟩

theorem AreAnalyses.mono {more : List (String × String)} (h : AreAnalyses texts events)
    (hsub : texts ⊆ more) : AreAnalyses more events := by
  induction h with
  | nil => exact .nil
  | resolved h hmem hroom ih => exact ih.resolved (hsub hmem) hroom
  | failed h hmem hroom ih => exact ih.failed (hsub hmem) hroom
  | foundered h hmem hdeep ih => exact ih.foundered (hsub hmem) hdeep

theorem AreAnalyses.verdict {v : Verdict} {css : String} (h : AreAnalyses texts events)
    (hmem : (v.path, css) ∈ texts) (hroom : Stylesheet.isTooDeep css = false) :
    AreAnalyses texts (events ++ [.documentAnalyzing v.path, v.event]) := by
  unfold Verdict.event
  split
  · exact h.resolved hmem hroom
  · exact h.failed hmem hroom

/-- With room for reading every stylesheet, every analysis has its verdict. -/
theorem AreAnalyses.arePaired (h : AreAnalyses texts events)
    (hroom : ∀ text ∈ texts, Stylesheet.isTooDeep text.2 = false) : ArePaired events := by
  induction h with
  | nil => exact .nil
  | resolved h hmem _ ih => exact ih.resolved
  | failed h hmem _ ih => exact ih.failed
  | foundered h hmem hdeep ih =>
      have hfits := hroom _ hmem
      simp [hdeep] at hfits

/-- An analysis that has just been announced comes to something, whatever its stylesheet. -/
theorem AreAnalyses.exists_prefix {path css : String} (h : AreAnalyses texts events)
    (hmem : (path, css) ∈ texts) :
    ∃ analyses, AreAnalyses texts analyses ∧ events ++ [.documentAnalyzing path] <+: analyses := by
  cases hdeep : Stylesheet.isTooDeep css with
  | true => exact ⟨_, h.foundered hmem hdeep, List.prefix_refl _⟩
  | false =>
      have hfailed : AreAnalyses texts
          (events ++ [.documentAnalyzing path, .documentFailed path ""]) := h.failed hmem hdeep
      exact ⟨_, hfailed, (List.prefix_append_right_inj _).2 (List.prefix_append [_] [_])⟩

theorem mem_texts {id : Nat} {ticket : Ticket} (h : s.tickets[id]? = some ticket) :
    (ticket.path, ticket.css) ∈ s.texts :=
  List.mem_map_of_mem (List.mem_of_getElem? h)

/-- Stylesheets that stay on their tickets are still there. -/
theorem texts_subset (htext : ∀ {i : Nat} {old : Ticket}, s.tickets[i]? = some old →
    ∃ ticket, t.tickets[i]? = some ticket ∧ ticket.path = old.path ∧ ticket.css = old.css) :
    s.texts ⊆ t.texts := by
  intro text h
  obtain ⟨old, hmem, rfl⟩ := List.mem_map.1 h
  obtain ⟨i, hi⟩ := List.mem_iff_getElem?.1 hmem
  obtain ⟨ticket, hticket, hpath, hcss⟩ := htext hi
  rw [← hpath, ← hcss]
  exact mem_texts hticket

/-! ## The order of the record -/

/-- An event is about the collection, or about an analysis unless it is about a stylesheet that
waits. -/
theorem kind_of_event (e : Event) :
    (isOfCollection e = true ∧ isOfAnalysis e = false ∧ isOfQueue e = false) ∨
      isOfCollection e = false ∧ isOfAnalysis e = !isOfQueue e := by
  cases e <;> simp [isOfCollection, isOfAnalysis, isOfQueue]

/-- A step puts one event on record at most. -/
theorem AnalysisStep.record_eq {id : Nat} {used : List String} {step : Analysis}
    {advance : Advance} (h : AnalysisStep setup s id used step t advance) :
    eventsOf t.log = eventsOf s.log ∨ ∃ e, eventsOf t.log = eventsOf s.log ++ [e] := by
  cases h with
  | announced | raised => exact .inr ⟨_, eventsOf_append _ _⟩
  | judged ht hlog | overruled ht hlog => exact .inr ⟨_, hlog⟩
  | _ => exact .inl rfl

theorem Step.record_eq (h : Step setup s m t) :
    eventsOf t.log = eventsOf s.log ∨ ∃ e, eventsOf t.log = eventsOf s.log ++ [e] := by
  cases h with
  | worker h =>
      cases h with
      | opened hw hlog | froze hw hf hlog | failed hw hlog => exact .inl hlog
      | told | toldInVain | completed | completedInVain | reported | reportedInVain =>
          exact .inr ⟨_, eventsOf_append _ _⟩
      | analysed hw ha | finished hw ha | broke hw ha => exact ha.record_eq
      | swept hw hr =>
          obtain ⟨tickets, rfl⟩ := frame_of_reject hr
          exact .inl rfl
      | _ => exact .inl rfl
  | client h =>
      cases h with
      | told => exact .inr ⟨_, eventsOf_append _ _⟩
      | toldInVain | noticed | noticedInVain =>
          rw [log_giveBack]
          exact .inr ⟨_, eventsOf_append _ _⟩
      | analysed hc ha => exact ha.record_eq
      | finished hc ha | broke hc ha =>
          rw [log_giveBack]
          exact ha.record_eq
      | rejected hc hf hr =>
          obtain ⟨tickets, rfl⟩ := frame_of_reject hr
          rw [log_giveBack]
          exact .inl rfl
      | rejectedAmiss | admittedInVain | waited =>
          rw [log_giveBack]
          exact .inl rfl
      | _ => exact .inl rfl
  | called | cancelled | spared => exact .inl rfl

theorem Step.hasClosed (hlaunch : Launch s) (h : Step setup s m t) (hs : s.worker.HasClosed) :
    t.worker.HasClosed := by
  cases h with
  | worker h =>
      cases h with
      | drained | popped | analysed | finished | broke | sweptAmiss | completedInVain
      | reportedInVain | concludedTwice | completed | sweptAll => trivial
      | swept hw hr =>
          rw [hw] at hs
          exact hs.elim
      | _ hw =>
          rw [hw] at hs
          exact hs.elim
  | client h =>
      rcases h.launches hlaunch with hsame | ⟨habsent, -⟩
      · exact hsame ▸ hs
      · rw [habsent] at hs
        exact hs.elim
  | called | cancelled | spared => exact hs

/-- Nothing more is told of the collection once the worker is through with it. -/
theorem Step.not_hasClosed_of_told (hlaunch : Launch s) (h : Step setup s m t)
    (hne : t.collectionEvents ≠ s.collectionEvents) : ¬ s.worker.HasClosed := by
  cases h with
  | worker h =>
      cases h with
      | opened hw hlog | froze hw hf hlog | failed hw hlog =>
          exact absurd (collectionEvents_of_log hlog) hne
      | analysed hw ha | finished hw ha | broke hw ha => exact absurd ha.collectionEvents_eq hne
      | swept hw hr =>
          obtain ⟨tickets, rfl⟩ := frame_of_reject hr
          exact absurd rfl hne
      | told hw | toldInVain hw | completed hw | completedInVain hw | reported hw
      | reportedInVain hw => simp [hw, Worker.HasClosed]
      | _ => exact absurd rfl hne
  | @client c t h =>
      by_cases hc : ∃ request, s.clients c = .launching request
      · obtain ⟨request, hc⟩ := hc
        rw [hlaunch.absent_of_launching (c := c) (by simp [hc, Client.IsLaunching])]
        exact fun hclosed => hclosed
      · exact absurd (h.collectionEvents_eq fun request hr => hc ⟨request, hr⟩) hne
  | called | cancelled | spared => exact absurd rfl hne

/-- The worker has ended, or broken off, when the line is shut in a ready session. -/
theorem State.InStep.hasClosed_of_shut (hs : s.InStep) (hp : s.phase = .ready)
    (hd : s.draining = false) : s.worker.HasClosed := by
  have hworker := hs.worker
  cases h : s.worker <;> simp_all [State.AgreesWith, Worker.HasClosed]

/-- A client has a ticket in hand only when the line is shut, and the analyses come in the record
after a collection that is complete. -/
structure InOrder (s : State) : Prop where
  shut : ∀ c, s.held (.client c) ≠ [] → s.phase ≠ .collecting ∧ s.draining = false
  closed : s.analysisEvents ≠ [] → s.phase = .ready ∧ s.worker.HasClosed
  chronicle : s.chronicle = s.collectionEvents ++ s.analysisEvents

theorem inOrder_initial (setup : Setup) : InOrder (.initial setup) where
  shut _ h := absurd rfl h
  closed h := absurd rfl h
  chronicle := rfl

/-- Whoever analyses a stylesheet does so after the worker is through with the collection. -/
theorem InOrder.hasClosed_of_analyses {holder : Holder} {id : Nat} {used : List String}
    {step : Analysis} (hs : InOrder s) (hstep : s.InStep) (ha : s.Analyses holder id used step) :
    s.worker.HasClosed := by
  cases holder with
  | queue => exact ha.elim
  | worker =>
      rw [show s.worker = _ from ha]
      trivial
  | client c =>
      have hshut := hs.shut c (by simp [ha.held.1])
      exact hstep.hasClosed_of_shut (ha.collected hstep).1 hshut.2

theorem Step.shut (hs : InOrder s) (hr : Reachable setup s) (h : Step setup s m t)
    (ht : ∀ failure, t.worker ≠ .died failure) (c : Nat) (hc : t.held (.client c) ≠ []) :
    t.phase ≠ .collecting ∧ t.draining = false := by
  obtain ⟨id, hid⟩ := List.exists_mem_of_ne_nil _ hc
  have hbefore : s.phase ≠ .collecting ∧ s.draining = false := by
    cases h.passage hr.launch hr.custody ht with
    | kept htickets hline hclients | joined htickets hopen hroute hline hclients =>
        exact hs.shut c (List.ne_nil_of_mem (hclients c id hid))
    | passed htickets hshut => exact hshut
  have hphase := h.phase_eq hr.inStep hbefore.1
  exact ⟨hphase ▸ hbefore.1, h.draining_eq hr.inStep hbefore.1 hbefore.2⟩

theorem Step.inOrder (hs : InOrder s) (hr : Reachable setup s) (h : Step setup s m t)
    (ht : ∀ failure, t.worker ≠ .died failure) : InOrder t := by
  refine ⟨h.shut hs hr ht, fun hne => ?_, ?_⟩
  · have hclosed : s.phase = .ready ∧ s.worker.HasClosed := by
      by_cases hsame : t.analysisEvents = s.analysisEvents
      · exact hs.closed (hsame ▸ hne)
      · obtain ⟨holder, id, used, step, ha⟩ :=
          (h.effect hr.inStep hr.launch).analyses_of_events_ne hsame
        exact ⟨(ha.collected hr.inStep).1, hs.hasClosed_of_analyses hr.inStep ha⟩
    exact ⟨(h.phase_eq hr.inStep (by simp [hclosed.1])).trans hclosed.1,
      h.hasClosed hr.launch hclosed.2⟩
  · have hchronicle := hs.chronicle
    have htold := h.not_hasClosed_of_told hr.launch
    rcases h.record_eq with hlog | ⟨e, hlog⟩
    · rw [State.chronicle, State.collectionEvents, State.analysisEvents, hlog]
      exact hchronicle
    · simp only [State.chronicle, State.collectionEvents, State.analysisEvents, hlog,
        List.filter_append] at hchronicle htold ⊢
      rcases kind_of_event e with ⟨hcollection, hanalysis, hkind⟩ | ⟨hcollection, hkind⟩
      · have hnone : s.analysisEvents = [] := by
          apply Classical.byContradiction
          intro hne
          exact htold (by simp [hcollection]) (hs.closed hne).2
        rw [State.analysisEvents] at hnone
        simp [hchronicle, hnone, hcollection, hanalysis, hkind]
      · simp [hchronicle, hcollection, List.filter_singleton, hkind]

theorem Setup.IsCalm.inOrder (hcalm : setup.IsCalm) (h : Reachable setup s) : InOrder s := by
  induction h with
  | initial => exact inOrder_initial setup
  | step m hr hm ih =>
      exact (step_of_step? hm).inOrder ih hr (hcalm.worker_ne_died (hr.step m hm))

/-! ## Pairs -/

/-- The analyses on record are complete, except that the last verdict may still be due. -/
inductive Paired (s : State) : Prop where
  | settled (h : AreAnalyses s.texts s.analysisEvents) (hnone : ∀ holder, s.next holder ≠ .judge)
  | judging {holder : Holder} {id : Nat} {ticket : Ticket} {events : List Event}
      (h : AreAnalyses s.texts events) (hheld : s.held holder = [id])
      (hnext : s.next holder = .judge)
      (hticket : s.tickets[id]? = some ticket)
      (hevents : s.analysisEvents = events ++ [.documentAnalyzing ticket.path])

/-- Whoever has nothing in hand is at the first step. -/
theorem next_eq_begin {holder : Holder} (h : s.held holder = []) : s.next holder = .begin := by
  apply Classical.byContradiction
  intro hpast
  obtain ⟨id, used, ha⟩ := analyses_of_next_ne hpast
  rw [ha.held.1] at h
  cases h

/-- Those who are about to judge stay where they are, and nobody joins them. -/
theorem Paired.of_kept (hs : Paired s) (hevents : t.analysisEvents = s.analysisEvents)
    (hkept : ∀ holder, s.next holder = .judge → t.held holder = s.held holder)
    (hnext : ∀ holder, t.next holder = .judge ↔ s.next holder = .judge)
    (htext : ∀ {i : Nat} {old : Ticket}, s.tickets[i]? = some old →
      ∃ ticket, t.tickets[i]? = some ticket ∧ ticket.path = old.path ∧ ticket.css = old.css) :
    Paired t := by
  have htexts := texts_subset htext
  cases hs with
  | settled h hnone =>
      exact .settled (hevents ▸ h.mono htexts) fun holder hjudge =>
        hnone holder ((hnext holder).1 hjudge)
  | @judging holder id old events h hheld hjudge hold hpaired =>
      obtain ⟨ticket, hticket, hpath, -⟩ := htext hold
      refine .judging (h.mono htexts) ((hkept holder hjudge).trans hheld) ((hnext holder).2 hjudge)
        hticket ?_
      rw [hevents, hpaired, hpath]

/-- Someone who is not about to judge, before or after, changes what he has in hand. -/
theorem Paired.of_sameExcept {changed : Holder} (hs : Paired s)
    (hevents : t.analysisEvents = s.analysisEvents) (hsame : SameExcept changed s t)
    (hbefore : s.next changed ≠ .judge) (hafter : t.next changed ≠ .judge)
    (htext : ∀ {i : Nat} {old : Ticket}, s.tickets[i]? = some old →
      ∃ ticket, t.tickets[i]? = some ticket ∧ ticket.path = old.path ∧ ticket.css = old.css) :
    Paired t := by
  refine hs.of_kept hevents (fun holder hjudge => ?_) (fun holder => ?_) htext
  · exact (hsame holder fun h => hbefore (h ▸ hjudge)).1
  · by_cases h : holder = changed
    · subst h
      simp [hbefore, hafter]
    · rw [(hsame holder h).2]

/-- One step of the only analysis that is under way. -/
theorem Paired.of_analysed {changed : Holder} {id : Nat} {used : List String}
    {step next : Analysis} {t' : State} (hcalm : setup.IsCalm) (hs : Paired s)
    (halone : ∀ holder, s.next holder ≠ .begin → step ≠ .begin → holder = changed)
    (ha : s.Analyses changed id used step)
    (hstep : AnalysisStep setup s id used step t' (.next next))
    (ht : t.Analyses changed id used next) (htickets : t.tickets = t'.tickets)
    (hlog : t.log = t'.log) (hsame : SameExcept changed s t)
    (htext : ∀ {i : Nat} {old : Ticket}, s.tickets[i]? = some old →
      ∃ ticket, t.tickets[i]? = some ticket ∧ ticket.path = old.path ∧ ticket.css = old.css) :
    Paired t := by
  obtain ⟨hheld, hnext⟩ := ha.held
  obtain ⟨hheld', hnext'⟩ := ht.held
  have htexts := texts_subset htext
  -- the one who judges now is the one whose verdict is due, and afterwards nobody's is
  have hdue {ticket : Ticket} (hticket : s.tickets[id]? = some ticket) (hjudge : step = .judge) :
      ∃ events, AreAnalyses s.texts events ∧
        s.analysisEvents = events ++ [.documentAnalyzing ticket.path] := by
    cases hs with
    | settled h hnone => exact absurd (hnext.trans hjudge) (hnone changed)
    | @judging holder i old events h hheld'' hjudging hold hevents =>
        obtain rfl : holder = changed := halone holder (by simp [hjudging]) (by simp [hjudge])
        obtain rfl : id = i := by simpa [hheld] using hheld''
        rw [hticket, Option.some.injEq] at hold
        exact ⟨events, h, hold ▸ hevents⟩
  have hdone (hjudge : step = .judge) (hsettle : next ≠ .judge) (holder : Holder) :
      t.next holder ≠ .judge := by
    intro hjudging
    by_cases hc : holder = changed
    · exact hsettle (hnext'.symm.trans (hc ▸ hjudging))
    · rw [(hsame holder hc).2] at hjudging
      exact hc (halone holder (by simp [hjudging]) (by simp [hjudge]))
  cases hstep with
  | begun =>
      exact hs.of_sameExcept (analysisEvents_of_log (congrArg eventsOf hlog)) hsame
        (by simp [hnext]) (by simp [hnext']) htext
  | announced hticket =>
      cases hs with
      | @judging holder i old events h hheld'' hjudge =>
          obtain rfl : holder = changed := halone holder (by simp [hjudge]) (by simp)
          rw [hnext] at hjudge
          cases hjudge
      | settled h =>
          refine .judging (h.mono htexts) hheld' hnext' (htickets ▸ hticket) ?_
          rw [State.analysisEvents, hlog]
          simp [State.analysisEvents, State.record, isOfAnalysis]
  | @judged ticket log hticket hlog' hwarnings hroom =>
      obtain ⟨events, h, hdue⟩ := hdue hticket rfl
      refine .settled ?_ (hdone rfl (by simp))
      have hevents : t.analysisEvents = s.analysisEvents ++
          [(verdict setup used ticket.path ticket.css).event] := by
        rw [State.analysisEvents, hlog, hlog']
        simp [State.analysisEvents, isOfAnalysis_event]
      rw [hevents, hdue, List.append_assoc]
      have hanalyses := h.verdict (v := verdict setup used ticket.path ticket.css)
        (mem_texts hticket) hroom
      exact hanalyses.mono htexts
  | foundered hticket hdeep =>
      obtain ⟨events, h, hdue⟩ := hdue hticket rfl
      refine .settled ?_ (hdone rfl (by simp))
      rw [analysisEvents_of_log (congrArg eventsOf hlog), hdue]
      exact (h.foundered (mem_texts hticket) hdeep).mono htexts
  | overruled hticket hlog' hl hwarnings he =>
      rw [hcalm _ _ he] at hl
      cases hl

theorem Effect.paired (hcalm : setup.IsCalm) (hamiss : ¬ s.IsAmiss setup)
    (halone : ∀ g h, s.next g ≠ .begin → s.next h ≠ .begin → g = h) (hs : Paired s)
    (h : Effect setup s m t) : Paired t := by
  have htext {i : Nat} {old : Ticket} (hi : s.tickets[i]? = some old) := h.text hi
  cases h with
  | still hheld hnext htickets hevents | cancelled hheld hnext hold hstate htickets hevents =>
      exact hs.of_kept hevents (fun _ _ => by rw [hheld]) (fun _ => by rw [hnext]) htext
  | entered htickets hstate hheld hbegin hnext hsame hevents
  | rejected hp hheld hbegin hr ht hnext htickets hsame hevents =>
      exact hs.of_sameExcept hevents hsame (by simp [hbegin]) (by simp [hnext]) htext
  | taken hqueue hfree hheld hnext hclients htickets hevents =>
      refine hs.of_kept hevents (fun holder hjudge => ?_) (fun _ => by rw [hnext]) htext
      cases holder with
      | queue => cases hjudge
      | worker =>
          rw [next_eq_begin hfree] at hjudge
          cases hjudge
      | client c => exact hclients c
  | @analysed changed id used step next t' ha hm hstep ht htickets hlog hsame =>
      refine hs.of_analysed hcalm (fun holder hpast hstep => ?_) ha hstep ht htickets hlog hsame
        htext
      exact halone holder changed hpast (ha.held.2.symm ▸ hstep)
  | finished ha hm hstep ht htickets hlog hsame =>
      have hevents : t.analysisEvents = s.analysisEvents := by
        refine analysisEvents_of_log ((congrArg eventsOf hlog).trans ?_)
        cases hstep <;> rfl
      refine hs.of_sameExcept hevents hsame ?_ (by simp [next_eq_begin ht]) htext
      rw [ha.held.2]
      cases hstep <;> simp
  | broken hbroken => exact absurd hbroken hamiss

/-! ## Sessions with one submitting client -/

/-- If the move is a call to submit a stylesheet, the call is by client `c`. -/
def Move.SubmitsBy (c : Nat) (m : Move) : Prop :=
  ∀ d path css, m = .call d (.submit path css) → d = c

/-- Whoever is past the first step of an analysis submits a stylesheet. -/
theorem isSubmitting_of_next_ne {c : Nat} (h : s.next (.client c) ≠ .begin) :
    (s.clients c).IsSubmitting := by
  cases hc : s.clients c <;> simp [State.next, hc, Client.next, Client.IsSubmitting] at h ⊢

/-- Nobody but client `c` submits anything as long as nobody else is called to. -/
theorem Step.not_isSubmitting {c d : Nat} (h : Step setup s m t) (hm : m.SubmitsBy c)
    (hd : d ≠ c) (hs : ¬ (s.clients d).IsSubmitting) : ¬ (t.clients d).IsSubmitting := by
  intro ht
  by_cases hmove : m.client? = some d
  · cases h with
    | worker | cancelled | spared => cases hmove
    | client h =>
        cases hmove
        exact hs (h.isSubmitting_of ht)
    | @called d request =>
        cases hmove
        rw [clients_setClient] at ht
        cases request with
        | submit path css => exact hd (hm d path css rfl)
        | start | waitReady => exact ht.elim
  · rw [h.clients_of_ne hmove] at ht
    exact hs ht

/-- With one submitting client, at most one analysis is under way. -/
theorem InOrder.alone {sole : Nat} (hs : InOrder s) (hstep : s.InStep)
    (hothers : ∀ c, c ≠ sole → ¬ (s.clients c).IsSubmitting) {g h : Holder}
    (hg : s.next g ≠ .begin) (hh : s.next h ≠ .begin) : g = h := by
  have hsole {c : Nat} (hc : s.next (.client c) ≠ .begin) : c = sole :=
    Classical.byContradiction fun hne => hothers c hne (isSubmitting_of_next_ne hc)
  -- the worker analyses while the line is open, the client when it is shut
  have happart {c : Nat} (hw : s.next .worker ≠ .begin) (hc : s.next (.client c) ≠ .begin) :
      False := by
    obtain ⟨i, used, hi⟩ := analyses_of_next_ne hw
    obtain ⟨j, used', hj⟩ := analyses_of_next_ne hc
    have hworker := hstep.worker
    rw [show s.worker = _ from hi] at hworker
    have hshut := (hs.shut c (by simp [hj.held.1])).2
    rw [hworker.2.1] at hshut
    cases hshut
  cases g with
  | queue => exact absurd rfl hg
  | worker =>
      cases h with
      | queue => exact absurd rfl hh
      | worker => rfl
      | client d => exact (happart hg hh).elim
  | client c =>
      cases h with
      | queue => exact absurd rfl hh
      | worker => exact (happart hh hg).elim
      | client d => rw [hsole hg, hsole hh]

theorem paired_of_after {c : Nat} (hcalm : setup.IsCalm) (hmoves : ∀ m ∈ moves, m.SubmitsBy c)
    (h : (State.initial setup).after? setup moves = some s) : Paired s := by
  have hleads : (State.initial setup).LeadsTo setup (Move.SubmitsBy c) s := ⟨moves, hmoves, h⟩
  have hfirst : Paired (.initial setup) :=
    .settled .nil fun holder => by cases holder <;> simp [State.initial, State.next, Worker.next,
      Client.next]
  refine (hleads.keeps (Q := fun u => Paired u ∧ Reachable setup u ∧
    ∀ d, d ≠ c → ¬ (u.clients d).IsSubmitting)
    ⟨hfirst, .initial, fun _ _ hidle => hidle⟩ ?_).1
  rintro u v m hm ⟨hu, hr, hothers⟩ hstep
  have hstep' := step_of_step? hstep
  refine ⟨?_, hr.step m hstep, fun d hd => hstep'.not_isSubmitting hm hd (hothers d hd)⟩
  exact (hstep'.effect hr.inStep hr.launch).paired hcalm (hcalm.not_isAmiss hr)
    (fun g h => (hcalm.inOrder hr).alone hr.inStep hothers) hu

/-- What a complete accumulator holds are the classes of all sources, each once. -/
theorem State.IsComplete.encard_namesOf (h : s.IsComplete setup) :
    s.accumulator.used.Nodup ∧
      (setup.namesOf setup.load.sources).encard = s.accumulator.size := by
  obtain ⟨a, hfed, ha⟩ := h
  obtain ⟨-, -, hnodup, hused⟩ := used_of_feedAll hfed
  have hsame : s.accumulator.used = a.used := by
    rw [ha]
    rfl
  have hset : setup.namesOf setup.load.sources = {name | name ∈ a.used} := by
    ext name
    exact (hused name).symm
  rw [Accumulator.size, hsame, hset]
  exact ⟨hnodup, encard_of_nodup hnodup⟩

/-- The record of the collection can be carried on while there is nothing else. -/
theorem exists_word_of_told (hs : InOrder s) (hnot : ¬ s.worker.HasClosed)
    (htold : s.HasTold setup done []) (hdone : done ++ rest = setup.load.sources)
    (hnil : CanEnd []) : ∃ word, setup.IsWord CanEnd word ∧ s.chronicle <+: word := by
  obtain ⟨events, hevents, hcollection⟩ := htold
  have hnone : s.analysisEvents = [] :=
    Classical.byContradiction fun hne => hnot (hs.closed hne).2
  rw [hs.chronicle, hnone, hcollection, List.append_nil, List.append_nil]
  exact hevents.exists_word hnil hdone

/-- The record of a failed collection is part of a word, as far as it goes. -/
theorem exists_word_of_failed {failure : Failure} {ending : List Event} (hs : InOrder s)
    (hphase : s.phase ≠ .ready) (hbreak : setup.BreaksOffAfter done failure)
    (htold : s.HasTold setup done ending)
    (hending : ending <+: [.collectionFailed failure.message]) :
    ∃ word, setup.IsWord CanEnd word ∧ s.chronicle <+: word := by
  obtain ⟨events, hevents, hcollection⟩ := htold
  have hnone : s.analysisEvents = [] :=
    Classical.byContradiction fun hne => hphase (hs.closed hne).1
  refine ⟨_, .failed hbreak hevents, ?_⟩
  rw [hs.chronicle, hnone, hcollection, List.append_nil, List.prefix_cons_inj,
    List.prefix_append_right_inj]
  exact hending

/-- The record of a complete collection, with the analyses after it, is part of a word. -/
theorem exists_word_of_completed {used : List String}
    (hquiet : ∀ n e, setup.listener n e = none) (hr : Reachable setup s) (hpaired : Paired s)
    (hcollected : s.collected = some (.ok used)) (htold : s.HasToldOutcome setup (.ok used)) :
    ∃ word, setup.IsWord (AreAnalyses s.texts) word ∧ s.chronicle <+: word := by
  obtain ⟨events, hevents, hcollection⟩ := htold
  obtain ⟨hcomplete, rfl⟩ := hr.gathered.collected used hcollected
  obtain ⟨-, hsize⟩ := hcomplete.encard_namesOf
  have hload : setup.load.failure = none := by
    have houtcome := (hr.concludes hquiet).collected _ hcollected
    unfold Setup.collection at houtcome
    split at houtcome
    · cases houtcome
    · split at houtcome
      · cases houtcome
      · assumption
  obtain ⟨analyses, hanalyses, hprefix⟩ :
      ∃ analyses, AreAnalyses s.texts analyses ∧ s.analysisEvents <+: analyses := by
    cases hpaired with
    | settled h => exact ⟨_, h, List.prefix_refl _⟩
    | judging h hheld hnext hticket hdue =>
        rw [hdue]
        exact h.exists_prefix (mem_texts hticket)
  refine ⟨_, .completed hload hevents hsize hanalyses, ?_⟩
  have hcalm := isCalm_of_quiet hquiet
  rw [(hcalm.inOrder hr).chronicle, hcollection, List.cons_append, List.append_assoc,
    List.prefix_cons_inj, List.prefix_append_right_inj]
  exact (List.prefix_append_right_inj [_]).2 hprefix

/-- How far the record has come with the collection. -/
inductive State.Relates (s : State) (setup : Setup) : Prop where
  | unstarted (hopen : ¬ s.worker.HasClosed) (hnone : s.collectionEvents = [])
  | gathering {done rest : List MarkupSource} (hopen : ¬ s.worker.HasClosed)
      (hdone : done ++ rest = setup.load.sources) (htold : s.HasTold setup done [])
  | failed {done : List MarkupSource} {failure : Failure} {ending : List Event}
      (hphase : s.phase ≠ .ready) (hbreak : setup.BreaksOffAfter done failure)
      (htold : s.HasTold setup done ending)
      (hending : ending <+: [.collectionFailed failure.message])
  | completed {used : List String} (hcollected : s.collected = some (.ok used))
      (htold : s.HasToldOutcome setup (.ok used))

theorem Setup.IsCalm.relates (hcalm : setup.IsCalm) (hr : Reachable setup s) :
    s.Relates setup := by
  have htells := hr.told.worker
  have hagrees := hr.inStep.worker
  cases hw : s.worker with
  | absent =>
      rw [hw] at htells
      have hopen : ¬ s.worker.HasClosed := by simp [hw, Worker.HasClosed]
      rcases htells with hnone | hstarted
      · exact .unstarted hopen hnone
      · exact .gathering hopen (List.nil_append _) ⟨[], .nil, hstarted⟩
  | opening =>
      rw [hw] at htells
      exact .gathering (by simp [hw, Worker.HasClosed]) (List.nil_append _) htells
  | taking rest count =>
      rw [hw] at htells
      obtain ⟨done, hdone, -, htold⟩ := htells
      exact .gathering (by simp [hw, Worker.HasClosed]) hdone htold
  | parsed path added rest count =>
      rw [hw] at htells
      obtain ⟨done, source, tags, hdone, -, -, -, -, htold⟩ := htells
      exact .gathering (by simp [hw, Worker.HasClosed]) hdone htold
  | publishing used count | handing used count | announcing used count =>
      rw [hw] at htells
      exact .gathering (by simp [hw, Worker.HasClosed]) (List.append_nil _) htells.2
  | failing failure | rejecting failure swept | reporting failure swept =>
      rw [hw] at htells hagrees
      obtain ⟨done, hbreak, htold⟩ := htells
      exact .failed (by simp [hagrees.1]) hbreak htold List.nil_prefix
  | sweeping failure swept =>
      rw [hw] at htells hagrees
      obtain ⟨done, hbreak, htold⟩ := htells
      exact .failed (by simp [hagrees.1]) hbreak htold (List.prefix_refl _)
  | draining used | analysing used id step =>
      rw [hw] at htells hagrees
      exact .completed hagrees.2.2 htells
  | ended =>
      rw [hw] at htells hagrees
      rcases hagrees.1 with ⟨-, used, hused⟩ | ⟨hphase, failure, hfailure⟩
      · exact .completed hused (htells _ hused)
      · obtain ⟨done, hbreak, htold⟩ := htells _ hfailure
        exact .failed (by simp [hphase]) hbreak htold (List.prefix_refl _)
  | died failure => exact absurd hw (hcalm.worker_ne_died hr failure)

/-- However far the session has come, its record is part of a word. -/
theorem exists_word_of_paired (hquiet : ∀ n e, setup.listener n e = none)
    (hr : Reachable setup s) (hpaired : Paired s) :
    ∃ word, setup.IsWord (AreAnalyses s.texts) word ∧ s.chronicle <+: word := by
  have hcalm := isCalm_of_quiet hquiet
  have hs := hcalm.inOrder hr
  cases hcalm.relates hr with
  | unstarted hopen hnone =>
      have hanalyses : s.analysisEvents = [] :=
        Classical.byContradiction fun hne => hopen (hs.closed hne).2
      have hnews : Announces setup [] [] := .nil
      obtain ⟨word, hword, -⟩ := hnews.exists_word AreAnalyses.nil (List.nil_append _)
      refine ⟨word, hword, ?_⟩
      rw [hs.chronicle, hnone, hanalyses]
      exact List.nil_prefix
  | gathering hopen hdone htold => exact exists_word_of_told hs hopen htold hdone AreAnalyses.nil
  | failed hphase hbreak htold hending =>
      exact exists_word_of_failed hs hphase hbreak htold hending
  | completed hcollected htold =>
      exact exists_word_of_completed hquiet hr hpaired hcollected htold

/-! ## Conservation -/

/-- When the record tells of a completion, it is the completion of what has been collected. -/
theorem exists_used_of_completed (hcalm : setup.IsCalm) (hr : Reachable setup s) {n size : Int}
    (hcompleted : .collectionCompleted n size ∈ eventsOf s.log) :
    ∃ used, s.collected = some (.ok used) ∧ s.HasToldOutcome setup (.ok used) ∧
      n = setup.load.sources.length ∧ size = used.length := by
  cases hcalm.relates hr with
  | unstarted hopen hnone =>
      have hmem : .collectionCompleted n size ∈ s.collectionEvents :=
        List.mem_filter.2 ⟨hcompleted, rfl⟩
      rw [hnone] at hmem
      cases hmem
  | gathering hopen hdone htold =>
      have hmem := htold.tellsEnd.mem_of_completed hcompleted rfl
      cases hmem
  | failed hphase hbreak htold hending =>
      have hmem := hending.mem (htold.tellsEnd.mem_of_completed hcompleted rfl)
      simp at hmem
  | @completed used hcollected htold =>
      have hmem := (State.HasTold.tellsEnd htold).mem_of_completed hcompleted rfl
      exact ⟨used, hcollected, htold, by simpa using hmem⟩

/-- The news of the sources in the record are what the record tells of the collection. -/
theorem State.HasTold.filter_isOfSource {e : Event} (h : s.HasTold setup done [e])
    (he : isOfSource e = false) :
    Announces setup done ((eventsOf s.log).filter isOfSource) := by
  obtain ⟨events, hevents, hcollection⟩ := h
  rw [filter_eventsOf fun e he => by cases e <;> simp_all [isOfSource, isOfCollection],
    hcollection]
  simpa [List.filter_singleton, he, show isOfSource (.collectionStarted setup.patterns) = false from
    rfl, hevents.filter_isOfSource] using hevents

/-- In a session with one submitting client whose listeners raise nothing, the record is at every
moment part of a word, apart from the news of stylesheets that wait: after the collection come the
analyses, each of which has its verdict at once unless its stylesheet is too deep. With room for
reading every stylesheet they are all paired. When a completion is on record, it tells how many
sources have been taken and how many classes the frozen set has; the classes are those that the news
of the sources have told of, where each source counts those that no source before it uses. -/
theorem record_is_word_and_adds_up {c : Nat} (hquiet : ∀ n e, setup.listener n e = none)
    (hmoves : ∀ m ∈ moves, m.SubmitsBy c)
    (h : (State.initial setup).after? setup moves = some s) :
    (∃ word, setup.IsWord (AreAnalyses s.texts) word ∧ s.chronicle <+: word) ∧
    ((∀ text ∈ s.texts, Stylesheet.isTooDeep text.2 = false) →
      ∃ word, setup.IsWord ArePaired word ∧ s.chronicle <+: word) ∧
    ∀ sourceCount usedCount : Int,
      .collectionCompleted sourceCount usedCount ∈ eventsOf s.log →
      s.accumulator.isFrozen = true ∧ s.collected = some (.ok s.accumulator.used) ∧
      s.accumulator.used.Nodup ∧
      sourceCount = ((eventsOf s.log).filter isOfSource).length ∧
      usedCount = s.accumulator.size ∧
      usedCount = (((eventsOf s.log).filter isOfSource).map classCount).sum ∧
      Announces setup setup.load.sources ((eventsOf s.log).filter isOfSource) := by
  have hcalm := isCalm_of_quiet hquiet
  have hr : Reachable setup s := Reachable.initial.after h
  obtain ⟨word, hword, hprefix⟩ :=
    exists_word_of_paired hquiet hr (paired_of_after hcalm hmoves h)
  refine ⟨⟨word, hword, hprefix⟩, fun hroom => ⟨word, ?_, hprefix⟩, ?_⟩
  · exact hword.mono fun analyses hanalyses => hanalyses.arePaired hroom
  intro sourceCount usedCount hcompleted
  obtain ⟨used, hcollected, htold, rfl, rfl⟩ := exists_used_of_completed hcalm hr hcompleted
  obtain ⟨hcomplete, rfl⟩ := hr.gathered.collected used hcollected
  obtain ⟨hnodup, hsize⟩ := hcomplete.encard_namesOf
  have hnews : Announces setup setup.load.sources ((eventsOf s.log).filter isOfSource) :=
    State.HasTold.filter_isOfSource htold rfl
  have hsum : (((eventsOf s.log).filter isOfSource).map classCount).sum = s.accumulator.size := by
    obtain ⟨size, hsame, hsum⟩ := hnews.sum_classCount
    rw [hsize, Nat.cast_inj] at hsame
    rw [hsum, hsame]
  exact ⟨hcomplete.isFrozen, hcollected, hnodup, by rw [hnews.length_eq], rfl, hsum.symm, hnews⟩

/-! ## Analyses without a verdict -/

/-- Two analyses do not begin one after the other if each has its verdict before the next one. -/
theorem ArePaired.verdict_of_second (h : ArePaired events) : events = [] ∨
    ∃ first second rest, events = first :: second :: rest ∧
      ∀ path, second ≠ .documentAnalyzing path := by
  induction h with
  | nil => exact .inl rfl
  | @resolved events path unused h ih =>
      right
      rcases ih with rfl | ⟨first, second, rest, rfl, hsecond⟩
      · exact ⟨_, _, [], rfl, by simp⟩
      · exact ⟨first, second, _, rfl, hsecond⟩
  | @failed events path error h ih =>
      right
      rcases ih with rfl | ⟨first, second, rest, rfl, hsecond⟩
      · exact ⟨_, _, [], rfl, by simp⟩
      · exact ⟨first, second, _, rfl, hsecond⟩

theorem Announces.eq_nil (h : Announces setup [] events) : events = [] :=
  List.eq_nil_of_length_eq_zero h.length_eq

end

/-- All words over no sources at all tell of a completion, and then of the analyses. -/
theorem exists_of_isWord_emptySetup {CanEnd : List Event → Prop} {word : List Event}
    (h : emptySetup.IsWord CanEnd word) : ∃ analyses size, CanEnd analyses ∧
      word = .collectionStarted [] :: .collectionCompleted 0 size :: analyses := by
  cases h with
  | failed hbreak =>
      cases hbreak with
      | loader hf => cases hf
      | source hdone | listener hdone => simp [emptySetup] at hdone
  | completed hload h hsize hanalyses =>
      obtain rfl := h.eq_nil
      exact ⟨_, _, hanalyses, rfl⟩

/-- After a stylesheet of a thousand blocks within each other, the next analysis begins without a
verdict on it. -/
theorem analyses_begin_in_a_row : ∃ s,
    (State.initial emptySetup).after? emptySetup (openingMoves ++
      (submission 0 "a.css" (Stylesheet.nestedText 1000) ++
        submission 0 "b.css" (Stylesheet.nestedText 1000))) = some s ∧
    s.chronicle = [.collectionStarted [], .collectionCompleted 0 0,
      .documentAnalyzing "a.css", .documentAnalyzing "b.css"] ∧
    ¬ ∃ word, emptySetup.IsWord ArePaired word ∧ s.chronicle <+: word := by
  have hquiet : ∀ n e, emptySetup.listener n e = none := fun _ _ => rfl
  obtain ⟨s, hs, hopen, -, -, hlog, -⟩ := exists_opened
  have hfirst := after?_submission hquiet hopen "a.css" Stylesheet.isTooDeep_thousand
  have hopen' := hopen.founder "a.css" (Stylesheet.nestedText 1000)
  have hsecond := after?_submission hquiet hopen' "b.css" Stylesheet.isTooDeep_thousand
  have hchronicle : ((s.founder 0 "a.css" (Stylesheet.nestedText 1000)).founder 0 "b.css"
      (Stylesheet.nestedText 1000)).chronicle = [.collectionStarted [], .collectionCompleted 0 0,
        .documentAnalyzing "a.css", .documentAnalyzing "b.css"] := by
    simp only [State.chronicle, State.founder, eventsOf_append, hlog]
    rfl
  refine ⟨_, ?_, hchronicle, ?_⟩
  · rw [State.after?_append hs, State.after?_append hfirst, hsecond]
  · rintro ⟨word, hword, hprefix⟩
    obtain ⟨analyses, size, hpaired, rfl⟩ := exists_of_isWord_emptySetup hword
    rw [hchronicle] at hprefix
    simp only [List.prefix_cons_inj, List.cons_prefix_cons] at hprefix
    obtain ⟨-, hanalyses⟩ := hprefix
    rcases hpaired.verdict_of_second with rfl | ⟨first, second, rest, rfl, hsecond⟩
    · simp at hanalyses
    · simp only [List.cons_prefix_cons] at hanalyses
      exact hsecond _ hanalyses.2.1.symm

/-- A session over two sources that have a class in common. -/
def sharedSetup : Setup where
  patterns := []
  directives := true
  exemptions := []
  load := ⟨[], [⟨"page.html", "<p class='a b'>"⟩, ⟨"more.html", "<p class='b c'>"⟩], none⟩
  listener := quiet

/-- Two stylesheets wait for the collection, one of them is cancelled and another client waits too.
A third stylesheet comes later, and its analysis is under way. -/
def sharedMoves : List Move :=
  List.flatten [
    [.call 0 (.submit "a.css" ".d \x7b\x7d")], List.replicate 5 (.client 0),
    List.replicate 3 .worker, [.call 0 (.submit "b.css" "")], List.replicate 3 (.client 0),
    [.cancel 1, .call 1 .waitReady, .client 1], List.replicate 14 .worker,
    [.call 0 (.submit "c.css" ".a \x7b")], List.replicate 5 (.client 0)]

theorem record_is_word_and_adds_up_sample : ∃ s,
    (State.initial sharedSetup).after? sharedSetup sharedMoves = some s ∧
    s.chronicle.map (fun e => (e.kind, e.path?)) =
      [(.collectionStarted, none), (.sourceParsed, some "page.html"),
        (.sourceParsed, some "more.html"), (.collectionCompleted, none),
        (.documentAnalyzing, some "a.css"), (.documentResolved, some "a.css"),
        (.documentAnalyzing, some "c.css")] ∧
    (∃ word, sharedSetup.IsWord (AreAnalyses s.texts) word ∧ s.chronicle <+: word) ∧
    (∃ word, sharedSetup.IsWord ArePaired word ∧ s.chronicle <+: word) ∧
    .collectionCompleted 2 3 ∈ eventsOf s.log ∧ s.accumulator.isFrozen = true ∧
    s.collected = some (.ok s.accumulator.used) ∧ s.accumulator.used.Nodup ∧
    ((eventsOf s.log).filter isOfSource).length = (2 : Int) ∧ s.accumulator.size = (3 : Int) ∧
    (((eventsOf s.log).filter isOfSource).map classCount).sum = 3 ∧
    Announces sharedSetup sharedSetup.load.sources ((eventsOf s.log).filter isOfSource) := by
  have hrun : ((State.initial sharedSetup).after? sharedSetup sharedMoves).map
      (fun s => (s.chronicle.map fun e => (e.kind, e.path?),
        (eventsOf s.log).any fun e => e matches .collectionCompleted 2 3,
        s.texts.all fun text => !Stylesheet.isTooDeep text.2)) =
      some ([(.collectionStarted, none), (.sourceParsed, some "page.html"),
        (.sourceParsed, some "more.html"), (.collectionCompleted, none),
        (.documentAnalyzing, some "a.css"), (.documentResolved, some "a.css"),
        (.documentAnalyzing, some "c.css")], true, true) := by
    decide +kernel
  obtain ⟨s, hs, hseen⟩ := Option.map_eq_some_iff.1 hrun
  rw [Prod.mk.injEq, Prod.mk.injEq, List.any_eq_true, List.all_eq_true] at hseen
  obtain ⟨hchronicle, ⟨e, hmem, he⟩, hroom⟩ := hseen
  have hcompleted : .collectionCompleted 2 3 ∈ eventsOf s.log := by
    split at he
    · exact hmem
    · cases he
  have hsubmits : ∀ m ∈ sharedMoves, m.SubmitsBy 0 := by
    intro m hm c path css h
    subst h
    simp [sharedMoves] at hm
    exact hm.elim (·.1) (·.elim (·.1) (·.1))
  obtain ⟨hword, hpaired, hadds⟩ := record_is_word_and_adds_up (fun _ _ => rfl) hsubmits hs
  obtain ⟨hfrozen, hcollected, hnodup, hsources, hsize, hsum, hnews⟩ := hadds 2 3 hcompleted
  have hfits : ∀ text ∈ s.texts, Stylesheet.isTooDeep text.2 = false := fun text htext => by
    simpa using hroom text htext
  exact ⟨s, hs, hchronicle, hword, hpaired hfits, hcompleted, hfrozen, hcollected, hnodup,
    hsources.symm, hsize.symm, hsum.symm, hnews⟩

end StyleUsage.Session
