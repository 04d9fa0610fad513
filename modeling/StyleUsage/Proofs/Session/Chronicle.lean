import Mathlib.Data.Set.Card
import StyleUsage.Proofs.Session.Collection
import StyleUsage.Proofs.Session.Custody
import StyleUsage.Proofs.Session.Integrity

/-!
# What is told of a collection

What the record of a session tells of the collection follows from how far the worker has come: that
it has started, then the sources one after the other, each with the number of the classes that are
new in it, and in the end that it is complete or has failed.
-/

namespace StyleUsage.Session

open StyleUsage.Usage

/-- Whether an event tells of the collection of the used classes. -/
def isOfCollection : Event → Bool
  | .collectionStarted _ | .sourceParsed .. | .collectionCompleted .. | .collectionFailed _ => true
  | _ => false

/-- The classes that a source uses and none of the sources before it. -/
def Setup.newNames (setup : Setup) (done : List MarkupSource) (source : MarkupSource) :
    Set String :=
  {name | Uses (collectors setup.directives) source.text name ∧
    ∀ earlier ∈ done, ¬ Uses (collectors setup.directives) earlier.text name}

/-- The news of some sources, in order. Each of them can be read, and its new classes are
counted. -/
inductive Announces (setup : Setup) : List MarkupSource → List Event → Prop where
  | nil : Announces setup [] []
  | snoc {done : List MarkupSource} {events : List Event} {source : MarkupSource}
      {tags : List Tag} {count : Nat} (h : Announces setup done events)
      (htags : Markup.tags source.text = .ok tags)
      (hcount : (setup.newNames done source).encard = count) :
      Announces setup (done ++ [source]) (events ++ [.sourceParsed source.path count])

/-- Why the collection breaks off after the news of some sources. -/
inductive Setup.BreaksOffAfter (setup : Setup) : List MarkupSource → Failure → Prop where
  | loader {failure : Failure} (hf : setup.load.failure = some failure) :
      setup.BreaksOffAfter setup.load.sources failure
  | source {done rest : List MarkupSource} {source : MarkupSource} {rejection : Markup.Rejection}
      (hdone : done ++ source :: rest = setup.load.sources)
      (htags : Markup.tags source.text = .error rejection) :
      setup.BreaksOffAfter done (.refused (.rejected rejection))
  | listener {done rest : List MarkupSource} {source : MarkupSource} {n count : Nat}
      {failure : Failure} (hdone : done ++ source :: rest = setup.load.sources)
      (hl : setup.listener n (.sourceParsed source.path count) = some failure) :
      setup.BreaksOffAfter (done ++ [source]) failure

namespace State

/-- The events of the collection in the record, in order. -/
def collectionEvents (s : State) : List Event :=
  (eventsOf s.log).filter isOfCollection

/-- It is on record that the collection has started, the news of some sources, and `ending`. -/
def HasTold (s : State) (setup : Setup) (done : List MarkupSource) (ending : List Event) : Prop :=
  ∃ events, Announces setup done events ∧
    s.collectionEvents = .collectionStarted setup.patterns :: (events ++ ending)

/-- It is on record how the collection has ended. -/
def HasToldOutcome (s : State) (setup : Setup) : Except Failure (List String) → Prop
  | .ok used => s.HasTold setup setup.load.sources
      [.collectionCompleted setup.load.sources.length used.length]
  | .error failure => ∃ done, setup.BreaksOffAfter done failure ∧
      s.HasTold setup done [.collectionFailed failure.message]

/-- What the stage of the worker says about the record. -/
def Tells (s : State) (setup : Setup) : Worker → Prop
  | .absent =>
      s.collectionEvents = [] ∨ s.collectionEvents = [.collectionStarted setup.patterns]
  | .opening => s.HasTold setup [] []
  | .taking rest count => ∃ done, done ++ rest = setup.load.sources ∧ count = done.length ∧
      s.HasTold setup done []
  | .parsed path added rest count => ∃ done source tags, done ++ source :: rest =
      setup.load.sources ∧ path = source.path ∧ count = done.length + 1 ∧
      Markup.tags source.text = .ok tags ∧ (setup.newNames done source).encard = added ∧
      s.HasTold setup done []
  | .publishing _ count | .handing _ count | .announcing _ count =>
      count = setup.load.sources.length ∧ s.HasTold setup setup.load.sources []
  | .draining used | .analysing used _ _ => s.HasToldOutcome setup (.ok used)
  | .failing failure | .rejecting failure _ | .reporting failure _ =>
      ∃ done, setup.BreaksOffAfter done failure ∧ s.HasTold setup done []
  | .sweeping failure _ => s.HasToldOutcome setup (.error failure)
  | .ended => ∀ outcome, s.collected = some outcome → s.HasToldOutcome setup outcome
  | .died _ => True

end State

section
variable {setup : Setup} {s t : State} {m : Move} {done : List MarkupSource}
  {ending : List Event} {e : Event}

/-! ## Counting new classes -/

theorem encard_of_nodup {names : List String} (h : names.Nodup) :
    {name | name ∈ names}.encard = names.length := by
  rw [← List.coe_toFinset, Set.encard_coe_eq_coe_finsetCard, List.toFinset_card_of_nodup h]

/-- What an accumulator has been fed says what it holds, each class once. -/
theorem used_of_feedAll {a : Accumulator} {sources : List MarkupSource}
    (h : setup.accumulator.feedAll (sources.map (·.text)) = .ok a) :
    a.isFrozen = false ∧ a.collectors = collectors setup.directives ∧ a.used.Nodup ∧
      ∀ name, name ∈ a.used ↔
        ∃ source ∈ sources, Uses (collectors setup.directives) source.text name := by
  obtain ⟨hfrozen, hcollectors, hused⟩ := Accumulator.feedAll_eq_ok h
  refine ⟨hfrozen, hcollectors, Accumulator.nodup_feedAll List.nodup_nil h, fun name => ?_⟩
  rw [hused]
  simp [Setup.accumulator, Accumulator.start]

/-- A source that is taken adds as many classes as are new in it. -/
theorem encard_newNames {a b : Accumulator} {source : MarkupSource}
    (h : setup.accumulator.feedAll (done.map (·.text)) = .ok a)
    (hfeed : a.feed source.text = .ok b) :
    (setup.newNames done source).encard = (b.size - a.size : Nat) := by
  obtain ⟨-, hcollectors, hnodup, hused⟩ := used_of_feedAll h
  obtain ⟨news, hb, hbnodup, hnews⟩ := Accumulator.exists_news_of_feed hnodup hfeed
  have hset : setup.newNames done source = {name | name ∈ news} := by
    ext name
    simp [Setup.newNames, hnews, hcollectors, hused]
  have hsize : b.size - a.size = news.length := by
    simp [Accumulator.size, hb]
  rw [hb] at hbnodup
  rw [hset, hsize, encard_of_nodup (List.nodup_append.1 hbnodup).1]

/-! ## The record under a step -/

theorem collectionEvents_of_log (hlog : eventsOf t.log = eventsOf s.log) :
    t.collectionEvents = s.collectionEvents := by
  simp [State.collectionEvents, hlog]

theorem collectionEvents_record (he : isOfCollection e = true) :
    (s.record e).collectionEvents = s.collectionEvents ++ [e] := by
  simp [State.collectionEvents, State.record, he]

theorem not_isOfCollection_event (v : Verdict) : isOfCollection v.event = false := by
  unfold Verdict.event
  split <;> rfl

/-- An analysis tells nothing of the collection. -/
theorem AnalysisStep.collectionEvents_eq {id : Nat} {used : List String} {step : Analysis}
    {advance : Advance} (h : AnalysisStep setup s id used step t advance) :
    t.collectionEvents = s.collectionEvents := by
  cases h with
  | judged ht hlog | overruled ht hlog =>
      simp [State.collectionEvents, hlog, not_isOfCollection_event]
  | announced | raised => simp [State.collectionEvents, State.record, isOfCollection]
  | _ => rfl

/-- A client tells of the collection only when it launches the session. -/
theorem ClientStep.collectionEvents_eq {c : Nat} (h : ClientStep setup s c t)
    (hc : ∀ request, s.clients c ≠ .launching request) :
    t.collectionEvents = s.collectionEvents := by
  cases h with
  | told hc' | toldInVain hc' => exact absurd hc' (hc _)
  | noticed | noticedInVain =>
      rw [giveBack_eq]
      simp [State.collectionEvents, State.setClient, State.record, isOfCollection]
  | analysed hc' ha => exact ha.collectionEvents_eq
  | finished hc' ha | broke hc' ha =>
      rw [giveBack_eq]
      exact ha.collectionEvents_eq
  | rejected hc' hf hr =>
      obtain ⟨tickets, rfl⟩ := frame_of_reject hr
      rw [giveBack_eq]
      rfl
  | rejectedAmiss | admittedInVain | waited =>
      rw [giveBack_eq]
      rfl
  | _ => rfl

/-- A client that launches the session announces the start. -/
theorem ClientStep.told_of_launching {c : Nat} {request : Request} (h : ClientStep setup s c t)
    (hc : s.clients c = .launching request) :
    t.collectionEvents = s.collectionEvents ++ [.collectionStarted setup.patterns] ∧
      ∀ request', t.clients c ≠ .launching request' := by
  cases h with
  | told hc' => exact ⟨collectionEvents_record rfl, by simp⟩
  | toldInVain hc' hl =>
      refine ⟨?_, by simp⟩
      rw [giveBack_eq]
      exact collectionEvents_record rfl
  | _ hc' => simp [hc] at hc'

theorem State.HasTold.of_events (h : s.HasTold setup done ending)
    (ht : t.collectionEvents = s.collectionEvents) : t.HasTold setup done ending := by
  simpa only [State.HasTold, ht] using h

/-- One more event on record. -/
theorem State.HasTold.record (h : s.HasTold setup done []) (he : isOfCollection e = true)
    (ht : t.collectionEvents = (s.record e).collectionEvents) : t.HasTold setup done [e] := by
  obtain ⟨events, hevents, hs⟩ := h
  refine ⟨events, hevents, ?_⟩
  rw [ht, collectionEvents_record he, hs]
  simp

theorem State.HasToldOutcome.of_events {outcome : Except Failure (List String)}
    (h : s.HasToldOutcome setup outcome) (ht : t.collectionEvents = s.collectionEvents) :
    t.HasToldOutcome setup outcome := by
  cases outcome with
  | ok used => exact State.HasTold.of_events h ht
  | error failure =>
      obtain ⟨done, hbreaks, htold⟩ := h
      exact ⟨done, hbreaks, htold.of_events ht⟩

/-- A step that puts nothing of the collection on record. -/
theorem State.Tells.of_events {worker : Worker} (h : s.Tells setup worker)
    (ht : t.collectionEvents = s.collectionEvents) (hcollected : t.collected = s.collected) :
    t.Tells setup worker := by
  cases worker with
  | draining used | analysing used id step =>
      have htold : s.HasToldOutcome setup (.ok used) := h
      exact htold.of_events ht
  | sweeping failure swept =>
      have htold : s.HasToldOutcome setup (.error failure) := h
      exact htold.of_events ht
  | ended => exact fun outcome ho => (h outcome (hcollected ▸ ho)).of_events ht
  | died failure => trivial
  | _ => simpa only [State.Tells, State.HasTold, ht] using h

/-! ## The invariant -/

/-- The news of the next source. -/
theorem State.HasTold.told {source : MarkupSource} {tags : List Tag} {count : Nat}
    (h : s.HasTold setup done []) (htags : Markup.tags source.text = .ok tags)
    (hcount : (setup.newNames done source).encard = count)
    (ht : t.collectionEvents = (s.record (.sourceParsed source.path count)).collectionEvents) :
    t.HasTold setup (done ++ [source]) [] := by
  obtain ⟨events, hevents, hs⟩ := h
  refine ⟨_, hevents.snoc htags hcount, ?_⟩
  rw [ht, collectionEvents_record rfl, hs]
  simp

theorem WorkerStep.tells (hs : s.Tells setup s.worker) (hgathered : s.HasGathered setup s.worker)
    (hstep : s.AgreesWith s.worker) (h : WorkerStep setup s t) : t.Tells setup t.worker := by
  cases h with
  | opened hw hlog =>
      rw [hw] at hs
      have htold : s.HasTold setup [] [] := hs
      exact ⟨[], rfl, rfl, htold.of_events (collectionEvents_of_log hlog)⟩
  | ranOut hw hf =>
      rw [hw] at hs
      obtain ⟨done, hdone, -, htold⟩ := hs
      rw [List.append_nil] at hdone
      exact ⟨_, .loader hf, hdone ▸ htold⟩
  | froze hw hf hlog =>
      rw [hw] at hs
      obtain ⟨done, hdone, hcount, htold⟩ := hs
      rw [List.append_nil] at hdone
      subst hdone
      exact ⟨hcount, htold.of_events (collectionEvents_of_log hlog)⟩
  | refused hw hf =>
      rw [hw] at hs hgathered
      obtain ⟨done, hdone, -, htold⟩ := hs
      obtain ⟨fed, -, hfed⟩ := hgathered
      obtain ⟨rejection, htags, rfl⟩ := Accumulator.feed_eq_error (used_of_feedAll hfed).1 hf
      exact ⟨done, .source hdone htags, htold⟩
  | @fed source rest count added b hw hf hadded =>
      rw [hw] at hs hgathered
      obtain ⟨done, hdone, hcount, htold⟩ := hs
      obtain ⟨fed, hfed, hfeed⟩ := hgathered
      obtain rfl : fed = done := List.append_cancel_right (hfed.trans hdone.symm)
      obtain ⟨tags, htags⟩ := Accumulator.exists_tags_of_feed hf
      refine ⟨fed, source, tags, hdone, rfl, by omega, htags, ?_, htold⟩
      rw [hadded]
      exact encard_newNames hfeed hf
  | told hw =>
      rw [hw] at hs
      obtain ⟨done, source, tags, hdone, rfl, hcount, htags, hadded, htold⟩ := hs
      exact ⟨done ++ [source], by simpa using hdone, by simpa using hcount,
        htold.told htags hadded rfl⟩
  | toldInVain hw hl =>
      rw [hw] at hs
      obtain ⟨done, source, tags, hdone, rfl, hcount, htags, hadded, htold⟩ := hs
      exact ⟨_, .listener hdone hl, htold.told htags hadded rfl⟩
  | completed hw =>
      rw [hw] at hs
      obtain ⟨rfl, htold⟩ := hs
      exact htold.record rfl rfl
  | drained hw =>
      rw [hw] at hs hstep
      intro outcome ho
      obtain rfl : .ok _ = outcome := Option.some.inj (hstep.2.2.symm.trans ho)
      exact hs
  | @analysed used id step next t' hw ha | @finished used id step t' hw ha =>
      rw [hw] at hs
      have htold : s.HasToldOutcome setup (.ok used) := hs
      exact htold.of_events ha.collectionEvents_eq
  | failed hw hlog =>
      rw [hw] at hs
      obtain ⟨done, hbreaks, htold⟩ := hs
      exact ⟨done, hbreaks, htold.of_events (collectionEvents_of_log hlog)⟩
  | reported hw =>
      rw [hw] at hs
      obtain ⟨done, hbreaks, htold⟩ := hs
      exact ⟨done, hbreaks, htold.record rfl rfl⟩
  | sweptAll hw =>
      rw [hw] at hs hstep
      intro outcome ho
      obtain rfl : .error _ = outcome := Option.some.inj (hstep.2.2.1.symm.trans ho)
      exact hs
  | swept hw hr =>
      obtain ⟨tickets, rfl⟩ := frame_of_reject hr
      rw [hw] at hs
      exact hs
  | published hw | handed hw | popped hw | rejected hw =>
      rw [hw] at hs
      exact hs
  | broke | sweptAmiss | completedInVain | reportedInVain | concludedTwice => trivial

/-- The record tells of the collection what the worker and a client that launches the session have
done so far. -/
structure Told (setup : Setup) (s : State) : Prop where
  unstarted : s.started = false → s.collectionEvents = []
  launching : ∀ {c : Nat} {request : Request}, s.clients c = .launching request →
    s.collectionEvents = []
  spawning : ∀ {c : Nat} {request : Request}, s.clients c = .spawning request →
    s.collectionEvents = [.collectionStarted setup.patterns]
  worker : s.Tells setup s.worker

theorem told_initial (setup : Setup) : Told setup (.initial setup) where
  unstarted _ := rfl
  launching h := by cases h
  spawning h := by cases h
  worker := .inl rfl

/-- A step that puts nothing of the collection on record. -/
theorem Told.of_events (hs : Told setup s) (ht : t.collectionEvents = s.collectionEvents)
    (hstarted : t.started = false → s.started = false)
    (hlaunching : ∀ {c : Nat} {request : Request}, t.clients c = .launching request →
      s.clients c = .launching request ∨ s.started = false)
    (hspawning : ∀ {c : Nat} {request : Request}, t.clients c = .spawning request →
      s.clients c = .spawning request) (hworker : t.Tells setup t.worker) : Told setup t := by
  constructor
  case unstarted =>
    intro hn
    rw [ht, hs.unstarted (hstarted hn)]
  case launching =>
    intro c request hc
    rcases hlaunching hc with hbefore | hn
    · rw [ht, hs.launching hbefore]
    · rw [ht, hs.unstarted hn]
  case spawning =>
    intro c request hc
    rw [ht, hs.spawning (hspawning hc)]
  case worker => exact hworker

/-- Only a client that has announced the start gives the worker its task. -/
theorem ClientStep.spawning_of {c d : Nat} {request : Request} (h : ClientStep setup s c t)
    (hd : t.clients d = .spawning request) :
    s.clients d = .spawning request ∨ s.clients c = .launching request := by
  by_cases hdc : d = c
  · subst hdc
    cases h with
    | told hc =>
        rw [clients_setClient] at hd
        cases hd
        exact .inr hc
    | @joined request' hc | @spawned request' hc =>
        cases request' <;> simp [State.setClient, Request.onward] at hd
    | _ => simp [giveBack_eq, State.setClient] at hd
  · rw [h.clients_of_ne hdc] at hd
    exact .inl hd

theorem ClientStep.keepsTold {c : Nat} (hs : Told setup s) (hlaunch : Launch s)
    (h : ClientStep setup s c t) : Told setup t := by
  have hcollected := h.frame.2.2.1
  by_cases hlaunching : ∃ request, s.clients c = .launching request
  · obtain ⟨request, hc⟩ := hlaunching
    obtain ⟨hevents, hleft⟩ := h.told_of_launching hc
    rw [hs.launching hc, List.nil_append] at hevents
    have hlaunches : (s.clients c).IsLaunching := by simp [hc, Client.IsLaunching]
    have hstarted : s.started ≠ false := fun hn => hlaunch.not_launching hn c hlaunches
    constructor
    case unstarted => exact fun hn => absurd (h.started_of hn) hstarted
    case launching =>
      intro d request' hd
      have hbefore := (h.launching_of hd).resolve_right hstarted
      obtain rfl : d = c := hlaunch.unique (by simp [hbefore, Client.IsLaunching]) hlaunches
      exact absurd hd (hleft request')
    case spawning => exact fun _ => hevents
    case worker =>
      rcases h.worker_eq with hworker | ⟨⟨request', hc'⟩, -⟩
      · rw [hworker, hlaunch.absent_of_launching hlaunches]
        exact .inr hevents
      · rw [hc] at hc'
        cases hc'
  · have hevents := h.collectionEvents_eq fun request hc => hlaunching ⟨request, hc⟩
    have hspawning {d : Nat} {request : Request} (hd : t.clients d = .spawning request) :
        s.clients d = .spawning request :=
      (h.spawning_of hd).resolve_right fun hc => hlaunching ⟨_, hc⟩
    refine hs.of_events hevents h.started_of h.launching_of hspawning ?_
    rcases h.worker_eq with hworker | ⟨⟨request, hc⟩, hworker⟩
    · rw [hworker]
      exact hs.worker.of_events hevents hcollected
    · rw [hworker]
      exact ⟨[], .nil, hevents.trans (hs.spawning hc)⟩

theorem Step.told (hs : Told setup s) (hr : Reachable setup s) (h : Step setup s m t) :
    Told setup t := by
  cases h with
  | worker h =>
      obtain ⟨hpresent, hclients, hstarted, -⟩ := h.frame
      have hnone {c : Nat} (hc : (s.clients c).IsLaunching) : False :=
        hpresent (hr.launch.absent_of_launching hc)
      constructor
      case unstarted =>
        intro hn
        exact absurd (hr.launch.absent_of_not_started (hstarted ▸ hn)) hpresent
      case launching =>
        intro c request hc
        exact (hnone (c := c) (by simp [← hclients, hc, Client.IsLaunching])).elim
      case spawning =>
        intro c request hc
        exact (hnone (c := c) (by simp [← hclients, hc, Client.IsLaunching])).elim
      case worker => exact h.tells hs.worker hr.gathered.worker hr.inStep.worker
  | client h => exact h.keepsTold hs hr.launch
  | called =>
      exact hs.of_events rfl (fun hn => hn) (fun hd => .inl (clients_of_setClient hd (by simp)))
        (fun hd => clients_of_setClient hd (by simp)) (hs.worker.of_events rfl rfl)
  | cancelled =>
      exact hs.of_events rfl (fun hn => hn) .inl (fun hd => hd) (hs.worker.of_events rfl rfl)
  | spared => exact hs

theorem Reachable.told (h : Reachable setup s) : Told setup s :=
  h.invariant (told_initial setup) fun hr hs hstep => hstep.told hs hr

/-! ## The end of the collection -/

/-- The record tells of the end of the collection by `ending` and nothing else. -/
def State.TellsEnd (s : State) (ending : List Event) : Prop :=
  ∃ news, s.collectionEvents = news ++ ending ∧
    ∀ e ∈ news, e.kind = .collectionStarted ∨ e.kind = .sourceParsed

theorem Announces.kind_eq {done : List MarkupSource} {events : List Event} {e : Event}
    (h : Announces setup done events) (he : e ∈ events) : e.kind = .sourceParsed := by
  induction h with
  | nil => cases he
  | snoc h htags hcount ih =>
      rcases List.mem_append.1 he with he | he
      · exact ih he
      · rw [List.mem_singleton.1 he]
        rfl

theorem State.HasTold.tellsEnd {done : List MarkupSource} {ending : List Event}
    (h : s.HasTold setup done ending) : s.TellsEnd ending := by
  obtain ⟨events, hevents, hs⟩ := h
  refine ⟨.collectionStarted setup.patterns :: events, by simp [hs], fun e he => ?_⟩
  rcases List.mem_cons.1 he with rfl | he
  · exact .inl rfl
  · exact .inr (hevents.kind_eq he)

/-- Events of the collection are found in the record and in what it tells of the collection. -/
theorem filter_eventsOf {p : Event → Bool} (hp : ∀ e, p e = true → isOfCollection e = true) :
    (eventsOf s.log).filter p = s.collectionEvents.filter p := by
  rw [State.collectionEvents, List.filter_filter]
  refine List.filter_congr fun e _ => ?_
  cases h : p e with
  | true => simp [hp e h]
  | false => simp

theorem State.TellsEnd.failures (h : s.TellsEnd ending) :
    (eventsOf s.log).filter (fun e => e.kind = .collectionFailed) =
      ending.filter fun e => e.kind = .collectionFailed := by
  obtain ⟨news, hs, hnews⟩ := h
  have hnone : news.filter (fun e => e.kind = .collectionFailed) = [] := by
    rw [List.filter_eq_nil_iff]
    intro e he
    rcases hnews e he with hkind | hkind <;> simp [hkind]
  rw [filter_eventsOf, hs, List.filter_append, hnone, List.nil_append]
  intro e he
  cases e <;> simp [Event.kind] at he ⊢
  rfl

/-- A completion is on record only if it is part of what the record tells of the end. -/
theorem State.TellsEnd.mem_of_completed {ending : List Event} {e : Event} (h : s.TellsEnd ending)
    (he : e ∈ eventsOf s.log) (hkind : e.kind = .collectionCompleted) : e ∈ ending := by
  obtain ⟨news, hs, hnews⟩ := h
  have hmem : e ∈ s.collectionEvents := by
    refine List.mem_filter.2 ⟨he, ?_⟩
    cases e <;> simp [Event.kind] at hkind ⊢
    rfl
  rw [hs, List.mem_append] at hmem
  refine hmem.resolve_left fun hmem => ?_
  rcases hnews e hmem with hother | hother <;> simp [hkind] at hother

end

end StyleUsage.Session
