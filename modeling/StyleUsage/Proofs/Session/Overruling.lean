import StyleUsage.Proofs.Session.Grammar
import StyleUsage.Proofs.Session.Hearing
import StyleUsage.Proofs.Session.Verdicts

/-!
# Verdicts at which listeners raise something

A session whose listeners raise something at verdicts goes the same way as one whose listeners raise
nothing, and the two differ in the outcomes alone: what is raised at the event of a verdict is the
outcome of the ticket that the event tells of, and nothing else comes of it.
-/

namespace StyleUsage.Session

namespace State

/-- How many events are on record when some moves announce the verdict on a ticket. -/
def place? (s : State) (setup : Setup) (id : Nat) : List Move → Option Nat
  | [] => none
  | m :: rest =>
      if s.judges? m = some id then some (eventsOf s.log).length
      else
        match s.step? setup m with
        | some t => t.place? setup id rest
        | none => none

/-- The ticket has got a verdict, or waits for it to be written. -/
def HasVerdict (s : State) (id : Nat) (v : Verdict) : Prop :=
  ∃ ticket, s.tickets[id]? = some ticket ∧
    (ticket.state = .finished (.ok v) ∨
      ticket.state = .running ∧ ∃ holder, id ∈ s.held holder ∧ s.next holder = .settle (.ok v))

end State

section
variable {setup : Setup} {s t u : State} {m : Move} {f : Hearing} {id n : Nat}
  {history : List (Nat × Mark)} {moves : List Move}

/-! ## Announcements -/

theorem judges?_worker_iff : s.judges? .worker = some id ↔
    s.hasRoom id = true ∧ ∃ used, s.worker = .analysing used id .judge := by
  simp only [State.judges?]
  split
  case h_1 i heq =>
      simp only [Option.ite_none_right_eq_some, Option.some.injEq, heq, Worker.analysing.injEq]
      constructor
      · rintro ⟨hroom, rfl⟩
        exact ⟨hroom, _, rfl, rfl, trivial⟩
      · rintro ⟨hroom, used, -, rfl, -⟩
        exact ⟨hroom, rfl⟩
  case h_2 => simp_all

theorem judges?_client_iff {c : Nat} : s.judges? (.client c) = some id ↔
    s.hasRoom id = true ∧ ∃ used, s.clients c = .analysing id used .judge := by
  simp only [State.judges?]
  split
  case h_1 i used heq =>
      simp only [Option.ite_none_right_eq_some, Option.some.injEq, heq, Client.analysing.injEq]
      constructor
      · rintro ⟨hroom, rfl⟩
        exact ⟨hroom, _, rfl, rfl, trivial⟩
      · rintro ⟨hroom, used, rfl, -, -⟩
        exact ⟨hroom, rfl⟩
  case h_2 => simp_all

theorem hasRoom_eq_true_iff {ticket : Ticket} (h : s.tickets[id]? = some ticket) :
    s.hasRoom id = true ↔ Stylesheet.isTooDeep ticket.css = false := by
  simp [State.hasRoom, h]

/-- Whoever announces a verdict is at that step of the analysis. -/
theorem analyses_of_judges? (h : s.judges? m = some id) :
    s.subject? m = some id ∧ ∃ holder used, s.Analyses holder id used .judge := by
  cases m with
  | worker =>
      obtain ⟨-, used, hw⟩ := judges?_worker_iff.1 h
      exact ⟨by simp [State.subject?, hw], .worker, used, hw⟩
  | client c =>
      obtain ⟨-, used, hc⟩ := judges?_client_iff.1 h
      exact ⟨by simp [State.subject?, hc], .client c, used, hc⟩
  | call | cancel => cases h

theorem AnalysisStep.judged_of {id : Nat} {used : List String} {advance : Advance}
    (hcalm : setup.IsCalm) (hroom : s.hasRoom id = true)
    (h : AnalysisStep setup s id used .judge t advance) :
    ∃ v : Verdict, advance = .next (.settle (.ok v)) ∧
      eventsOf t.log = eventsOf s.log ++ [v.event] := by
  cases h with
  | judged ht hlog => exact ⟨_, rfl, hlog⟩
  | overruled ht hlog hl hwarnings he =>
      rw [hcalm _ _ he] at hl
      cases hl
  | foundered ht hdeep =>
      rw [hasRoom_eq_true_iff ht, hdeep] at hroom
      cases hroom
  | amiss hs =>
      obtain ⟨ticket, ht, -⟩ := (Option.any_eq_true _ _).1 hroom
      exact absurd trivial (hs ticket ht)

/-- The event of the verdict is put on record, and the verdict is written next. -/
theorem Step.judged (hcalm : setup.IsCalm) (h : Step setup s m t)
    (hj : s.judges? m = some id) : ∃ (v : Verdict) (holder : Holder) (used : List String),
      t.Analyses holder id used (.settle (.ok v)) ∧
      eventsOf t.log = eventsOf s.log ++ [v.event] := by
  cases h with
  | worker h =>
      obtain ⟨hroom, used, hw⟩ := judges?_worker_iff.1 hj
      cases h with
      | analysed hw' ha =>
          rw [hw] at hw'
          cases hw'
          obtain ⟨v, hadvance, hlog⟩ := ha.judged_of hcalm hroom
          cases hadvance
          exact ⟨v, .worker, used, rfl, hlog⟩
      | finished hw' ha | broke hw' ha =>
          rw [hw] at hw'
          cases hw'
          obtain ⟨v, hadvance, -⟩ := ha.judged_of hcalm hroom
          cases hadvance
      | concludedTwice hw' => simp [hw] at hw'
      | _ hw' => simp [hw] at hw'
  | @client c t h =>
      obtain ⟨hroom, used, hc⟩ := judges?_client_iff.1 hj
      cases h with
      | analysed hc' ha =>
          rw [hc] at hc'
          cases hc'
          obtain ⟨v, hadvance, hlog⟩ := ha.judged_of hcalm hroom
          cases hadvance
          exact ⟨v, .client c, used, by simp [State.Analyses], hlog⟩
      | finished hc' ha | broke hc' ha =>
          rw [hc] at hc'
          cases hc'
          obtain ⟨v, hadvance, -⟩ := ha.judged_of hcalm hroom
          cases hadvance
      | _ hc' => simp [hc] at hc'
  | called | cancelled | spared => cases hj

theorem AnalysisStep.eq_judge {id : Nat} {used : List String} {step : Analysis} {advance : Advance}
    {e : Event} (he : IsOfVerdict e) (h : AnalysisStep setup s id used step t advance)
    (hlog : eventsOf t.log = eventsOf s.log ++ [e]) : step = .judge ∧ s.hasRoom id = true := by
  cases h with
  | judged ht hlog' hwarnings hroom => exact ⟨rfl, (hasRoom_eq_true_iff ht).2 hroom⟩
  | overruled ht hlog' hl hwarnings he hroom => exact ⟨rfl, (hasRoom_eq_true_iff ht).2 hroom⟩
  | announced | raised =>
      simp only [State.record, eventsOf_append, eventsOf_event, List.append_cancel_left_eq,
        List.cons.injEq] at hlog
      obtain ⟨rfl, -⟩ := hlog
      simp [IsOfVerdict, Event.kind] at he
  | _ => simp [State.setTicket] at hlog

/-- Only the announcement of a verdict puts its event on record. -/
theorem Step.exists_judges? {e : Event} (he : IsOfVerdict e) (h : Step setup s m t)
    (hlog : eventsOf t.log = eventsOf s.log ++ [e]) : ∃ id, s.judges? m = some id := by
  have hrecord {e' : Event} (he' : ¬ IsOfVerdict e')
      (hlog' : eventsOf t.log = eventsOf s.log ++ [e']) : False := by
    rw [hlog', List.append_cancel_left_eq, List.cons.injEq] at hlog
    exact he' (hlog.1 ▸ he)
  have hsame (hlog' : eventsOf t.log = eventsOf s.log) : False := by
    rw [hlog'] at hlog
    simp at hlog
  cases h with
  | worker h =>
      cases h with
      | analysed hw ha | finished hw ha | broke hw ha =>
          obtain ⟨rfl, hroom⟩ := ha.eq_judge he hlog
          exact ⟨_, judges?_worker_iff.2 ⟨hroom, _, hw⟩⟩
      | opened hw hlog' | froze hw hf hlog' | failed hw hlog' => exact (hsame hlog').elim
      | told | toldInVain | completed | completedInVain | reported | reportedInVain =>
          exact (hrecord (by simp [IsOfVerdict, Event.kind]) (eventsOf_append _ _)).elim
      | swept hw hr =>
          obtain ⟨tickets, rfl⟩ := frame_of_reject hr
          exact (hsame rfl).elim
      | _ => exact (hsame rfl).elim
  | client h =>
      cases h with
      | analysed hc ha =>
          obtain ⟨rfl, hroom⟩ := ha.eq_judge he hlog
          exact ⟨_, judges?_client_iff.2 ⟨hroom, _, hc⟩⟩
      | finished hc ha | broke hc ha =>
          rw [log_giveBack] at hlog
          obtain ⟨rfl, hroom⟩ := ha.eq_judge he hlog
          exact ⟨_, judges?_client_iff.2 ⟨hroom, _, hc⟩⟩
      | told => exact (hrecord (by simp [IsOfVerdict, Event.kind]) (eventsOf_append _ _)).elim
      | toldInVain | noticed | noticedInVain =>
          refine (hrecord ?_ (by rw [log_giveBack]; exact eventsOf_append _ _)).elim
          simp [IsOfVerdict, Event.kind]
      | rejected hc hf hr =>
          obtain ⟨tickets, rfl⟩ := frame_of_reject hr
          exact (hsame (by rw [log_giveBack])).elim
      | rejectedAmiss | admittedInVain | waited => exact (hsame (by rw [log_giveBack])).elim
      | _ => exact (hsame rfl).elim
  | called | cancelled | spared => exact (hsame rfl).elim

/-! ## Runs -/

/-- The trail of a ticket tells of its verdict if and only if there is one. -/
theorem Recorded.hasVerdict (h : Recorded s history) {e : Event} (he : IsOfVerdict e)
    (hmark : .event e ∈ trail history id) : ∃ v : Verdict, e = v.event ∧ s.HasVerdict id v := by
  have hlt : id < s.tickets.length := by
    apply Nat.lt_of_not_le
    intro hle
    rw [h.beyond hle] at hmark
    cases hmark
  have hticket := List.getElem?_eq_getElem hlt
  have hother {path : String} : e ≠ .documentAnalyzing path := by
    rintro rfl
    simp [IsOfVerdict, Event.kind] at he
  by_cases hheld : ∃ holder, id ∈ s.held holder
  · obtain ⟨holder, hi⟩ := hheld
    obtain ⟨hawaits, htrail⟩ := (h.accounts id).held hi hticket
    rw [htrail] at hmark
    cases hnext : s.next holder with
    | settle outcome =>
        rw [hnext] at hmark hawaits
        cases outcome with
        | error failure => simp [Analysis.trail, hother] at hmark
        | ok v =>
            have hv : e = v.event := by simpa [Analysis.trail, hother] using hmark
            exact ⟨v, hv, _, hticket, .inr ⟨hawaits.1, holder, hi, hnext⟩⟩
    | begin | announce | judge => simp [hnext, Analysis.trail, hother] at hmark
  · have hnone (holder : Holder) : id ∉ s.held holder := fun hi => hheld ⟨holder, hi⟩
    cases (h.accounts id).closed hnone hticket with
    | judged hs hp hroom hmarks =>
        rw [hmarks] at hmark
        simp only [List.mem_cons, Mark.event.injEq, reduceCtorEq, hother, List.not_mem_nil,
          or_false, false_or] at hmark
        exact ⟨_, hmark, _, hticket, .inl hs⟩
    | foundered hs hp hdeep hmarks => simp [hmarks, hother] at hmark
    | dropped hs hmarks | rejected hs hp hmarks => simp [hmarks] at hmark

theorem Recorded.event_mem_trail (h : Recorded s history) {v : Verdict} (hv : s.HasVerdict id v) :
    .event v.event ∈ trail history id := by
  obtain ⟨ticket, hticket, hfinished | ⟨-, holder, hi, hnext⟩⟩ := hv
  · cases (h.accounts id).closed (h.not_held_of_finished hticket hfinished) hticket with
    | dropped hs | foundered hs | rejected hs =>
        rw [hfinished] at hs
        cases hs
    | judged hs hp hroom hmarks =>
        rw [hfinished] at hs
        cases hs
        simp [hmarks]
  · rw [((h.accounts id).held hi hticket).2, hnext]
    simp [Analysis.trail]

/-- A ticket has one verdict. -/
theorem Recorded.eq_of_finished (h : Recorded s history) {ticket : Ticket} {v v' : Verdict}
    (hv : s.HasVerdict id v) (hticket : s.tickets[id]? = some ticket)
    (hfinished : ticket.state = .finished (.ok v')) : v = v' := by
  obtain ⟨found, hfound, hstate | ⟨-, holder, hi, -⟩⟩ := hv
  · rw [hticket] at hfound
    cases hfound
    rw [hfinished] at hstate
    cases hstate
    rfl
  · exact absurd hi (h.not_held_of_finished hticket hfinished holder)

/-- A run goes on from where it is, and the record grows. -/
theorem Run.after (h : Run setup history s) (ht : s.after? setup moves = some t) :
    ∃ more, Run setup (history ++ more) t ∧ eventsOf s.log <+: eventsOf t.log := by
  induction moves generalizing s history with
  | nil =>
      cases ht
      exact ⟨[], by simpa using h, List.prefix_refl _⟩
  | cons m rest ih =>
      obtain ⟨s', hm, ht⟩ := State.exists_step_of_after ht
      obtain ⟨more, hrun, hprefix⟩ := ih (h.step m hm) ht
      refine ⟨s.marks m s' ++ more, by simpa using hrun, ?_⟩
      rcases (step_of_step? hm).record_eq with hsame | ⟨e, hlog⟩
      · exact hsame ▸ hprefix
      · exact (hlog ▸ List.prefix_append _ _).trans hprefix

/-- Two things have happened to a ticket before its verdict is announced. -/
theorem Run.length_trail (hcalm : setup.IsCalm) (h : Run setup history s)
    (hj : s.judges? m = some id) : (trail history id).length = 2 := by
  obtain ⟨-, holder, used, ha⟩ := analyses_of_judges? hj
  have hticket := List.getElem?_eq_getElem (h.reachable.custody.written ha.mem)
  rw [(((hcalm.recorded h).accounts id).held ha.mem hticket).2, ha.held.2]
  rfl

/-- The announcement of a verdict is the third thing that happens to a ticket. -/
theorem Run.judged (hcalm : setup.IsCalm) (h : Run setup history s)
    (hm : s.step? setup m = some t) (hj : s.judges? m = some id) : ∃ v : Verdict,
      eventsOf t.log = eventsOf s.log ++ [v.event] ∧
      (trail (history ++ s.marks m t) id).length = 3 ∧
      .event v.event ∈ trail (history ++ s.marks m t) id := by
  have hrun := h.step m hm
  obtain ⟨v, holder, used, ha, hlog⟩ :=
    (step_of_step? hm).judged hcalm hj
  have hticket := List.getElem?_eq_getElem (hrun.reachable.custody.written ha.mem)
  have htrail := (((hcalm.recorded hrun).accounts id).held ha.mem hticket).2
  rw [ha.held.2] at htrail
  exact ⟨v, hlog, by simp [htrail, Analysis.trail]⟩

/-- No verdict on a ticket is announced again. -/
theorem Run.place?_eq_none (hcalm : setup.IsCalm) (h : Run setup history s)
    (hlong : 2 < (trail history id).length) : s.place? setup id moves = none := by
  induction moves generalizing s history with
  | nil => rfl
  | cons m rest ih =>
      have hj : s.judges? m ≠ some id := by
        intro hj
        rw [h.length_trail hcalm hj] at hlong
        exact Nat.lt_irrefl _ hlong
      rw [State.place?, if_neg hj]
      cases hm : s.step? setup m with
      | none => rfl
      | some t =>
          refine ih (h.step m hm) ?_
          rw [trail_append, List.length_append]
          omega

theorem Run.place?_of_judges? (hcalm : setup.IsCalm) (h : Run setup history s)
    (hm : s.step? setup m = some t) (hj : s.judges? m = some id) :
    t.place? setup id moves = none := by
  obtain ⟨v, -, hlength, -⟩ := h.judged hcalm hm hj
  exact (h.step m hm).place?_eq_none hcalm (by omega)

/-- Where a run announces a verdict, its event is on record. -/
theorem Run.event_of_place? (hcalm : setup.IsCalm) (h : Run setup history s)
    (hu : s.after? setup moves = some u) (hn : s.place? setup id moves = some n) :
    ∃ v : Verdict, (eventsOf u.log)[n]? = some v.event ∧ u.HasVerdict id v := by
  induction moves generalizing s history with
  | nil => cases hn
  | cons m rest ih =>
      obtain ⟨t, hm, hu⟩ := State.exists_step_of_after hu
      rw [State.place?] at hn
      simp only [hm] at hn
      have hrun := h.step m hm
      split at hn
      case isFalse => exact ih hrun hu hn
      case isTrue hj =>
          cases hn
          obtain ⟨v, hlog, -, hmark⟩ := h.judged hcalm hm hj
          obtain ⟨more, hlast, hprefix⟩ := hrun.after hu
          have hmark' : .event v.event ∈ trail (history ++ s.marks m t ++ more) id := by
            rw [trail_append]
            exact List.mem_append_left _ hmark
          obtain ⟨v', hsame, hverdict⟩ :=
            (hcalm.recorded hlast).hasVerdict (isOfVerdict_event v) hmark'
          refine ⟨v', ?_, hverdict⟩
          rw [← hsame]
          obtain ⟨events, hevents⟩ := hprefix
          rw [← hevents, hlog]
          simp

/-- Every verdict event on record is that of the verdict on some ticket. -/
theorem Run.exists_place?_of_event (hcalm : setup.IsCalm) (h : Run setup history s)
    (hu : s.after? setup moves = some u) {e : Event} (he : IsOfVerdict e)
    (hn : (eventsOf u.log)[n]? = some e) :
    n < (eventsOf s.log).length ∨ ∃ id, s.place? setup id moves = some n := by
  induction moves generalizing s history with
  | nil =>
      cases hu
      exact .inl (List.getElem?_eq_some_iff.1 hn).1
  | cons m rest ih =>
      obtain ⟨t, hm, hu⟩ := State.exists_step_of_after hu
      have hrun := h.step m hm
      have hstep := step_of_step? hm
      rcases ih hrun hu with hlt | ⟨id, hplace⟩
      · rcases hstep.record_eq with hsame | ⟨e', hlog⟩
        · exact .inl (hsame ▸ hlt)
        · have hle : n ≤ (eventsOf s.log).length :=
            Nat.le_of_lt_succ (by simpa [hlog] using hlt)
          rcases Nat.lt_or_eq_of_le hle with hlt | rfl
          · exact .inl hlt
          · obtain ⟨more, hlast, events, hevents⟩ := hrun.after hu
            have heq : e' = e := by
              rw [← hevents, hlog] at hn
              simpa using hn
            obtain ⟨id, hj⟩ := hstep.exists_judges? he (heq ▸ hlog)
            exact .inr ⟨id, by rw [State.place?, if_pos hj]⟩
      · refine .inr ⟨id, ?_⟩
        have hj : s.judges? m ≠ some id := by
          intro hj
          rw [h.place?_of_judges? hcalm hm hj] at hplace
          cases hplace
        simpa only [State.place?, if_neg hj, hm] using hplace

theorem le_of_place? (hn : s.place? setup id moves = some n) : (eventsOf s.log).length ≤ n := by
  induction moves generalizing s with
  | nil => cases hn
  | cons m rest ih =>
      rw [State.place?] at hn
      split at hn
      · cases hn
        exact Nat.le_refl _
      · cases hm : s.step? setup m with
        | none => simp [hm] at hn
        | some t =>
            simp only [hm] at hn
            have hle := ih hn
            rcases (step_of_step? hm).record_eq with hsame | ⟨e, hlog⟩
            · exact hsame ▸ hle
            · rw [hlog, List.length_append] at hle
              exact Nat.le_of_add_right_le hle

/-- The events of two verdicts stand at two places. -/
theorem Run.eq_of_place? {i : Nat} (hcalm : setup.IsCalm) (h : Run setup history s)
    (hi : s.place? setup i moves = some n) (hid : s.place? setup id moves = some n) : i = id := by
  induction moves generalizing s history with
  | nil => cases hi
  | cons m rest ih =>
      cases hm : s.step? setup m with
      | none =>
          simp only [State.place?, hm, Option.ite_none_right_eq_some] at hi hid
          exact Option.some.inj (hi.1.symm.trans hid.1)
      | some t =>
          have hlater {j : Nat} (hj : s.place? setup j (m :: rest) = some n) :
              s.judges? m = some j ∧ n = (eventsOf s.log).length ∨
                t.place? setup j rest = some n := by
            simp only [State.place?, hm] at hj
            split at hj
            case isTrue hjudges => exact .inl ⟨hjudges, (Option.some.inj hj).symm⟩
            case isFalse => exact .inr hj
          have hbefore {j k : Nat} (hj : s.judges? m = some j) (hn : n = (eventsOf s.log).length)
              (hk : t.place? setup k rest = some n) : False := by
            obtain ⟨v, hlog, -⟩ := h.judged hcalm hm hj
            have hle := le_of_place? hk
            rw [hlog, List.length_append, List.length_singleton] at hle
            omega
          rcases hlater hi with ⟨hji, hn⟩ | hi <;> rcases hlater hid with ⟨hjid, hn'⟩ | hid
          · exact Option.some.inj (hji.symm.trans hjid)
          · exact (hbefore hji hn hid).elim
          · exact (hbefore hjid hn' hi).elim
          · exact ih (h.step m hm) hi hid

/-- An event of a verdict happens to a ticket only when its verdict is announced. -/
theorem Step.judges?_of_mem_marksOn {e : Event} (he : IsOfVerdict e) (h : Step setup s m t)
    (hmark : .event e ∈ s.marksOn m t id) : s.judges? m = some id := by
  have hnews : s.subject? m = some id ∧ e ∈ s.news t := by
    unfold State.marksOn at hmark
    split at hmark
    · simp only [List.mem_append] at hmark
      rcases hmark with (hmark | hmark) | hmark
      · split at hmark <;> simp at hmark
      · split at hmark
        · exact ⟨‹_›, by simpa using hmark⟩
        · simp at hmark
      · split at hmark <;> simp at hmark
    · cases hmark
  rcases h.record_eq with hsame | ⟨e', hlog⟩
  · rw [news_eq_nil (analysisEvents_of_log hsame)] at hnews
    cases hnews.2
  · have heq : e = e' := by
      have : s.news t = [e'].filter isOfAnalysis := news_eq (by simp [State.analysisEvents, hlog])
      rw [this] at hnews
      simpa using (List.mem_filter.1 hnews.2).1
    obtain ⟨i, hj⟩ := h.exists_judges? he (heq ▸ hlog)
    have hi := (analyses_of_judges? hj).1
    rw [hnews.1] at hi
    cases hi
    exact hj

theorem Run.exists_place?_of_mem_trail (h : Run setup history s)
    (hu : s.after? setup moves = some u) : ∃ more, Run setup (history ++ more) u ∧
      ∀ id e, IsOfVerdict e → .event e ∈ trail more id → ∃ n, s.place? setup id moves = some n := by
  induction moves generalizing s history with
  | nil =>
      cases hu
      exact ⟨[], by simpa using h, fun id e _ hmark => by cases hmark⟩
  | cons m rest ih =>
      obtain ⟨t, hm, hu⟩ := State.exists_step_of_after hu
      obtain ⟨more, hrun, hmore⟩ := ih (h.step m hm) hu
      refine ⟨s.marks m t ++ more, by simpa using hrun, fun id e he hmark => ?_⟩
      rw [trail_append, trail_marks, List.mem_append] at hmark
      by_cases hj : s.judges? m = some id
      · exact ⟨_, by rw [State.place?, if_pos hj]⟩
      · rcases hmark with hmark | hmark
        · exact absurd ((step_of_step? hm).judges?_of_mem_marksOn he hmark) hj
        · obtain ⟨n, hn⟩ := hmore id e he hmark
          exact ⟨n, by simpa only [State.place?, if_neg hj, hm] using hn⟩

/-! ## The same way -/

theorem State.Analyses.hear {holder : Holder} {used : List String} {step : Analysis}
    (h : s.Analyses holder id used step) :
    (s.hear f).Analyses holder id used (step.hear (f id)) := by
  cases holder with
  | queue => exact h.elim
  | worker =>
      rw [State.Analyses] at h ⊢
      rw [worker_hear, h]
      rfl
  | client c =>
      rw [State.Analyses] at h ⊢
      rw [clients_hear, h]
      rfl

theorem Setup.isCalm_quieted (setup : Setup) : setup.quieted.IsCalm :=
  isCalm_of_quiet fun _ _ => rfl

/-- The moves that are possible when listeners raise nothing are possible when they raise something
at verdicts, and no others. -/
theorem Run.after?_hear (hraises : setup.RaisesAtVerdicts) (h : Run setup.quieted history s)
    (hf : ∀ id n, s.place? setup.quieted id moves = some n → f id = setup.heard n) :
    (s.hear f).after? setup moves = (s.after? setup.quieted moves).map (·.hear f) := by
  induction moves generalizing s history with
  | nil => rfl
  | cons m rest ih =>
      have hnow (id : Nat) (hj : s.judges? m = some id) :
          f id = setup.heard (eventsOf s.log).length :=
        hf id _ (by rw [State.place?, if_pos hj])
      simp only [State.after?, step?_hear hraises hnow]
      cases hm : s.step? setup.quieted m with
      | none => rfl
      | some t =>
          refine ih (h.step m hm) fun id n hn => hf id n ?_
          have hj : s.judges? m ≠ some id := by
            intro hj
            rw [h.place?_of_judges? setup.isCalm_quieted hm hj] at hn
            cases hn
          simpa only [State.place?, if_neg hj, hm] using hn

/-- How many events are on record when some moves of a session whose listeners raise nothing
announce the verdict on a ticket. -/
def Setup.place? (setup : Setup) (moves : List Move) (id : Nat) : Option Nat :=
  (State.initial setup.quieted).place? setup.quieted id moves

def Setup.hearing (setup : Setup) (moves : List Move) : Hearing := fun id =>
  match setup.place? moves id with
  | some n => setup.heard n
  | none => .ok

theorem after?_initial (hraises : setup.RaisesAtVerdicts) (moves : List Move) :
    (State.initial setup).after? setup moves =
      ((State.initial setup.quieted).after? setup.quieted moves).map
        (·.hear (setup.hearing moves)) := by
  refine Run.initial.after?_hear hraises fun id n hn => ?_
  simp only [Setup.hearing, Setup.place?, hn]

theorem Reachable.exists_moves (h : Reachable setup s) :
    ∃ moves, (State.initial setup).after? setup moves = some s := by
  induction h with
  | initial => exact ⟨[], rfl⟩
  | @step s t m h hm ih =>
      obtain ⟨moves, hmoves⟩ := ih
      refine ⟨moves ++ [m], ?_⟩
      rw [State.after?_append hmoves]
      simp only [State.after?, hm]

/-- Verdicts at which listeners raise something do not let the worker die. -/
theorem Setup.RaisesAtVerdicts.worker_ne_died (hraises : setup.RaisesAtVerdicts)
    (h : Reachable setup s) (failure : Failure) : s.worker ≠ .died failure := by
  obtain ⟨moves, hmoves⟩ := h.exists_moves
  rw [after?_initial hraises] at hmoves
  obtain ⟨t, ht, rfl⟩ := Option.map_eq_some_iff.1 hmoves
  have hquiet := (Reachable.initial.after ht).worker_ne_died (fun _ _ => rfl) failure
  rw [worker_hear]
  cases hw : t.worker <;> simp_all [Worker.hear]

/-- A worker that has its task works off the queue, whatever listeners raise at verdicts. -/
theorem Setup.RaisesAtVerdicts.runWorker (hraises : setup.RaisesAtVerdicts)
    (h : Reachable setup s) (hpresent : s.worker ≠ .absent) :
    (s.runWorker setup).worker = .ended ∧ (s.runWorker setup).queue = [] ∧
      (s.runWorker setup).draining = false := by
  have hr := (leadsTo_runWorker s).reachable h
  have hended := h.ended_of_ne_died hpresent (hraises.worker_ne_died hr)
  have hworker := hr.inStep.worker
  rw [hended] at hworker
  exact ⟨hended, hworker.2.2, hworker.2.1⟩

/-- Two states that differ in nothing but what has come of verdicts: where `n` events were on record
before that of a verdict, the outcome is what listeners have made of it. -/
structure State.Overrules (setup : Setup) (place? : Nat → Option Nat) (s t : State) : Prop where
  log : s.log = t.log
  phase : s.phase = t.phase
  collected : s.collected = t.collected
  queue : s.queue = t.queue
  draining : s.draining = t.draining
  issued : s.issued = t.issued
  answers : ∀ c outcome, s.clients c = .returned outcome ↔ t.clients c = .returned outcome
  length : s.tickets.length = t.tickets.length
  /-- A ticket without a verdict is the same. -/
  unjudged : ∀ (id : Nat) (ticket : Ticket), t.tickets[id]? = some ticket →
    (∀ v, ticket.state ≠ .finished (.ok v)) → s.tickets[id]? = some ticket
  judged : ∀ (id : Nat) (ticket : Ticket) (v : Verdict), t.tickets[id]? = some ticket →
    ticket.state = .finished (.ok v) → ∃ n, place? id = some n ∧
      (eventsOf s.log)[n]? = some v.event ∧
      s.tickets[id]? = some { ticket with state := .finished (setup.heard n v) }

/-- The ticket has failed with something, or waits for that to be written. -/
def State.FailsBy (s : State) (id : Nat) (failure : Failure) : Prop :=
  ∃ ticket, s.tickets[id]? = some ticket ∧ (ticket.state = .finished (.error failure) ∨
    ticket.state = .running ∧
      ∃ holder, id ∈ s.held holder ∧ s.next holder = .settle (.error failure))

theorem State.FailsBy.outcome?_eq {failure : Failure} (h : s.FailsBy id failure)
    (hnone : ∀ holder, s.held holder = []) : s.outcome? id = some (.error failure) := by
  obtain ⟨ticket, hticket, hfinished | ⟨-, holder, hi, -⟩⟩ := h
  · simp [State.outcome?, hticket, hfinished]
  · simp [hnone holder] at hi

theorem answers_hear (c : Nat) (outcome : Except Failure (Option Nat)) :
    (s.hear f).clients c = .returned outcome ↔ s.clients c = .returned outcome := by
  rw [clients_hear]
  cases s.clients c <;> simp [Client.hear]

theorem isDone_hear (f : Verdict → Except Failure Verdict) (state : TicketState) :
    (state.hear f).isDone = state.isDone := by
  cases state <;> rfl

theorem hear_of_forall_ne {f : Verdict → Except Failure Verdict} {state : TicketState}
    (h : ∀ v, state ≠ .finished (.ok v)) : state.hear f = state := by
  cases state with
  | finished outcome =>
      cases outcome with
      | error failure => rfl
      | ok v => exact absurd rfl (h v)
  | _ => rfl

/-- What listeners raise at the event of a verdict makes the only difference. -/
theorem overrules_hear (h : (State.initial setup.quieted).after? setup.quieted moves = some t) :
    (t.hear (setup.hearing moves)).Overrules setup (setup.place? moves) t := by
  have hcalm := setup.isCalm_quieted
  refine ⟨rfl, rfl, rfl, rfl, rfl, rfl, answers_hear, length_hear, ?_, ?_⟩
  · intro id ticket hticket hv
    rw [getElem?_hear, hticket, Option.map_some, Ticket.hear, hear_of_forall_ne hv]
  · intro id ticket v hticket hv
    obtain ⟨more, hrun, hmore⟩ := Run.initial.exists_place?_of_mem_trail h
    have hrecorded := hcalm.recorded hrun
    have hmark := hrecorded.event_mem_trail ⟨ticket, hticket, .inl hv⟩
    obtain ⟨n, hn⟩ := hmore id v.event (isOfVerdict_event v) hmark
    obtain ⟨v', hevent, hverdict⟩ := Run.initial.event_of_place? hcalm h hn
    cases hrecorded.eq_of_finished hverdict hticket hv
    have hheard : setup.hearing moves id = setup.heard n := by
      simp only [Setup.hearing, Setup.place?, hn]
    refine ⟨n, hn, hevent, ?_⟩
    rw [getElem?_hear, hticket, Option.map_some, Ticket.hear, hv, hheard]
    rfl

/-- A verdict that something comes of is overruled. -/
theorem State.HasVerdict.failsBy {v : Verdict} {failure : Failure} (h : t.HasVerdict id v)
    (hf : f id v = .error failure) : (t.hear f).FailsBy id failure := by
  obtain ⟨ticket, hticket, hfinished | ⟨hrunning, holder, hi, hnext⟩⟩ := h
  · refine ⟨ticket.hear (f id), by rw [getElem?_hear, hticket, Option.map_some], .inl ?_⟩
    simp [Ticket.hear, hfinished, TicketState.hear, Except.bind, hf]
  · have hpast : t.next holder ≠ .begin := by simp [hnext]
    obtain ⟨i, used, ha⟩ := analyses_of_next_ne hpast
    rw [ha.held.1, List.mem_singleton] at hi
    subst hi
    rw [hnext] at ha
    have hheard := ha.hear (f := f)
    refine ⟨ticket.hear (f id), by rw [getElem?_hear, hticket, Option.map_some],
      .inr ⟨?_, holder, hheard.mem, ?_⟩⟩
    · simp [Ticket.hear, hrunning, TicketState.hear]
    · simp [hheard.held.2, Analysis.hear, Except.bind, hf]

/-- Whatever listeners raise is raised at the verdict on some ticket, and is its outcome. -/
theorem Setup.RaisesAtVerdicts.exists_failsBy (hraises : setup.RaisesAtVerdicts)
    (h : (State.initial setup.quieted).after? setup.quieted moves = some t) {e : Event}
    {failure : Failure} (he : (eventsOf t.log)[n]? = some e)
    (hl : setup.listener n e = some failure) : ∃ id, setup.place? moves id = some n ∧
      (t.hear (setup.hearing moves)).FailsBy id failure := by
  have hcalm := setup.isCalm_quieted
  have hverdict : IsOfVerdict e := by
    apply Classical.byContradiction
    intro hne
    rw [hraises n e hne] at hl
    cases hl
  rcases Run.initial.exists_place?_of_event hcalm h hverdict he with hlt | ⟨id, hn⟩
  · exact absurd hlt (Nat.not_lt_zero n)
  · obtain ⟨v, hevent, hv⟩ := Run.initial.event_of_place? hcalm h hn
    have hsame : e = v.event := Option.some.inj (he.symm.trans hevent)
    refine ⟨id, hn, hv.failsBy ?_⟩
    simp only [Setup.hearing, Setup.place?, hn, Setup.heard, ← hsame, hl]

theorem held_hear (holder : Holder) : (s.hear f).held holder = s.held holder := by
  cases holder with
  | queue => rfl
  | worker =>
      rw [State.held, State.held, worker_hear]
      cases s.worker <;> rfl
  | client c =>
      rw [State.held, State.held, clients_hear]
      cases s.clients c <;> rfl

/-- When nobody has a ticket in hand any more, all of them are done. -/
theorem isDone_of_held_eq_nil
    (h : (State.initial setup.quieted).after? setup.quieted moves = some t)
    (hnone : ∀ holder, (t.hear f).held holder = []) {ticket : Ticket}
    (hticket : ticket ∈ (t.hear f).tickets) : ticket.state.isDone = true := by
  obtain ⟨history, hrun⟩ := (Reachable.initial.after h).exists_run
  have hrecorded := setup.isCalm_quieted.recorded hrun
  obtain ⟨id, hid⟩ := List.mem_iff_getElem?.1 hticket
  rw [getElem?_hear] at hid
  obtain ⟨old, hold, rfl⟩ := Option.map_eq_some_iff.1 hid
  have hfree (holder : Holder) : id ∉ t.held holder := by
    rw [← held_hear (f := f), hnone holder]
    exact List.not_mem_nil
  rw [Ticket.hear, isDone_hear]
  exact ((hrecorded.accounts id).closed hfree hold).isDone

/-- Let listeners raise something at verdicts only. The moves that are possible then are those that
are possible with listeners that raise nothing, and they lead to the same state, record and answers
included, but for the outcomes: a verdict stands unless a listener raises something at its event,
and then that is the outcome. Whatever is raised is raised at the verdict on one ticket and is the
outcome of that one. The worker never dies of it; as soon as it has its task it can work off the
queue, and when it has ended and nobody submits a stylesheet any more, every ticket is done. -/
theorem verdict_failures_stay_with_their_tickets (hraises : setup.RaisesAtVerdicts)
    (moves : List Move) :
    ((State.initial setup).after? setup moves).isSome =
      ((State.initial setup.quieted).after? setup.quieted moves).isSome ∧
    ∀ s t, (State.initial setup).after? setup moves = some s →
      (State.initial setup.quieted).after? setup.quieted moves = some t →
      s.Overrules setup (setup.place? moves) t ∧
      (∀ (n : Nat) e failure, (eventsOf s.log)[n]? = some e → setup.listener n e = some failure →
        ∃ id, (∀ i, setup.place? moves i = some n ↔ i = id) ∧ s.FailsBy id failure ∧
          ((∀ holder, s.held holder = []) → s.outcome? id = some (.error failure))) ∧
      (∀ failure, s.worker ≠ .died failure) ∧
      (s.worker ≠ .absent → (s.runWorker setup).worker = .ended ∧
        (s.runWorker setup).queue = [] ∧ (s.runWorker setup).draining = false) ∧
      (s.worker = .ended → (∀ c, ¬ (s.clients c).IsSubmitting) → s.queue = [] ∧
        s.draining = false ∧ (∀ holder, s.held holder = []) ∧
        ∀ ticket ∈ s.tickets, ticket.state.isDone = true) := by
  refine ⟨by rw [after?_initial hraises, Option.isSome_map], fun s t hs ht => ?_⟩
  have hr := Reachable.initial.after hs
  rw [after?_initial hraises, ht, Option.map_some, Option.some.injEq] at hs
  subst hs
  refine ⟨overrules_hear ht, fun n e failure he hl => ?_, hraises.worker_ne_died hr,
    hraises.runWorker hr, fun hended hclients => ?_⟩
  · obtain ⟨id, hn, hfails⟩ := hraises.exists_failsBy ht he hl
    have hcalm := setup.isCalm_quieted
    refine ⟨id, fun i => ⟨fun hi => Run.initial.eq_of_place? hcalm hi hn, ?_⟩, hfails,
      hfails.outcome?_eq⟩
    rintro rfl
    exact hn
  · have hnone := held_eq_nil_of_ended hr.inStep hended hclients
    have hworker := hr.inStep.worker
    rw [hended] at hworker
    exact ⟨hworker.2.2, hworker.2.1, hnone, fun ticket => isDone_of_held_eq_nil ht hnone⟩

end

/-- What the listeners of a session raise: at every stylesheet that is rejected, and at one of those
that are not. -/
def overruling : Nat → Event → Option Failure
  | _, .documentFailed .. => some (.raised "CSSParseError" "rejected twice")
  | _, .documentResolved path _ => if path = "c.css" then some (.raised "ValueError" "no") else none
  | _, _ => none

def overruledSetup : Setup :=
  { sampleSetup with listener := overruling }

theorem raisesAtVerdicts_overruledSetup : overruledSetup.RaisesAtVerdicts := by
  intro n e he
  cases e with
  | documentResolved | documentFailed => exact absurd (by simp [IsOfVerdict, Event.kind]) he
  | _ => rfl

/-- Two stylesheets are submitted before the collection and while the queue is drained, and two
more after that. -/
def overruledMoves : List Move :=
  List.flatten [
    [.call 0 (.submit "a.css" ".used \x7b\x7d")], List.replicate 5 (.client 0),
    List.replicate 9 .worker,
    [.call 1 (.submit "b.css" ".late")], List.replicate 3 (.client 1),
    List.replicate 9 .worker,
    [.call 0 (.submit "c.css" "")], List.replicate 7 (.client 0),
    [.call 1 (.submit "d.css" "")], List.replicate 7 (.client 1)]

/-- Who has raised something at the verdicts, as far as the tickets tell. -/
def State.raisedAt (s : State) (id : Nat) : Option (Option Failure) :=
  (s.outcome? id).map fun
    | .ok _ => none
    | .error failure => some failure

theorem verdict_failures_stay_with_their_tickets_sample : overruledSetup.RaisesAtVerdicts ∧
    ∃ s t, (State.initial overruledSetup).after? overruledSetup overruledMoves = some s ∧
      (State.initial overruledSetup.quieted).after? overruledSetup.quieted overruledMoves = some t ∧
      s.worker = .ended ∧
      (List.range 4).map s.raisedAt = [some none,
        some (some (.raised "CSSParseError" "rejected twice")),
        some (some (.raised "ValueError" "no")), some none] ∧
      (List.range 4).map t.raisedAt = [some none, some none, some none, some none] ∧
      s.Overrules overruledSetup (overruledSetup.place? overruledMoves) t ∧
      (s.runWorker overruledSetup).draining = false := by
  have hraises := raisesAtVerdicts_overruledSetup
  have hrun : ((State.initial overruledSetup).after? overruledSetup overruledMoves).map
      (fun s => (s.worker matches .ended, (List.range 4).map s.raisedAt)) =
      some (true, [some none, some (some (.raised "CSSParseError" "rejected twice")),
        some (some (.raised "ValueError" "no")), some none]) := by
    decide +kernel
  have hquiet : ((State.initial overruledSetup.quieted).after? overruledSetup.quieted
      overruledMoves).map (fun t => (List.range 4).map t.raisedAt) =
      some [some none, some none, some none, some none] := by
    decide +kernel
  obtain ⟨s, hs, hseen⟩ := Option.map_eq_some_iff.1 hrun
  obtain ⟨t, ht, hthere⟩ := Option.map_eq_some_iff.1 hquiet
  simp only [Prod.mk.injEq] at hseen
  have hended : s.worker = .ended := by
    cases hw : s.worker <;> simp [hw] at hseen
    rfl
  obtain ⟨hoverrules, -, -, hdrained, -⟩ :=
    (verdict_failures_stay_with_their_tickets hraises overruledMoves).2 s t hs ht
  exact ⟨hraises, s, t, hs, ht, hended, hseen.2, hthere, hoverrules,
    (hdrained (by simp [hended])).2.2⟩

end StyleUsage.Session
