import StyleUsage.Proofs.Session.Collection
import StyleUsage.Proofs.Session.Custody

/-!
# Verdicts

No stylesheet is analysed before the collection of the used classes is complete, and every verdict
on a stylesheet goes by all of them, whichever way the stylesheet came to its analysis.
-/

namespace StyleUsage.Session

open StyleUsage.Usage

section
variable {setup : Setup} {s t : State} {m : Move}

/-! ## Where verdicts come from -/

/-- The state of a ticket is written, but it is no verdict. -/
theorem ticket_of_setTicket_of_ne {id i : Nat} {state : TicketState} {ticket : Ticket} {v : Verdict}
    (hstate : state ≠ .finished (.ok v)) (hv : ticket.state = .finished (.ok v))
    (h : (s.setTicket id state).tickets[i]? = some ticket) : s.tickets[i]? = some ticket := by
  rcases ticket_of_setTicket h with hold | ⟨-, old, -, rfl⟩
  · exact hold
  · exact absurd hv hstate

/-- A verdict comes on a ticket at the end of its analysis and in no other way. -/
theorem Effect.source_of_verdict {i : Nat} {ticket : Ticket} {v : Verdict}
    (h : Effect setup s m t) (ht : t.tickets[i]? = some ticket)
    (hv : ticket.state = .finished (.ok v)) :
    s.tickets[i]? = some ticket ∨ ∃ holder old, s.held holder = [i] ∧
      s.next holder = .settle (.ok v) ∧ s.tickets[i]? = some old ∧ old.path = ticket.path ∧
      old.css = ticket.css := by
  cases h with
  | still hheld hnext htickets | broken hs ht' htickets | taken hq hf hheld hn hc htickets =>
      exact .inl (htickets ▸ ht)
  | @entered holder new htickets hstate =>
      rw [htickets, List.getElem?_append] at ht
      split at ht
      case isTrue => exact .inl ht
      case isFalse =>
          rw [List.getElem?_singleton] at ht
          split at ht
          · cases ht
            rw [hstate] at hv
            cases hv
          · cases ht
  | cancelled hheld hnext ht' hstate htickets =>
      rw [htickets] at ht
      exact .inl (ticket_of_setTicket_of_ne (by simp) hv ht)
  | rejected hp hs hbegin hr ht' hnext htickets =>
      rw [htickets] at ht
      obtain ⟨old, -, ⟨-, rfl⟩ | ⟨-, rfl⟩⟩ := reject_eq_ok hr <;>
        exact .inl (ticket_of_setTicket_of_ne (by simp) hv ht)
  | analysed hs hm ha ht' htickets =>
      rw [htickets] at ht
      cases ha with
      | begun => exact .inl (ticket_of_setTicket_of_ne (by simp) hv ht)
      | _ => exact .inl ht
  | finished hs hm ha ht' htickets =>
      rw [htickets] at ht
      obtain ⟨hheld, hnext⟩ := hs.held
      cases ha with
      | dropped => exact .inl (ticket_of_setTicket_of_ne (by simp) hv ht)
      | settled =>
          rcases ticket_of_setTicket ht with hold | ⟨rfl, old, hold, rfl⟩
          · exact .inl hold
          · cases hv
            exact .inr ⟨_, old, hheld, hnext, hold, rfl, rfl⟩

/-- A verdict that waits to be written with a holder that the step leaves alone has waited there
before. -/
theorem SameExcept.settling {changed holder : Holder} {i : Nat} {v : Verdict}
    (hsame : SameExcept changed s t) (hi : i ∈ t.held holder)
    (hv : t.next holder = .settle (.ok v)) :
    holder = changed ∨ i ∈ s.held holder ∧ s.next holder = .settle (.ok v) := by
  by_cases hc : holder = changed
  · exact .inl hc
  · obtain ⟨hheld, hnext⟩ := hsame holder hc
    exact .inr ⟨hheld ▸ hi, hnext ▸ hv⟩

/-- A verdict that waits to be written has been found just now, or has waited before. -/
theorem Effect.source_of_settling {holder : Holder} {i : Nat} {v : Verdict}
    (h : Effect setup s m t) (hi : i ∈ t.held holder)
    (hv : t.next holder = .settle (.ok v)) :
    i ∈ s.held holder ∧ s.next holder = .settle (.ok v) ∨
      ∃ used ticket, s.Analyses holder i used .judge ∧ s.tickets[i]? = some ticket ∧
        finding setup used ticket.path ticket.css = .ok v := by
  cases h with
  | still hheld hnext | cancelled hheld hnext => exact .inl ⟨hheld ▸ hi, hnext ▸ hv⟩
  | entered htickets hstate hheld hbegin hnext hsame
  | rejected hp hs hbegin hr ht hnext htickets hsame =>
      rcases hsame.settling hi hv with rfl | hbefore
      · rw [hnext] at hv
        cases hv
      · exact .inl hbefore
  | taken hqueue hfree hheld hnext hclients =>
      rw [hnext] at hv
      cases holder with
      | queue => cases hv
      | worker =>
          have hpast : s.next .worker ≠ .begin := by simp [hv]
          obtain ⟨id, used, ha⟩ := analyses_of_next_ne hpast
          rw [ha.held.1] at hfree
          cases hfree
      | client c => exact .inl ⟨hclients c ▸ hi, hv⟩
  | @analysed changed id used step next t' hs hm ha ht htickets hlog hsame =>
      rcases hsame.settling hi hv with rfl | hbefore
      · obtain ⟨hheld, hnext⟩ := ht.held
        rw [hheld, List.mem_singleton] at hi
        rw [hnext] at hv
        subst hi hv
        cases ha with
        | judged hticket hlog hwarnings hroom =>
            exact .inr ⟨used, _, hs, hticket, finding_eq_ok_iff.2 ⟨hroom, rfl⟩⟩
      · exact .inl hbefore
  | finished hs hm ha ht htickets hlog hsame | broken hs ht htickets hsame =>
      rcases hsame.settling hi hv with rfl | hbefore
      · rw [ht] at hi
        cases hi
      · exact .inl hbefore

/-- Only an analysis announces something of a stylesheet. -/
theorem Effect.analyses_of_events_ne (h : Effect setup s m t)
    (hevents : t.analysisEvents ≠ s.analysisEvents) :
    ∃ holder id used step, s.Analyses holder id used step := by
  cases h with
  | analysed hs | finished hs => exact ⟨_, _, _, _, hs⟩
  | broken hs ht htickets hsame hcomplete => exact ⟨_, hcomplete hevents⟩
  | still hheld hnext htickets hsame | entered htickets hstate hheld hbegin hnext hothers hsame
  | taken hqueue hfree hheld hnext hclients htickets hsame
  | rejected hp hs hbegin hr ht hnext htickets hothers hsame
  | cancelled hheld hnext ht hstate htickets hsame => exact absurd hsame hevents

/-! ## The invariant -/

/-- A verdict that goes by the complete used set. -/
def State.Vouches (s : State) (setup : Setup) (ticket : Ticket) (v : Verdict) : Prop :=
  s.IsComplete setup ∧ finding setup s.accumulator.used ticket.path ticket.css = .ok v

/-- Verdicts, and what is announced of them, go by the complete used set. -/
structure Informed (setup : Setup) (s : State) : Prop where
  complete : s.analysisEvents ≠ [] → s.IsComplete setup
  finished : ∀ {i : Nat} {ticket : Ticket} {v : Verdict}, s.tickets[i]? = some ticket →
    ticket.state = .finished (.ok v) → s.Vouches setup ticket v
  settling : ∀ {holder : Holder} {i : Nat} {v : Verdict}, i ∈ s.held holder →
    s.next holder = .settle (.ok v) →
    ∃ ticket, s.tickets[i]? = some ticket ∧ s.Vouches setup ticket v

theorem informed_initial (setup : Setup) : Informed setup (.initial setup) where
  complete h := absurd rfl h
  finished h := by simp [State.initial] at h
  settling {holder i v} hheld := by
    cases holder <;> simp [State.initial, State.held, Worker.held, Client.held] at hheld

theorem State.Vouches.step {old ticket : Ticket} {v : Verdict} (h : s.Vouches setup old v)
    (hstep : Step setup s m t) (hpath : old.path = ticket.path) (hcss : old.css = ticket.css) :
    t.Vouches setup ticket v := by
  obtain ⟨hcomplete, hv⟩ := h
  refine ⟨hcomplete.step hstep, ?_⟩
  rw [hstep.accumulator_eq hcomplete.isFrozen, ← hpath, ← hcss, hv]

theorem Step.informed (hs : Informed setup s) (hr : Reachable setup s) (h : Step setup s m t) :
    Informed setup t := by
  have heffect := h.effect hr.inStep hr.launch
  have hused {holder : Holder} {id : Nat} {used : List String} {step : Analysis}
      (ha : s.Analyses holder id used step) :
      s.IsComplete setup ∧ used = s.accumulator.used :=
    hr.gathered.collected used (ha.collected hr.inStep).2
  refine ⟨fun hevents => ?_, fun {i ticket v} ht hv => ?_, fun hi hv => ?_⟩
  · by_cases hsame : t.analysisEvents = s.analysisEvents
    · exact (hs.complete (hsame ▸ hevents)).step h
    · obtain ⟨holder, id, used, step, ha⟩ := heffect.analyses_of_events_ne hsame
      exact (hused ha).1.step h
  · rcases heffect.source_of_verdict ht hv with hold | ⟨holder, old, hheld, hnext, hold, hp, hc⟩
    · exact (hs.finished hold hv).step h rfl rfl
    · obtain ⟨ticket, hticket, hvouch⟩ := hs.settling (hheld ▸ List.mem_singleton_self i) hnext
      rw [hold] at hticket
      cases hticket
      exact hvouch.step h hp hc
  · rcases heffect.source_of_settling hi hv with ⟨hheld, hnext⟩ | ⟨used, old, ha, hold, hverdict⟩
    · obtain ⟨old, hold, hvouch⟩ := hs.settling hheld hnext
      obtain ⟨ticket, hticket, hp, hc⟩ := heffect.text hold
      exact ⟨ticket, hticket, hvouch.step h hp.symm hc.symm⟩
    · obtain ⟨ticket, hticket, hp, hc⟩ := heffect.text hold
      obtain ⟨hcomplete, rfl⟩ := hused ha
      exact ⟨ticket, hticket, State.Vouches.step ⟨hcomplete, hverdict⟩ h hp.symm hc.symm⟩

theorem Reachable.informed (h : Reachable setup s) : Informed setup s :=
  h.invariant (informed_initial setup) fun hr hs hstep => hstep.informed hs hr

/-! ## No early verdict -/

/-- Before the collection is complete, no step announces anything of a stylesheet or gives it a
verdict; and every report on a stylesheet goes by what all the sources use. -/
theorem verdicts_after_collection (h : Reachable setup s) :
    (¬ s.IsComplete setup → ∀ m t, s.step? setup m = some t →
      t.analysisEvents = [] ∧ ∀ ticket ∈ t.tickets, ∀ v, ticket.state ≠ .finished (.ok v)) ∧
    ∀ ticket ∈ s.tickets, ∀ v report, ticket.state = .finished (.ok v) → v.outcome = .ok report →
      ∃ sheet, ∃ used : List String, Stylesheet.parse ticket.css = .ok sheet ∧
        (∀ name, name ∈ used ↔ ∃ source ∈ setup.load.sources,
          Uses (collectors setup.directives) source.text name) ∧
        report = .of sheet used.contains (isExempt setup.exemptions) := by
  constructor
  · intro hearly m t hm
    have hstep := step_of_step? hm
    have heffect := hstep.effect h.inStep h.launch
    constructor
    · by_cases hsame : t.analysisEvents = s.analysisEvents
      · rw [hsame]
        exact Classical.byContradiction fun hne => hearly (h.informed.complete hne)
      · obtain ⟨holder, id, used, step, ha⟩ := heffect.analyses_of_events_ne hsame
        exact absurd (h.gathered.collected used (ha.collected h.inStep).2).1 hearly
    · intro ticket hticket v hv
      obtain ⟨i, hi⟩ := List.mem_iff_getElem?.1 hticket
      rcases heffect.source_of_verdict hi hv with hold | ⟨holder, old, hheld, hnext, -⟩
      · exact hearly (h.informed.finished hold hv).1
      · obtain ⟨waiting, -, hvouch⟩ := h.informed.settling (hheld ▸ List.mem_singleton_self i) hnext
        exact hearly hvouch.1
  · intro ticket hticket v report hv hreport
    obtain ⟨i, hi⟩ := List.mem_iff_getElem?.1 hticket
    obtain ⟨hcomplete, hfound⟩ := h.informed.finished hi hv
    obtain ⟨-, rfl⟩ := finding_eq_ok_iff.1 hfound
    cases hsheet : Stylesheet.parse ticket.css with
    | error e =>
        simp only [verdict, hsheet] at hreport
        cases hreport
    | ok sheet =>
        simp only [verdict, hsheet] at hreport
        cases hreport
        exact ⟨sheet, s.accumulator.used, rfl, hcomplete.mem_used, rfl⟩

end

/-- A session whose only source uses one class. -/
def sampleSetup : Setup where
  patterns := [.text "page.html"]
  directives := false
  exemptions := []
  load := ⟨[], [⟨"page.html", "<p class='used'>"⟩], none⟩
  listener := quiet

/-- Three stylesheets are submitted: before the collection, while the queue is drained, and after
that. -/
def sampleMoves : List Move :=
  [.call 0 (.submit "a.css" ".used, .spare \x7b\x7d")] ++ List.replicate 5 (.client 0) ++
    List.replicate 9 .worker ++
    [.call 1 (.submit "b.css" ".late \x7b\x7d")] ++ List.replicate 3 (.client 1) ++
    List.replicate 9 .worker ++
    [.call 0 (.submit "c.css" "@charset;")] ++ List.replicate 7 (.client 0)

/-- The reports on the tickets of a session, as far as there are any. -/
def State.reports (s : State) : List (Option Report) :=
  s.tickets.map fun ticket =>
    match ticket.state with
    | .finished (.ok v) => v.report?
    | _ => none

theorem verdicts_after_collection_sample :
    ∃ s, Reachable sampleSetup s ∧
      s.reports = [some ⟨["used", "spare"], ["spare"]⟩, some ⟨["late"], ["late"]⟩, some ⟨[], []⟩] ∧
      ∀ ticket ∈ s.tickets, ∀ v report, ticket.state = .finished (.ok v) →
        v.outcome = .ok report →
        ∃ sheet, ∃ used : List String, Stylesheet.parse ticket.css = .ok sheet ∧
          (∀ name, name ∈ used ↔ ∃ source ∈ sampleSetup.load.sources,
            Uses (collectors sampleSetup.directives) source.text name) ∧
          report = .of sheet used.contains (isExempt sampleSetup.exemptions) := by
  have hrun : ((State.initial sampleSetup).after? sampleSetup sampleMoves).map State.reports =
      some [some ⟨["used", "spare"], ["spare"]⟩, some ⟨["late"], ["late"]⟩, some ⟨[], []⟩] := by
    decide +kernel
  obtain ⟨s, hs, hreports⟩ := Option.map_eq_some_iff.1 hrun
  have hreachable := Reachable.initial.after hs
  exact ⟨s, hreachable, hreports, (verdicts_after_collection hreachable).2⟩

end StyleUsage.Session
