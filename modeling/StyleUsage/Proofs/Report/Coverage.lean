import Mathlib
import StyleUsage.Proofs.Report.Exactness
import StyleUsage.Proofs.Session.Release

/-!
# More coverage, fewer reports

A session that is given more sources, more exemptions and the directives besides finds the same
declared classes in a stylesheet and reports no class that a session with less does not report.
Order and repetition of sources and exemptions make no difference.
-/

namespace StyleUsage

open Usage

theorem Report.unused_sublist {sheet : Stylesheet} {used used' exempt exempt' : String → Bool}
    (hused : ∀ name, used name = true → used' name = true)
    (hexempt : ∀ name, exempt name = true → exempt' name = true) :
    (Report.of sheet used' exempt').unused.Sublist (Report.of sheet used exempt).unused := by
  apply List.monotone_filter_right
  intro name h
  rw [Bool.and_eq_true, Bool.not_eq_true', Bool.not_eq_true'] at h ⊢
  constructor
  · exact Bool.eq_false_iff.2 fun he => Bool.eq_false_iff.1 h.1 (hexempt name he)
  · exact Bool.eq_false_iff.2 fun hu => Bool.eq_false_iff.1 h.2 (hused name hu)

/-- A stylesheet stays clean when less is reported on it. -/
theorem Report.isClean_of_sublist {sheet : Stylesheet} {used used' exempt exempt' : String → Bool}
    (h : (Report.of sheet used' exempt').unused.Sublist (Report.of sheet used exempt).unused)
    (hclean : (Report.of sheet used exempt).isClean = true) :
    (Report.of sheet used' exempt').isClean = true := by
  rw [Report.isClean_of, List.isEmpty_iff] at hclean ⊢
  rw [hclean] at h
  exact List.sublist_nil.1 h

theorem isExempt_of_subset {exemptions more : List Exemption} {name : String}
    (hsubset : exemptions ⊆ more) (h : isExempt exemptions name = true) :
    isExempt more name = true := by
  rw [isExempt, List.any_eq_true] at h ⊢
  obtain ⟨e, he, hcovers⟩ := h
  exact ⟨e, hsubset he, hcovers⟩

namespace Usage

theorem collectors_subset {directives directives' : Bool}
    (h : directives = true → directives' = true) :
    collectors directives ⊆ collectors directives' := by
  cases directives with
  | true => rw [h rfl]; exact List.Subset.refl _
  | false => cases directives' <;> simp [collectors]

/-- No collector keeps another one from finding a name. -/
theorem Uses.of_subset {fewer more : List Collector} {markup name : String}
    (hsubset : fewer ⊆ more) (h : Uses fewer markup name) : Uses more markup name := by
  obtain ⟨hname, tags, htags, collector, hcollector, hfound⟩ := h
  exact ⟨hname, tags, htags, collector, hsubset hcollector, hfound⟩

end Usage

namespace Session

/-- A session is given at least what another one is given. -/
structure Setup.IsCoveredBy (setup more : Setup) : Prop where
  sources : setup.load.sources.map (·.text) ⊆ more.load.sources.map (·.text)
  exemptions : setup.exemptions ⊆ more.exemptions
  directives : setup.directives = true → more.directives = true

/-- At some time, the session has got that report on a stylesheet. -/
def Setup.ReportsOn (setup : Setup) (path css : String) (r : Report) : Prop :=
  ∃ s, Reachable setup s ∧ ∃ ticket ∈ s.tickets, ticket.path = path ∧ ticket.css = css ∧
    ∃ v, ticket.state = .finished (.ok v) ∧ v.outcome = .ok r

variable {setup more : Setup} {path path' css : String} {r r' : Report}

/-- Every report goes by the names that some source of the session uses, and there has been room
for reading the stylesheet. -/
theorem Setup.ReportsOn.eq_of (h : setup.ReportsOn path css r) :
    ∃ sheet, ∃ used : List String, Stylesheet.parse css = .ok sheet ∧
      Stylesheet.isTooDeep css = false ∧
      (∀ name, name ∈ used ↔ ∃ text ∈ setup.load.sources.map (·.text),
        Uses (collectors setup.directives) text name) ∧
      r = .of sheet used.contains (isExempt setup.exemptions) := by
  obtain ⟨s, hs, ticket, hticket, -, rfl, v, hv, hr⟩ := h
  obtain ⟨i, hi⟩ := List.mem_iff_getElem?.1 hticket
  obtain ⟨hcomplete, hfinding⟩ := hs.informed.finished hi hv
  obtain ⟨hroom, rfl⟩ := finding_eq_ok_iff.1 hfinding
  cases hsheet : Stylesheet.parse ticket.css with
  | error e =>
      simp only [verdict, hsheet] at hr
      cases hr
  | ok sheet =>
      simp only [verdict, hsheet] at hr
      cases hr
      refine ⟨sheet, s.accumulator.used, rfl, hroom, fun name => ?_, rfl⟩
      rw [hcomplete.mem_used]
      simp only [List.mem_map, exists_exists_and_eq_and]

/-- A stylesheet gets its report when a client submits it to a session whose collection succeeds, if
there is room for reading it. -/
theorem Setup.reportsOn_of (hquiet : ∀ n e, setup.listener n e = none) {used : List String}
    {sheet : Stylesheet} (hcollection : setup.collection = .ok used)
    (hsheet : Stylesheet.parse css = .ok sheet) (hroom : Stylesheet.isTooDeep css = false)
    (path : String) :
    setup.ReportsOn path css (.of sheet used.contains (isExempt setup.exemptions)) := by
  obtain ⟨hreleased, hended⟩ := released_hasEnded hquiet [(path, css)] 0
  have htickets := (hreleased.outcomes hquiet hended).1
  refine ⟨_, hreleased.reachable .initial, ⟨path, css, .finished (setup.outcome path css)⟩, ?_,
    rfl, rfl, verdict setup used path css, ?_, ?_⟩
  · rw [htickets]
    exact List.mem_singleton_self _
  · rw [Setup.outcome, hcollection]
    exact congrArg _ (finding_eq_ok_iff.2 ⟨hroom, rfl⟩)
  · rw [verdict, hsheet]
    rfl

theorem Setup.IsCoveredBy.sublist (h : setup.IsCoveredBy more) (hr : setup.ReportsOn path css r)
    (hr' : more.ReportsOn path' css r') : r'.declared = r.declared ∧ r'.unused.Sublist r.unused ∧
      (r.isClean = true → r'.isClean = true) := by
  obtain ⟨sheet, used, hsheet, -, hused, rfl⟩ := hr.eq_of
  obtain ⟨sheet', used', hsheet', -, hused', rfl⟩ := hr'.eq_of
  have hsame : sheet' = sheet := Except.ok.inj (hsheet'.symm.trans hsheet)
  subst hsame
  have hless : (Report.of sheet' used'.contains (isExempt more.exemptions)).unused.Sublist
      (Report.of sheet' used.contains (isExempt setup.exemptions)).unused := by
    apply Report.unused_sublist
    · intro name hname
      rw [List.contains_iff_mem] at hname ⊢
      obtain ⟨text, htext, huses⟩ := (hused name).1 hname
      exact (hused' name).2 ⟨text, h.sources htext,
        huses.of_subset (collectors_subset h.directives)⟩
    · intro name
      exact isExempt_of_subset h.exemptions
  exact ⟨rfl, hless, Report.isClean_of_sublist hless⟩

/-- Whatever listeners raise and whenever a stylesheet is submitted, the report of a session that is
given more has the same declared classes and no further unused ones; and two sessions that are given
the same, up to order and repetition, report the same. Where nothing goes wrong with the collection,
there are such reports on every stylesheet but those that are too deep to be read. -/
theorem reports_of_isCoveredBy (h : setup.IsCoveredBy more) (css : String) :
    (∀ path path' r r', setup.ReportsOn path css r → more.ReportsOn path' css r' →
      r'.declared = r.declared ∧ r'.unused.Sublist r.unused ∧
      (r.isClean = true → r'.isClean = true) ∧ (more.IsCoveredBy setup → r' = r)) ∧
    ∀ session ∈ [setup, more], (∀ n e, session.listener n e = none) →
      ∀ used sheet, session.collection = .ok used → Stylesheet.parse css = .ok sheet →
      ∀ path, (∃ r, session.ReportsOn path css r) ↔ Stylesheet.isTooDeep css = false := by
  constructor
  · intro path path' r r' hr hr'
    obtain ⟨hdeclared, hunused, hclean⟩ := h.sublist hr hr'
    refine ⟨hdeclared, hunused, hclean, fun hback => ?_⟩
    obtain ⟨-, hunused', -⟩ := hback.sublist hr' hr
    exact congrArg₂ Report.mk hdeclared (hunused.antisymm hunused')
  · intro session _ hquiet used sheet hcollection hsheet path
    constructor
    · rintro ⟨r, hr⟩
      obtain ⟨-, -, -, hroom, -⟩ := hr.eq_of
      exact hroom
    · exact fun hroom => ⟨_, Setup.reportsOn_of hquiet hcollection hsheet hroom path⟩

/-- A session with one source and nothing else. -/
def scantSetup : Setup where
  patterns := []
  directives := false
  exemptions := []
  load := ⟨[], [⟨"page.html", "<p class='used'>"⟩], none⟩
  listener := quiet

/-- The same source after another one, with the directives and an exemption. -/
def ampleSetup : Setup where
  patterns := []
  directives := true
  exemptions := [.name "late"]
  load := ⟨[], [⟨"more.html", "<p [class.Bound]=b>"⟩, ⟨"page.html", "<p class='used'>"⟩], none⟩
  listener := quiet

/-- Two classes are reported with less coverage, and none with more. -/
theorem reports_of_isCoveredBy_sample :
    scantSetup.ReportsOn "a.css" ".used, .Bound, .late \x7b\x7d"
      ⟨["used", "Bound", "late"], ["Bound", "late"]⟩ ∧
    ampleSetup.ReportsOn "b.css" ".used, .Bound, .late \x7b\x7d"
      ⟨["used", "Bound", "late"], []⟩ ∧
    ∀ r, ampleSetup.ReportsOn "a.css" ".used, .Bound, .late \x7b\x7d" r →
      r.declared = ["used", "Bound", "late"] ∧ r.unused.Sublist ["Bound", "late"] := by
  have hcovered : scantSetup.IsCoveredBy ampleSetup := ⟨by decide, by decide, by decide⟩
  have hsheet : Stylesheet.parse ".used, .Bound, .late \x7b\x7d" =
      .ok ⟨[.style [".used", ".Bound", ".late"] [] [] 1]⟩ := by cbv
  have hroom : Stylesheet.isTooDeep ".used, .Bound, .late \x7b\x7d" = false := by decide +kernel
  have hscant : scantSetup.collection = .ok ["used"] := by decide +kernel
  have hample : ampleSetup.collection = .ok ["used", "Bound", "bound"] := by decide +kernel
  have hreport := Setup.reportsOn_of (fun _ _ => rfl) hscant hsheet hroom "a.css"
  have hreport' := Setup.reportsOn_of (fun _ _ => rfl) hample hsheet hroom "b.css"
  obtain ⟨hsublist, -⟩ := reports_of_isCoveredBy hcovered ".used, .Bound, .late \x7b\x7d"
  refine ⟨hreport, hreport', fun r hr => ?_⟩
  obtain ⟨hdeclared, hunused, -⟩ := hsublist _ _ _ _ hreport hr
  exact ⟨hdeclared, hunused⟩

end Session

end StyleUsage
