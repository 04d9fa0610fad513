import StyleUsage.Proofs.Report.Exactness
import StyleUsage.Proofs.Session.Warnings
import StyleUsage.Proofs.Stream.Interleaving

/-!
# What a stream comes to

Each document alone, given the outcome of the collection, says whether it passes and how a stream
stops at it if it does not. A stream passes its documents up to the first one that does not, and
takes that one and no more.
-/

namespace StyleUsage.Stream

open Session
open Session.State (soleClient)

namespace Fate

def isPassing : Fate → Bool
  | passes => true
  | stops .. => false

/-- The failure with which a stream stops. -/
def failure? : Fate → Option Failure
  | passes => none
  | stops failure _ => failure

/-- The notice that is given of a document. -/
def notice? : Fate → Option String
  | passes => none
  | stops _ notice => notice

end Fate

/-- What has to become of a document that can be read, whatever else is in the stream. -/
def prescribed (setup : Setup) (softStop : Bool) (d : Document) : Fate :=
  if d.isNull then .passes
  else if d.isStream then .stops (some (.streamed d.path)) none
  else
    match setup.collection with
    | .error e => .stops (some (.session e)) none
    | .ok used =>
        match Stylesheet.parse d.text with
        | .error e => if softStop then .passes else .stops (some (.notParsed d.path e)) none
        | .ok sheet =>
            match (Report.of sheet used.contains (isExempt setup.exemptions)).unused with
            | [] => .passes
            | names =>
                .stops (if softStop then none else some (.unusedClasses d.path names))
                  (some (unusedNotice d.path names))

/-- The collection succeeds, but there is no room for reading the stylesheet of the document. -/
def founders (setup : Setup) (d : Document) : Bool :=
  !d.isNull && !d.isStream && setup.collection.isOk && Stylesheet.isTooDeep d.text

/-- What becomes of a document, whatever else is in the stream. -/
def fate (setup : Setup) (softStop : Bool) (d : Document) : Fate :=
  if founders setup d then .stops (some (.session .tooDeep)) none else prescribed setup softStop d

/-- The first document that does not pass. -/
def firstStop? (setup : Setup) (softStop : Bool) (documents : List Document) : Option Document :=
  documents.find? fun d => !(fate setup softStop d).isPassing

section
variable {setup : Setup} {softStop : Bool} {s t : State} {d : Document} {f : Fate}
  {documents : List Document} {r : Run}

/-! ## One document -/

/-- The outcome that a stylesheet has to get settles what becomes of its document. -/
theorem fate_of_outcome (hn : d.isNull = false) (hd : d.isStream = false) :
    Fate.ofOutcome softStop d (setup.outcome d.path d.text) = fate setup softStop d := by
  simp only [fate, founders, prescribed, hn, hd, Bool.not_false, Bool.true_and,
    Bool.false_eq_true, if_false, Setup.outcome]
  cases setup.collection with
  | error e => rfl
  | ok used =>
      simp only [Except.isOk, Except.toBool, Bool.true_and, Except.bind, finding]
      cases Stylesheet.isTooDeep d.text with
      | true => rfl
      | false =>
          simp only [Bool.false_eq_true, if_false, Fate.ofOutcome, verdict]
          cases Stylesheet.parse d.text with
          | error e => rfl
          | ok sheet =>
              simp only [Except.map, Report.isClean_of]
              generalize hreport :
                Report.of sheet used.contains (isExempt setup.exemptions) = report
              cases hnames : report.unused <;> simp

/-- After a collection that has succeeded, nothing has to fail with the session. -/
theorem prescribed_ne_session {used : List String} (hused : setup.collection = .ok used)
    (failure : Session.Failure) (notice : Option String) :
    prescribed setup softStop d ≠ .stops (some (.session failure)) notice := by
  unfold prescribed
  rw [hused]
  split
  case isTrue => simp
  case isFalse =>
    split
    case isTrue => simp
    case isFalse =>
      cases Stylesheet.parse d.text with
      | error e => cases softStop <;> simp
      | ok sheet =>
          dsimp only
          split <;> cases softStop <;> simp

/-- After a collection that has succeeded, a stylesheet that declares nothing has to pass. -/
theorem prescribed_of_declared_eq_nil {used : List String} {sheet : Stylesheet}
    (hd : d.isStream = false) (hused : setup.collection = .ok used)
    (hparse : Stylesheet.parse d.text = .ok sheet) (hnone : sheet.declared = []) :
    prescribed setup softStop d = .passes := by
  simp [prescribed, hd, hused, hparse, Report.of, hnone]

/-- Only what is too deep comes to something else than it has to. -/
theorem fate_eq_prescribed_iff :
    fate setup softStop d = prescribed setup softStop d ↔ founders setup d = false := by
  cases h : founders setup d with
  | false => simp [fate, h]
  | true =>
      have hfounders := h
      simp only [founders, Bool.and_eq_true] at hfounders
      obtain ⟨⟨-, hcollection⟩, -⟩ := hfounders
      cases hused : setup.collection with
      | error e => simp [hused, Except.isOk, Except.toBool] at hcollection
      | ok used => simp [fate, h, (prescribed_ne_session hused _ _).symm]

theorem Handles.reachable (h : Handles setup softStop s d t f) (hr : Reachable setup s) :
    Reachable setup t := by
  cases h with
  | null | streamed => exact hr
  | checked hn hd h => exact h.reachable hr

/-- Whatever the worker does in the meantime, it becomes of a document what has to. -/
theorem Handles.fate_eq (hquiet : ∀ n e, setup.listener n e = none) (hr : Reachable setup s)
    (h : Handles setup softStop s d t f) : f = fate setup softStop d := by
  cases h with
  | null hn => simp [fate, founders, prescribed, hn]
  | streamed hn hd => simp [fate, founders, prescribed, hn, hd]
  | checked hn hd h => rw [(h.outcome_eq hquiet hr).1, fate_of_outcome hn hd]

theorem hasOpened_of_collected (hs : s.InStep) (h : s.collected ≠ none) : s.worker.HasOpened := by
  have hworker := hs.worker
  cases hw : s.worker <;> simp [hw, State.AgreesWith, h, Worker.HasOpened] at hworker ⊢

/-- Notice is given of a document only after the collection. -/
theorem Handles.warned {failure : Option Failure} {notice : Option String}
    (hquiet : ∀ n e, setup.listener n e = none) (hr : Reachable setup s)
    (h : Handles setup softStop s d t (.stops failure notice)) :
    Warned setup notice.toList (noteOf t notice) := by
  have ht := h.reachable hr
  cases notice with
  | none => exact ht.warned
  | some message =>
      refine ht.warned.note ?_ message
      generalize hf : Fate.stops failure (some message) = f at h
      cases h with
      | null | streamed => cases hf
      | checked hn hd h => exact hasOpened_of_collected ht.inStep (h.outcome_eq hquiet hr).2

theorem Handles.present (h : Handles setup softStop s d t f) (hr : Reachable setup s)
    (hs : s.worker ≠ .absent) : t.worker ≠ .absent := by
  cases h with
  | null | streamed => exact hs
  | checked hn hd h =>
      obtain ⟨u, hcall, hmoves, -⟩ := h
      exact hmoves.present (hr.step _ hcall) ((step_of_step? hcall).present hr.launch hs)

/-! ## All documents -/

/-- A stream passes the documents up to the first one that does not pass, stops there with the
failure that this one asks for, and has taken it, but none after it. -/
structure Follows (setup : Setup) (softStop : Bool) (documents : List Document) (r : Run) :
    Prop where
  passed : r.passed = documents.takeWhile fun d => (fate setup softStop d).isPassing
  failure : r.failure =
    (firstStop? setup softStop documents).bind fun d => (fate setup softStop d).failure?
  taken : r.taken = min documents.length (r.passed.length + 1)

/-- A stream fails at the first document that does not pass if there is no room for it. -/
theorem Follows.of_founders {before after : List Document}
    (h : Follows setup softStop (before ++ d :: after) r)
    (hbefore : ∀ earlier ∈ before, (fate setup softStop earlier).isPassing = true)
    (hd : founders setup d = true) : r.passed = before ∧ r.failure = some (.session .tooDeep) := by
  have hfate : fate setup softStop d = .stops (some (.session .tooDeep)) none := if_pos hd
  have hstops : (fate setup softStop d).isPassing = false := by rw [hfate]; rfl
  have hstop : firstStop? setup softStop (before ++ d :: after) = some d := by
    refine List.find?_eq_some_iff_append.2 ⟨by simp [hstops], before, after, rfl, ?_⟩
    intro earlier hearlier
    simpa using hbefore earlier hearlier
  constructor
  · rw [h.passed, List.takeWhile_append_of_pos hbefore,
      List.takeWhile_cons_of_neg (by simp [hstops]), List.append_nil]
  · rw [h.failure, hstop, Option.bind_some, hfate]
    rfl

/-- The notice about the document at which a stream stops, if one is given. -/
def lastNotice (setup : Setup) (softStop : Bool) (documents : List Document) : List String :=
  ((firstStop? setup softStop documents).bind fun d => (fate setup softStop d).notice?).toList

/-- What a stream has to come to. Beside the warnings of the loader it gives the one notice. -/
structure Meets (setup : Setup) (softStop : Bool) (documents : List Document) (r : Run) : Prop
    extends Follows setup softStop documents r where
  warnings : r.session.warnings = setup.load.notices ++ lastNotice setup softStop documents

/-- What a stream has come to before the worker stops. -/
structure Nears (setup : Setup) (softStop : Bool) (documents : List Document) (r : Run) : Prop
    extends Follows setup softStop documents r where
  warned : Warned setup (lastNotice setup softStop documents) r.session
  present : r.session.worker ≠ .absent

theorem Streams.nears (hquiet : ∀ n e, setup.listener n e = none)
    (h : Streams setup softStop s documents r) (hr : Reachable setup s)
    (hpresent : s.worker ≠ .absent) : Nears setup softStop documents r := by
  induction h with
  | drained => exact ⟨⟨rfl, rfl, rfl⟩, hr.warned, hpresent⟩
  | @passed s t d rest r h hrest ih =>
      have hfate : fate setup softStop d = .passes := (h.fate_eq hquiet hr).symm
      have hs := ih (h.reachable hr) (h.present hr hpresent)
      have hstop : firstStop? setup softStop (d :: rest) = firstStop? setup softStop rest :=
        List.find?_cons_of_neg (by simp [hfate, Fate.isPassing])
      refine ⟨⟨?_, hstop ▸ hs.failure, ?_⟩, ?_, hs.present⟩
      · rw [Run.pass, hs.passed, List.takeWhile_cons_of_pos (by simp [hfate, Fate.isPassing])]
      · have htaken := hs.taken
        simp only [Run.pass, List.length_cons]
        omega
      · rw [lastNotice, hstop]
        exact hs.warned
  | @stopped s t d rest failure notice h =>
      have hfate : fate setup softStop d = .stops failure notice := (h.fate_eq hquiet hr).symm
      have hstop : firstStop? setup softStop (d :: rest) = some d :=
        List.find?_cons_of_pos (by simp [hfate, Fate.isPassing])
      have hnotice : lastNotice setup softStop (d :: rest) = notice.toList := by
        simp [lastNotice, hstop, hfate, Fate.notice?]
      have hnoted : (noteOf t notice).worker = t.worker := by cases notice <;> rfl
      refine ⟨⟨?_, ?_, ?_⟩, hnotice ▸ h.warned hquiet hr, ?_⟩
      · rw [endWith, List.takeWhile_cons_of_neg (by simp [hfate, Fate.isPassing])]
      · simp [hstop, hfate, endWith, Fate.failure?]
      · simp only [endWith, List.length_cons, List.length_nil]
        omega
      · rw [endWith, hnoted]
        exact h.present hr hpresent

/-! ## The start and the end -/

/-- How far the start of a session has come. -/
def IsStarting (s : State) : Client → Prop
  | .starting .start => s.started = false
  | .launching .start | .spawning .start => True
  | .returned (.ok none) => s.worker ≠ .absent
  | _ => False

theorem isStarting_worker {stage : Client} (hs : IsStarting s stage) (h : WorkerStep setup s t) :
    IsStarting t stage := by
  unfold IsStarting at hs ⊢
  split at hs
  · exact h.frame.2.2.1.trans hs
  · trivial
  · trivial
  · exact h.present
  · exact hs.elim

theorem isStarting_client (hquiet : ∀ n e, setup.listener n e = none)
    (hs : IsStarting s (s.clients soleClient)) (h : ClientStep setup s soleClient t) :
    IsStarting t (t.clients soleClient) := by
  cases h with
  | joined hc hstarted | launched hc hstarted | told hc | spawned hc =>
      rw [hc] at hs
      unfold IsStarting at hs
      split at hs <;> simp_all [State.setClient, Request.onward, IsStarting]
  | toldInVain hc hl | noticedInVain hc ht hl =>
      rw [hquiet] at hl
      cases hl
  | _ hc =>
      rw [hc] at hs
      exact hs.elim

/-- Once the start of a session is answered, the worker has its task. -/
theorem isStarting_of_onward (hquiet : ∀ n e, setup.listener n e = none)
    (hcall : (State.initial setup).step? setup (.call soleClient .start) = some s)
    (hmoves : s.LeadsTo setup IsOnward t) : IsStarting t (t.clients soleClient) := by
  have hs : IsStarting s (s.clients soleClient) := by
    cases step_of_step? hcall
    rw [clients_setClient]
    rfl
  refine hmoves.keeps (Q := fun u => IsStarting u (u.clients soleClient)) hs ?_
  rintro u v m (rfl | rfl) hu hm
  · cases step_of_step? hm with
    | worker h =>
        rw [h.frame.2.1]
        exact isStarting_worker hu h
  · cases step_of_step? hm with
    | client h => exact isStarting_client hquiet hu h

theorem hasOpened_of_stopped (hpresent : s.worker ≠ .absent) (h : s.workerStep? setup = none) :
    s.worker.HasOpened := by
  rcases stopped_of_workerStep?_eq_none h with hw | hw | ⟨e, hw⟩
  · exact absurd hw hpresent
  · simp [hw, Worker.HasOpened]
  · simp [hw, Worker.HasOpened]

theorem Runs.meets (hquiet : ∀ n e, setup.listener n e = none)
    (h : Runs setup softStop documents r) : Meets setup softStop documents r := by
  cases h with
  | refused hcall hmoves hc =>
      have hstarting := isStarting_of_onward hquiet hcall hmoves
      rw [hc] at hstarting
      exact hstarting.elim
  | @ended s t u r hcall hmoves hc h hrest hstopped =>
      have hstarting := isStarting_of_onward hquiet hcall hmoves
      rw [hc] at hstarting
      have ht : Reachable setup t := hmoves.reachable (Reachable.initial.step _ hcall)
      have hnears := h.nears hquiet ht hstarting
      -- the notice may stand in the record by now, but the worker goes on as before
      obtain ⟨hwarned, hpresent⟩ := hrest.keeps
        (Q := fun u => Warned setup (lastNotice setup softStop documents) u ∧ u.worker ≠ .absent)
        ⟨hnears.warned, hnears.present⟩ (by
        rintro v w m rfl ⟨hv, -⟩ hm
        cases step_of_step? hm with
        | worker h => exact ⟨h.warned hv, h.present⟩)
      have hopened := hasOpened_of_stopped hpresent hstopped
      exact ⟨⟨hnears.passed, hnears.failure, hnears.taken⟩, hwarned.opened hopened⟩

/-- Whatever the worker does while a stream deals with its documents, the stream passes the
documents up to the first one that, taken alone, does not pass; it stops there with the failure or
the silence that this one asks for, gives notice of it if it has unused classes, and takes no other
document. Run to its end, a stream does come to this. What becomes of a document is what has to,
unless there is no room for reading it after a collection that has succeeded. -/
theorem stream_meets_specification (hquiet : ∀ n e, setup.listener n e = none) (softStop : Bool)
    (documents : List Document) :
    (∀ r, Runs setup softStop documents r → Meets setup softStop documents r) ∧
      Runs setup softStop documents (run setup softStop documents) ∧
      ∀ d, fate setup softStop d = prescribed setup softStop d ↔ founders setup d = false :=
  ⟨fun _ h => h.meets hquiet, runs_run hquiet softStop documents, fun _ => fate_eq_prescribed_iff⟩

end

/-- A stylesheet of a thousand blocks within each other. -/
def deepDocument : Document :=
  ⟨"a.css", .text (Stylesheet.nestedText 1000)⟩

/-- The deep stylesheet has to pass, but a stream that is to stop quietly fails at it. -/
theorem stream_fails_at_deep_document : ∃ r, Runs emptySetup true [deepDocument] r ∧
    prescribed emptySetup true deepDocument = .passes ∧ r.passed = [] ∧
    r.failure = some (.session .tooDeep) := by
  have hquiet : ∀ n e, emptySetup.listener n e = none := fun _ _ => rfl
  have hn : deepDocument.isNull = false := rfl
  have hs : deepDocument.isStream = false := rfl
  have hcollection : emptySetup.collection = .ok [] := rfl
  -- for any text, so that this one is not evaluated
  have hany (css : String) : (⟨"a.css", .text css⟩ : Document).text = css := rfl
  have htext : deepDocument.text = Stylesheet.nestedText 1000 := by
    rw [deepDocument, hany]
  obtain ⟨⟨sheet, hparse, hdeclared⟩, -⟩ := Stylesheet.nestedText_reads 1000
  have hdeep := Stylesheet.isTooDeep_thousand
  rw [← htext] at hparse hdeep
  have hfounders : founders emptySetup deepDocument = true := by
    simp [founders, hn, hs, hdeep, hcollection, Except.isOk, Except.toBool]
  have hruns := runs_run hquiet true [deepDocument]
  have hfollows : Follows emptySetup true ([] ++ deepDocument :: []) _ :=
    (hruns.meets hquiet).toFollows
  obtain ⟨hpassed, hfailure⟩ := hfollows.of_founders (List.forall_mem_nil _) hfounders
  exact ⟨_, hruns, prescribed_of_declared_eq_nil hs hcollection hparse hdeclared, hpassed,
    hfailure⟩

/-- A session whose loader warns of something and whose only source uses one class. -/
def noticedSetup : Setup where
  patterns := []
  directives := false
  exemptions := []
  load := ⟨["No markup in empty.html"], [⟨"page.html", "<p class='used'>"⟩], none⟩
  listener := quiet

/-- A placeholder, a clean stylesheet, one that is none, and two with unused classes. -/
def variedDocuments : List Document :=
  [⟨"empty.css", .none⟩, ⟨"a.css", .text ".used \x7b\x7d"⟩, ⟨"b.css", .text ".a \x7b"⟩,
    ⟨"c.css", .text ".spare \x7b\x7d .used \x7b\x7d"⟩, ⟨"d.css", .text ".spare \x7b\x7d"⟩]

/-- Once the stream stops quietly, and once, without the stylesheet that is none, with a failure. -/
theorem stream_meets_specification_sample :
    (∃ r, Runs noticedSetup true variedDocuments r ∧ r.passed = variedDocuments.take 3 ∧
      r.failure = none ∧ r.taken = 4 ∧
      r.session.warnings = ["No markup in empty.html", "Unused CSS classes c.css spare"]) ∧
    ∃ r, Runs noticedSetup false (variedDocuments.eraseIdx 2) r ∧
      r.passed = variedDocuments.take 2 ∧
      r.failure = some (.unusedClasses "c.css" ["spare"]) ∧ r.taken = 3 ∧
      r.session.warnings = ["No markup in empty.html", "Unused CSS classes c.css spare"] := by
  have hquiet : ∀ n e, noticedSetup.listener n e = none := fun _ _ => rfl
  constructor
  · obtain ⟨hmeets, hruns, -⟩ := stream_meets_specification hquiet true variedDocuments
    have h := hmeets _ hruns
    have hpassed := h.passed.trans (by decide +kernel : _ = variedDocuments.take 3)
    refine ⟨_, hruns, hpassed, h.failure.trans (by decide +kernel), ?_,
      h.warnings.trans (by decide +kernel)⟩
    rw [h.taken, hpassed]
    rfl
  · obtain ⟨hmeets, hruns, -⟩ :=
      stream_meets_specification hquiet false (variedDocuments.eraseIdx 2)
    have h := hmeets _ hruns
    have hpassed := h.passed.trans (by decide +kernel : _ = variedDocuments.take 2)
    refine ⟨_, hruns, hpassed, h.failure.trans (by decide +kernel), ?_,
      h.warnings.trans (by decide +kernel)⟩
    rw [h.taken, hpassed]
    rfl

end StyleUsage.Stream
