import StyleUsage.Proofs.Command.Arguments
import StyleUsage.Proofs.Command.Requests
import StyleUsage.Proofs.Files.Lookup
import StyleUsage.Proofs.Stream.Specification

/-!
# What a check reports

A check of stylesheets that can be read prints one line for each document that its stream passes,
and its exit code tells whether the stream has ended with a failure.
-/

namespace StyleUsage.Command

open Session

/-- A document has the path of a stylesheet that can be read, and its contents. -/
def IsStylesheet (tree : Files.Tree) (path : String) (d : Document) : Prop :=
  '\x00' ∉ path.toList ∧ ∃ bytes fault,
    tree.find? path.toList = some (.file bytes fault) ∧ d = ⟨path, .bytes bytes⟩

/-- The failures of a stream that a check reports. -/
inductive IsReported : Stream.Failure → Prop where
  | unusedClasses (path : String) (names : List String) : IsReported (.unusedClasses path names)
  | notParsed (path : String) (error : Stylesheet.ParseError) : IsReported (.notParsed path error)
  | unreadable (error : SourceError) : IsReported (.session (.unreadable error))

/-- A command reports how a stream has run. The line for a document shows its path without styling
sequences. -/
structure Reports (result : Result) (r : Stream.Run) : Prop where
  output : result.output = r.passed.map fun d => "OK: " ++ Text.unstyledText d.path
  exitCode : result.exitCode = if r.failure.isSome then 1 else 0
  escape : result.escape = none
  failure : ∀ failure, r.failure = some failure → IsReported failure

section
variable {tree : Files.Tree} {name : String} {arguments stylesheets : List String}
  {settings : List CheckSetting} {patterns : List Pattern} {documents : List Document}
  {setup : Setup} {softStop : Bool} {d : Document}

/-! ## Documents -/

theorem IsStylesheet.documentAt_eq {path : String} (h : IsStylesheet tree path d) :
    documentAt tree path = d := by
  obtain ⟨-, bytes, fault, hfile, rfl⟩ := h
  simp [documentAt, Files.read_ofText hfile, Except.toOption]

theorem documentsAt_eq (h : List.Forall₂ (IsStylesheet tree) stylesheets documents) :
    stylesheets.map (documentAt tree) = documents := by
  induction h with
  | nil => rfl
  | cons h _ ih => rw [List.map_cons, h.documentAt_eq, ih]

theorem findSome?_obstacle (h : List.Forall₂ (IsStylesheet tree) stylesheets documents) :
    stylesheets.findSome? (stylesheetObstacle? tree) = none := by
  induction h with
  | nil => rfl
  | @cons path d stylesheets documents h _ ih =>
      obtain ⟨hname, bytes, fault, hfile, -⟩ := h
      have hnone : stylesheetObstacle? tree path = none := by
        rw [stylesheetObstacle?, if_neg hname, hfile]
      rw [List.findSome?_cons, hnone]
      exact ih

/-- A stylesheet with contents is neither a placeholder nor a stream. -/
theorem isBuffered_of_mem (h : List.Forall₂ (IsStylesheet tree) stylesheets documents)
    (hd : d ∈ documents) : d.isNull = false ∧ d.isStream = false := by
  induction h with
  | nil => cases hd
  | cons h _ ih =>
      rcases List.mem_cons.1 hd with rfl | hd
      · obtain ⟨-, bytes, fault, -, rfl⟩ := h
        exact ⟨rfl, rfl⟩
      · exact ih hd

/-! ## Failures -/

/-- With `softStop`, a document passes if it does without. -/
theorem isPassing_softStop (h : (Stream.fate setup false d).isPassing = true) :
    (Stream.fate setup true d).isPassing = true := by
  unfold Stream.fate at h ⊢
  split at h
  case isTrue => cases h
  case isFalse hfits =>
  rw [if_neg hfits]
  unfold Stream.prescribed at h ⊢
  split at h
  case isTrue hn => rw [if_pos hn]; rfl
  case isFalse hn =>
    split at h
    case isTrue => cases h
    case isFalse hs =>
      rw [if_neg hn, if_neg hs]
      cases hcollection : setup.collection with
      | error e => simp [hcollection, Stream.Fate.isPassing] at h
      | ok used =>
          cases hparse : Stylesheet.parse d.text with
          | error e => rfl
          | ok sheet =>
              simp only [hcollection, hparse] at h ⊢
              split at h
              · rfl
              · cases h

/-- There is room for reading a document that is not too deep. -/
theorem founders_eq_false (hroom : Stylesheet.isTooDeep d.text = false) :
    Stream.founders setup d = false := by
  simp [Stream.founders, hroom]

/-- A document that is no stream and for which there is room stops a stream only with a failure that
a check reports, and with `softStop` only if the collection has failed. -/
theorem isReported_of_fate {failure : Stream.Failure}
    (hcollection : ∀ e, setup.collection = .error e → ∃ error, e = .unreadable error)
    (hd : d.isStream = false) (hroom : Stream.founders setup d = false)
    (h : (Stream.fate setup softStop d).failure? = some failure) :
    IsReported failure ∧ (softStop = true → ∀ used, setup.collection ≠ .ok used) := by
  rw [Stream.fate_eq_prescribed_iff.2 hroom] at h
  unfold Stream.prescribed at h
  split at h
  case isTrue => cases h
  case isFalse =>
    rw [if_neg (by simp [hd])] at h
    cases hall : setup.collection with
    | error e =>
        obtain ⟨error, rfl⟩ := hcollection e hall
        simp only [hall, Stream.Fate.failure?, Option.some.injEq] at h
        subst h
        exact ⟨.unreadable error, fun _ used hused => by cases hused⟩
    | ok used =>
        simp only [hall] at h
        cases hparse : Stylesheet.parse d.text with
        | error e =>
            simp only [hparse] at h
            cases softStop
            · cases h
              exact ⟨.notParsed _ _, by simp⟩
            · cases h
        | ok sheet =>
            simp only [hparse] at h
            split at h
            case h_1 => cases h
            case h_2 =>
              cases softStop
              · cases h
                exact ⟨.unusedClasses _ _, by simp⟩
              · cases h

theorem isReported_of_follows {r : Stream.Run} {failure : Stream.Failure}
    (hcollection : ∀ e, setup.collection = .error e → ∃ error, e = .unreadable error)
    (hbuffered : ∀ d ∈ documents, d.isStream = false)
    (hroom : ∀ d ∈ documents, Stylesheet.isTooDeep d.text = false)
    (h : Stream.Follows setup softStop documents r) (hfailure : r.failure = some failure) :
    IsReported failure ∧ (softStop = true → ∀ used, setup.collection ≠ .ok used) := by
  rw [h.failure] at hfailure
  obtain ⟨d, hstop, hd⟩ := Option.bind_eq_some_iff.1 hfailure
  have hmem := List.mem_of_find?_eq_some hstop
  exact isReported_of_fate hcollection (hbuffered d hmem) (founders_eq_false (hroom d hmem)) hd

/-! ## Results -/

theorem unstyled_append {s : List Char} (h : '\x1b' ∉ s) (rest : List Char) :
    Text.unstyled (s ++ rest) = s ++ Text.unstyled rest := by
  induction s with
  | nil => rfl
  | cons c s ih =>
      simp only [List.mem_cons, not_or] at h
      have hc := Text.afterStyling?_cons_of_ne (s ++ rest) (Ne.symm h.1)
      rw [List.cons_append, Text.unstyled]
      split
      · simp_all
      · rw [ih h.2, List.cons_append]

theorem unstyledText_append {s : String} (h : '\x1b' ∉ s.toList) (rest : String) :
    Text.unstyledText (s ++ rest) = s ++ Text.unstyledText rest := by
  rw [Text.unstyledText, String.toList_append, unstyled_append h, String.ofList_append,
    String.ofList_toList]
  rfl

/-- Paths without escape characters are shown as they are. -/
theorem Reports.output_of_plain {result : Result} {r : Stream.Run} (h : Reports result r)
    (hplain : ∀ d ∈ r.passed, '\x1b' ∉ d.path.toList) :
    result.output = r.passed.map fun d => "OK: " ++ d.path := by
  rw [h.output]
  refine List.map_congr_left fun d hd => ?_
  rw [Text.unstyledText, Text.unstyled_eq_self (hplain d hd), String.ofList_toList]

/-- A stream whose failures are all reported is reported. -/
theorem reports_checkResult {r : Stream.Run} (verbose : Bool)
    (h : ∀ failure, r.failure = some failure → IsReported failure) :
    Reports (checkResult verbose r) r := by
  have hlines : (r.passed.map fun d => Text.unstyledText ("OK: " ++ d.path)) =
      r.passed.map fun d => "OK: " ++ Text.unstyledText d.path :=
    List.map_congr_left fun d _ => unstyledText_append (by decide) d.path
  unfold checkResult
  cases hfailure : r.failure with
  | none => exact ⟨hlines, by simp [hfailure], rfl, h⟩
  | some failure =>
      cases h failure hfailure with
      | unusedClasses | notParsed | unreadable =>
          exact ⟨hlines, by simp [hfailure, collectionFailure], rfl, h⟩

/-- Streams that come to the same are reported by the same result. -/
theorem Reports.of_follows {result : Result} {r r' : Stream.Run} (h : Reports result r)
    (hr : Stream.Follows setup softStop documents r)
    (hr' : Stream.Follows setup softStop documents r') : Reports result r' := by
  have hpassed : r'.passed = r.passed := hr'.passed.trans hr.passed.symm
  have hfailure : r'.failure = r.failure := hr'.failure.trans hr.failure.symm
  exact ⟨hpassed ▸ h.output, hfailure ▸ h.exitCode, h.escape, hfailure ▸ h.failure⟩

/-- A check whose arguments are in order carries out its stream. -/
theorem check_eq_checkResult
    (hread : readArguments checkTable true arguments = .ok (settings, stylesheets))
    (hhelp : .help ∉ settings) (hsome : stylesheets ≠ [])
    (hdocuments : List.Forall₂ (IsStylesheet tree) stylesheets documents)
    (hfiles : ∃ pattern ∈ filesOf settings, pattern ≠ "")
    (hpatterns : (patternSources settings).mapM Pattern.parse = .ok patterns) :
    check tree name arguments = checkResult (settings.contains .verbose)
      (Stream.run (setupOf tree (optionsFor settings patterns)) (settings.contains .softStop)
        documents) := by
  have hgiven : filesOf settings ≠ [] := by
    obtain ⟨pattern, hmem, -⟩ := hfiles
    exact List.ne_nil_of_mem hmem
  rw [check, checkRequest_eq, hread]
  simp only [if_neg hhelp, hpatterns, if_neg hsome, findSome?_obstacle hdocuments, if_neg hgiven,
    if_pos hfiles, documentsAt_eq hdocuments]
  rfl

/-- The option `--end` changes nothing but how a stream stops. -/
theorem setupOf_softStop (tree : Files.Tree) (settings : List CheckSetting)
    (patterns : List Pattern) : setupOf tree (optionsFor (.softStop :: settings) patterns) =
      setupOf tree (optionsFor settings patterns) := by
  have hdirectives : directivesOf (.softStop :: settings) = directivesOf settings := by
    simp [directivesOf, List.findSome?_append]
  unfold optionsFor
  rw [hdirectives]
  rfl

/-- What a check prints without `--end` comes first in what it prints with that option. -/
theorem isPrefix_takeWhile_isPassing (setup : Setup) (softStop : Bool) (documents : List Document) :
    (documents.takeWhile fun d => (Stream.fate setup softStop d).isPassing) <+:
      documents.takeWhile fun d => (Stream.fate setup true d).isPassing := by
  have hpasses (d : Document) (h : (Stream.fate setup softStop d).isPassing = true) :
      (Stream.fate setup true d).isPassing = true := by
    cases softStop with
    | true => exact h
    | false => exact isPassing_softStop h
  have hsame : (documents.takeWhile fun d => (Stream.fate setup softStop d).isPassing) =
      (documents.takeWhile fun d => (Stream.fate setup true d).isPassing).takeWhile
        fun d => (Stream.fate setup softStop d).isPassing := by
    rw [List.takeWhile_takeWhile]
    congr 1
    funext d
    cases h : (Stream.fate setup softStop d).isPassing with
    | true => simp [hpasses d h]
    | false => simp
  rw [hsame]
  exact List.takeWhile_prefix _

theorem runs_and_meets (tree : Files.Tree) (options : Options) (softStop : Bool)
    (documents : List Document) : Stream.Runs (setupOf tree options) softStop documents
      (Stream.run (setupOf tree options) softStop documents) ∧
    Stream.Meets (setupOf tree options) softStop documents
      (Stream.run (setupOf tree options) softStop documents) :=
  ⟨Stream.runs_run (fun _ _ => rfl) softStop documents,
    (Stream.runs_run (fun _ _ => rfl) softStop documents).meets fun _ _ => rfl⟩

theorem check_reports_run (name : String)
    (hread : readArguments checkTable true arguments = .ok (settings, stylesheets))
    (hhelp : .help ∉ settings) (hsome : stylesheets ≠ [])
    (hdocuments : List.Forall₂ (IsStylesheet tree) stylesheets documents)
    (hroom : ∀ d ∈ documents, Stylesheet.isTooDeep d.text = false)
    (hfiles : ∃ pattern ∈ filesOf settings, pattern ≠ "")
    (hpatterns : (patternSources settings).mapM Pattern.parse = .ok patterns)
    (hcollection : ∀ e, (setupOf tree (optionsFor settings patterns)).collection = .error e →
      ∃ error, e = .unreadable error) :
    Reports (check tree name arguments) (Stream.run (setupOf tree (optionsFor settings patterns))
      (settings.contains .softStop) documents) := by
  rw [check_eq_checkResult hread hhelp hsome hdocuments hfiles hpatterns]
  refine reports_checkResult _ fun failure hfailure => ?_
  have hbuffered : ∀ d ∈ documents, d.isStream = false :=
    fun d hd => (isBuffered_of_mem hdocuments hd).2
  exact (isReported_of_follows hcollection hbuffered hroom
    (runs_and_meets _ _ _ _).2.toFollows hfailure).1

/-- A check that is not asked for help, of stylesheets that can be read and are not too deep, with
some file pattern that is not empty and with patterns of classes that are in order, reports what its
stream decides if the markup can be read or a file of it cannot:
one line for each document that passes, in order, with its path, but without the styling sequences
in it, and exit code 1 if the stream ends with a failure, which is never that a document is a stream
of its own. With `--end` and markup that can be read the exit code is 0, and the lines begin with
those that are printed without. -/
theorem check_reports_stream (name : String)
    (hread : readArguments checkTable true arguments = .ok (settings, stylesheets))
    (hhelp : .help ∉ settings) (hsome : stylesheets ≠ [])
    (hdocuments : List.Forall₂ (IsStylesheet tree) stylesheets documents)
    (hroom : ∀ d ∈ documents, Stylesheet.isTooDeep d.text = false)
    (hfiles : ∃ pattern ∈ filesOf settings, pattern ≠ "")
    (hpatterns : (patternSources settings).mapM Pattern.parse = .ok patterns)
    (hcollection : ∀ e, (setupOf tree (optionsFor settings patterns)).collection = .error e →
      ∃ error, e = .unreadable error) :
    (∀ r, Stream.Runs (setupOf tree (optionsFor settings patterns)) (settings.contains .softStop)
      documents r → Reports (check tree name arguments) r ∧
        ((∀ d ∈ r.passed, '\x1b' ∉ d.path.toList) →
          (check tree name arguments).output = r.passed.map fun d => "OK: " ++ d.path)) ∧
    (∃ r, Stream.Runs (setupOf tree (optionsFor settings patterns)) (settings.contains .softStop)
      documents r) ∧
    (∀ used, (setupOf tree (optionsFor settings patterns)).collection = .ok used →
      (check tree name ("--end" :: arguments)).exitCode = 0) ∧
    (check tree name arguments).output <+: (check tree name ("--end" :: arguments)).output := by
  have hbuffered : ∀ d ∈ documents, d.isStream = false :=
    fun d hd => (isBuffered_of_mem hdocuments hd).2
  have hmeets (softStop : Bool) :=
    (runs_and_meets tree (optionsFor settings patterns) softStop documents).2
  have hreports := check_reports_run name hread hhelp hsome hdocuments hroom hfiles hpatterns
    hcollection
  -- with `--end` the request is the same, save that the stream stops quietly
  have hend : readArguments checkTable true ("--end" :: arguments) =
      .ok (.softStop :: settings, stylesheets) := by
    have hgiven : readArguments checkTable true (CheckSetting.softStop.written ++ arguments) = _ :=
      (CheckSetting.gives .softStop).readArguments
    rw [hread] at hgiven
    exact hgiven
  have hreportsEnd := check_reports_run name hend (by simpa using hhelp) hsome hdocuments hroom
    hfiles hpatterns (setupOf_softStop tree settings patterns ▸ hcollection)
  rw [setupOf_softStop] at hreportsEnd
  have hsoft : (CheckSetting.softStop :: settings).contains .softStop = true := by simp
  rw [hsoft] at hreportsEnd
  refine ⟨fun r hr => ?_, ⟨_, (runs_and_meets _ _ _ _).1⟩, fun used hused => ?_, ?_⟩
  · have hreported := hreports.of_follows (hmeets _).toFollows (hr.meets fun _ _ => rfl).toFollows
    exact ⟨hreported, hreported.output_of_plain⟩
  · rw [hreportsEnd.exitCode]
    cases hfailure : (Stream.run (setupOf tree (optionsFor settings patterns)) true
        documents).failure with
    | none => rfl
    | some failure =>
        have hfails := isReported_of_follows hcollection hbuffered hroom (hmeets true).toFollows
          hfailure
        exact absurd hused (hfails.2 rfl used)
  · rw [hreports.output, hreportsEnd.output, (hmeets _).passed, (hmeets true).passed]
    exact (isPrefix_takeWhile_isPassing _ _ _).map _

end

/-- The bytes of a text of which every character takes one. -/
def bytesOf (text : String) : List UInt8 :=
  text.toList.map fun c => c.toNat.toUInt8

/-- Two stylesheets and a page that uses a class of one of them. -/
def smallTree : Files.Tree :=
  ⟨[], [(["a.css"], .file (bytesOf ".a \x7b\x7d .c-1 \x7b\x7d") none),
    (["b.css"], .file (bytesOf ".b \x7b\x7d") none),
    (["index.html"], .file (bytesOf "<p class='a'></p>") none)]⟩

def smallArguments : List String :=
  ["./a.css", "-f", "", "--files=*.html", "--ignore-pattern", "^c-", "b.css"]

def smallSettings : List CheckSetting :=
  [.files "", .files "*.html", .ignorePattern "^c-"]

def smallPatterns : List Pattern :=
  ((patternSources smallSettings).mapM Pattern.parse).toOption.getD []

/-- The first stylesheet passes, and the second one ends the stream. -/
theorem check_reports_stream_sample :
    (∃ documents r, List.Forall₂ (IsStylesheet smallTree) ["./a.css", "b.css"] documents ∧
      Stream.Runs (setupOf smallTree (optionsFor smallSettings smallPatterns)) false documents r ∧
      r.failure = some (.unusedClasses "b.css" ["b"]) ∧
      Reports (check smallTree "check" smallArguments) r) ∧
    (check smallTree "check" smallArguments).output = ["OK: ./a.css"] ∧
    (check smallTree "check" ("--end" :: smallArguments)).exitCode = 0 ∧
    ["OK: ./a.css"] <+: (check smallTree "check" ("--end" :: smallArguments)).output := by
  have hread : readArguments checkTable true smallArguments =
      .ok (smallSettings, ["./a.css", "b.css"]) := by
    decide +kernel
  have hdocuments : List.Forall₂ (IsStylesheet smallTree) ["./a.css", "b.css"]
      [⟨"./a.css", .bytes (bytesOf ".a \x7b\x7d .c-1 \x7b\x7d")⟩,
        ⟨"b.css", .bytes (bytesOf ".b \x7b\x7d")⟩] :=
    .cons ⟨by decide, _, none, by decide +kernel, rfl⟩
      (.cons ⟨by decide, _, none, by decide +kernel, rfl⟩ .nil)
  have hroom : ∀ d ∈ [(⟨"./a.css", .bytes (bytesOf ".a \x7b\x7d .c-1 \x7b\x7d")⟩ : Document),
      ⟨"b.css", .bytes (bytesOf ".b \x7b\x7d")⟩], Stylesheet.isTooDeep d.text = false := by
    decide +kernel
  have hpatterns : (patternSources smallSettings).mapM Pattern.parse = .ok smallPatterns := by
    decide +kernel
  have hcollection : (setupOf smallTree (optionsFor smallSettings smallPatterns)).collection =
      .ok ["a"] := by
    decide +kernel
  have houtput : (check smallTree "check" smallArguments).output = ["OK: ./a.css"] := by
    decide +kernel
  obtain ⟨hreports, ⟨r, hr⟩, hend, hprefix⟩ := check_reports_stream "check" hread
    (by decide) (by simp) hdocuments hroom ⟨"*.html", by decide, by decide⟩ hpatterns
    (by simp [hcollection])
  have hfailure : r.failure = some (.unusedClasses "b.css" ["b"]) :=
    (hr.meets fun _ _ => rfl).failure.trans (by decide +kernel)
  exact ⟨⟨_, r, hdocuments, hr, hfailure, (hreports r hr).1⟩, houtput, hend _ hcollection,
    houtput ▸ hprefix⟩

/-- A stylesheet whose name starts with a styling sequence. -/
def styledTree : Files.Tree :=
  ⟨[], [(["\x1b[1mx.css"], .file (bytesOf ".a \x7b\x7d") none),
    (["index.html"], .file (bytesOf "<p class='a'></p>") none)]⟩

/-- The line for a document does not always show its path. -/
theorem styled_path_is_not_shown : ∃ r,
    Stream.Runs (setupOf styledTree (optionsFor [.files "index.html"] [])) false
      [⟨"\x1b[1mx.css", .bytes (bytesOf ".a \x7b\x7d")⟩] r ∧
    r.passed.map (fun d => "OK: " ++ d.path) = ["OK: \x1b[1mx.css"] ∧
    IsStylesheet styledTree "\x1b[1mx.css"
      ⟨"\x1b[1mx.css", .bytes (bytesOf ".a \x7b\x7d")⟩ ∧
    (setupOf styledTree (optionsFor [.files "index.html"] [])).collection = .ok ["a"] ∧
    readArguments checkTable true ["\x1b[1mx.css", "-f", "index.html"] =
      .ok ([.files "index.html"], ["\x1b[1mx.css"]) ∧
    (check styledTree "check" ["\x1b[1mx.css", "-f", "index.html"]).output = ["OK: x.css"] := by
  obtain ⟨hr, hmeets⟩ := runs_and_meets styledTree (optionsFor [.files "index.html"] []) false
    [⟨"\x1b[1mx.css", .bytes (bytesOf ".a \x7b\x7d")⟩]
  refine ⟨_, hr, ?_, ⟨by decide, _, none, by decide +kernel, rfl⟩, by decide +kernel,
    by decide +kernel, by decide +kernel⟩
  rw [hmeets.passed]
  decide +kernel

end StyleUsage.Command
