import Mathlib
import StyleUsage.Command.Used
import StyleUsage.Command.Check
import StyleUsage.Proofs.Lists.Attempts
import StyleUsage.Proofs.Options.Acceptance

/-!
# What the arguments of a command ask for

A command asks for a collection of markup, and a check for some stylesheets beside it. Whether it
gets that far depends on a few tests, which are made in a fixed order.
-/

namespace StyleUsage.Command

/-! ## Options -/

/-- The file patterns among some settings of a check. -/
def filesOf (settings : List CheckSetting) : List String :=
  settings.filterMap fun
    | .files pattern => some pattern
    | _ => none

/-- The class names among some settings that are exempt. -/
def namedExemptions (settings : List CheckSetting) : List Exemption :=
  settings.filterMap fun
    | .ignore name => some (.name name)
    | _ => none

/-- The patterns of class names among some settings, as they are written. -/
def patternSources (settings : List CheckSetting) : List String :=
  settings.filterMap fun
    | .ignorePattern source => some source
    | _ => none

/-- Whether directives count: the last setting decides. -/
def directivesOf (settings : List CheckSetting) : Bool :=
  (settings.reverse.findSome? fun
    | .directives on => some on
    | _ => none).getD true

/-- The options that some settings make, given what is exempt. -/
def optionsFor (settings : List CheckSetting) (patterns : List Pattern) : Options where
  files := .several ((filesOf settings).map .text)
  directives := directivesOf settings
  exemptions := namedExemptions settings ++ patterns.map .pattern
  softStop := settings.contains .softStop
  maxWorkers := Options.defaultWorkers

section
variable {tree : Files.Tree} {arguments files : List String}

/-- Options come from arguments if some file pattern is not empty. -/
theorem optionsOf_eq (files : List String) (exemptions : List Exemption)
    (directives softStop : Bool) : optionsOf files exemptions directives softStop =
      if ∃ pattern ∈ files, pattern ≠ "" then
        .ok ⟨.several (files.map .text), directives, exemptions, softStop, Options.defaultWorkers⟩
      else .error .noFiles := by
  have hblank : (FileChoice.several (files.map .text)).patterns = [] ↔
      ¬ ∃ pattern ∈ files, pattern ≠ "" := by
    simp [FileChoice.patterns, Value.isGiven]
  have hrules : Exemption.ofValues (exemptions.map Exemption.toValue) = .ok exemptions :=
    Options.ofValues_eq_ok_iff.2 rfl
  rw [optionsOf, Options.validate_eq, hrules]
  by_cases hsome : ∃ pattern ∈ files, pattern ≠ ""
  · rw [if_pos hsome, if_neg (hblank.not_left.2 hsome)]
    rfl
  · rw [if_neg hsome, if_pos (hblank.2 hsome)]
    rfl

theorem ignoredPatterns_eq (settings : List CheckSetting) : ignoredPatterns settings =
    ((patternSources settings).mapM Pattern.parse).mapError patternObstacle :=
  mapM_mapError _ _ _

/-! ## Requests -/

/-- The tests of a check, in order. -/
theorem checkRequest_eq (tree : Files.Tree) (arguments : List String) :
    checkRequest tree arguments =
      match readArguments checkTable true arguments with
      | .error e => .error (.misuse (.badArgument e))
      | .ok (settings, stylesheets) =>
          if .help ∈ settings then .error .help
          else
            match (patternSources settings).mapM Pattern.parse with
            | .error e => .error (patternObstacle e)
            | .ok patterns =>
                if stylesheets = [] then .error (.misuse .missingStylesheets)
                else
                  match stylesheets.findSome? (stylesheetObstacle? tree) with
                  | some obstacle => .error obstacle
                  | none =>
                      if filesOf settings = [] then .error (.misuse .missingFiles)
                      else if ∃ pattern ∈ filesOf settings, pattern ≠ "" then
                        .ok ⟨optionsFor settings patterns, stylesheets, settings.contains .verbose⟩
                      else .error (.misuse (.options .noFiles)) := by
  unfold checkRequest
  cases readArguments checkTable true arguments with
  | error e => rfl
  | ok found =>
      obtain ⟨settings, stylesheets⟩ := found
      by_cases hhelp : .help ∈ settings
      · simp [Except.mapError, bind, Except.bind, hhelp, throw, throwThe, MonadExceptOf.throw]
      simp only [Except.mapError, ignoredPatterns_eq, bind, Except.bind, List.contains_iff_mem,
        hhelp, if_false, pure, Except.pure]
      cases (patternSources settings).mapM Pattern.parse with
      | error e => rfl
      | ok patterns =>
          by_cases hnone : stylesheets = []
          · simp [hnone, throw, throwThe, MonadExceptOf.throw]
          · simp only [hnone, if_false]
            cases stylesheets.findSome? (stylesheetObstacle? tree) with
            | some obstacle => rfl
            | none =>
                by_cases hfiles : filesOf settings = []
                · rw [if_pos hfiles]
                  exact if_pos hfiles
                · rw [if_neg hfiles]
                  refine (if_neg hfiles).trans ?_
                  change ((optionsOf (filesOf settings)
                    (namedExemptions settings ++ patterns.map .pattern) (directivesOf settings)
                    (settings.contains .softStop)).mapError fun e =>
                      Obstacle.misuse (.options e)).bind (fun options => .ok
                    (CheckRequest.mk options stylesheets (settings.contains .verbose))) = _
                  rw [optionsOf_eq]
                  split <;> rfl

/-- What a check that has read its arguments comes to if it is not asked for help: one case for each
test that can fail, and one for a request. -/
inductive Comes (tree : Files.Tree) (settings : List CheckSetting) (stylesheets : List String) :
    Except Obstacle CheckRequest → Prop where
  | badPattern {error : Pattern.Error}
      (hpatterns : (patternSources settings).mapM Pattern.parse = .error error)
      (hkind : error.fault.kind = .malformed) :
      Comes tree settings stylesheets (.error (.misuse (.badPattern error)))
  | oddPattern {error : Pattern.Error}
      (hpatterns : (patternSources settings).mapM Pattern.parse = .error error)
      (hkind : error.fault.kind ≠ .malformed) :
      Comes tree settings stylesheets (.error (.escape (.pattern error)))
  | missingStylesheets {patterns : List Pattern}
      (hpatterns : (patternSources settings).mapM Pattern.parse = .ok patterns)
      (hnone : stylesheets = []) :
      Comes tree settings stylesheets (.error (.misuse .missingStylesheets))
  | obstructed {patterns : List Pattern} {before after : List String} {path : String}
      {obstacle : Obstacle}
      (hpatterns : (patternSources settings).mapM Pattern.parse = .ok patterns)
      (hstylesheets : stylesheets = before ++ path :: after)
      (hbefore : ∀ earlier ∈ before, stylesheetObstacle? tree earlier = none)
      (hpath : stylesheetObstacle? tree path = some obstacle) :
      Comes tree settings stylesheets (.error obstacle)
  | missingFiles {patterns : List Pattern}
      (hpatterns : (patternSources settings).mapM Pattern.parse = .ok patterns)
      (hnone : filesOf settings = []) :
      Comes tree settings stylesheets (.error (.misuse .missingFiles))
  | noFiles {patterns : List Pattern}
      (hpatterns : (patternSources settings).mapM Pattern.parse = .ok patterns)
      (hblank : ∀ pattern ∈ filesOf settings, pattern = "") :
      Comes tree settings stylesheets (.error (.misuse (.options .noFiles)))
  | request {patterns : List Pattern}
      (hpatterns : (patternSources settings).mapM Pattern.parse = .ok patterns)
      (hsome : stylesheets ≠ [])
      (hexist : stylesheets.findSome? (stylesheetObstacle? tree) = none)
      (hfiles : ∃ pattern ∈ filesOf settings, pattern ≠ "") :
      Comes tree settings stylesheets
        (.ok ⟨optionsFor settings patterns, stylesheets, settings.contains .verbose⟩)

end

end StyleUsage.Command
