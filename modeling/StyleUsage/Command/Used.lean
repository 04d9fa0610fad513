import StyleUsage.Command.Result

/-! # The command `used`

Prints every class that markup uses, in ascending order. -/

namespace StyleUsage.Command

inductive UsedSetting where
  | files (pattern : String)
  | directives (on : Bool)
  | verbose
  | help
  deriving Repr, DecidableEq

def usedTable : OptionTable UsedSetting :=
  [("--files", .value .files), ("-f", .value .files), ("--angular", .flag (.directives true)),
    ("--no-angular", .flag (.directives false)), ("--verbose", .flag .verbose),
    ("-v", .flag .verbose), ("--help", .flag .help)]

/-- The used classes of a session that is run to its end. -/
def collectUsed (setup : Session.Setup) :
    Session.State × Except Session.Failure (List String) :=
  let done := ((Session.State.initial setup).request setup .start).runWorker setup
  (done, done.collected.getD (.error .misused))

/-- The file patterns, whether directives count, and whether the command is verbose. -/
def usedRequest (arguments : List String) : Except Obstacle (List String × Bool × Bool) := do
  let (settings, others) ←
    (readArguments usedTable true arguments).mapError fun e => .misuse (.badArgument e)
  if settings.contains .help then throw .help
  let files := settings.filterMap fun
    | .files pattern => some pattern
    | _ => none
  if files = [] then throw (.misuse .missingFiles)
  if others ≠ [] then throw (.misuse (.extraArguments others))
  let directives := (settings.reverse.findSome? fun
    | .directives on => some on
    | _ => none).getD true
  return (files, directives, settings.contains .verbose)

/-- The command on the files of a tree. Unlike that of `check`, a bad choice of files is not
reported as a misuse. -/
def used (tree : Files.Tree) (name : String) (arguments : List String) : Result :=
  match usedRequest arguments with
  | .error obstacle => obstructed name "[OPTIONS]" obstacle
  | .ok (files, directives, verbose) =>
      match optionsOf files [] directives false with
      | .error e => ⟨1, [], [], some (.options e)⟩
      | .ok options =>
          match collectUsed (setupOf tree options) with
          | (s, .ok names) =>
              ⟨0, (Text.sorted names).map Text.unstyledText, recordLines verbose s.log, none⟩
          | (s, .error e) => collectionFailure [] (recordLines verbose s.log) e

end StyleUsage.Command
