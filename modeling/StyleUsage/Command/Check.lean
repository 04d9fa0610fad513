import StyleUsage.Command.Result

/-! # The command `check`

Checks stylesheets one after the other. Each that passes is printed as such; the first one that
does not ends the command with exit code 1. -/

namespace StyleUsage.Command

inductive CheckSetting where
  | files (pattern : String)
  | ignore (name : String)
  | ignorePattern (source : String)
  | directives (on : Bool)
  | softStop
  | verbose
  | help
  deriving Repr, DecidableEq

def checkTable : OptionTable CheckSetting :=
  [("--files", .value .files), ("-f", .value .files), ("--ignore", .value .ignore),
    ("--ignore-pattern", .value .ignorePattern), ("--angular", .flag (.directives true)),
    ("--no-angular", .flag (.directives false)), ("--end", .flag .softStop),
    ("--verbose", .flag .verbose), ("-v", .flag .verbose), ("--help", .flag .help)]

/-- What is wrong with the path of a stylesheet, if anything. -/
def stylesheetObstacle? (tree : Files.Tree) (path : String) : Option Obstacle :=
  if '\x00' ∈ path.toList then some (.escape .nulInPath)
  else
    match tree.find? path.toList with
    | none => some (.misuse (.noStylesheet path))
    | some .directory => some (.misuse (.directoryStylesheet path))
    | some .locked => some (.misuse (.unreadableStylesheet path))
    | some (.file ..) => none

/-- The document at a path. -/
def documentAt (tree : Files.Tree) (path : String) : Document where
  path := path
  contents := .bytes ((tree.read (Files.Path.ofText path).text.toList).toOption.getD [])

/-- The result of a check that has run. -/
def checkResult (verbose : Bool) (run : Stream.Run) : Result :=
  let output := run.passed.map fun d => Text.unstyledText ("OK: " ++ d.path)
  let errors := recordLines verbose run.session.log
  match run.failure with
  | none => ⟨0, output, errors, none⟩
  | some (.unusedClasses path names) =>
      ⟨1, output, errors ++ [Text.unstyledText (Stream.unusedNotice path names)], none⟩
  | some (.notParsed path error) =>
      let line := "Parse error: " ++ path ++ ":" ++ toString error.line ++ ": " ++ error.message
      ⟨1, output, errors ++ [Text.unstyledText line], none⟩
  | some (.session failure) => collectionFailure output errors failure
  | some (.streamed path) => ⟨1, output, errors, some (.streamed path)⟩

/-- What a faulty pattern does to the command. -/
def patternObstacle (e : Pattern.Error) : Obstacle :=
  if e.fault.kind = .malformed then .misuse (.badPattern e) else .escape (.pattern e)

/-- The patterns among some settings. They are read before the stylesheets are looked at. -/
def ignoredPatterns (settings : List CheckSetting) : Except Obstacle (List Pattern) :=
  (settings.filterMap fun
    | .ignorePattern source => some source
    | _ => none).mapM fun source => (Pattern.parse source).mapError patternObstacle

/-- What the arguments of a check ask for. -/
structure CheckRequest where
  options : Options
  stylesheets : List String
  verbose : Bool

/-- The request of a check. Help goes before anything but faulty options. -/
def checkRequest (tree : Files.Tree) (arguments : List String) : Except Obstacle CheckRequest := do
  let (settings, stylesheets) ←
    (readArguments checkTable true arguments).mapError fun e => .misuse (.badArgument e)
  if settings.contains .help then throw .help
  let patterns ← ignoredPatterns settings
  if stylesheets = [] then throw (.misuse .missingStylesheets)
  if let some obstacle := stylesheets.findSome? (stylesheetObstacle? tree) then throw obstacle
  let files := settings.filterMap fun
    | .files pattern => some pattern
    | _ => none
  if files = [] then throw (.misuse .missingFiles)
  let names := settings.filterMap fun
    | .ignore name => some (Exemption.name name)
    | _ => none
  let directives := (settings.reverse.findSome? fun
    | .directives on => some on
    | _ => none).getD true
  let options ←
    (optionsOf files (names ++ patterns.map .pattern) directives
      (settings.contains .softStop)).mapError fun e => .misuse (.options e)
  return ⟨options, stylesheets, settings.contains .verbose⟩

/-- The command on the files of a tree. -/
def check (tree : Files.Tree) (name : String) (arguments : List String) : Result :=
  match checkRequest tree arguments with
  | .error obstacle => obstructed name "[OPTIONS] STYLESHEETS..." obstacle
  | .ok request =>
      checkResult request.verbose
        (Stream.run (setupOf tree request.options) request.options.softStop
          (request.stylesheets.map (documentAt tree)))

end StyleUsage.Command
