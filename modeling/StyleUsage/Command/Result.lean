import StyleUsage.Command.Arguments
import StyleUsage.Files.Source
import StyleUsage.Options
import StyleUsage.Stream
import StyleUsage.Text.Styling

/-! # Results of commands

What a command prints, and how it exits. -/

namespace StyleUsage.Command

/-- A failure that a command does not report itself. -/
inductive Escape where
  | options (error : Options.Error)
  | session (failure : Session.Failure)
  | streamed (path : String)
  | pattern (error : Pattern.Error)
  /-- The path of a stylesheet holds a NUL, which no path may. -/
  | nulInPath

def Escape.message : Escape → String
  | options error => error.message
  | session failure => failure.message
  | streamed path => (Stream.Failure.streamed path).message
  | pattern error => error.message
  | nulInPath => Session.Failure.nulInPath.message

/-- What a command prints and how it exits. Its own lines go without styling sequences; those of a
session's record are printed as they are. -/
structure Result where
  exitCode : Nat
  output : List String
  errors : List String
  escape : Option Escape

/-- Why a command cannot be carried out as it is given. -/
inductive Misuse where
  | badArgument (error : ArgumentError)
  | missingFiles
  | missingStylesheets
  | noStylesheet (path : String)
  | directoryStylesheet (path : String)
  | unreadableStylesheet (path : String)
  | badPattern (error : Pattern.Error)
  | options (error : Options.Error)
  | extraArguments (arguments : List String)
  | unknownCommand (name : String)
  | missingCommand

def Misuse.message : Misuse → String
  | badArgument error => error.message
  | missingFiles => "Missing option '--files' / '-f'."
  | missingStylesheets => "Missing argument 'STYLESHEETS...'."
  | noStylesheet path =>
      "Invalid value for 'STYLESHEETS...': File " ++ Text.quotedText path ++ " does not exist."
  | directoryStylesheet path =>
      "Invalid value for 'STYLESHEETS...': File " ++ Text.quotedText path ++ " is a directory."
  | unreadableStylesheet path =>
      "Invalid value for 'STYLESHEETS...': File " ++ Text.quotedText path ++ " is not readable."
  | badPattern error =>
      "Invalid value for '--ignore-pattern': " ++ Text.quotedText error.source ++ ": " ++
        error.message
  | options error => error.message
  | extraArguments [argument] => "Got unexpected extra argument (" ++ argument ++ ")"
  | extraArguments arguments =>
      "Got unexpected extra arguments (" ++ " ".intercalate arguments ++ ")"
  | unknownCommand name => "No such command " ++ Text.quotedText name ++ "."
  | missingCommand => "Missing command."

/-- An option without its value, and one with a value that it does not take, are reported without
the usage of the command. -/
def Misuse.showsUsage : Misuse → Bool
  | badArgument (.missingValue _) | badArgument (.unwantedValue _) => false
  | _ => true

/-- Why a command does not begin its work. -/
inductive Obstacle where
  | misuse (m : Misuse)
  | escape (e : Escape)
  /-- It is asked for help. -/
  | help

/-- The usage of a command, given its name and what comes after it. -/
def usageLine (name parameters : String) : String :=
  "Usage: " ++ name ++ " " ++ parameters

/-- The result of a misused command. -/
def misused (name parameters : String) (m : Misuse) : Result where
  exitCode := 2
  output := []
  errors :=
    (if m.showsUsage then
      [usageLine name parameters, "Try '" ++ name ++ " --help' for help.", ""]
    else []) ++ ["Error: " ++ Text.unstyledText m.message]
  escape := none

/-- The result of a command that is asked for help. Of its help, only the usage is told here. -/
def helped (name parameters : String) : Result :=
  ⟨0, [usageLine name parameters], [], none⟩

/-- The result of a command that does not begin its work. -/
def obstructed (name parameters : String) : Obstacle → Result
  | .misuse m => misused name parameters m
  | .escape e => ⟨1, [], [], some e⟩
  | .help => helped name parameters

/-- The line that an entry of a session's record makes. Only a verbose command shows events and
what is less than a warning. -/
def entryLine? (verbose : Bool) : Session.Entry → Option String
  | .event e => if verbose then e.description?.map Text.unstyledText else none
  | .notice .info message => if verbose then some ("INFO unused_css: " ++ message) else none
  | .notice .warning message =>
      some (if verbose then "WARNING unused_css: " ++ message else message)
  | .notice .error message => some (if verbose then "ERROR unused_css: " ++ message else message)

/-- The lines that a session's record makes. -/
def recordLines (verbose : Bool) (log : List Session.Entry) : List String :=
  log.filterMap (entryLine? verbose)

/-- The texts of some patterns; entries of another kind select nothing. -/
def patternTexts (patterns : List Value) : List String :=
  patterns.filterMap fun
    | .text s => some s
    | _ => none

/-- A session over the files of a tree, whose listeners raise nothing. -/
def setupOf (tree : Files.Tree) (options : Options) : Session.Setup :=
  Stream.setupOf options
    (Files.load tree (patternTexts options.patterns) options.maxWorkers) Session.quiet

/-- The failure of a collection, reported or let through. -/
def collectionFailure (output errors : List String) (e : Session.Failure) : Result :=
  match e with
  | .unreadable error =>
      ⟨1, output, errors ++ ["Markup error: " ++ Text.unstyledText error.message], none⟩
  | e => ⟨1, output, errors, some (.session e)⟩

/-- Options as they come from arguments. -/
def optionsOf (files : List String) (exemptions : List Exemption) (directives softStop : Bool) :
    Except Options.Error Options := do
  let files := FileChoice.several (files.map .text)
  let exemptions ←
    Options.validate files (exemptions.map Exemption.toValue) (.whole Options.defaultWorkers)
  return ⟨files, directives, exemptions, softStop, Options.defaultWorkers⟩

end StyleUsage.Command
