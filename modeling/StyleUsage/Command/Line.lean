import StyleUsage.Command.Check
import StyleUsage.Command.Used

/-! # The command line

The first argument that is no option names the command. -/

namespace StyleUsage.Command

inductive GroupSetting where
  | version
  | help
  deriving Repr, DecidableEq

def groupTable : OptionTable GroupSetting :=
  [("--version", .flag .version), ("--help", .flag .help)]

def versionLine : String :=
  "unused-css, version 0.1.0"

def groupParameters : String :=
  "[OPTIONS] COMMAND [ARGS]..."

/-- What a setting of the program itself asks for. -/
def groupResult (program : String) : GroupSetting → Result
  | .version => ⟨0, [versionLine], [], none⟩
  | .help => helped program groupParameters

/-- Carries out a command line on the files of a tree; `program` is the name of the program. Without
any arguments the program gives its help as an error. -/
def runLine (tree : Files.Tree) (program : String) (arguments : List String) : Result :=
  let misuse := misused program groupParameters
  if arguments = [] then ⟨2, [], [usageLine program groupParameters], none⟩
  else
    match readArguments groupTable false arguments with
    | .error e => misuse (.badArgument e)
    | .ok (setting :: _, _) => groupResult program setting
    | .ok ([], []) => misuse .missingCommand
    | .ok ([], command :: rest) =>
        if command = "check" then check tree (program ++ " check") rest
        else if command = "used" then used tree (program ++ " used") rest
        else
          match readArguments groupTable false (command :: rest) with
          | .error e => misuse (.badArgument e)
          | .ok (setting :: _, _) => groupResult program setting
          | .ok _ => misuse (.unknownCommand command)

end StyleUsage.Command
