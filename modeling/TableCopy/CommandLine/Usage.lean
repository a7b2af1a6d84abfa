import TableCopy.CommandLine.Option
import TableCopy.Text.Plain

/-!
# Why a command line starts no copy

Either it is wrong, or it asks for help or for the version. The message is the
first line of what is shown; what is asked for is no failure. Arguments are shown
without control sequences of a terminal.
-/

namespace TableCopy
namespace CommandLine

inductive Stop
  | unknownArgument (argument : String)
  | missingValue (setting : Setting)
  | repeated (setting : Setting)
  | invalidValue (value : String) (setting : Setting) (reason : String)
  | unexpectedValue (value : String) (setting : Setting)
  /-- A table is not named. -/
  | missingTable
  | helpRequested
  | versionRequested
  deriving DecidableEq, Repr

/-- What the program does, in one line. -/
def summary : String := "Copy one DynamoDB table into another within a throughput budget"

/-- The name and version of the program. -/
def versionLine : String := "dynamodb-copy 0.1.0"

namespace Stop

/-- Whether something is wrong. -/
def isFailure : Stop → Bool
  | helpRequested | versionRequested => false
  | _ => true

def exitCode (stop : Stop) : Nat := if stop.isFailure then 2 else 0

/-- The first line that is shown; `plain` takes control sequences out of arguments. -/
def line (plain : String → String) : Stop → String
  | unknownArgument argument => "error: unexpected argument '" ++ plain argument ++ "' found"
  | missingValue setting =>
    "error: a value is required for '" ++ setting.shown ++ "' but none was supplied"
  | repeated setting =>
    "error: the argument '" ++ setting.shown ++ "' cannot be used multiple times"
  | invalidValue value setting reason =>
    "error: invalid value '" ++ plain value ++ "' for '" ++ setting.shown ++ "': " ++ reason
  | unexpectedValue value setting =>
    "error: unexpected value '" ++ plain value ++ "' for '" ++ setting.shown ++
      "' found; no more were expected"
  | missingTable => "error: the following required arguments were not provided:"
  | helpRequested => summary
  | versionRequested => versionLine

/-- The first line as a text. -/
def message (stop : Stop) : String := stop.line (Text.plain .ends)

/-- The first line as the program writes it. -/
def written (stop : Stop) : String := stop.line (Text.plain .pauses)

end Stop
end CommandLine
end TableCopy
