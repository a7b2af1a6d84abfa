import TableCopy.CommandLine.Parse
import TableCopy.Config.Environment
import TableCopy.Job.Encoding
import TableCopy.Service.Transport

/-!
# The program

A run reads the command line, then the operational constants from the
environment, and then does the copy. It ends with a status, what is shown to the
operator, and a message on the error stream if something failed.
-/

namespace TableCopy

/-- What a run of the program leaves. -/
structure ProgramRun where
  exitCode : Nat
  /-- The first line on the error stream; empty if all went well. -/
  failure : String := ""
  /-- What is shown on the standard stream. -/
  shown : String := ""
  report : Option (JobReport Float) := none

namespace ProgramRun

/-- The name in front of every failure that is not about the command line. -/
def programName : String := "dynamodb-copy"

def failed (e : CopyError) : ProgramRun where
  exitCode := e.exitCode
  failure := programName ++ ": " ++ e.message

/-- A run that the command line ends. -/
def stopped (stop : CommandLine.Stop) : ProgramRun :=
  if stop.isFailure then { exitCode := stop.exitCode, failure := stop.written }
  else { exitCode := stop.exitCode, shown := stop.written }

/-- A run that crashes. It shows nothing. -/
def crashed : ProgramRun where
  exitCode := 101

/-- A run with the report of its job; it is shown if the operator asked for it. -/
def reported (json : Bool) (report : JobReport Float) : ProgramRun where
  exitCode := report.exitCode
  failure := report.error.elim "" fun message => programName ++ ": " ++ message
  shown := if json then report.render else ""
  report := if json then some report else none

end ProgramRun

/-- The surroundings of a run. -/
structure Surroundings where
  processors : Nat
  /-- Environment variables. -/
  environment : List (String × String)
  transport : Transport
  jobId : String
  /-- Steps after which a copy is given up. -/
  fuel : Nat

/-- A run of the program. -/
def runProgram (around : Surroundings) (arguments : List String) : ProgramRun :=
  match CommandLine.parse arguments with
  | .error stop => .stopped stop
  | .ok commandLine =>
    match OperationalConfig.load around.processors around.environment with
    | .error e => .failed e
    | .ok operational =>
      let request : JobRequest Float := { config := commandLine.toConfig, operational }
      let transport := around.transport.forCopy request.config
      let backend := transport.backend around.fuel operational.maxConnections false
      match (request.run backend).report? around.jobId 0 with
      | some report => .reported commandLine.json report
      | none => .crashed

end TableCopy
