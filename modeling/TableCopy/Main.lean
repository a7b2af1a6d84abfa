import Std.Internal.UV.System
import TableCopy.Program

/-!
The command line program. It gathers the arguments, the environment and a job id,
and shows what a run leaves. No connection to the service is part of it, so every
request gets lost.
-/

open TableCopy

/-- A job id of sixteen random octets. -/
def randomJobId : IO String := do
  let octets ← IO.getRandomBytes 16
  return octets.toList.foldl (fun id octet =>
    id ++ String.ofList [Json.hexDigit (octet.toNat / 16), Json.hexDigit octet.toNat]) ""

def main (arguments : List String) : IO UInt32 := do
  let around : Surroundings :=
    { processors := (← Std.Internal.UV.System.cpuInfo).size
      environment := (← Std.Internal.UV.System.osEnviron).toList
      transport := Transport.unreachable
      jobId := ← randomJobId
      fuel := 10000000 }
  let run := runProgram around arguments
  unless run.shown.isEmpty do IO.println run.shown
  unless run.failure.isEmpty do IO.eprintln run.failure
  return UInt32.ofNat run.exitCode
