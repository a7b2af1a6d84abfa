import TableCopy.Job.Plan

/-!
# Running a job

A job asks its backend in a fixed order: connect, describe the source, describe
the destination, pipe. It stops at the first failure. Once the pools exist they
are shut down whatever the pipe returns, so that their counters are final. A job
crashes, and reports nothing, if its clients or pools cannot be made. `JobRequest.run`
gives the course of a job, and `Course.report?` what is shown of it.
-/

namespace TableCopy

/-- The phases of a job. -/
inductive JobState
  | initializing
  | planning
  | poolBuilding
  | delegating
  | completed
  | failed
  deriving DecidableEq, Repr

/-- How a pipe ended, once its pools are shut down. -/
structure Ending where
  result : Except CopyError Unit
  readPool : PoolStats
  writePool : PoolStats
  metrics : Metrics

/-- The ending of a copy whose pools are shut down. -/
def State.ending? {α ι : Type} (s : State α ι) : Option Ending :=
  match s.control with
  | .released result => some ⟨result, s.readPool.stats, s.writePool.stats, s.metrics⟩
  | _ => none

/-- Start to shut the pools down after a pipe. -/
def State.releasing {α ι : Type} (s : State α ι) : State α ι :=
  match s.control with
  | .returned result => { s with control := .closingRead result }
  | _ => s

/-- The outside world of a job. A job asks each question at most once. -/
structure Backend (α : Type) where
  connect : (source destination : ClientContext) → Outcome Unit
  describe : Side → (table : String) → Except CopyError TableCapacity
  pipe : Delegation α → Ending

/-- A question of a job to its backend. -/
inductive JobCall (α : Type)
  | connect (source destination : ClientContext)
  | describe (side : Side) (table : String)
  | pipe (delegation : Delegation α)

/-- How a job went. -/
structure Course (α : Type) where
  /-- The questions asked, in order. -/
  calls : List (JobCall α) := []
  /-- The phase in which the job ended. -/
  reached : JobState := .initializing
  plan : Option (JobPlan α) := none
  ending : Option Ending := none
  outcome : Outcome Unit

/-- A failure as the outcome of a job. -/
def Outcome.failed {β : Type} (e : CopyError) : Outcome β := .returned (.error e)

namespace JobRequest

variable {α : Type} [Quantity α]

/-- The course of a job from the moment that both tables are described. -/
def runDescribed (request : JobRequest α) (backend : Backend α) (calls : List (JobCall α))
    (source destination : TableCapacity) : Course α :=
  match request.pacing source destination with
  | .error e => { calls, reached := .planning, outcome := .failed e }
  | .ok pacing =>
    match request.plan source destination pacing with
    | .error e => { calls, reached := .poolBuilding, outcome := .failed e }
    | .ok plan =>
      if plan.isFeasible then
        let delegation := request.delegation plan
        let ending := backend.pipe delegation
        { calls := calls ++ [.pipe delegation]
          reached := .delegating
          plan := some plan
          ending := some ending
          outcome := .returned (CopyError.addContext plan.context ending.result) }
      else
        { calls
          reached := .poolBuilding
          plan := some plan
          outcome := .crashed (some PoolSpec.excess) }

/-- The course of a job from the moment that it is connected. -/
def runConnected (request : JobRequest α) (backend : Backend α) (calls : List (JobCall α)) :
    Course α :=
  let sourceTable := request.config.source.table
  let destinationTable := request.config.destination.table
  let calls := calls ++ [.describe .source sourceTable]
  match backend.describe .source sourceTable with
  | .error e => { calls, reached := .planning, outcome := .failed e }
  | .ok source =>
    let calls := calls ++ [.describe .destination destinationTable]
    match backend.describe .destination destinationTable with
    | .error e => { calls, reached := .planning, outcome := .failed e }
    | .ok destination => request.runDescribed backend calls source destination

/-- The course of a job. -/
def run (request : JobRequest α) (backend : Backend α) : Course α :=
  match request.check with
  | .error e => { outcome := .failed e }
  | .ok (source, destination) =>
    let calls := [.connect source destination]
    match backend.connect source destination with
    | .crashed reason => { calls, outcome := .crashed reason }
    | .returned (.error e) => { calls, outcome := .failed e }
    | .returned (.ok ()) => request.runConnected backend calls

end JobRequest

/-- What is shown of a job. -/
structure JobReport (α : Type) where
  jobId : String
  state : JobState
  exitCode : Nat
  error : Option String
  plan : Option (JobPlan α)
  readPool : Option PoolStats
  writePool : Option PoolStats
  metrics : Metrics
  /-- Nanoseconds. -/
  elapsed : Nat

def JobReport.succeeded {α : Type} (report : JobReport α) : Bool := report.state = .completed

/-- The state in which a job with a result is. -/
def JobState.ofResult : Except CopyError Unit → JobState
  | .ok () => .completed
  | .error _ => .failed

/-- The exit status of a result. -/
def exitStatus : Except CopyError Unit → Nat
  | .ok () => 0
  | .error e => e.exitCode

/-- The report of a job with a result. -/
def Course.reportOf {α : Type} (course : Course α) (result : Except CopyError Unit)
    (jobId : String) (elapsed : Nat) : JobReport α where
  jobId
  state := .ofResult result
  exitCode := exitStatus result
  error :=
    match result with
    | .ok () => none
    | .error e => some e.message
  plan := course.plan
  readPool := course.ending.map Ending.readPool
  writePool := course.ending.map Ending.writePool
  metrics := (course.ending.map Ending.metrics).getD {}
  elapsed

/-- The report of a job, unless it crashed. -/
def Course.report? {α : Type} (course : Course α) (jobId : String) (elapsed : Nat) :
    Option (JobReport α) :=
  match course.outcome with
  | .returned result => some (course.reportOf result jobId elapsed)
  | .crashed _ => none

end TableCopy
