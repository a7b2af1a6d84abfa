import TableCopy.Client.Context
import TableCopy.Pipeline.State

/-!
# Planning a job

A request is checked on its own, before any table is asked for. The capacities
of both tables then decide the number of segments and the two rates; a table
without provisioned capacity leads to a fallback or to an unpaced side and never
fails the job. The section is checked last, against the number of segments.
-/

namespace TableCopy

/-- Everything an operator asks for. -/
structure JobRequest (α : Type) where
  config : CopyConfig α
  operational : OperationalConfig
  planning : PlanningConfig := {}

/-- What the capacities of both tables decide. -/
structure Pacing (α : Type) where
  segments : SegmentPlan
  /-- Read units per second; unpaced when unset. -/
  read : Option α
  /-- Write units per second; unpaced when unset. -/
  write : Option α

/-- The plan of a job, fixed before any item is read. -/
structure JobPlan (α : Type) where
  sourceTable : String
  destinationTable : String
  pacing : Pacing α
  part : Section
  readPool : PoolSpec
  writePool : PoolSpec

/-- What is handed to the pipeline. -/
structure Delegation (α : Type) where
  scan : ScanJob α
  write : WriteJob α
  readPool : PoolSpec
  writePool : PoolSpec

/-- A result, or a default in place of an error that planning can recover from. -/
def CopyError.recover {β : Type} (default : β) : Except CopyError β → Except CopyError β
  | .ok value => .ok value
  | .error e => if e.isRecoverable then .ok default else .error e

namespace JobRequest

variable {α : Type} [Quantity α]

/-- Check a request: first the profiles, then the parameters, then the operational
constants. -/
def check (request : JobRequest α) : Except CopyError (ClientContext × ClientContext) :=
  match ClientContext.resolve request.config request.operational with
  | .error e => .error e
  | .ok contexts =>
    match request.config.validate with
    | .error e => .error e
    | .ok () =>
      match request.operational.validate with
      | .error e => .error e
      | .ok () => .ok contexts

/-- The segments of the source, ten when its read capacity is unknown. -/
def segments (request : JobRequest α) (source : TableCapacity) : Except CopyError SegmentPlan :=
  CopyError.recover .fallback (SegmentPlan.ofCapacity source request.planning)

/-- The rate of one side, unset when its capacity is needed and unknown. -/
def rate (request : JobRequest α) (table : TableCapacity) (direction : Direction) :
    Except CopyError (Option α) :=
  CopyError.recover none
    (((request.config.budget direction).rate table direction).map some)

/-- Segments and rates. -/
def pacing (request : JobRequest α) (source destination : TableCapacity) :
    Except CopyError (Pacing α) :=
  match request.segments source with
  | .error e => .error e
  | .ok segments =>
    match request.rate source .read with
    | .error e => .error e
    | .ok read =>
      match request.rate destination .write with
      | .error e => .error e
      | .ok write => .ok ⟨segments, read, write⟩

/-- The plan of a job, if the section exists. The read pool has a place for each
segment of the whole plan. -/
def plan (request : JobRequest α) (source destination : TableCapacity) (pacing : Pacing α) :
    Except CopyError (JobPlan α) :=
  match Section.ofRequest request.config.sectionIndex request.config.totalSections
      pacing.segments.totalSegments.toNat with
  | .error e => .error e
  | .ok part =>
    let core := request.operational.corePoolSize
    let keepAlive := request.operational.keepAlive
    .ok {
      sourceTable := source.table
      destinationTable := destination.table
      pacing
      part
      readPool := PoolSpec.ofLimit pacing.segments.totalSegments.toNat core keepAlive
      writePool := PoolSpec.ofLimit request.config.maxWriteThreads core keepAlive }

/-- What a planned job hands to the pipeline. -/
def delegation (request : JobRequest α) (plan : JobPlan α) : Delegation α where
  scan :=
    { table := plan.sourceTable
      throughput := plan.pacing.read
      plan := plan.pacing.segments
      part := plan.part
      consistentRead := request.config.consistentScan
      pageLimit := request.operational.scanPageLimit }
  write :=
    { table := plan.destinationTable
      throughput := plan.pacing.write
      batchSize := request.operational.batchWriteSize }
  readPool := plan.readPool
  writePool := plan.writePool

end JobRequest

namespace JobPlan

variable {α : Type}

/-- The segments that the job copies, ascending. -/
def ownedSegments (plan : JobPlan α) : List Nat :=
  plan.part.ownedSegments plan.pacing.segments.totalSegments.toNat

/-- Whether both pools can be made. -/
def isFeasible (plan : JobPlan α) : Bool := plan.readPool.isFeasible && plan.writePool.isFeasible

/-- The words in front of an error of the pipeline. -/
def context (plan : JobPlan α) : String :=
  "copying '" ++ plan.sourceTable ++ "' section " ++ toString plan.part.index ++ "/" ++
    toString plan.part.totalSections ++ " into '" ++ plan.destinationTable ++ "'"

end JobPlan

namespace Delegation

variable {α : Type} [Quantity α]

/-- The pipeline of a delegation, with the usual retry policies. -/
def setup (delegation : Delegation α) : Setup α where
  scan := delegation.scan
  write := delegation.write
  scanRetry := .forScan
  writeRetry := .forBatchWrite

end Delegation
end TableCopy
