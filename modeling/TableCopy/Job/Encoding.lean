import TableCopy.Config.Encoding
import TableCopy.Job.Run
import TableCopy.Json.Printer

/-!
# Jobs as JSON

What a job is made of, and its report. Members stand in the order in which the fields
are declared. The way in which numbers with a fraction are written is a parameter, and
`JobReport.render` is the text shown to an operator, where numbers without a finite value
are null.
-/

namespace TableCopy

/-- A time span as whole seconds and nanoseconds. -/
def Duration.toJson (d : Nat) : Json :=
  .object [("secs", .ofNat (Duration.wholeSeconds d)), ("nanos", .ofNat (Duration.subsecond d))]

def PoolSpec.toJson (spec : PoolSpec) : Json :=
  .object [
    ("core_pool_size", .ofNat spec.corePoolSize),
    ("max_pool_size", .ofNat spec.maxPoolSize),
    ("queue_capacity", .ofNat spec.queueCapacity),
    ("backpressure", .string "CallerRuns"),
    ("keep_alive", Duration.toJson spec.keepAlive)]

def PoolStats.toJson (stats : PoolStats) : Json :=
  .object [
    ("submitted", .ofNat stats.submitted),
    ("caller_runs", .ofNat stats.callerRuns),
    ("completed", .ofNat stats.completed),
    ("panicked", .ofNat stats.crashed),
    ("workers", .ofNat stats.live),
    ("peak_workers", .ofNat stats.peak)]

def Metrics.toJson (number : Float → Json) (m : Metrics) : Json :=
  .object [
    ("segments_started", .ofNat m.segmentsStarted.toNat),
    ("segments_completed", .ofNat m.segmentsCompleted.toNat),
    ("segments_failed", .ofNat m.segmentsFailed.toNat),
    ("pages_scanned", .ofNat m.pagesScanned.toNat),
    ("items_read", .ofNat m.itemsRead.toNat),
    ("read_capacity_units", number (Metrics.units m.readMilli)),
    ("batches_written", .ofNat m.batchesWritten.toNat),
    ("items_written", .ofNat m.itemsWritten.toNat),
    ("unprocessed_retries", .ofNat m.unprocessedRetries.toNat),
    ("write_capacity_units", number (Metrics.units m.writeMilli))]

def JobPlan.toJson (number : Float → Json) (plan : JobPlan Float) : Json :=
  .object [
    ("source_table", .string plan.sourceTable),
    ("destination_table", .string plan.destinationTable),
    ("plan", plan.pacing.segments.toJson),
    ("section", plan.part.toJson),
    ("owned_segments", .ofNat plan.ownedSegments.length),
    ("read_throughput", .ofOption number plan.pacing.read),
    ("write_throughput", .ofOption number plan.pacing.write),
    ("read_pool", plan.readPool.toJson),
    ("write_pool", plan.writePool.toJson)]

/-- A client, with the name of its profile unless it uses the default chain. -/
def ClientContext.toJson (c : ClientContext) : Json :=
  .object [
    ("role", .string c.side.name),
    ("endpoint", .ofOption .string c.endpoint),
    ("region", .ofOption .string c.region),
    ("credentials", match c.credentials with
      | .defaultChain => .null
      | .profile name => .string name),
    ("max_connections", .ofNat c.maxConnections)]

def Delegation.toJson (number : Float → Json) (delegation : Delegation Float) : Json :=
  let scan := delegation.scan
  let write := delegation.write
  let pool (name : String) (spec : PoolSpec) : Json :=
    .object [("name", .string name), ("spec", spec.toJson)]
  .object [
    ("scan", .object [
      ("table", .string scan.table),
      ("read_throughput", .ofOption number scan.throughput),
      ("plan", scan.plan.toJson),
      ("section", scan.part.toJson),
      ("consistent_read", .bool scan.consistentRead),
      ("page_limit", .ofOption .ofInt scan.pageLimit)]),
    ("write", .object [
      ("table", .string write.table),
      ("write_throughput", .ofOption number write.throughput),
      ("batch_size", .ofNat write.batchSize)]),
    ("read_pool", pool "read" delegation.readPool),
    ("write_pool", pool "write" delegation.writePool)]

def JobState.name : JobState → String
  | .initializing => "Initializing"
  | .planning => "Planning"
  | .poolBuilding => "PoolBuilding"
  | .delegating => "Delegating"
  | .completed => "Completed"
  | .failed => "Failed"

namespace JobReport

def toJson (number : Float → Json) (report : JobReport Float) : Json :=
  .object [
    ("job_id", .string report.jobId),
    ("state", .string report.state.name),
    ("exit_code", .ofNat report.exitCode),
    ("error", .ofOption .string report.error),
    ("job", .ofOption (JobPlan.toJson number) report.plan),
    ("read_pool", .ofOption PoolStats.toJson report.readPool),
    ("write_pool", .ofOption PoolStats.toJson report.writePool),
    ("metrics", report.metrics.toJson number),
    ("elapsed", Duration.toJson report.elapsed)]

/-- The text shown to an operator. -/
def render (report : JobReport Float) : String := (report.toJson Json.ofFloat).pretty

end JobReport
end TableCopy
