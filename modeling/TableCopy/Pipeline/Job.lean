import TableCopy.Plan.Section
import TableCopy.Retry

/-!
# What a pipeline copies

A pipeline scans the owned segments of a source table and writes the items of
each page to a destination table in chunks.
-/

namespace TableCopy

structure ScanJob (α : Type) where
  table : String
  /-- Read units per second; unpaced when unset. -/
  throughput : Option α
  plan : SegmentPlan
  part : Section
  consistentRead : Bool
  pageLimit : Option Int

structure WriteJob (α : Type) where
  table : String
  /-- Write units per second; unpaced when unset. -/
  throughput : Option α
  batchSize : Nat

/-- The largest batch that the service accepts. -/
def maxBatchSize : Nat := 25

/-- Items of one batch request: the configured number, within what is accepted. -/
def WriteJob.chunkSize {α : Type} (job : WriteJob α) : Nat :=
  max 1 (min job.batchSize maxBatchSize)

/-- The segments that a scan job covers, ascending. -/
def ScanJob.segments {α : Type} (job : ScanJob α) : List Nat :=
  job.part.ownedSegments job.plan.totalSegments.toNat

theorem WriteJob.chunkSize_pos {α : Type} (job : WriteJob α) : 1 ≤ job.chunkSize :=
  Nat.le_max_left ..

theorem WriteJob.chunkSize_le {α : Type} (job : WriteJob α) : job.chunkSize ≤ maxBatchSize := by
  simp only [chunkSize, maxBatchSize]
  omega

/-- Everything that is fixed for the run of a pipeline. -/
structure Setup (α : Type) where
  scan : ScanJob α
  write : WriteJob α
  scanRetry : RetryConfig α
  writeRetry : RetryConfig α
  /-- Pages go to a consumer outside the pipeline instead of the paced writer. -/
  outsideConsumer : Bool := false

/-- One request for a page of a segment. -/
structure PageRequest (ι : Type) where
  table : String
  segment : Nat
  totalSegments : Nat
  consistentRead : Bool
  limit : Option Int
  startKey : Option ι
  deriving DecidableEq, Repr

/-- One page of a segment. The next page starts after `nextKey`; the last page has
none. -/
structure Page (α ι : Type) where
  items : List ι
  nextKey : Option ι
  capacity : α

/-- The answer to one batch request. -/
structure BatchOutcome (α ι : Type) where
  /-- Items that the service did not apply. -/
  unprocessed : List ι
  capacity : α

end TableCopy
