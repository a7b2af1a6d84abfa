import TableCopy.Duration

/-!
# Progress counters

Counters are 64-bit words and wrap around. Consumed capacity is counted in
thousandths of a unit, rounded event by event, so that totals do not depend on
the order in which threads report. Each event adds a fixed contribution.
-/

namespace TableCopy

structure Metrics where
  segmentsStarted : UInt64 := 0
  segmentsCompleted : UInt64 := 0
  segmentsFailed : UInt64 := 0
  pagesScanned : UInt64 := 0
  itemsRead : UInt64 := 0
  readMilli : UInt64 := 0
  batchesWritten : UInt64 := 0
  itemsWritten : UInt64 := 0
  unprocessedRetries : UInt64 := 0
  writeMilli : UInt64 := 0
  deriving DecidableEq, Repr

namespace Metrics

/-- What happens during a copy and is counted. -/
inductive Event (α : Type)
  | segmentStarted
  | segmentEnded (success : Bool)
  | page (items : UInt64) (capacity : α)
  | batch (items : UInt64) (capacity : α)
  | resubmission

variable {α : Type} [Quantity α]

/-- Thousandths of a capacity, rounded half up and at most the greatest word; none
for a capacity that is not a positive number. -/
def milli (capacity : α) : UInt64 :=
  match Quantity.positive? capacity with
  | none => 0
  | some _ =>
    match Quantity.value? (Quantity.mul capacity (Quantity.ofNat 1000)) with
    | some q => UInt64.ofNat (Quantity.roundUpTo (Word.greatest 64) q)
    | none => UInt64.ofNat (Word.greatest 64)

/-- What one event adds to the counters. -/
def Event.contribution : Event α → Metrics
  | .segmentStarted => { segmentsStarted := 1 }
  | .segmentEnded true => { segmentsCompleted := 1 }
  | .segmentEnded false => { segmentsFailed := 1 }
  | .page items capacity => { pagesScanned := 1, itemsRead := items, readMilli := milli capacity }
  | .batch items capacity =>
    { batchesWritten := 1, itemsWritten := items, writeMilli := milli capacity }
  | .resubmission => { unprocessedRetries := 1 }

/-- Sums of counters, modulo the word size. -/
instance : Add Metrics where
  add a b :=
    { segmentsStarted := a.segmentsStarted + b.segmentsStarted
      segmentsCompleted := a.segmentsCompleted + b.segmentsCompleted
      segmentsFailed := a.segmentsFailed + b.segmentsFailed
      pagesScanned := a.pagesScanned + b.pagesScanned
      itemsRead := a.itemsRead + b.itemsRead
      readMilli := a.readMilli + b.readMilli
      batchesWritten := a.batchesWritten + b.batchesWritten
      itemsWritten := a.itemsWritten + b.itemsWritten
      unprocessedRetries := a.unprocessedRetries + b.unprocessedRetries
      writeMilli := a.writeMilli + b.writeMilli }

/-- Count an event. -/
def record (metrics : Metrics) (event : Event α) : Metrics := metrics + event.contribution

/-- A count of thousandths as units. -/
def units (thousandths : UInt64) : α :=
  Quantity.div (Quantity.ofNat thousandths.toNat) (Quantity.ofNat 1000)

/-- Items written per second over a number of nanoseconds. -/
def writeRate (metrics : Metrics) (elapsed : Nat) : α :=
  let seconds : α := Duration.seconds elapsed
  if Quantity.isPositive seconds then
    Quantity.div (Quantity.ofNat metrics.itemsWritten.toNat) seconds
  else Quantity.ofNat 0

/-- Items read and not yet written. -/
def itemsPending (metrics : Metrics) : Nat :=
  metrics.itemsRead.toNat - metrics.itemsWritten.toNat

end Metrics
end TableCopy
