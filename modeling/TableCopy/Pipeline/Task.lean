import TableCopy.Pipeline.Job
import TableCopy.Tracker

/-!
# Tasks of a pipeline

A chunk task writes one chunk of items, a delivery hands one page to the writer,
and a segment task copies one segment. Each is data that says where the task
stands, so that a thread can stop between any two of its steps.
-/

namespace TableCopy

variable {α ι : Type}

/-- Where a chunk task stands. Rounds count the resubmissions of unprocessed items,
attempts the tries of one request. -/
inductive ChunkPhase (α ι : Type)
  /-- Not started; about to look at the interrupt. -/
  | ready
  /-- About to take a connection slot. -/
  | connecting (round attempt : Nat)
  /-- A request is in flight. -/
  | sending (round attempt : Nat)
  /-- Waiting before another attempt. -/
  | backingOff (round attempt wake : Nat)
  /-- Charging permits for the consumed units, not before `wake`. -/
  | charging (round : Nat) (outcome : BatchOutcome α ι) (units : α) (permits wake : Nat)
  /-- About to count the batch. -/
  | recording (round : Nat) (outcome : BatchOutcome α ι) (units : α)
  /-- Waiting before unprocessed items are sent again. -/
  | resting (round wake : Nat)
  /-- About to report how the task ended. -/
  | ending (outcome : Outcome Unit)
  | finished

structure ChunkTask (α ι : Type) where
  segment : Nat
  /-- The items still to be written. -/
  pending : List ι
  phase : ChunkPhase α ι := .ready

/-- Where a delivery stands. -/
inductive DeliveryPhase (α ι : Type)
  /-- About to see whether writing has failed. -/
  | checking (items : List ι)
  /-- About to register the next chunk. -/
  | splitting (items : List ι)
  /-- About to submit a registered chunk. -/
  | submitting (chunk rest : List ι)
  /-- The pool is saturated: running the chunk on this thread. -/
  | running (task : ChunkTask α ι) (rest : List ι)
  /-- The pool refused the chunk; about to record that. -/
  | refused (error : CopyError) (chunk rest : List ι)
  | ended (result : Except CopyError Unit)

structure Delivery (α ι : Type) where
  segment : Nat
  phase : DeliveryPhase α ι

/-- Where a segment task stands. -/
inductive SegmentPhase (α ι : Type)
  /-- Not started; about to count the segment. -/
  | ready
  /-- About to look at the interrupt before a page. -/
  | checking
  | connecting (attempt : Nat)
  /-- A request for a page is in flight. -/
  | fetching (attempt : Nat)
  | backingOff (attempt wake : Nat)
  | charging (page : Page α ι) (permits wake : Nat)
  /-- About to count the page. -/
  | recording (page : Page α ι)
  /-- Handing the items to the paced writer. -/
  | delivering (nextKey : Option ι) (delivery : Delivery α ι)
  /-- Handing the items to a consumer outside the pipeline. -/
  | handing (nextKey : Option ι) (items : List ι)
  /-- About to count how the segment ended; the number of its pages if it is done. -/
  | closing (result : Except CopyError Nat)
  /-- About to report how the task ended. -/
  | ending (outcome : Outcome Unit)
  | finished

structure SegmentTask (α ι : Type) where
  segment : Nat
  /-- Where the next page starts; the first page of a segment has no start. -/
  startKey : Option ι := none
  pages : Nat := 0
  phase : SegmentPhase α ι := .ready

def ChunkTask.label (task : ChunkTask α ι) : String :=
  "batch from segment " ++ toString task.segment

def SegmentTask.label (task : SegmentTask α ι) : String := "segment " ++ toString task.segment

def ChunkTask.isFinished (task : ChunkTask α ι) : Bool :=
  match task.phase with
  | .finished => true
  | _ => false

def SegmentTask.isFinished (task : SegmentTask α ι) : Bool :=
  match task.phase with
  | .finished => true
  | _ => false

end TableCopy
