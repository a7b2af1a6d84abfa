import TableCopy.Client.Connections
import TableCopy.Metrics
import TableCopy.Pacer
import TableCopy.Pipeline.Task
import TableCopy.Pool.Basic

/-!
# State of a pipeline

Everything that the threads of a copy share, the tasks they run, where the
controlling thread stands, and a journal of what has been sent, read and
written. Time is counted in nanoseconds from the start of the copy.
-/

namespace TableCopy

variable {α ι : Type}

/-- What a pipeline does that can be seen from outside, or that decides the fate
of items. -/
inductive Entry (α ι : Type)
  /-- A page was requested. -/
  | requested (request : PageRequest ι)
  /-- A page was read and counted. -/
  | scanned (segment : Nat) (page : Page α ι)
  /-- Items were handed to a consumer outside the pipeline. -/
  | handed (segment : Nat) (items : List ι)
  /-- A batch was sent. -/
  | sent (table : String) (items : List ι)
  /-- A batch was answered, charged and counted. -/
  | written (items unprocessed : List ι) (units : α)
  /-- Items that were read will not be written. -/
  | dropped (items : List ι)
  /-- The consumer was asked to finish. -/
  | finishing

/-- Where the controlling thread stands. -/
inductive Control (α ι : Type)
  | idle
  /-- About to see whether to go on with the next segment. -/
  | submitting (left : List Nat)
  /-- About to register a segment. -/
  | beginning (segment : Nat) (left : List Nat)
  /-- About to submit a registered segment. -/
  | handing (segment : Nat) (left : List Nat)
  /-- The pool refused a segment; about to record that. -/
  | refused (error : CopyError) (left : List Nat)
  /-- The pool is saturated: running a segment on this thread. -/
  | running (task : SegmentTask α ι) (left : List Nat)
  /-- Waiting for the segments. -/
  | awaitingScan
  /-- About to ask the consumer to finish. -/
  | finishing (scanned : Except CopyError Unit)
  /-- Waiting for the consumer to finish. -/
  | awaitingWrite (scanned : Except CopyError Unit)
  /-- About to look at the interrupt for the last time. -/
  | concluding (scanned written : Except CopyError Unit)
  /-- The pipe has ended. -/
  | returned (result : Except CopyError Unit)
  /-- Shutting the pools down after the pipe, the read pool first. -/
  | closingRead (result : Except CopyError Unit)
  | joiningRead (result : Except CopyError Unit)
  | closingWrite (result : Except CopyError Unit)
  | joiningWrite (result : Except CopyError Unit)
  | released (result : Except CopyError Unit)
  /-- Handing over a page without a pipe. -/
  | delivering (delivery : Delivery α ι)
  /-- Waiting for the writer without a pipe. -/
  | draining

structure State (α ι : Type) where
  now : Nat := 0
  interrupted : Bool := false
  metrics : Metrics := {}
  readPool : Pool (SegmentTask α ι)
  scanTracker : Tracker := {}
  readPacer : Pacer α
  readSlots : Connections := Connections.unlimited
  writePool : Pool (ChunkTask α ι)
  writeTracker : Tracker := {}
  writePacer : Pacer α
  writeSlots : Connections := Connections.unlimited
  control : Control α ι := .idle
  /-- What happened, the latest first. -/
  journal : List (Entry α ι) := []

namespace State

/-- The state before a copy, with fresh pools. -/
def initial [Quantity α] (setup : Setup α) (readPool writePool : PoolSpec) : State α ι where
  readPool := Pool.create "read" readPool
  readPacer := Pacer.ofRate setup.scan.throughput
  writePool := Pool.create "write" writePool
  writePacer := Pacer.ofRate setup.write.throughput

/-- The state at the start of a pipe. -/
def piping (setup : Setup α) (s : State α ι) : State α ι :=
  { s with control := .submitting setup.scan.segments }

def log (s : State α ι) (entry : Entry α ι) : State α ι :=
  { s with journal := entry :: s.journal }

/-- Note items that will not be written. -/
def drop (s : State α ι) (items : List ι) : State α ι := s.log (.dropped items)

/-- When a sleeper wakes that falls asleep now. -/
def wakeAfter (s : State α ι) (delay : Nat) : Nat := Duration.wakeTime s.now delay

end State

/-- What a step of a thread brings from outside: nothing, or the end of the call
that the thread is waiting for. -/
inductive Answer (α ι : Type)
  | none
  | page (outcome : Outcome (Page α ι))
  | batch (outcome : Outcome (BatchOutcome α ι))
  /-- The end of a call to a consumer outside the pipeline. -/
  | consumer (outcome : Outcome Unit)

end TableCopy
