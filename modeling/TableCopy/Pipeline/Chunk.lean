import TableCopy.Pipeline.State

/-!
# Steps of a chunk task

A chunk is sent until the service has applied all of it. A failed request is
tried again while the retry policy allows; items left unprocessed are sent again
after a delay, as often as retries are allowed. Units are charged after the fact,
and one unit for each applied item when the service reports none.
-/

namespace TableCopy
namespace ChunkTask

variable {α ι : Type} [Quantity α]

/-- Items of a batch that were applied. -/
def appliedCount (task : ChunkTask α ι) (outcome : BatchOutcome α ι) : Nat :=
  task.pending.length - outcome.unprocessed.length

/-- Units to charge for an answered batch. -/
def units (task : ChunkTask α ι) (outcome : BatchOutcome α ι) : α :=
  if Quantity.isPositive outcome.capacity then outcome.capacity
  else Quantity.ofNat (task.appliedCount outcome)

/-- The error of a chunk that starts after an interrupt. -/
def interruption (setup : Setup α) (task : ChunkTask α ι) : CopyError :=
  .interrupted ("dropped " ++ toString task.pending.length ++ " items bound for '" ++
    setup.write.table ++ "'")

/-- The error of a chunk with items left after the last resubmission. -/
def exhaustion (setup : Setup α) (outcome : BatchOutcome α ι) (round : Nat) : CopyError :=
  .execution (toString outcome.unprocessed.length ++ " items still unprocessed by '" ++
    setup.write.table ++ "' after " ++ toString round ++ " retries")

/-- The task gives up the items it has not written. -/
def fail (s : State α ι) (task : ChunkTask α ι) (outcome : Outcome Unit) :
    State α ι × ChunkTask α ι :=
  (s.drop task.pending, { task with phase := .ending outcome })

/-- What follows the answer to a request. -/
def receive (setup : Setup α) (s : State α ι) (task : ChunkTask α ι) (round attempt : Nat) :
    Outcome (BatchOutcome α ι) → State α ι × ChunkTask α ι
  | .crashed reason => fail s task (.crashed reason)
  | .returned (.ok outcome) =>
    let units := task.units outcome
    (s, { task with phase := .charging round outcome units (s.writePacer.permits units) s.now })
  | .returned (.error e) =>
    match setup.writeRetry.onFailure attempt e with
    | .giveUp => fail s task (.returned (.error e))
    | .again (.error fault) => fail s task (.crashed (some fault.message))
    | .again (.ok delay) =>
      (s, { task with phase := .backingOff round (attempt + 1) (s.wakeAfter delay) })

/-- Count an answered batch, and decide about what it left unprocessed. -/
def record (setup : Setup α) (s : State α ι) (task : ChunkTask α ι) (round : Nat)
    (outcome : BatchOutcome α ι) (units : α) : State α ι × ChunkTask α ι :=
  let counted :=
    { s with
      metrics := s.metrics.record (.batch (UInt64.ofNat (task.appliedCount outcome)) units) }.log
      (.written task.pending outcome.unprocessed units)
  let left := { task with pending := outcome.unprocessed }
  if outcome.unprocessed.isEmpty then
    (counted, { left with phase := .ending (.returned (.ok ())) })
  else if setup.writeRetry.maxRetries ≤ round then
    fail counted left (.returned (.error (exhaustion setup outcome round)))
  else
    let again := { counted with metrics := counted.metrics.record (α := α) .resubmission }
    match setup.writeRetry.delay round with
    | .error fault => fail again left (.crashed (some fault.message))
    | .ok delay => (again, { left with phase := .resting (round + 1) (s.wakeAfter delay) })

/-- One step of a chunk task. There is none while it sleeps, while no slot is free,
and while an answer is outstanding. -/
def step (setup : Setup α) (s : State α ι) (task : ChunkTask α ι) (answer : Answer α ι) :
    Option (State α ι × ChunkTask α ι) :=
  match task.phase, answer with
  | .ready, .none =>
    if s.interrupted then some (fail s task (.returned (.error (task.interruption setup))))
    else some (s, { task with phase := .connecting 0 0 })
  | .connecting round attempt, .none =>
    s.writeSlots.acquire?.map fun slots =>
      ({ s with writeSlots := slots }.log (.sent setup.write.table task.pending),
        { task with phase := .sending round attempt })
  | .sending round attempt, .batch outcome =>
    some (receive setup { s with writeSlots := s.writeSlots.release } task round attempt outcome)
  | .backingOff round attempt wake, .none =>
    if wake ≤ s.now then some (s, { task with phase := .connecting round attempt }) else none
  | .charging round outcome units permits wake, .none =>
    if s.now < wake then none
    else if permits = 0 then some (s, { task with phase := .recording round outcome units })
    else
      match s.writePacer.charge s.now permits with
      | .granted pacer remaining =>
        some ({ s with writePacer := pacer },
          { task with phase := .charging round outcome units remaining s.now })
      | .notBefore time =>
        some (s, { task with phase := .charging round outcome units permits time })
  | .recording round outcome units, .none => some (record setup s task round outcome units)
  | .resting round wake, .none =>
    if wake ≤ s.now then some (s, { task with phase := .connecting round 0 }) else none
  | .ending outcome, .none =>
    some ({ s with writeTracker := s.writeTracker.completeTask task.label outcome },
      { task with phase := .finished })
  | _, _ => none

/-- The batch of a request in flight. -/
def call? (task : ChunkTask α ι) : Option (List ι) :=
  match task.phase with
  | .sending .. => some task.pending
  | _ => none

/-- When a sleeping task wakes. -/
def wake? (task : ChunkTask α ι) : Option Nat :=
  match task.phase with
  | .backingOff _ _ wake | .charging _ _ _ _ wake | .resting _ wake => some wake
  | _ => none

end ChunkTask
end TableCopy
