import TableCopy.Pipeline.Chunk

/-!
# Steps of a delivery

A page is refused once writing has failed. Otherwise its items are split, in
order, into chunks that are submitted to the write pool one by one; when the pool
is saturated the delivering thread writes the chunk itself.
-/

namespace TableCopy
namespace Delivery

variable {α ι : Type} [Quantity α]

/-- The error of a page that comes after a failure. -/
def refusal (setup : Setup α) (delivery : Delivery α ι) : CopyError :=
  .execution ("writes to '" ++ setup.write.table ++ "' already failed, dropping page from segment "
    ++ toString delivery.segment)

/-- One step of a delivery. -/
def step (setup : Setup α) (s : State α ι) (delivery : Delivery α ι) (answer : Answer α ι) :
    Option (State α ι × Delivery α ι) :=
  match delivery.phase, answer with
  | .checking items, .none =>
    if s.writeTracker.hasFailed then
      some (s.drop items, { delivery with phase := .ended (.error (delivery.refusal setup)) })
    else some (s, { delivery with phase := .splitting items })
  | .splitting items, .none =>
    if items.isEmpty then some (s, { delivery with phase := .ended (.ok ()) })
    else
      some ({ s with writeTracker := s.writeTracker.begin },
        { delivery with
          phase := .submitting (items.take setup.write.chunkSize)
            (items.drop setup.write.chunkSize) })
  | .submitting chunk rest, .none =>
    let task : ChunkTask α ι := { segment := delivery.segment, pending := chunk }
    match s.writePool.submit task with
    | (pool, .refused error) =>
      some ({ s with writePool := pool }, { delivery with phase := .refused error chunk rest })
    | (pool, .onCaller) =>
      some ({ s with writePool := pool }, { delivery with phase := .running task rest })
    | (pool, _) => some ({ s with writePool := pool }, { delivery with phase := .splitting rest })
  | .refused error chunk rest, .none =>
    some ({ s with writeTracker := s.writeTracker.complete (.error error) }.drop (chunk ++ rest),
      { delivery with phase := .ended (.error error) })
  | .running task rest, answer =>
    if task.isFinished then
      match answer with
      | .none =>
        some ({ s with writePool := s.writePool.finishOnCaller false },
          { delivery with phase := .splitting rest })
      | _ => none
    else
      (task.step setup s answer).map fun (s, task) =>
        (s, { delivery with phase := .running task rest })
  | _, _ => none

/-- The chunk that the delivering thread writes itself. -/
def inline? (delivery : Delivery α ι) : Option (ChunkTask α ι) :=
  match delivery.phase with
  | .running task _ => some task
  | _ => none

end Delivery
end TableCopy
