import TableCopy.Proofs.Copy.Chunks
import TableCopy.Proofs.Copy.Counts
import TableCopy.Proofs.Copy.Segments
import TableCopy.Proofs.Job.ExitStatus
import TableCopy.Proofs.Pipeline.Release

/-!
# What a report tells of its job

The report of a job puts together what its plan, its pipe, the two pools and the counters
have left. Whatever the tables answer, its parts agree: the counters of the pools are final,
every segment that was submitted is counted as started, and a completed job has submitted all
segments that it owns, and the chunks of all their pages.
-/

namespace TableCopy

variable {α ι : Type}

/-- What a copy has left agrees with the number of segments that it owns, where so many segments
and chunks were lost with threads that the system did not start. -/
structure Ending.IsSettled (ending : Ending) (denials : Denials)
    (owned lostReads lostWrites : Nat) : Prop where
  readPool : ending.readPool.AreFinal lostReads
  writePool : ending.writePool.AreFinal lostWrites
  started : ending.readPool.submitted = ending.metrics.segmentsStarted.toNat + lostReads
  owned : ending.readPool.submitted ≤ owned
  lostReads : denials.readers = [] ∨ ending.result = .ok () → lostReads = 0
  lostWrites : denials.writers = [] ∨ ending.result = .ok () → lostWrites = 0

/-- A pipeline that does what a delegation asks for. Its retry policies may be any. -/
structure Setup.Serves (setup : Setup α) (delegation : Delegation α) : Prop where
  scan : setup.scan = delegation.scan
  write : setup.write = delegation.write
  paced : setup.outsideConsumer = false

variable [Quantity α]

namespace Course

variable {request : JobRequest α} {backend : Backend α} {course : Course α}
variable {source destination : TableCapacity} {plan : JobPlan α}
variable {denials : Denials} {history : List (Exchange α ι)}

end Course

namespace JobRequest

variable (request : JobRequest α) {backend : Backend α}
variable {denials : Denials} {history : List (Exchange α ι)}

end JobRequest

/-! ## Jobs between two tables -/

section Tables

variable (source : PageRequest ι → Page α ι) (destination : List ι → Outcome (BatchOutcome α ι))
variable (denials : Denials)

/-- The copy of a delegation before its pipe, where the system denies some threads. -/
def Delegation.denied (delegation : Delegation α) : State α ι :=
  { State.initial delegation.setup delegation.readPool delegation.writePool with
    readPool := { Pool.create "read" delegation.readPool with denied := denials.readers }
    writePool := { Pool.create "write" delegation.writePool with denied := denials.writers } }

variable {source destination denials}

namespace JobRequest

end JobRequest
end Tables

namespace JobRequest

end JobRequest
end TableCopy
