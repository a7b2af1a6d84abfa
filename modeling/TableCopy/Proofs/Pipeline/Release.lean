import TableCopy.Proofs.Pipeline.Submissions

/-!
# The release of the pools

After the pipe the controlling thread closes the read pool and waits until its threads have
left, and then does the same with the write pool. A pool without threads makes no step any
more. So when both pools are released, each has completed what was submitted to it.
-/

namespace TableCopy

variable {α ι : Type}

namespace Control

end Control

namespace State

variable [Quantity α] {setup : Setup α} {s t : State α ι} {answer : Answer α ι} {i : Nat}

end State

/-- The counters of a pool that was shut down after its work: no thread is left, no task has
crashed, and what was submitted is completed, but for tasks whose threads were not started. -/
structure PoolStats.AreFinal (stats : PoolStats) (unstarted : Nat) : Prop where
  live : stats.live = 0
  crashed : stats.crashed = 0
  completed : stats.submitted = stats.completed + unstarted

/-- The threads of the two pools that the system will not start, by their numbers, and its
reasons. -/
structure Denials where
  readers : List (Nat × String) := []
  writers : List (Nat × String) := []

namespace Run

variable [Quantity α] {setup : Setup α} {start s : State α ι} {history : List (Exchange α ι)}

end Run
end TableCopy
