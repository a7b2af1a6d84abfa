import TableCopy.Job.Run
import TableCopy.Pipeline.Simulation

/-!
# Performing a job in a world

The pipe of a job runs in a world of answers until it has returned, and then its
pools are shut down.
-/

namespace TableCopy
namespace World

variable {σ α ι : Type} [Quantity α]

/-- Run a pipe, and then shut its pools down. -/
def runJob (world : World σ α ι) (setup : Setup α) (fuel : Nat) (outside : σ) (start : State α ι) :
    σ × State α ι :=
  let (outside, piped) := world.settle setup fuel outside (start.piping setup)
  world.settle setup fuel outside piped.releasing

/-- The ending of a job that has come to its end; any other is reported as unfinished. -/
def endingOf (s : State α ι) : Ending :=
  s.ending?.getD
    ⟨.error (.unexpected "the copy did not end"), s.readPool.stats, s.writePool.stats, s.metrics⟩

end World
end TableCopy
