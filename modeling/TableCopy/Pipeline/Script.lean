import TableCopy.Pipeline.Simulation

/-!
# Scripted worlds

A script gives answers that depend on the question and on how often the like was
asked before: pages are counted by segment, batches by their first item, and calls
of a consumer by segment. Answers to threads of the read pool are held back while
segments are being submitted, so that a failure never decides how many are.
-/

namespace TableCopy

variable {α ι : Type}

structure Script (α ι : Type) where
  page : PageRequest ι → (asked : Nat) → Response (Page α ι)
  batch : List ι → (asked : Nat) → Response (BatchOutcome α ι)
  consume : (part asked : Nat) → Response Unit
  finish : Response Unit

/-- How often each question was asked. -/
structure Asked (ι : Type) where
  pages : List (Nat × Nat) := []
  batches : List (Option ι × Nat) := []
  handed : List (Nat × Nat) := []

/-- How often a question was asked before, and the counts with it asked once more. -/
def countAsked {κ : Type} [BEq κ] (key : κ) (counts : List (κ × Nat)) : List (κ × Nat) × Nat :=
  let asked := (counts.lookup key).getD 0
  ((key, asked + 1) :: counts.filter fun entry => entry.1 != key, asked)

/-- Whether segments are still being submitted and none has failed. -/
def State.isSubmitting (s : State α ι) : Bool :=
  match s.control with
  | .submitting [] => false
  | .submitting _ | .beginning .. | .handing .. | .refused .. | .running .. =>
    !s.scanTracker.hasFailed
  | _ => false

namespace Script

/-- The world that answers as a script says. -/
def world [BEq ι] (script : Script α ι) : World (Asked ι) α ι where
  scan asked request :=
    let (counts, n) := countAsked request.segment asked.pages
    ({ asked with pages := counts }, script.page request n)
  write asked _ items :=
    let (counts, n) := countAsked items.head? asked.batches
    ({ asked with batches := counts }, script.batch items n)
  consume asked part _ :=
    let (counts, n) := countAsked part asked.handed
    ({ asked with handed := counts }, script.consume part n)
  finish asked := (asked, script.finish)
  holds := State.isSubmitting

end Script

end TableCopy
