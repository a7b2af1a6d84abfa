import TableCopy.Pipeline.Simulation

/-!
# Exchanges

A call of a copy and the answer that ended it form an exchange. The exchanges of a
run are all that the two tables learn of it.
-/

namespace TableCopy

variable {α ι : Type}

/-- A call of a copy and how it ended. -/
structure Exchange (α ι : Type) where
  call : Call ι
  answer : Answer α ι

namespace Exchange

/-- A batch of items and what came of it. -/
def batch (items : List ι) (outcome : Outcome (BatchOutcome α ι)) : Exchange α ι :=
  ⟨.batch items, .batch outcome⟩

/-- A request for a page and what came of it. -/
def page (request : PageRequest ι) (outcome : Outcome (Page α ι)) : Exchange α ι :=
  ⟨.page request, .page outcome⟩

/-- The exchange that an answer ends, if a call was outstanding. -/
def ended (call : Option (Call ι)) (answer : Answer α ι) : List (Exchange α ι) :=
  match call with
  | some call => [⟨call, answer⟩]
  | none => []

@[simp] theorem ended_none (answer : Answer α ι) : ended none answer = [] := rfl

@[simp] theorem ended_some (call : Call ι) (answer : Answer α ι) :
    ended (some call) answer = [⟨call, answer⟩] := rfl

end Exchange

variable [Quantity α]

/-- The exchange that a step ends. -/
def State.exchanged (setup : Setup α) (s : State α ι) : Move α ι → List (Exchange α ι)
  | .act actor answer => Exchange.ended (s.call? setup actor) answer
  | _ => []

end TableCopy
