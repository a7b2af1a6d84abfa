import TableCopy.Pipeline.Step

/-!
# Running a pipeline

A world answers the calls of a copy: requests for pages, batches, and calls to a
consumer outside. `settle` runs one schedule of the steps of a pipeline in a world:
threads of the pools move before the controlling thread, and time passes only when
no thread can move, up to the next moment at which a sleeper wakes.
-/

namespace TableCopy

variable {σ α ι : Type}

/-- The end of a call, and whether the operator interrupts the copy before it. -/
structure Response (β : Type) where
  outcome : Outcome β
  interrupts : Bool := false

/-- Everything outside a copy, with a state of its own. -/
structure World (σ α ι : Type) where
  scan : σ → PageRequest ι → σ × Response (Page α ι)
  write : σ → String → List ι → σ × Response (BatchOutcome α ι)
  consume : σ → Nat → List ι → σ × Response Unit
  finish : σ → σ × Response Unit
  /-- Requests from threads of the read pool that are not answered yet. -/
  holds : State α ι → Bool

/-- What a thread is waiting for. -/
inductive Call (ι : Type)
  | page (request : PageRequest ι)
  | batch (items : List ι)
  | consume (segment : Nat) (items : List ι)
  | finish

variable [Quantity α]

/-- The call outstanding in a segment task. -/
def SegmentTask.call? (setup : Setup α) (task : SegmentTask α ι) : Option (Call ι) :=
  match task.phase with
  | .fetching _ => some (.page (task.request setup))
  | .handing _ items => some (.consume task.segment items)
  | _ => (task.inline?.bind ChunkTask.call?).map .batch

namespace State

/-- The call outstanding in a thread. -/
def call? (setup : Setup α) (s : State α ι) : Actor → Option (Call ι)
  | .reader i => (s.readPool.task? i).bind (SegmentTask.call? setup)
  | .writer i => ((s.writePool.task? i).bind ChunkTask.call?).map .batch
  | .control =>
    match s.control with
    | .running task _ => task.call? setup
    | .delivering delivery => (delivery.inline?.bind ChunkTask.call?).map .batch
    | .awaitingWrite _ => if setup.outsideConsumer then some .finish else none
    | _ => none

/-- The threads of a copy, the controlling one last. -/
def actors (s : State α ι) : List Actor :=
  (List.range s.readPool.workers.length).map .reader ++
    (List.range s.writePool.workers.length).map .writer ++ [.control]

/-- When the sleepers of a copy wake. -/
def wakes (s : State α ι) : List Nat :=
  let readers := (List.range s.readPool.workers.length).filterMap fun i =>
    (s.readPool.task? i).bind SegmentTask.wake?
  let writers := (List.range s.writePool.workers.length).filterMap fun i =>
    (s.writePool.task? i).bind ChunkTask.wake?
  let control :=
    match s.control with
    | .running task _ => task.wake?
    | .delivering delivery => delivery.inline?.bind ChunkTask.wake?
    | _ => none
  readers ++ writers ++ control.toList

/-- The next moment at which a sleeper wakes. -/
def nextWake? (s : State α ι) : Option Nat := (s.wakes.filter fun time => s.now < time).min?

end State

namespace World

/-- The answer of a world to a call. -/
def respond (world : World σ α ι) (setup : Setup α) (outside : σ) :
    Call ι → σ × Response Unit × Answer α ι
  | .page request =>
    let (next, response) := world.scan outside request
    (next, { response with outcome := .returned (.ok ()) }, .page response.outcome)
  | .batch items =>
    let (next, response) := world.write outside setup.write.table items
    (next, { response with outcome := .returned (.ok ()) }, .batch response.outcome)
  | .consume segment items =>
    let (next, response) := world.consume outside segment items
    (next, response, .consumer response.outcome)
  | .finish =>
    let (next, response) := world.finish outside
    (next, response, .consumer response.outcome)

/-- Whether a thread's call is held back. -/
def holdsCall (world : World σ α ι) (s : State α ι) : Actor → Call ι → Bool
  | .reader _, .page _ => world.holds s
  | _, _ => false

/-- A step of one thread, with the answer to its call if it is waiting for one. -/
def act? (world : World σ α ι) (setup : Setup α) (outside : σ) (s : State α ι) (actor : Actor) :
    Option (σ × State α ι) :=
  match s.call? setup actor with
  | some call =>
    if world.holdsCall s actor call then none
    else
      let (next, response, answer) := world.respond setup outside call
      let s := if response.interrupts then (s.step setup .interrupt).getD s else s
      (s.step setup (.act actor answer)).map fun t => (next, t)
  | none => (s.step setup (.act actor .none)).map fun t => (outside, t)

/-- The next step of the schedule. -/
def advance? (world : World σ α ι) (setup : Setup α) (outside : σ) (s : State α ι) :
    Option (σ × State α ι) :=
  match s.actors.findSome? (world.act? setup outside s) with
  | some next => some next
  | none =>
    s.nextWake?.bind fun time => (s.step setup (.elapse time)).map fun t => (outside, t)

/-- Steps until nothing moves, or until the fuel is used up. -/
def settle (world : World σ α ι) (setup : Setup α) :
    (fuel : Nat) → σ → State α ι → σ × State α ι
  | 0, outside, s => (outside, s)
  | fuel + 1, outside, s =>
    match world.advance? setup outside s with
    | some (outside, t) => settle world setup fuel outside t
    | none => (outside, s)

end World
end TableCopy
