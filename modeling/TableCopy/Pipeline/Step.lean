import TableCopy.Pipeline.Segment

/-!
# Steps of a pipeline

The controlling thread submits the owned segments to the read pool until one has
failed or the copy is interrupted, waits for them, has the consumer finish, and
looks at the interrupt once more. `step` is one indivisible step of any thread,
of time or of the operator; a run of the pipeline is any sequence of such steps.
-/

namespace TableCopy

variable {α ι : Type} [Quantity α]

/-- The first failure of two results, the first result before the second. -/
def firstFailure (first second : Except CopyError Unit) : Except CopyError Unit :=
  match first with
  | .error e => .error e
  | .ok () => second

/-- One step of the controlling thread. -/
def State.controlStep (setup : Setup α) (s : State α ι) (answer : Answer α ι) :
    Option (State α ι) :=
  match s.control, answer with
  | .submitting [], .none => some { s with control := .awaitingScan }
  | .submitting (segment :: left), .none =>
    if s.interrupted || s.scanTracker.hasFailed then some { s with control := .awaitingScan }
    else some { s with control := .beginning segment left }
  | .beginning segment left, .none =>
    some { s with scanTracker := s.scanTracker.begin, control := .handing segment left }
  | .handing segment left, .none =>
    let task : SegmentTask α ι := { segment }
    match s.readPool.submit task with
    | (pool, .refused error) =>
      some { s with readPool := pool, control := .refused error left }
    | (pool, .onCaller) => some { s with readPool := pool, control := .running task left }
    | (pool, _) => some { s with readPool := pool, control := .submitting left }
  | .refused error left, .none =>
    some { s with
      scanTracker := s.scanTracker.complete (.error error)
      control := .submitting left }
  | .running task left, answer =>
    if task.isFinished then
      match answer with
      | .none =>
        some { s with
          readPool := s.readPool.finishOnCaller false
          control := .submitting left }
      | _ => none
    else
      (task.step setup s answer).map fun (s, task) => { s with control := .running task left }
  | .awaitingScan, .none =>
    s.scanTracker.wait?.map fun scanned => { s with control := .finishing scanned }
  | .finishing scanned, .none =>
    some { s.log .finishing with control := .awaitingWrite scanned }
  | .awaitingWrite scanned, .none =>
    if setup.outsideConsumer then none
    else s.writeTracker.wait?.map fun written => { s with control := .concluding scanned written }
  | .awaitingWrite scanned, .consumer (.returned written) =>
    if setup.outsideConsumer then some { s with control := .concluding scanned written } else none
  | .concluding scanned written, .none =>
    if s.interrupted then
      some { s with
        control := .returned (.error (.interrupted
          ("scan of '" ++ setup.scan.table ++ "' interrupted"))) }
    else some { s with control := .returned (firstFailure scanned written) }
  | .closingRead result, .none =>
    some { s with readPool := s.readPool.close, control := .joiningRead result }
  | .joiningRead result, .none =>
    if s.readPool.allGone none then some { s with control := .closingWrite result } else none
  | .closingWrite result, .none =>
    some { s with writePool := s.writePool.close, control := .joiningWrite result }
  | .joiningWrite result, .none =>
    if s.writePool.allGone none then some { s with control := .released result } else none
  | .delivering delivery, answer =>
    (delivery.step setup s answer).map fun (s, delivery) =>
      { s with control := .delivering delivery }
  | .draining, .none =>
    s.writeTracker.wait?.map fun written => { s with control := .returned written }
  | _, _ => none

/-- One step of thread `i` of the read pool. -/
def State.readerStep (setup : Setup α) (s : State α ι) (i : Nat) (answer : Answer α ι) :
    Option (State α ι) :=
  match s.readPool.task? i, answer with
  | some task, answer =>
    if task.isFinished then
      match answer with
      | .none => some { s with readPool := s.readPool.finish i false }
      | _ => none
    else
      (task.step setup s answer).map fun (s, task) =>
        { s with readPool := s.readPool.setWorker i (.running task) }
  | none, .none => (s.readPool.idleStep i).map fun pool => { s with readPool := pool }
  | none, _ => none

/-- One step of thread `i` of the write pool. -/
def State.writerStep (setup : Setup α) (s : State α ι) (i : Nat) (answer : Answer α ι) :
    Option (State α ι) :=
  match s.writePool.task? i, answer with
  | some task, answer =>
    if task.isFinished then
      match answer with
      | .none => some { s with writePool := s.writePool.finish i false }
      | _ => none
    else
      (task.step setup s answer).map fun (s, task) =>
        { s with writePool := s.writePool.setWorker i (.running task) }
  | none, .none => (s.writePool.idleStep i).map fun pool => { s with writePool := pool }
  | none, _ => none

/-- The threads of a copy. -/
inductive Actor
  | control
  | reader (i : Nat)
  | writer (i : Nat)
  deriving DecidableEq, Repr

/-- What can happen next. -/
inductive Move (α ι : Type)
  /-- The operator interrupts the copy. -/
  | interrupt
  /-- Time passes. -/
  | elapse (time : Nat)
  | act (actor : Actor) (answer : Answer α ι)
  /-- The keep-alive of an idle thread runs out. -/
  | timeOut (actor : Actor)

/-- One step of a copy, if it is possible. -/
def State.step (setup : Setup α) (s : State α ι) : Move α ι → Option (State α ι)
  | .interrupt => some { s with interrupted := true }
  | .elapse time => if s.now ≤ time then some { s with now := time } else none
  | .act .control answer => s.controlStep setup answer
  | .act (.reader i) answer => s.readerStep setup i answer
  | .act (.writer i) answer => s.writerStep setup i answer
  | .timeOut .control => none
  | .timeOut (.reader i) => (s.readPool.timeOut i).map fun pool => { s with readPool := pool }
  | .timeOut (.writer i) => (s.writePool.timeOut i).map fun pool => { s with writePool := pool }

/-- States that a copy can reach by any sequence of steps. -/
inductive Reachable (setup : Setup α) (start : State α ι) : State α ι → Prop
  | start : Reachable setup start start
  | step {s t : State α ι} (move : Move α ι) (reached : Reachable setup start s)
      (h : s.step setup move = some t) : Reachable setup start t

end TableCopy
