import TableCopy.Error
import TableCopy.Pool.Spec

/-!
# Bounded pools

A pool has a core of long-lived threads, further threads up to a maximum, and a
bounded queue. A submission starts a thread while the core is not complete, else
it is queued, else it starts a further thread, and else it runs on the thread
that submits it; it is dropped only if the system does not start its thread. The
pool is a value: every operation that a thread performs in one indivisible step is
a function on it, so that a schedule is a sequence of such steps.
-/

namespace TableCopy

/-- What a thread of a pool is doing. -/
inductive Worker (τ : Type)
  /-- About to see whether the pool is larger than its core. -/
  | deciding
  /-- Receiving from the queue; a timed wait ends after the keep-alive. -/
  | waiting (timed : Bool)
  | running (task : τ)
  /-- Its wait ran out on an empty queue; about to look at the pool again. -/
  | timedOut
  /-- It found the queue closed; about to leave. -/
  | closing
  | gone
  deriving DecidableEq, Repr

def Worker.isGone {τ : Type} : Worker τ → Bool
  | gone => true
  | _ => false

structure Pool (τ : Type) where
  name : String
  spec : PoolSpec
  isOpen : Bool := true
  queue : List τ := []
  /-- Every thread ever started, in order. -/
  workers : List (Worker τ) := []
  /-- The count of threads that have not left, on which placement depends. -/
  live : Nat := 0
  peak : Nat := 0
  /-- Submitting threads that are running their own task. They keep the queue
  from counting as closed. -/
  callers : Nat := 0
  submitted : Nat := 0
  callerRuns : Nat := 0
  completed : Nat := 0
  crashed : Nat := 0
  /-- How many threads the system has not started. -/
  unstarted : Nat := 0
  /-- The threads that the system will not start, by their numbers, and its reasons. -/
  denied : List (Nat × String) := []
  deriving Repr

/-- Where a submission goes. -/
inductive Placement
  | started
  | queued
  /-- The submitting thread runs the task itself. -/
  | onCaller
  /-- The pool is shut down, or a thread was not started. -/
  | refused (error : CopyError)
  deriving DecidableEq, Repr

namespace Pool

variable {τ : Type}

def create (name : String) (spec : PoolSpec) : Pool τ := { name, spec }

/-- Start a thread, with a first task or with a look at the queue. -/
def start (pool : Pool τ) (first : Worker τ) : Pool τ :=
  { pool with
    workers := pool.workers ++ [first]
    live := pool.live + 1
    peak := max pool.peak (pool.live + 1) }

/-- The error of a submission to a pool that is shut down. -/
def refusal (pool : Pool τ) : CopyError :=
  .execution ("pool '" ++ pool.name ++ "' is shut down")

/-- The number of the next thread. A thread that was not started has a number, too. -/
def nextThread (pool : Pool τ) : Nat := pool.workers.length + pool.unstarted

/-- The error of a submission whose thread the system does not start. -/
def startFault? (pool : Pool τ) : Option CopyError :=
  (pool.denied.lookup pool.nextThread).map fun reason =>
    .execution ("pool '" ++ pool.name ++ "' failed to start a thread: " ++ reason)

/-- Start a thread for a submission, if the system does. What was queued stays queued. -/
def spawn (pool : Pool τ) (first : Worker τ) (placement : Placement) : Pool τ × Placement :=
  match pool.startFault? with
  | none => (pool.start first, placement)
  | some error => ({ pool with unstarted := pool.unstarted + 1 }, .refused error)

/-- Submit a task. -/
def submit (pool : Pool τ) (task : τ) : Pool τ × Placement :=
  if !pool.isOpen then (pool, .refused pool.refusal)
  else
    let counted := { pool with submitted := pool.submitted + 1 }
    if pool.live < pool.spec.corePoolSize then counted.spawn (.running task) .started
    else if pool.queue.length < pool.spec.places then
      let filled := { counted with queue := pool.queue ++ [task] }
      if pool.live = 0 then filled.spawn .deciding .queued else (filled, .queued)
    else if pool.live < pool.spec.maxPoolSize then counted.spawn (.running task) .started
    else
      ({ counted with callerRuns := pool.callerRuns + 1, callers := pool.callers + 1 }, .onCaller)

/-- The queue is closed once the pool is and no submission is in progress. -/
def isClosed (pool : Pool τ) : Bool := !pool.isOpen && pool.callers = 0

def setWorker (pool : Pool τ) (i : Nat) (worker : Worker τ) : Pool τ :=
  { pool with workers := pool.workers.set i worker }

/-- Count a task that ended. -/
def count (pool : Pool τ) (crashed : Bool) : Pool τ :=
  if crashed then { pool with crashed := pool.crashed + 1 }
  else { pool with completed := pool.completed + 1 }

/-- A thread takes itself out of the pool. -/
def leave (pool : Pool τ) (i : Nat) : Pool τ :=
  { pool.setWorker i .gone with live := pool.live - 1 }

/-- The next step of thread `i` while it is not running a task. A wait goes on
while the queue is empty and not closed. -/
def idleStep (pool : Pool τ) (i : Nat) : Option (Pool τ) :=
  match pool.workers[i]? with
  | some .deciding =>
    some (pool.setWorker i (.waiting (pool.spec.corePoolSize < pool.live)))
  | some (.waiting _) =>
    match pool.queue with
    | task :: rest => some ({ pool with queue := rest }.setWorker i (.running task))
    | [] => if pool.isClosed then some (pool.setWorker i .closing) else none
  | some .timedOut =>
    if pool.live ≤ pool.spec.corePoolSize then some (pool.setWorker i .deciding)
    else some (pool.leave i)
  | some .closing => some (pool.leave i)
  | _ => none

/-- The keep-alive of thread `i` runs out. -/
def timeOut (pool : Pool τ) (i : Nat) : Option (Pool τ) :=
  match pool.workers[i]? with
  | some (.waiting true) =>
    if pool.queue.isEmpty && !pool.isClosed then some (pool.setWorker i .timedOut) else none
  | _ => none

/-- The task that thread `i` is running. -/
def task? (pool : Pool τ) (i : Nat) : Option τ :=
  match pool.workers[i]? with
  | some (.running task) => some task
  | _ => none

/-- Thread `i` ends its task and looks for another. -/
def finish (pool : Pool τ) (i : Nat) (crashed : Bool) : Pool τ :=
  (pool.count crashed).setWorker i .deciding

/-- A submitting thread ends the task it ran itself. -/
def finishOnCaller (pool : Pool τ) (crashed : Bool) : Pool τ :=
  { pool.count crashed with callers := pool.callers - 1 }

/-- Accept no more work. Queued tasks are still run. -/
def close (pool : Pool τ) : Pool τ := { pool with isOpen := false }

/-- Whether every thread has left, apart from one that may be waiting for this. -/
def allGone (pool : Pool τ) (except : Option Nat) : Bool :=
  pool.workers.zipIdx.all fun (worker, i) => worker.isGone || some i == except

end Pool

/-- Counters that tell how a pool was used. -/
structure PoolStats where
  submitted : Nat := 0
  callerRuns : Nat := 0
  completed : Nat := 0
  crashed : Nat := 0
  live : Nat := 0
  peak : Nat := 0
  deriving DecidableEq, Repr

/-- The counters of two pools together. -/
instance : Add PoolStats where
  add a b :=
    { submitted := a.submitted + b.submitted
      callerRuns := a.callerRuns + b.callerRuns
      completed := a.completed + b.completed
      crashed := a.crashed + b.crashed
      live := a.live + b.live
      peak := max a.peak b.peak }

def Pool.stats {τ : Type} (pool : Pool τ) : PoolStats where
  submitted := pool.submitted
  callerRuns := pool.callerRuns
  completed := pool.completed
  crashed := pool.crashed
  live := pool.live
  peak := pool.peak

end TableCopy
