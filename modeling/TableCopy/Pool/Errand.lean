import TableCopy.Pool.Basic

/-!
# Running a pool by itself

An errand is a small task: it may wait for its gate, may crash, and may shut its
own pool down. An office is a pool of errands together with the gates that are
open. `settle` lets every thread go on until nothing moves any more.
-/

namespace TableCopy

structure Errand where
  id : Nat
  /-- Waits for its gate when it runs on a thread of the pool. -/
  gated : Bool := false
  crashes : Bool := false
  /-- Shuts the pool down while it runs. -/
  shutsDown : Bool := false
  /-- It was the one to shut the pool down and waits for the other threads to leave. -/
  joining : Bool := false
  deriving DecidableEq, Repr

/-- Where an errand was started. -/
inductive Runner
  | worker
  | caller
  deriving DecidableEq, Repr

structure Office where
  pool : Pool Errand
  /-- Gates opened one by one. -/
  gates : List Nat := []
  /-- All gates are open, those of later errands too. -/
  gatesOpen : Bool := false
  started : List (Nat × Runner) := []
  finished : List Nat := []

namespace Office

def gateOpen (o : Office) (errand : Errand) : Bool := o.gatesOpen || o.gates.contains errand.id

/-- Note the errands that run on threads now and have not been noted yet. -/
def noteStarted (o : Office) (i : Nat) : Office :=
  match o.pool.task? i with
  | some errand =>
    if o.started.any fun s => s.1 == errand.id then o
    else { o with started := (errand.id, .worker) :: o.started }
  | none => o

/-- One step of the errand that thread `i` runs. Only who shuts an open pool down
waits for the other threads. -/
def runStep (o : Office) (i : Nat) (errand : Errand) : Option Office :=
  if errand.gated && !o.gateOpen errand then none
  else if errand.shutsDown && !errand.joining && o.pool.isOpen then
    some { o with
      pool := (o.pool.close).setWorker i (.running { errand with joining := true }) }
  else if errand.joining && !o.pool.allGone (some i) then none
  else
    some { o with
      pool := o.pool.finish i errand.crashes
      finished := errand.id :: o.finished }

/-- One step of thread `i`, if it can move. -/
def step? (o : Office) (i : Nat) : Option Office :=
  match o.pool.task? i with
  | some errand => o.runStep i errand
  | none => (o.pool.idleStep i).map fun pool => noteStarted { o with pool } i

/-- The first thread that can move makes a step; if none can and idle threads are
impatient, the first timed wait runs out. -/
def advance? (o : Office) (impatient : Bool) : Option Office :=
  let threads := List.range o.pool.workers.length
  match threads.findSome? o.step? with
  | some next => some next
  | none =>
    if impatient then
      (threads.findSome? o.pool.timeOut).map fun pool => { o with pool }
    else none

/-- Steps until nothing moves, or until the fuel is used up. -/
def settle (impatient : Bool) : (fuel : Nat) → Office → Office
  | 0, o => o
  | fuel + 1, o =>
    match o.advance? impatient with
    | some next => settle impatient fuel next
    | none => o

/-- Submit an errand from outside. Run by the submitting thread, it does not wait
for its gate. -/
def submit (o : Office) (errand : Errand) : Office × Except CopyError Unit :=
  match o.pool.submit errand with
  | (pool, .refused error) => ({ o with pool }, .error error)
  | (pool, .onCaller) =>
    let pool := if errand.shutsDown then pool.close else pool
    ({ o with
        pool := pool.finishOnCaller errand.crashes
        started := (errand.id, .caller) :: o.started
        finished := errand.id :: o.finished }, .ok ())
  | (pool, .started) =>
    (noteStarted { o with pool } (pool.workers.length - 1), .ok ())
  | (pool, .queued) => ({ o with pool }, .ok ())

def openGate (o : Office) (id : Nat) : Office := { o with gates := id :: o.gates }

def openAllGates (o : Office) : Office := { o with gatesOpen := true }

/-- Shut the pool down from outside; settling then waits for its threads. -/
def shutdown (o : Office) : Office := { o with pool := o.pool.close }

/-- Run errands one after the other in a pool of their own, and shut it down. -/
def runAll (name : String) (spec : PoolSpec) (fuel : Nat) (errands : List Errand) : PoolStats :=
  let start : Office := { pool := Pool.create name spec }
  let busy := errands.foldl (fun o errand => settle false fuel (o.submit errand).1) start
  (settle false fuel busy.shutdown).pool.stats

end Office
end TableCopy
