import Mathlib.Algebra.Group.Pi.Basic
import TableCopy.Proofs.Copy.Laps
import TableCopy.Proofs.Copy.Protocol

/-!
# Requests in flight

A request for a page or for a batch is in flight while its call is outstanding. With every step
of a task a request is sent, which takes a slot of its direction, or a request is answered,
which gives its slot back, or neither. Along a pipe the slots held in either direction are
therefore the requests in flight.
-/

namespace TableCopy

variable {α ι : Type}

/-- The requests of a call, by direction. A call to a consumer is no request. -/
def Call.inFlight : Call ι → Direction → Nat
  | .page _ => Pi.single .read 1
  | .batch _ => Pi.single .write 1
  | .consume .. | .finish => 0

/-- The requests of a thread, by the call that it is waiting for. -/
def Call.inFlightOf (call? : Option (Call ι)) : Direction → Nat := call?.elim 0 Call.inFlight

def ChunkTask.inFlight (task : ChunkTask α ι) : Direction → Nat :=
  Call.inFlightOf (task.call?.map .batch)

def Delivery.inFlight (delivery : Delivery α ι) : Direction → Nat :=
  Call.inFlightOf ((delivery.inline?.bind ChunkTask.call?).map .batch)

def SegmentTask.inFlight (setup : Setup α) (task : SegmentTask α ι) : Direction → Nat :=
  Call.inFlightOf (task.call? setup)

def Control.inFlight (setup : Setup α) : Control α ι → Direction → Nat
  | .running task _ => task.inFlight setup
  | .delivering delivery => delivery.inFlight
  | _ => 0

namespace State

/-- The requests of the tasks that the read pool holds. -/
def readersInFlight (setup : Setup α) (s : State α ι) : Direction → Nat :=
  (s.readPool.tasks.map (SegmentTask.inFlight setup)).sum

/-- The requests of the tasks that the write pool holds. -/
def writersInFlight (s : State α ι) : Direction → Nat :=
  (s.writePool.tasks.map ChunkTask.inFlight).sum

/-- The requests in flight, by direction. -/
def inFlight (setup : Setup α) (s : State α ι) : Direction → Nat :=
  s.control.inFlight setup + s.readersInFlight setup + s.writersInFlight

end State

/-- The slots of a copy, by direction. -/
def State.slots (s : State α ι) : Direction → Connections
  | .read => s.readSlots
  | .write => s.writeSlots

@[simp] theorem State.slots_holdReadSlots (s : State α ι) (slots : Connections) :
    (s.holdReadSlots slots).slots = Function.update s.slots .read slots := by
  funext direction
  cases direction <;> rfl

@[simp] theorem State.slots_holdWriteSlots (s : State α ι) (slots : Connections) :
    (s.holdWriteSlots slots).slots = Function.update s.slots .write slots := by
  funext direction
  cases direction <;> rfl

/-! ## Slots in use -/

namespace Connections

/-- The slots that are free; not set for a client without a limit. -/
def available (c : Connections) : Option Nat := c.limit.map (· - c.held)

/-- The slots of a client with a configured limit, of which as many are held as it has requests
in flight. -/
structure Serves (c : Connections) (maxConnections requests : Nat) : Prop where
  limit_eq : c.limit = some (max maxConnections 1)
  held_eq : c.held = requests
  le_limit : requests ≤ max maxConnections 1

variable {c d : Connections} {maxConnections requests : Nat}

theorem serves_ofLimit (maxConnections : Nat) : (ofLimit maxConnections).Serves maxConnections 0 :=
  ⟨rfl, rfl, Nat.zero_le _⟩

namespace Serves

theorem acquire (h : c.Serves maxConnections requests) (hfree : c.acquire? = some d) :
    d.Serves maxConnections (requests + 1) := by
  have hle := held_le_of_acquire? h.limit_eq hfree
  simp only [acquire?, Option.ite_none_right_eq_some, Option.some.injEq] at hfree
  obtain ⟨-, rfl⟩ := hfree
  have hheld : c.held + 1 = requests + 1 := congrArg (· + 1) h.held_eq
  exact ⟨h.limit_eq, hheld, hheld ▸ hle⟩

theorem release (h : c.Serves maxConnections (requests + 1)) :
    c.release.Serves maxConnections requests := by
  refine ⟨h.limit_eq, ?_, Nat.le_of_succ_le h.le_limit⟩
  rw [Connections.release, h.held_eq, Nat.add_sub_cancel]

/-- What is free and what is in flight are together as many as the client was made for. -/
theorem available_add (h : c.Serves maxConnections requests) :
    ∃ free, c.available = some free ∧ free + requests = max maxConnections 1 := by
  refine ⟨max maxConnections 1 - requests, ?_, Nat.sub_add_cancel h.le_limit⟩
  rw [available, h.limit_eq, Option.map_some, h.held_eq]

theorem eq_ofLimit (h : c.Serves maxConnections 0) : c = ofLimit maxConnections := by
  obtain ⟨limit, held⟩ := c
  obtain ⟨rfl, rfl, -⟩ := h
  rfl

end Serves
end Connections

/-! ## What a step does with the slots -/

/-- The slots and the requests in flight before and after a step. A step sends one request at
most, or has one answered at most. -/
inductive Traffic (slots : Direction → Connections) (requests : Direction → Nat) :
    (Direction → Connections) → (Direction → Nat) → Prop
  | keep : Traffic slots requests slots requests
  | send {direction taken} (h : (slots direction).acquire? = some taken) :
    Traffic slots requests (Function.update slots direction taken)
      (requests + Pi.single direction 1)
  | answer {direction left} (h : left + Pi.single direction 1 = requests) :
    Traffic slots requests (Function.update slots direction (slots direction).release) left

namespace Traffic

variable {slots slots' : Direction → Connections} {requests requests' : Direction → Nat}

/-- Requests that take no part may be in flight as well. -/
theorem add (h : Traffic slots requests slots' requests') (more : Direction → Nat) :
    Traffic slots (requests + more) slots' (requests' + more) := by
  cases h with
  | keep => exact .keep
  | send hfree =>
    rw [add_right_comm]
    exact .send hfree
  | answer hleft =>
    refine .answer ?_
    rw [add_right_comm, hleft]

theorem of_eq (hslots : slots' = slots) (hrequests : requests' = requests) :
    Traffic slots requests slots' requests' := by
  rw [hslots, hrequests]
  exact .keep

/-- A request that is sent has taken a slot of its direction. -/
theorem of_send {direction : Direction} {taken : Connections}
    (h : (slots direction).acquire? = some taken) :
    Traffic slots 0 (Function.update slots direction taken) (Pi.single direction 1) := by
  have hsend : Traffic slots 0 (Function.update slots direction taken)
      (0 + Pi.single direction 1) := .send h
  rwa [zero_add] at hsend

/-- An answer gives the slot of its request back. -/
theorem of_answer (direction : Direction) :
    Traffic slots (Pi.single direction 1)
      (Function.update slots direction (slots direction).release) 0 :=
  .answer (zero_add _)

end Traffic

/-! ## Steps of tasks -/

variable [Quantity α] {setup : Setup α} {s t : State α ι} {answer : Answer α ι}
variable {exchanges : List (Exchange α ι)}

namespace ChunkTask

theorem Rule.traffic {task next : ChunkTask α ι} (h : Rule setup s task exchanges t next) :
    Traffic s.slots task.inFlight t.slots next.inFlight := by
  have hanswered : Traffic s.slots (Pi.single .write 1) s.freeWriteSlot.slots 0 := by
    rw [State.freeWriteSlot, State.slots_holdWriteSlots]
    exact .of_answer .write
  cases h with
  | @send _ _ _ _ slots hfree =>
    have hsent : Traffic s.slots 0 (s.holdWriteSlots slots).slots (Pi.single .write 1) := by
      rw [State.slots_holdWriteSlots]
      exact .of_send hfree
    exact hsent
  | crash | answer | giveUp | faultyDelay | backOff => exact hanswered
  | _ => exact .keep

end ChunkTask

namespace Delivery

/-- A delivery adds no request to the write pool: what it submits has not begun. -/
theorem traffic_of_step {delivery next : Delivery α ι}
    (h : delivery.step setup s answer = some (t, next)) :
    Traffic s.slots delivery.inFlight t.slots next.inFlight ∧
      t.writersInFlight = s.writersInFlight := by
  rcases rule_of_step h with hrule |
    ⟨segment, chunk, rest, rfl, pool, placement, hsubmit, rfl, rfl⟩ |
    ⟨segment, task, rest, rfl, hfinished, rfl, rfl⟩ |
    ⟨segment, task, rest, task', rfl, hstep, rfl⟩
  · refine ⟨?_, ?_⟩
    · cases hrule <;> exact .keep
    · rw [State.writersInFlight, hrule.places.2.1, State.writersInFlight]
  · refine ⟨?_, Pool.sum_tasks_submit hsubmit ChunkTask.inFlight rfl⟩
    cases placement <;> exact .keep
  · obtain ⟨number, pending, rfl⟩ := ChunkTask.exists_of_isFinished hfinished
    refine ⟨.keep, ?_⟩
    rw [State.writersInFlight, State.writersInFlight, Pool.tasks_finishOnCaller]
  · have hrule := ChunkTask.rule_of_step hstep
    refine ⟨hrule.traffic, ?_⟩
    rw [State.writersInFlight, hrule.places.2.1, State.writersInFlight]

end Delivery

namespace SegmentTask

omit [Quantity α] in
theorem inFlight_advance (task : SegmentTask α ι) (nextKey : Option ι) :
    (task.advance nextKey).inFlight setup = 0 := by
  cases nextKey <;> rfl

omit [Quantity α] in
theorem inFlight_afterHandover (task : SegmentTask α ι) (nextKey : Option ι)
    (result : Except CopyError Unit) : (task.afterHandover nextKey result).inFlight setup = 0 := by
  cases result with
  | ok => exact task.inFlight_advance nextKey
  | error => rfl

omit [Quantity α] in
theorem inFlight_of_isFinished {task : SegmentTask α ι} (h : task.isFinished = true) :
    task.inFlight setup = 0 := by
  obtain ⟨segment, key, pages, rfl⟩ := exists_of_isFinished h
  rfl

theorem Rule.traffic {task next : SegmentTask α ι} (h : Rule setup s task exchanges t next) :
    Traffic s.slots (task.inFlight setup) t.slots (next.inFlight setup) := by
  have hanswered : Traffic s.slots (Pi.single .read 1) s.freeReadSlot.slots 0 := by
    rw [State.freeReadSlot, State.slots_holdReadSlots]
    exact .of_answer .read
  cases h with
  | @send _ _ _ _ slots hfree =>
    have hsent : Traffic s.slots 0 (s.holdReadSlots slots).slots (Pi.single .read 1) := by
      rw [State.slots_holdReadSlots]
      exact .of_send hfree
    exact hsent
  | crash | fetch | giveUp | faultyDelay | backOff => exact hanswered
  | skip => exact .of_eq rfl (inFlight_advance _ _)
  | takenOutside => exact .of_eq rfl (inFlight_afterHandover _ _ _)
  | _ => exact .keep

/-- A page is counted without a request. -/
theorem slots_of_recording {segment pages : Nat} {key : Option ι} {page : Page α ι}
    {next : SegmentTask α ι}
    (h : step setup s ⟨segment, key, pages, .recording page⟩ answer = some (t, next)) :
    t.slots = s.slots ∧ t.writePool = s.writePool := by
  cases answer with
  | none =>
    simp only [step, record] at h
    split at h
    · obtain ⟨rfl, -⟩ := Prod.mk.inj (Option.some.inj h)
      exact ⟨rfl, rfl⟩
    · split at h
      · obtain ⟨rfl, -⟩ := Prod.mk.inj (Option.some.inj h)
        exact ⟨rfl, rfl⟩
      · obtain ⟨rfl, -⟩ := Prod.mk.inj (Option.some.inj h)
        exact ⟨rfl, rfl⟩
  | _ => cases h

/-- Whoever consumes its pages, a segment task has requests of its own and those of the chunk
that its thread writes. -/
theorem traffic_of_step {task next : SegmentTask α ι}
    (h : task.step setup s answer = some (t, next)) :
    Traffic s.slots (task.inFlight setup) t.slots (next.inFlight setup) ∧
      t.writersInFlight = s.writersInFlight := by
  rcases rule_of_any_step h with hrule |
    ⟨segment, key, pages, page, phase, rfl, -, -, rfl, hphase⟩ |
    ⟨segment, key, pages, nextKey, number, result, rfl, rfl, rfl⟩ |
    ⟨segment, key, pages, nextKey, delivery, delivery', rfl, hstep, rfl⟩
  · refine ⟨hrule.traffic, ?_⟩
    rw [State.writersInFlight, hrule.places.2.1, State.writersInFlight]
  · obtain ⟨hslots, hpool⟩ := slots_of_recording h
    refine ⟨.of_eq hslots ?_, ?_⟩
    · rcases hphase with rfl | rfl <;> rfl
    · rw [State.writersInFlight, hpool, State.writersInFlight]
  · exact ⟨.of_eq rfl (inFlight_afterHandover _ _ _), rfl⟩
  · exact Delivery.traffic_of_step hstep

end SegmentTask

/-! ## Steps of a copy -/

namespace State

omit [Quantity α] in
/-- The requests of a running segment can be told apart from the others. -/
theorem inFlight_of_readers {task : SegmentTask α ι} {others : Multiset (SegmentTask α ι)}
    (h : s.readPool.tasks = task ::ₘ others) :
    s.inFlight setup = task.inFlight setup + (s.control.inFlight setup +
      (others.map (SegmentTask.inFlight setup)).sum + s.writersInFlight) := by
  rw [inFlight, readersInFlight, h, Multiset.map_cons, Multiset.sum_cons]
  abel

omit [Quantity α] in
/-- So can those of a running chunk. -/
theorem inFlight_of_writers {task : ChunkTask α ι} {others : Multiset (ChunkTask α ι)}
    (h : s.writePool.tasks = task ::ₘ others) :
    s.inFlight setup = task.inFlight + (s.control.inFlight setup + s.readersInFlight setup +
      (others.map ChunkTask.inFlight).sum) := by
  rw [inFlight, writersInFlight, h, Multiset.map_cons, Multiset.sum_cons]
  abel

theorem traffic_of_readerStep {i : Nat} (hpaced : setup.outsideConsumer = false)
    (h : s.readerStep setup i answer = some t) :
    Traffic s.slots (s.inFlight setup) t.slots (t.inFlight setup) := by
  cases rule_of_readerStep h with
  | retire htask hfinished =>
    obtain ⟨rest, htasks, -, hfinish⟩ := Pool.exists_tasks_eq_cons htask
    refine .of_eq rfl ?_
    rw [inFlight_of_readers htasks, SegmentTask.inFlight_of_isFinished hfinished, zero_add,
      inFlight, readersInFlight, hfinish]
    rfl
  | @advance task _ u next htask hstep =>
    obtain ⟨rest, htasks, hset, -⟩ := Pool.exists_tasks_eq_cons htask
    obtain ⟨hread, hcontrol⟩ := SegmentTask.places_of_step hpaced hstep
    obtain ⟨htraffic, hwriters⟩ := SegmentTask.traffic_of_step hstep
    have hafter : ({ u with readPool := u.readPool.setWorker i (.running next) } :
        State α ι).readPool.tasks = next ::ₘ rest := by
      rw [← hset next, ← hread]
    rw [inFlight_of_readers htasks, inFlight_of_readers hafter]
    dsimp only
    rw [hcontrol]
    change Traffic _ _ _ (_ + (_ + u.writersInFlight))
    rw [hwriters]
    exact htraffic.add _
  | idle htask hidle =>
    refine .of_eq rfl ?_
    rw [inFlight, readersInFlight, Pool.tasks_idleStep hidle]
    rfl

theorem traffic_of_writerStep {i : Nat} (h : s.writerStep setup i answer = some t) :
    Traffic s.slots (s.inFlight setup) t.slots (t.inFlight setup) := by
  cases rule_of_writerStep h with
  | retire htask hfinished =>
    obtain ⟨rest, htasks, -, hfinish⟩ := Pool.exists_tasks_eq_cons htask
    obtain ⟨segment, pending, rfl⟩ := ChunkTask.exists_of_isFinished hfinished
    have hnone : ChunkTask.inFlight (⟨segment, pending, .finished⟩ : ChunkTask α ι) = 0 := rfl
    refine .of_eq rfl ?_
    rw [inFlight_of_writers htasks, hnone, zero_add, inFlight, writersInFlight, hfinish]
    rfl
  | @advance task _ u next htask hstep =>
    obtain ⟨rest, htasks, hset, -⟩ := Pool.exists_tasks_eq_cons htask
    have hrule := ChunkTask.rule_of_step hstep
    obtain ⟨hread, hwrite, hcontrol⟩ := hrule.places
    have hafter : ({ u with writePool := u.writePool.setWorker i (.running next) } :
        State α ι).writePool.tasks = next ::ₘ rest := by
      rw [← hset next, ← hwrite]
    rw [inFlight_of_writers htasks, inFlight_of_writers hafter, readersInFlight, readersInFlight]
    dsimp only
    rw [hread, hcontrol]
    exact hrule.traffic.add _
  | idle htask hidle =>
    refine .of_eq rfl ?_
    rw [inFlight, writersInFlight, Pool.tasks_idleStep hidle]
    rfl

theorem traffic_of_controlStep (hpaced : setup.outsideConsumer = false)
    (hpiping : s.control.isPiping = true) (h : s.controlStep setup answer = some t) :
    Traffic s.slots (s.inFlight setup) t.slots (t.inFlight setup) := by
  rcases Control.rule_of_step hpaced hpiping h with ⟨-, c, u, c', hcontrol, hrule, rfl⟩ |
    ⟨segment, left, hcontrol, pool, placement, hsubmit, rfl⟩ |
    ⟨task, left, hcontrol, hfinished, rfl⟩ | ⟨task, left, u, next, hcontrol, hstep, rfl⟩
  · simp only [inFlight, hcontrol]
    cases hrule <;> exact .keep
  · refine .of_eq rfl ?_
    have hreaders : (pool.tasks.map (SegmentTask.inFlight setup)).sum = s.readersInFlight setup :=
      Pool.sum_tasks_submit hsubmit (SegmentTask.inFlight setup) rfl
    simp only [inFlight, hcontrol]
    rw [readersInFlight, hreaders]
    cases placement <;> rfl
  · refine .of_eq rfl ?_
    simp only [inFlight, readersInFlight, hcontrol, Pool.tasks_finishOnCaller, Control.inFlight,
      SegmentTask.inFlight_of_isFinished hfinished]
    rfl
  · obtain ⟨hread, -⟩ := SegmentTask.places_of_step hpaced hstep
    obtain ⟨htraffic, hwriters⟩ := SegmentTask.traffic_of_step hstep
    simp only [inFlight, readersInFlight, hcontrol, hread, add_assoc]
    change Traffic _ _ _ (_ + (_ + u.writersInFlight))
    rw [hwriters]
    exact htraffic.add _

/-- Every step of a copy in a pipe sends one request or has one answered, at most. -/
theorem traffic_of_step {move : Move α ι} (hpaced : setup.outsideConsumer = false)
    (hpiping : s.control.isPiping = true) (h : s.step setup move = some t) :
    Traffic s.slots (s.inFlight setup) t.slots (t.inFlight setup) := by
  cases rule_of_step h with
  | interrupt | elapse => exact .keep
  | control h => exact traffic_of_controlStep hpaced hpiping h
  | reader h => exact traffic_of_readerStep hpaced h
  | writer h => exact traffic_of_writerStep h
  | readerTimeOut hout =>
    refine .of_eq rfl ?_
    rw [inFlight, readersInFlight, Pool.tasks_timeOut hout]
    rfl
  | writerTimeOut hout =>
    refine .of_eq rfl ?_
    rw [inFlight, writersInFlight, Pool.tasks_timeOut hout]
    rfl

end State

/-! ## Runs -/

theorem Traffic.serves {slots slots' : Direction → Connections}
    {requests requests' : Direction → Nat} {maxConnections : Nat}
    (h : Traffic slots requests slots' requests')
    (hserves : ∀ direction, (slots direction).Serves maxConnections (requests direction))
    (direction : Direction) : (slots' direction).Serves maxConnections (requests' direction) := by
  cases h with
  | keep => exact hserves direction
  | @send side taken hfree =>
    by_cases hside : direction = side
    · subst hside
      rw [Function.update_self, Pi.add_apply, Pi.single_eq_same]
      exact (hserves direction).acquire hfree
    · rw [Function.update_of_ne hside, Pi.add_apply, Pi.single_eq_of_ne hside, add_zero]
      exact hserves direction
  | @answer side left hleft =>
    have hbefore := hserves direction
    rw [← hleft, Pi.add_apply] at hbefore
    by_cases hside : direction = side
    · subst hside
      rw [Pi.single_eq_same] at hbefore
      rw [Function.update_self]
      exact hbefore.release
    · rw [Pi.single_eq_of_ne hside, add_zero] at hbefore
      rw [Function.update_of_ne hside]
      exact hbefore

namespace Run

variable {start : State α ι} {history : List (Exchange α ι)} {maxConnections : Nat}

/-- Along a pipe the slots held in a direction are its requests in flight. -/
theorem slots_serve (hpaced : setup.outsideConsumer = false) (hfresh : start.IsFresh setup)
    (hstart : ∀ direction, start.slots direction = .ofLimit maxConnections)
    (hrun : Run setup (start.piping setup) history s) (direction : Direction) :
    (s.slots direction).Serves maxConnections (s.inFlight setup direction) := by
  induction hrun generalizing direction with
  | start =>
    have hread : (start.piping setup).readPool.tasks = 0 := hfresh.readTasks
    have hwrite : (start.piping setup).writePool.tasks = 0 := hfresh.writeTasks
    have hnone : (start.piping setup).inFlight setup = 0 := by
      rw [State.inFlight, State.readersInFlight, State.writersInFlight, hread, hwrite]
      rfl
    have hslots : (start.piping setup).slots direction = .ofLimit maxConnections :=
      hstart direction
    rw [hnone, hslots]
    exact Connections.serves_ofLimit maxConnections
  | step _ run h ih =>
    exact (State.traffic_of_step hpaced (run.isPiping hpaced) h).serves ih direction
  | @release _ u result _ h ih =>
    have hkept : u.releasing.slots direction = u.slots direction ∧
        u.releasing.inFlight setup = u.inFlight setup := by
      rw [State.releasing, h, State.inFlight, State.inFlight, h]
      exact ⟨by cases direction <;> rfl, rfl⟩
    rw [hkept.1, hkept.2]
    exact ih direction

/-- A pipe that has ended has no request in flight. -/
theorem inFlight_of_result? {result : Except CopyError Unit}
    (hpaced : setup.outsideConsumer = false) (hfresh : start.IsFresh setup)
    (hrun : Run setup (start.piping setup) history s) (hresult : s.control.result? = some result) :
    s.inFlight setup = 0 := by
  obtain ⟨hread, hwrite⟩ := hrun.isFinished_of_result? hpaced hfresh hresult
  have hcontrol : s.control.inFlight setup = 0 := by
    cases hc : s.control with
    | running | delivering =>
      rw [hc] at hresult
      cases hresult
    | _ => rfl
  have hreaders : s.readersInFlight setup = 0 := by
    refine Multiset.sum_eq_zero fun requests hmem => ?_
    obtain ⟨task, htask, rfl⟩ := Multiset.mem_map.1 hmem
    exact SegmentTask.inFlight_of_isFinished (hread task htask)
  have hwriters : s.writersInFlight = 0 := by
    refine Multiset.sum_eq_zero fun requests hmem => ?_
    obtain ⟨task, htask, rfl⟩ := Multiset.mem_map.1 hmem
    obtain ⟨segment, pending, rfl⟩ := ChunkTask.exists_of_isFinished (hwrite task htask)
    rfl
  rw [State.inFlight, hcontrol, hreaders, hwriters, add_zero, add_zero]

end Run
end TableCopy
