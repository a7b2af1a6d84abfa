import TableCopy.Pool.Basic

/-!
# Rules of a pool

What an idle thread does in a step, and what becomes of a submission, with all that is
known when it happens. Properties of a pool are proved by cases on these rules.
-/

namespace TableCopy
namespace Pool

variable {τ : Type}

/-- One step of thread `i` while it is not running a task. -/
inductive IdleRule (pool : Pool τ) (i : Nat) : Pool τ → Prop
  | decide (h : pool.workers[i]? = some .deciding) :
    IdleRule pool i (pool.setWorker i (.waiting (pool.spec.corePoolSize < pool.live)))
  | take {timed task rest} (h : pool.workers[i]? = some (.waiting timed))
      (hqueue : pool.queue = task :: rest) :
    IdleRule pool i ({ pool with queue := rest }.setWorker i (.running task))
  | close {timed} (h : pool.workers[i]? = some (.waiting timed)) (hqueue : pool.queue = [])
      (hclosed : pool.isClosed = true) : IdleRule pool i (pool.setWorker i .closing)
  /-- The core needs the thread after all. -/
  | stay (h : pool.workers[i]? = some .timedOut) (hcore : pool.live ≤ pool.spec.corePoolSize) :
    IdleRule pool i (pool.setWorker i .deciding)
  | retire (h : pool.workers[i]? = some .timedOut) (hspare : pool.spec.corePoolSize < pool.live) :
    IdleRule pool i (pool.leave i)
  | exit (h : pool.workers[i]? = some .closing) : IdleRule pool i (pool.leave i)

/-- What a pool is given once and for all: its sizes, and the threads that the system will not
start. -/
def provision (pool : Pool τ) : PoolSpec × List (Nat × String) := (pool.spec, pool.denied)

section Count

variable (pool : Pool τ) (crashed : Bool)

theorem count_provision : (pool.count crashed).provision = pool.provision := by
  cases crashed <;> rfl

@[simp] theorem count_isOpen : (pool.count crashed).isOpen = pool.isOpen := by
  cases crashed <;> rfl

@[simp] theorem count_queue : (pool.count crashed).queue = pool.queue := by cases crashed <;> rfl

@[simp] theorem count_workers : (pool.count crashed).workers = pool.workers := by
  cases crashed <;> rfl

@[simp] theorem count_callers : (pool.count crashed).callers = pool.callers := by
  cases crashed <;> rfl

@[simp] theorem count_submitted : (pool.count crashed).submitted = pool.submitted := by
  cases crashed <;> rfl

theorem count_ended : (pool.count crashed).completed + (pool.count crashed).crashed =
    pool.completed + pool.crashed + 1 := by
  cases crashed
  · exact Nat.add_right_comm _ _ _
  · rfl

end Count

variable {pool next : Pool τ} {i : Nat}

theorem idleRule_of_idleStep (h : pool.idleStep i = some next) : IdleRule pool i next := by
  unfold idleStep at h
  split at h
  · rename_i hworker
    obtain rfl := Option.some.inj h
    exact .decide hworker
  · rename_i hworker
    split at h
    · rename_i hqueue
      obtain rfl := Option.some.inj h
      exact .take hworker hqueue
    · rename_i hqueue
      split at h
      · rename_i hclosed
        obtain rfl := Option.some.inj h
        exact .close hworker hqueue hclosed
      · cases h
  · rename_i hworker
    split at h
    · rename_i hcore
      obtain rfl := Option.some.inj h
      exact .stay hworker hcore
    · rename_i hspare
      obtain rfl := Option.some.inj h
      exact .retire hworker (Nat.lt_of_not_le hspare)
  · rename_i hworker
    obtain rfl := Option.some.inj h
    exact .exit hworker
  · cases h

/-- An idle thread leaves the counters of tasks alone. -/
theorem counters_idleStep (h : pool.idleStep i = some next) :
    next.spec = pool.spec ∧ next.isOpen = pool.isOpen ∧ next.callers = pool.callers ∧
      next.submitted = pool.submitted ∧ next.completed = pool.completed ∧
      next.crashed = pool.crashed := by
  cases idleRule_of_idleStep h <;> exact ⟨rfl, rfl, rfl, rfl, rfl, rfl⟩

/-- The keep-alive of a thread runs out only in a timed wait on an empty queue. -/
theorem eq_of_timeOut (h : pool.timeOut i = some next) :
    pool.workers[i]? = some (.waiting true) ∧ next = pool.setWorker i .timedOut := by
  unfold timeOut at h
  split at h
  · rename_i hworker
    split at h
    · exact ⟨hworker, (Option.some.inj h).symm⟩
    · cases h
  · cases h

/-- A thread is started for a submission, or the system does not start it. -/
theorem spawn_cases (pool : Pool τ) (first : Worker τ) (placement : Placement) :
    pool.spawn first placement = (pool.start first, placement) ∨
      ∃ error, pool.startFault? = some error ∧
        pool.spawn first placement =
          ({ pool with unstarted := pool.unstarted + 1 }, .refused error) := by
  unfold spawn
  split
  · exact .inl rfl
  · rename_i error hfault
    exact .inr ⟨error, hfault, rfl⟩

/-- Where the system denies nothing, it starts every thread. -/
theorem startFault?_ne_some (h : pool.denied = []) (error : CopyError) :
    pool.startFault? ≠ some error := by
  rw [startFault?, h]
  nofun

theorem exists_of_startFault? {error : CopyError} (h : pool.startFault? = some error) :
    ∃ message, error = .execution message := by
  obtain ⟨reason, -, rfl⟩ := Option.map_eq_some_iff.1 h
  exact ⟨_, rfl⟩

/-- What becomes of a submission. -/
inductive SubmitRule (pool : Pool τ) (task : τ) : Pool τ → Placement → Prop
  | refuse (h : pool.isOpen = false) : SubmitRule pool task pool (.refused pool.refusal)
  /-- The core is not complete, or the queue is full and there is room for a thread. -/
  | start (h : pool.isOpen = true)
      (hroom : pool.live < pool.spec.corePoolSize ∨
        pool.spec.places ≤ pool.queue.length ∧ pool.live < pool.spec.maxPoolSize) :
    SubmitRule pool task
      ({ pool with submitted := pool.submitted + 1 }.start (.running task)) .started
  | enqueue (h : pool.isOpen = true) (hcore : pool.spec.corePoolSize ≤ pool.live)
      (hroom : pool.queue.length < pool.spec.places) (hlive : pool.live ≠ 0) :
    SubmitRule pool task
      { pool with submitted := pool.submitted + 1, queue := pool.queue ++ [task] } .queued
  /-- A queued task without a thread gets one. -/
  | revive (h : pool.isOpen = true) (hcore : pool.spec.corePoolSize ≤ pool.live)
      (hroom : pool.queue.length < pool.spec.places) (hlive : pool.live = 0) :
    SubmitRule pool task
      ({ pool with submitted := pool.submitted + 1, queue := pool.queue ++ [task] }.start
        .deciding) .queued
  | lend (h : pool.isOpen = true) (hcore : pool.spec.corePoolSize ≤ pool.live)
      (hfull : pool.spec.places ≤ pool.queue.length) (hmax : pool.spec.maxPoolSize ≤ pool.live) :
    SubmitRule pool task
      { pool with
        submitted := pool.submitted + 1
        callerRuns := pool.callerRuns + 1
        callers := pool.callers + 1 } .onCaller
  /-- The system does not start the thread of the task, which is lost. -/
  | lose {error} (h : pool.isOpen = true)
      (hroom : pool.live < pool.spec.corePoolSize ∨
        pool.spec.places ≤ pool.queue.length ∧ pool.live < pool.spec.maxPoolSize)
      (hfault : pool.startFault? = some error) :
    SubmitRule pool task
      { pool with submitted := pool.submitted + 1, unstarted := pool.unstarted + 1 }
      (.refused error)
  /-- The system does not start a thread for the task, which stays in the queue. -/
  | strand {error} (h : pool.isOpen = true) (hcore : pool.spec.corePoolSize ≤ pool.live)
      (hroom : pool.queue.length < pool.spec.places) (hlive : pool.live = 0)
      (hfault : pool.startFault? = some error) :
    SubmitRule pool task
      { pool with
        submitted := pool.submitted + 1
        queue := pool.queue ++ [task]
        unstarted := pool.unstarted + 1 }
      (.refused error)

variable {task : τ} {placement : Placement}

theorem submitRule_of_submit (h : pool.submit task = (next, placement)) :
    SubmitRule pool task next placement := by
  have hspawn : pool.isOpen = true →
      (pool.live < pool.spec.corePoolSize ∨
        pool.spec.places ≤ pool.queue.length ∧ pool.live < pool.spec.maxPoolSize) →
      ({ pool with submitted := pool.submitted + 1 }.spawn (.running task) .started) =
        (next, placement) → SubmitRule pool task next placement := by
    intro hopen hroom h
    rcases spawn_cases { pool with submitted := pool.submitted + 1 } (.running task) .started with
      hstart | ⟨error, hfault, hlost⟩
    · obtain ⟨rfl, rfl⟩ := Prod.mk.inj (hstart.symm.trans h)
      exact .start hopen hroom
    · obtain ⟨rfl, rfl⟩ := Prod.mk.inj (hlost.symm.trans h)
      exact .lose hopen hroom hfault
  unfold submit at h
  split at h
  · rename_i hclosed
    obtain ⟨rfl, rfl⟩ := Prod.mk.inj h
    exact .refuse (by simpa using hclosed)
  · rename_i hopen
    have hopen : pool.isOpen = true := by simpa using hopen
    dsimp only at h
    split at h
    · rename_i hcore
      exact hspawn hopen (.inl hcore) h
    · rename_i hcore
      have hcore := Nat.le_of_not_lt hcore
      split at h
      · rename_i hroom
        split at h
        · rename_i hlive
          rcases spawn_cases { pool with
              submitted := pool.submitted + 1
              queue := pool.queue ++ [task] } .deciding .queued with
            hstart | ⟨error, hfault, hlost⟩
          · obtain ⟨rfl, rfl⟩ := Prod.mk.inj (hstart.symm.trans h)
            exact .revive hopen hcore hroom hlive
          · obtain ⟨rfl, rfl⟩ := Prod.mk.inj (hlost.symm.trans h)
            exact .strand hopen hcore hroom hlive hfault
        · rename_i hlive
          obtain ⟨rfl, rfl⟩ := Prod.mk.inj h
          exact .enqueue hopen hcore hroom hlive
      · rename_i hfull
        have hfull := Nat.le_of_not_lt hfull
        split at h
        · rename_i hmax
          exact hspawn hopen (.inr ⟨hfull, hmax⟩) h
        · rename_i hmax
          obtain ⟨rfl, rfl⟩ := Prod.mk.inj h
          exact .lend hopen hcore hfull (Nat.le_of_not_lt hmax)

/-- A refused submission is an error of execution. -/
theorem exists_of_submit_refused {error : CopyError}
    (h : pool.submit task = (next, .refused error)) : ∃ message, error = .execution message := by
  cases submitRule_of_submit h with
  | refuse _ => exact ⟨_, rfl⟩
  | lose _ _ hfault => exact exists_of_startFault? hfault
  | strand _ _ _ _ hfault => exact exists_of_startFault? hfault

theorem provision_submit (h : pool.submit task = (next, placement)) :
    next.provision = pool.provision := by
  cases submitRule_of_submit h <;> rfl

theorem provision_idleStep (h : pool.idleStep i = some next) : next.provision = pool.provision := by
  cases idleRule_of_idleStep h <;> rfl

theorem unstarted_idleStep (h : pool.idleStep i = some next) : next.unstarted = pool.unstarted := by
  cases idleRule_of_idleStep h <;> rfl

theorem unstarted_timeOut (h : pool.timeOut i = some next) : next.unstarted = pool.unstarted := by
  obtain ⟨-, rfl⟩ := eq_of_timeOut h
  rfl

@[simp] theorem unstarted_close (pool : Pool τ) : pool.close.unstarted = pool.unstarted := rfl

/-- Only a refused submission shows a thread that was not started. -/
theorem unstarted_submit (h : pool.submit task = (next, placement))
    (hplacement : ∀ error, placement ≠ .refused error) : next.unstarted = pool.unstarted := by
  cases submitRule_of_submit h with
  | refuse _ | lose _ _ _ | strand _ _ _ _ _ => exact absurd rfl (hplacement _)
  | _ => rfl

theorem unstarted_submit_le (h : pool.submit task = (next, placement)) :
    next.unstarted ≤ pool.unstarted + 1 := by
  cases submitRule_of_submit h with
  | lose _ _ _ | strand _ _ _ _ _ => exact Nat.le_refl _
  | _ => exact Nat.le_succ _

theorem provision_timeOut (h : pool.timeOut i = some next) : next.provision = pool.provision := by
  obtain ⟨-, rfl⟩ := eq_of_timeOut h
  rfl

/-- A submission that is refused leaves its task nowhere: either the system starts every thread,
or no task is queued before there is a thread. -/
def IsReliable (pool : Pool τ) : Prop := pool.denied = [] ∨ 1 ≤ pool.spec.corePoolSize

theorem IsReliable.of_provision_eq (h : pool.IsReliable) (hsame : next.provision = pool.provision) :
    next.IsReliable := by
  obtain ⟨hspec, hdenied⟩ := Prod.mk.inj hsame
  rwa [IsReliable, hspec, hdenied]

theorem IsReliable.startFault?_ne_some (h : pool.IsReliable)
    (hcore : pool.spec.corePoolSize ≤ pool.live) (hlive : pool.live = 0) (error : CopyError) :
    pool.startFault? ≠ some error := by
  rcases h with hdenied | hpos
  · exact Pool.startFault?_ne_some hdenied error
  · omega

end Pool
end TableCopy
