import TableCopy.Proofs.Pool.Change

/-!
# Pools that never fill up

A pool that is given no more tasks than its queue has places starts a thread for each of the
first tasks until its core is complete, and queues all further tasks. It never grows past its
core, so that no thread of it waits with a limit, and none leaves while the pool is open.
-/

namespace TableCopy

variable {τ : Type}

/-- Whether a thread stays in its pool as long as that is open. -/
def Worker.isStaying : Worker τ → Bool
  | deciding | waiting false | running _ => true
  | waiting true | timedOut | closing | gone => false

namespace Pool

/-- A pool whose core is as complete as the submissions so far have made it. -/
structure IsSteady (pool : Pool τ) : Prop where
  peak_eq : pool.peak = min pool.spec.corePoolSize pool.submitted
  callerRuns_eq : pool.callerRuns = 0
  live_eq : pool.isOpen = true → pool.live = pool.peak
  /-- The tasks that started a thread are not queued. -/
  queue_le : pool.isOpen = true → pool.queue.length + pool.peak ≤ pool.submitted
  staying : pool.isOpen = true → ∀ worker ∈ pool.workers, worker.isStaying = true

theorem isSteady_create (name : String) (spec : PoolSpec) :
    (create name spec : Pool τ).IsSteady where
  peak_eq := (Nat.min_zero _).symm
  callerRuns_eq := rfl
  live_eq := fun _ => rfl
  queue_le := fun _ => Nat.le_refl 0
  staying := fun _ _ h => absurd h List.not_mem_nil

variable {pool next : Pool τ} {who? : Option Nat} {lent lent' i : Nat} {task : τ}
variable {worker turn : Worker τ}

namespace IsSteady

/-- A thread of a steady pool turns to what keeps it in the pool. -/
theorem setWorker (hpool : pool.IsSteady) (i : Nat)
    (h : pool.isOpen = true → turn.isStaying = true) : (pool.setWorker i turn).IsSteady where
  peak_eq := hpool.peak_eq
  callerRuns_eq := hpool.callerRuns_eq
  live_eq := hpool.live_eq
  queue_le := hpool.queue_le
  staying := by
    intro hopen worker hmem
    rcases List.mem_or_eq_of_mem_set hmem with hmem | rfl
    · exact hpool.staying hopen worker hmem
    · exact h hopen

/-- What happens to a closed pool but for its counters. -/
theorem of_closed (hpool : pool.IsSteady) (hclosed : next.isOpen = false)
    (hsame : next.peak = pool.peak ∧ next.spec = pool.spec ∧ next.submitted = pool.submitted ∧
      next.callerRuns = pool.callerRuns) : next.IsSteady := by
  obtain ⟨hpeak, hspec, hsubmitted, hcallerRuns⟩ := hsame
  have hnever : next.isOpen = true → False := fun h => by rw [hclosed] at h; cases h
  refine ⟨?_, hcallerRuns.trans hpool.callerRuns_eq, fun h => (hnever h).elim,
    fun h => (hnever h).elim, fun h => (hnever h).elim⟩
  rw [hpeak, hspec, hsubmitted, hpool.peak_eq]

/-- A thread that would leave a steady pool shows that the pool is closed. -/
theorem isOpen_eq (hpool : pool.IsSteady) (h : pool.workers[i]? = some worker)
    (hworker : worker.isStaying = false) : pool.isOpen = false := by
  by_contra hopen
  have hstaying := hpool.staying (Bool.eq_true_of_not_eq_false hopen) worker
    (List.mem_of_getElem? h)
  rw [hworker] at hstaying
  cases hstaying

theorem start (hpool : pool.IsSteady) (hopen : pool.isOpen = true)
    (hlive : pool.live < pool.spec.corePoolSize) (task : τ) :
    ({ pool with submitted := pool.submitted + 1 }.start (.running task)).IsSteady := by
  have hpeak := hpool.peak_eq
  have hsame := hpool.live_eq hopen
  have hqueue := hpool.queue_le hopen
  refine ⟨?_, hpool.callerRuns_eq, fun _ => ?_, fun _ => ?_, fun _ worker hmem => ?_⟩
  · change max pool.peak (pool.live + 1) = min pool.spec.corePoolSize (pool.submitted + 1)
    omega
  · change pool.live + 1 = max pool.peak (pool.live + 1)
    omega
  · change pool.queue.length + max pool.peak (pool.live + 1) ≤ pool.submitted + 1
    omega
  · rcases List.mem_append.1 hmem with hmem | hmem
    · exact hpool.staying hopen worker hmem
    · rw [List.mem_singleton.1 hmem]
      rfl

theorem enqueue (hpool : pool.IsSteady) (hopen : pool.isOpen = true)
    (hcore : pool.spec.corePoolSize ≤ pool.live) (task : τ) :
    ({ pool with submitted := pool.submitted + 1, queue := pool.queue ++ [task] } :
      Pool τ).IsSteady := by
  have hpeak := hpool.peak_eq
  have hsame := hpool.live_eq hopen
  have hqueue := hpool.queue_le hopen
  refine ⟨?_, hpool.callerRuns_eq, hpool.live_eq, fun _ => ?_, hpool.staying⟩
  · change pool.peak = min pool.spec.corePoolSize (pool.submitted + 1)
    omega
  · change (pool.queue ++ [task]).length + pool.peak ≤ pool.submitted + 1
    rw [List.length_append, List.length_singleton]
    omega

/-- A submission finds a place in the queue where it needs one, and runs on no thread but
the pool's. -/
theorem submit (hpool : pool.IsSteady) (hcore : 1 ≤ pool.spec.corePoolSize)
    (hdenied : pool.denied = []) {placement : Placement} (h : pool.submit task = (next, placement))
    (hroom : next.submitted ≤ pool.spec.places) :
    next.IsSteady ∧ placement ≠ .onCaller := by
  cases submitRule_of_submit h with
  | refuse _ => exact ⟨hpool, nofun⟩
  | start hopen hroom' =>
    have hqueue := hpool.queue_le hopen
    have hlive : pool.live < pool.spec.corePoolSize := by
      rcases hroom' with hlive | ⟨hfull, -⟩
      · exact hlive
      · change pool.submitted + 1 ≤ pool.spec.places at hroom
        omega
    exact ⟨hpool.start hopen hlive task, nofun⟩
  | enqueue hopen hfull _ _ => exact ⟨hpool.enqueue hopen hfull task, nofun⟩
  | revive _ hfull _ hlive => omega
  | lose _ _ hfault | strand _ _ _ _ hfault => exact absurd hfault (startFault?_ne_some hdenied _)
  | lend hopen _ hfull _ =>
    have hqueue := hpool.queue_le hopen
    change pool.submitted + 1 ≤ pool.spec.places at hroom
    omega

theorem idleStep (hpool : pool.IsSteady) (h : pool.idleStep i = some next) : next.IsSteady := by
  cases idleRule_of_idleStep h with
  | decide _ =>
    refine hpool.setWorker i fun hopen => ?_
    have hlive := hpool.live_eq hopen
    have hpeak := hpool.peak_eq
    have huntimed : ¬ pool.spec.corePoolSize < pool.live := by omega
    simp [Worker.isStaying, huntimed]
  | @take _ task rest _ hqueue =>
    have hrest : ({ pool with queue := rest } : Pool τ).IsSteady :=
      ⟨hpool.peak_eq, hpool.callerRuns_eq, hpool.live_eq, fun hopen => by
        have hle := hpool.queue_le hopen
        rw [hqueue, List.length_cons] at hle
        change rest.length + pool.peak ≤ pool.submitted
        omega, hpool.staying⟩
    exact hrest.setWorker i fun _ => rfl
  | close _ _ hclosed =>
    rw [isClosed, Bool.and_eq_true, Bool.not_eq_true'] at hclosed
    exact hpool.of_closed hclosed.1 ⟨rfl, rfl, rfl, rfl⟩
  | stay _ _ => exact hpool.setWorker i fun _ => rfl
  | retire hworker _ => exact hpool.of_closed (hpool.isOpen_eq hworker rfl) ⟨rfl, rfl, rfl, rfl⟩
  | exit hworker => exact hpool.of_closed (hpool.isOpen_eq hworker rfl) ⟨rfl, rfl, rfl, rfl⟩

theorem timeOut (hpool : pool.IsSteady) (h : pool.timeOut i = some next) : next.IsSteady := by
  obtain ⟨hworker, rfl⟩ := eq_of_timeOut h
  exact hpool.of_closed (hpool.isOpen_eq hworker rfl) ⟨rfl, rfl, rfl, rfl⟩

end IsSteady

/-- As long as no more tasks are submitted than the queue has places, and the system starts every
thread, a pool stays steady, and lends no task. -/
theorem Change.isSteady (h : Change pool who? lent next lent') (hpool : pool.IsSteady)
    (hcore : 1 ≤ pool.spec.corePoolSize) (hdenied : pool.denied = []) (hlent : lent = 0)
    (hroom : next.submitted ≤ pool.spec.places) : next.IsSteady ∧ lent' = 0 := by
  cases h with
  | keep => exact ⟨hpool, hlent⟩
  | submit h =>
    obtain ⟨hnext, hplacement⟩ := hpool.submit hcore hdenied h hroom
    exact ⟨hnext, (if_neg hplacement).trans hlent⟩
  | takeBack => cases hlent
  | close => exact ⟨hpool.of_closed rfl ⟨rfl, rfl, rfl, rfl⟩, hlent⟩
  | advance _ => exact ⟨hpool.setWorker _ fun _ => rfl, hlent⟩
  | finish _ =>
    have hcounted : (pool.count false).IsSteady := ⟨hpool.peak_eq, hpool.callerRuns_eq,
      hpool.live_eq, hpool.queue_le, hpool.staying⟩
    exact ⟨hcounted.setWorker _ fun _ => rfl, hlent⟩
  | idle h => exact ⟨hpool.idleStep h, hlent⟩
  | timeOut h => exact ⟨hpool.timeOut h, hlent⟩

/-- A thread of a pool neither closes it nor submits to it. -/
theorem Change.of_thread (h : Change pool (some i) lent next lent') :
    next.isOpen = pool.isOpen ∧ next.submitted = pool.submitted := by
  cases h with
  | keep => exact ⟨rfl, rfl⟩
  | advance _ => exact ⟨rfl, rfl⟩
  | finish _ => exact ⟨rfl, rfl⟩
  | idle h =>
    obtain ⟨-, hopen, -, hsubmitted, -⟩ := counters_idleStep h
    exact ⟨hopen, hsubmitted⟩
  | timeOut h =>
    obtain ⟨-, rfl⟩ := eq_of_timeOut h
    exact ⟨rfl, rfl⟩

end Pool
end TableCopy
