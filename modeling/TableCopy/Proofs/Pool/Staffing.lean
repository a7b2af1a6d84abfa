import TableCopy.Proofs.Pool.Tasks

/-!
# The staff of a pool

The threads that have not left are the staff. A pool counts its staff, keeps a full core
for as long as tasks are queued, and lets a thread leave for good only when the queue is
closed and empty. Every operation preserves this, whatever the tasks are.
-/

namespace TableCopy

variable {τ : Type}

namespace Worker

/-- How many threads have not left. -/
def staff (workers : List (Worker τ)) : Nat := workers.countP fun worker => !worker.isGone

@[simp] theorem staff_concat (workers : List (Worker τ)) {worker : Worker τ}
    (h : worker.isGone = false) : staff (workers ++ [worker]) = staff workers + 1 := by
  simp [staff, h]

theorem staff_pos {workers : List (Worker τ)} {i : Nat} {worker : Worker τ}
    (h : workers[i]? = some worker) (hworker : worker.isGone = false) : 0 < staff workers :=
  List.countP_pos_iff.2 ⟨worker, List.mem_of_getElem? h, by simp [hworker]⟩

/-- A thread that goes on is counted as before. -/
theorem staff_set {workers : List (Worker τ)} {i : Nat} {worker next : Worker τ}
    (h : workers[i]? = some worker) (hworker : worker.isGone = false)
    (hnext : next.isGone = false) : staff (workers.set i next) = staff workers := by
  have hpos := staff_pos h hworker
  obtain ⟨hlt, hget⟩ := List.getElem?_eq_some_iff.1 h
  rw [staff] at hpos
  rw [staff, List.countP_set hlt, hget, staff]
  simp only [hworker, hnext, Bool.not_false, if_true]
  exact Nat.sub_add_cancel hpos

theorem staff_set_gone {workers : List (Worker τ)} {i : Nat} {worker : Worker τ}
    (h : workers[i]? = some worker) (hworker : worker.isGone = false) :
    staff (workers.set i .gone) = staff workers - 1 := by
  obtain ⟨hlt, hget⟩ := List.getElem?_eq_some_iff.1 h
  have hgone : (gone : Worker τ).isGone = true := rfl
  rw [staff, List.countP_set hlt, hget, staff]
  simp [hworker, hgone]

theorem exists_of_staff_pos {workers : List (Worker τ)} (h : 0 < staff workers) :
    ∃ (i : Nat) (worker : Worker τ), workers[i]? = some worker ∧ worker.isGone = false := by
  obtain ⟨worker, hmem, hworker⟩ := List.countP_pos_iff.1 h
  obtain ⟨i, hi⟩ := List.mem_iff_getElem?.1 hmem
  exact ⟨i, worker, hi, by simpa using hworker⟩

end Worker

namespace Pool

variable {pool next : Pool τ} {i : Nat} {worker turn : Worker τ}

theorem isGone_of_allGone (h : pool.allGone none = true)
    (hworker : pool.workers[i]? = some worker) : worker.isGone = true := by
  have hpair : (worker, i) ∈ pool.workers.zipIdx := List.mem_zipIdx_iff_getElem?.2 hworker
  simpa using List.all_eq_true.1 h _ hpair

/-- A pool whose threads have left runs nothing. -/
theorem task?_of_allGone (h : pool.allGone none = true) (i : Nat) : pool.task? i = none := by
  cases htask : pool.task? i with
  | none => rfl
  | some task => cases isGone_of_allGone h (task?_eq_some_iff.1 htask)

theorem running_of_allGone (h : pool.allGone none = true) : Worker.tasks pool.workers = 0 := by
  have hidle : pool.workers.filterMap Worker.task? = [] := by
    refine List.filterMap_eq_nil_iff.2 fun worker hmem => ?_
    obtain ⟨i, hi⟩ := List.mem_iff_getElem?.1 hmem
    cases worker with
    | running task => cases isGone_of_allGone h hi
    | _ => rfl
  rw [Worker.tasks, hidle]
  rfl

theorem idleStep_of_allGone (h : pool.allGone none = true) (i : Nat) : pool.idleStep i = none := by
  cases hstep : pool.idleStep i with
  | none => rfl
  | some next =>
    cases idleRule_of_idleStep hstep with
    | decide hworker => cases isGone_of_allGone h hworker
    | take hworker _ => cases isGone_of_allGone h hworker
    | close hworker _ _ => cases isGone_of_allGone h hworker
    | stay hworker _ => cases isGone_of_allGone h hworker
    | retire hworker _ => cases isGone_of_allGone h hworker
    | exit hworker => cases isGone_of_allGone h hworker

theorem timeOut_of_allGone (h : pool.allGone none = true) (i : Nat) : pool.timeOut i = none := by
  cases hstep : pool.timeOut i with
  | none => rfl
  | some next => cases isGone_of_allGone h (eq_of_timeOut hstep).1

/-- The staff of a pool is counted, and large enough for what is queued. -/
structure IsStaffed (pool : Pool τ) : Prop where
  live_eq : pool.live = Worker.staff pool.workers
  core_le : pool.queue ≠ [] → pool.spec.corePoolSize ≤ pool.live
  /-- A thread that is about to leave for good leaves nothing behind. -/
  drained : .closing ∈ pool.workers → pool.isOpen = false ∧ pool.queue = []

theorem isStaffed_create (name : String) (spec : PoolSpec) :
    (create name spec : Pool τ).IsStaffed where
  live_eq := rfl
  core_le := fun h => absurd rfl h
  drained := fun h => absurd h List.not_mem_nil

namespace IsStaffed

/-- A thread that goes on may turn to anything but leaving. -/
theorem setWorker (hpool : pool.IsStaffed) (h : pool.workers[i]? = some worker)
    (hworker : worker.isGone = false) (hturn : turn.isGone = false)
    (hclosing : turn = .closing → pool.isOpen = false ∧ pool.queue = []) :
    (pool.setWorker i turn).IsStaffed where
  live_eq := hpool.live_eq.trans (Worker.staff_set h hworker hturn).symm
  core_le := hpool.core_le
  drained := by
    intro hmem
    rcases List.mem_or_eq_of_mem_set hmem with hmem | hturn
    · exact hpool.drained hmem
    · exact hclosing hturn.symm

theorem leave (hpool : pool.IsStaffed) (h : pool.workers[i]? = some worker)
    (hworker : worker.isGone = false)
    (hspare : pool.queue ≠ [] → pool.spec.corePoolSize < pool.live) :
    (pool.leave i).IsStaffed where
  live_eq := by
    have hstaff := Worker.staff_set_gone h hworker
    simp only [Pool.leave, Pool.setWorker, hpool.live_eq]
    exact hstaff.symm
  core_le := fun hqueue => Nat.le_sub_one_of_lt (hspare hqueue)
  drained := by
    intro hmem
    rcases List.mem_or_eq_of_mem_set hmem with hmem | hgone
    · exact hpool.drained hmem
    · cases hgone

theorem dequeue (hpool : pool.IsStaffed) {task : τ} {rest : List τ}
    (hqueue : pool.queue = task :: rest) : ({ pool with queue := rest } : Pool τ).IsStaffed where
  live_eq := hpool.live_eq
  core_le := fun _ => hpool.core_le (by simp [hqueue])
  drained := fun hmem => absurd (hpool.drained hmem).2 (by simp [hqueue])

theorem start (hpool : pool.IsStaffed) {first : Worker τ} (hgone : first.isGone = false)
    (hclosing : first ≠ .closing) : (pool.start first).IsStaffed where
  live_eq := by
    rw [Pool.start, Worker.staff_concat _ hgone, hpool.live_eq]
  core_le := fun hqueue => Nat.le_succ_of_le (hpool.core_le hqueue)
  drained := by
    intro hmem
    rcases List.mem_append.1 hmem with hmem | hmem
    · exact hpool.drained hmem
    · exact absurd (List.mem_singleton.1 hmem).symm hclosing

theorem idleStep (hpool : pool.IsStaffed) (h : pool.idleStep i = some next) : next.IsStaffed := by
  cases idleRule_of_idleStep h with
  | decide hworker => exact hpool.setWorker hworker rfl rfl nofun
  | take hworker hqueue => exact (hpool.dequeue hqueue).setWorker hworker rfl rfl nofun
  | close hworker hqueue hclosed =>
    simp only [isClosed, Bool.and_eq_true, Bool.not_eq_true'] at hclosed
    exact hpool.setWorker hworker rfl rfl fun _ => ⟨hclosed.1, hqueue⟩
  | stay hworker _ => exact hpool.setWorker hworker rfl rfl nofun
  | retire hworker hspare => exact hpool.leave hworker rfl fun _ => hspare
  | exit hworker =>
    exact hpool.leave hworker rfl fun hqueue =>
      absurd (hpool.drained (List.mem_of_getElem? hworker)).2 hqueue

theorem timeOut (hpool : pool.IsStaffed) (h : pool.timeOut i = some next) : next.IsStaffed := by
  obtain ⟨hworker, rfl⟩ := eq_of_timeOut h
  exact hpool.setWorker hworker rfl rfl nofun

theorem submit (hpool : pool.IsStaffed) {task : τ} {placement : Placement}
    (h : pool.submit task = (next, placement)) : next.IsStaffed := by
  have hcounted : ({ pool with submitted := pool.submitted + 1 } : Pool τ).IsStaffed :=
    ⟨hpool.live_eq, hpool.core_le, hpool.drained⟩
  have hfilled : ∀ queue : List τ, pool.isOpen = true →
      pool.spec.corePoolSize ≤ pool.live →
        ({ pool with submitted := pool.submitted + 1, queue } : Pool τ).IsStaffed := by
    intro queue hopen hcore
    refine ⟨hpool.live_eq, fun _ => hcore, fun hmem => ?_⟩
    rw [(hpool.drained hmem).1] at hopen
    cases hopen
  cases submitRule_of_submit h with
  | refuse _ => exact hpool
  | start _ _ => exact hcounted.start rfl nofun
  | enqueue hopen hcore _ _ => exact hfilled _ hopen hcore
  | revive hopen hcore _ _ => exact (hfilled _ hopen hcore).start rfl nofun
  | strand hopen hcore _ _ _ =>
    have hpool := hfilled (pool.queue ++ [task]) hopen hcore
    exact ⟨hpool.live_eq, hpool.core_le, hpool.drained⟩
  | lend _ _ _ _ | lose _ _ _ => exact ⟨hpool.live_eq, hpool.core_le, hpool.drained⟩

theorem count (hpool : pool.IsStaffed) (crashed : Bool) : (pool.count crashed).IsStaffed := by
  cases crashed <;> exact ⟨hpool.live_eq, hpool.core_le, hpool.drained⟩

theorem finish (hpool : pool.IsStaffed) {task : τ} (h : pool.task? i = some task)
    (crashed : Bool) : (pool.finish i crashed).IsStaffed := by
  have hworker : (pool.count crashed).workers[i]? = some (.running task) := by
    rw [count_workers, task?_eq_some_iff.1 h]
  exact (hpool.count crashed).setWorker hworker rfl rfl nofun

theorem finishOnCaller (hpool : pool.IsStaffed) (crashed : Bool) :
    (pool.finishOnCaller crashed).IsStaffed :=
  ⟨(hpool.count crashed).live_eq, (hpool.count crashed).core_le, (hpool.count crashed).drained⟩

theorem close (hpool : pool.IsStaffed) : pool.close.IsStaffed :=
  ⟨hpool.live_eq, hpool.core_le, fun hmem => ⟨rfl, (hpool.drained hmem).2⟩⟩

/-- Where tasks are queued and there is a core, a thread is at work: it runs a task, or
its next step brings it closer to the queue. -/
theorem exists_thread (hpool : pool.IsStaffed) (hcore : 1 ≤ pool.spec.corePoolSize)
    (hqueue : pool.queue ≠ []) : ∃ i, pool.task? i ≠ none ∨ pool.idleStep i ≠ none := by
  have hlive : 0 < Worker.staff pool.workers := by
    rw [← hpool.live_eq]
    exact hcore.trans (hpool.core_le hqueue)
  obtain ⟨i, worker, hworker, hstays⟩ := Worker.exists_of_staff_pos hlive
  refine ⟨i, ?_⟩
  cases worker with
  | running task => exact .inl (by simp [task?, hworker])
  | deciding => exact .inr (by simp [Pool.idleStep, hworker])
  | waiting timed =>
    obtain ⟨task, rest, hcons⟩ := List.exists_cons_of_ne_nil hqueue
    exact .inr (by simp [Pool.idleStep, hworker, hcons])
  | timedOut =>
    right
    by_cases hle : pool.live ≤ pool.spec.corePoolSize <;> simp [Pool.idleStep, hworker, hle]
  | closing => exact absurd (hpool.drained (List.mem_of_getElem? hworker)).2 hqueue
  | gone => cases hstays

/-- Once every thread has left, nothing is counted as live and nothing is queued. -/
theorem of_allGone (hpool : pool.IsStaffed) (hcore : 1 ≤ pool.spec.corePoolSize)
    (hgone : pool.allGone none = true) : pool.live = 0 ∧ pool.queue = [] := by
  have hlive : pool.live = 0 := by
    rw [hpool.live_eq]
    refine List.countP_eq_zero.2 fun worker hmem => ?_
    obtain ⟨i, hi⟩ := List.mem_iff_getElem?.1 hmem
    simp [isGone_of_allGone hgone hi]
  refine ⟨hlive, ?_⟩
  by_contra hqueue
  have hle := hpool.core_le hqueue
  omega

end IsStaffed
end Pool
end TableCopy
