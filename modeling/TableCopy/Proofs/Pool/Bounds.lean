import TableCopy.Proofs.Pool.Usage

/-!
# The bounds of a pool

A pool grows to its greatest size and no further, and it never shrinks below its core
while it is open. A thread chooses between a timed and an untimed wait by a count of
threads that may be out of date when the wait begins. What keeps the untimed waits within
the core is that the choice itself reads a count that the thread is part of: a thread
that waits without a limit was one of at most a core of threads, and so were all others.
-/

namespace TableCopy

variable {τ : Type}

namespace Worker

/-- Whether a thread waits for as long as it takes. -/
def isUntimed : Worker τ → Bool
  | waiting timed => !timed
  | _ => false

/-- How many threads wait without a limit. -/
def untimed (workers : List (Worker τ)) : Nat := workers.countP isUntimed

/-- How many threads are at work or will look at the pool again by themselves. -/
def restless (workers : List (Worker τ)) : Nat :=
  workers.countP fun worker => !worker.isGone && !worker.isUntimed

theorem isGone_of_isUntimed {worker : Worker τ} (h : worker.isUntimed = true) :
    worker.isGone = false := by
  cases worker with
  | waiting timed => rfl
  | _ => cases h

theorem isGone_of_task? {worker : Worker τ} (h : worker.task?.isSome = true) :
    worker.isGone = false := by
  cases worker with
  | running task => rfl
  | _ => cases h

theorem untimed_le_staff (workers : List (Worker τ)) : untimed workers ≤ staff workers :=
  List.countP_mono_left fun _ _ h => by simp [isGone_of_isUntimed h]

/-- Every thread that has not left is restless or waits without a limit. -/
theorem staff_eq (workers : List (Worker τ)) :
    staff workers = untimed workers + restless workers := by
  induction workers with
  | nil => rfl
  | cons worker workers ih =>
    simp only [staff, untimed, restless, List.countP_cons] at ih ⊢
    cases hgone : worker.isGone with
    | true =>
      have huntimed : worker.isUntimed = false := by
        by_contra h
        rw [isGone_of_isUntimed (Bool.eq_true_of_not_eq_false h)] at hgone
        cases hgone
      simp [huntimed, ih]
    | false =>
      cases huntimed : worker.isUntimed <;> simp [ih] <;> omega

theorem card_tasks_le_staff (workers : List (Worker τ)) :
    (tasks workers).card ≤ staff workers := by
  rw [tasks, Multiset.coe_card, List.length_filterMap_eq_countP]
  exact List.countP_mono_left fun _ _ h => by simp [isGone_of_task? h]

theorem untimed_concat (workers : List (Worker τ)) {worker : Worker τ}
    (h : worker.isUntimed = false) : untimed (workers ++ [worker]) = untimed workers := by
  simp [untimed, h]

/-- A thread that turns to anything but an untimed wait adds no such wait. -/
theorem untimed_set_le (workers : List (Worker τ)) (i : Nat) {turn : Worker τ}
    (h : turn.isUntimed = false) : untimed (workers.set i turn) ≤ untimed workers := by
  by_cases hlt : i < workers.length
  · rw [untimed, List.countP_set hlt, h]
    exact Nat.sub_le _ _
  · rw [List.set_eq_of_length_le (Nat.le_of_not_lt hlt)]

end Worker

namespace Pool

variable {pool next : Pool τ} {i : Nat} {worker turn : Worker τ}

/-- The sizes that a pool keeps. -/
structure IsBounded (pool : Pool τ) : Prop where
  live_le : pool.live ≤ pool.spec.maxPoolSize
  queue_le : pool.queue.length ≤ pool.spec.places
  untimed_le : Worker.untimed pool.workers ≤ pool.spec.corePoolSize

theorem isBounded_create (name : String) (spec : PoolSpec) :
    (create name spec : Pool τ).IsBounded where
  live_le := Nat.zero_le _
  queue_le := Nat.zero_le _
  untimed_le := Nat.zero_le _

namespace IsBounded

theorem setWorker (hpool : pool.IsBounded) (hturn : turn.isUntimed = false) :
    (pool.setWorker i turn).IsBounded :=
  ⟨hpool.live_le, hpool.queue_le, (Worker.untimed_set_le _ i hturn).trans hpool.untimed_le⟩

theorem leave (hpool : pool.IsBounded) : (pool.leave i).IsBounded :=
  ⟨(Nat.sub_le _ _).trans hpool.live_le, hpool.queue_le, (hpool.setWorker rfl).untimed_le⟩

/-- A thread that decides on a wait chooses an untimed one only if the staff is no larger
than the core, and it belongs to the staff. -/
theorem beginWait (hpool : pool.IsBounded) (hstaffed : pool.IsStaffed)
    (h : pool.workers[i]? = some .deciding) :
    (pool.setWorker i (.waiting (pool.spec.corePoolSize < pool.live))).IsBounded := by
  by_cases hspare : pool.spec.corePoolSize < pool.live
  · exact hpool.setWorker (by simp [Worker.isUntimed, hspare])
  · refine ⟨hpool.live_le, hpool.queue_le, (Worker.untimed_le_staff _).trans ?_⟩
    rw [Pool.setWorker, Worker.staff_set h rfl rfl, ← hstaffed.live_eq]
    exact Nat.le_of_not_lt hspare

theorem idleStep (hpool : pool.IsBounded) (hstaffed : pool.IsStaffed)
    (h : pool.idleStep i = some next) : next.IsBounded := by
  cases idleRule_of_idleStep h with
  | decide hworker => exact hpool.beginWait hstaffed hworker
  | @take _ task rest _ hqueue =>
    have hrest := hpool.queue_le
    rw [hqueue] at hrest
    have hdequeued : ({ pool with queue := rest } : Pool τ).IsBounded :=
      ⟨hpool.live_le, Nat.le_of_succ_le hrest, hpool.untimed_le⟩
    exact hdequeued.setWorker rfl
  | close _ _ _ => exact hpool.setWorker rfl
  | stay _ _ => exact hpool.setWorker rfl
  | retire _ _ => exact hpool.leave
  | exit _ => exact hpool.leave

theorem timeOut (hpool : pool.IsBounded) (h : pool.timeOut i = some next) : next.IsBounded := by
  obtain ⟨-, rfl⟩ := eq_of_timeOut h
  exact hpool.setWorker rfl

/-- A submission starts a thread only below the core or below the greatest size. -/
theorem submit (hpool : pool.IsBounded) (hcore : 1 ≤ pool.spec.corePoolSize)
    (hmax : pool.spec.corePoolSize ≤ pool.spec.maxPoolSize) {task : τ} {placement : Placement}
    (h : pool.submit task = (next, placement)) : next.IsBounded := by
  cases submitRule_of_submit h with
  | refuse _ => exact hpool
  | start _ hroom =>
    have hlive : pool.live + 1 ≤ pool.spec.maxPoolSize := by
      rcases hroom with hroom | ⟨-, hroom⟩
      · exact hroom.trans_le hmax
      · exact hroom
    exact ⟨hlive, hpool.queue_le, (Worker.untimed_concat _ rfl).trans_le hpool.untimed_le⟩
  | enqueue _ _ hroom _ =>
    refine ⟨hpool.live_le, ?_, hpool.untimed_le⟩
    rw [List.length_append]
    exact hroom
  | revive _ hfull _ hlive | strand _ hfull _ hlive _ =>
    rw [hlive] at hfull
    exact absurd (hcore.trans hfull) (Nat.not_succ_le_zero 0)
  | lend _ _ _ _ | lose _ _ _ => exact ⟨hpool.live_le, hpool.queue_le, hpool.untimed_le⟩

theorem count (hpool : pool.IsBounded) (crashed : Bool) : (pool.count crashed).IsBounded := by
  cases crashed <;> exact ⟨hpool.live_le, hpool.queue_le, hpool.untimed_le⟩

theorem finish (hpool : pool.IsBounded) (i : Nat) (crashed : Bool) :
    (pool.finish i crashed).IsBounded := (hpool.count crashed).setWorker rfl

theorem finishOnCaller (hpool : pool.IsBounded) (crashed : Bool) :
    (pool.finishOnCaller crashed).IsBounded :=
  ⟨(hpool.count crashed).live_le, (hpool.count crashed).queue_le, (hpool.count crashed).untimed_le⟩

theorem close (hpool : pool.IsBounded) : pool.close.IsBounded :=
  ⟨hpool.live_le, hpool.queue_le, hpool.untimed_le⟩

end IsBounded

/-- A thread of a pool that is larger than its core enters no untimed wait. -/
theorem not_untimed_of_idleStep (hspare : pool.spec.corePoolSize < pool.live)
    (h : pool.idleStep i = some next) : next.workers[i]? ≠ some (.waiting false) := by
  have hset : ∀ (workers : List (Worker τ)) (turn : Worker τ), turn ≠ .waiting false →
      (workers.set i turn)[i]? ≠ some (.waiting false) := by
    intro workers turn hturn hget
    obtain ⟨hlt, hget⟩ := List.getElem?_eq_some_iff.1 hget
    rw [List.getElem_set_self] at hget
    exact hturn hget
  cases idleRule_of_idleStep h with
  | decide _ => exact hset _ _ (by simp [hspare])
  | take _ _ => exact hset _ _ nofun
  | close _ _ _ => exact hset _ _ nofun
  | stay _ _ => exact hset _ _ nofun
  | retire _ _ => exact hset _ _ nofun
  | exit _ => exact hset _ _ nofun

/-- An open pool keeps its core: a thread leaves only above it, or once the queue is
closed. -/
theorem core_le_of_idleStep (hstaffed : pool.IsStaffed) (hopen : pool.isOpen = true)
    (hcore : pool.spec.corePoolSize ≤ pool.live) (h : pool.idleStep i = some next) :
    pool.spec.corePoolSize ≤ next.live := by
  cases idleRule_of_idleStep h with
  | decide _ => exact hcore
  | take _ _ => exact hcore
  | close _ _ _ => exact hcore
  | stay _ _ => exact hcore
  | retire _ hspare => exact Nat.le_sub_one_of_lt hspare
  | exit hworker =>
    rw [(hstaffed.drained (List.mem_of_getElem? hworker)).1] at hopen
    cases hopen

/-- A submission starts threads and lets none leave. -/
theorem live_le_submit {task : τ} {placement : Placement}
    (h : pool.submit task = (next, placement)) : pool.live ≤ next.live := by
  cases submitRule_of_submit h with
  | start _ _ | revive _ _ _ _ => exact Nat.le_succ _
  | _ => exact le_rfl

theorem isOpen_submit {task : τ} {placement : Placement}
    (h : pool.submit task = (next, placement)) : next.isOpen = pool.isOpen := by
  cases submitRule_of_submit h <;> rfl

end Pool

namespace Usage

@[simp] theorem note_pool (u : Usage τ) (task : τ) (pool : Pool τ) (placement : Placement) :
    (u.note task pool placement).pool = pool := by
  cases placement <;> rfl

variable [DecidableEq τ] {name : String} {spec : PoolSpec} {u v : Usage τ} {action : Action τ}

theorem isBounded_of_step (hcore : 1 ≤ spec.corePoolSize)
    (hmax : spec.corePoolSize ≤ spec.maxPoolSize) (hu : u.IsSound spec)
    (hpool : u.pool.IsBounded) (h : u.step action = some v) : v.pool.IsBounded := by
  cases rule_of_step h with
  | submit _ hsubmit =>
    rw [note_pool]
    rw [← hu.spec_eq] at hcore hmax
    exact hpool.submit hcore hmax hsubmit
  | giveBack crashed _ => exact hpool.finishOnCaller crashed
  | idle hidle => exact hpool.idleStep hu.staffed hidle
  | timeOut htimeOut => exact hpool.timeOut htimeOut
  | finish crashed _ _ => exact hpool.finish _ crashed
  | shutdown _ _ => exact hpool.close
  | shutdownAgain _ _ => exact hpool.close
  | join _ _ => exact hpool

/-- No action on a pool that stays open takes it below its core. -/
theorem core_le_of_step (hu : u.IsSound spec) (h : u.step action = some v)
    (hopen : v.pool.isOpen = true) :
    u.pool.isOpen = true ∧ (spec.corePoolSize ≤ u.pool.live → spec.corePoolSize ≤ v.pool.live) := by
  cases rule_of_step h with
  | submit _ hsubmit =>
    rw [note_pool] at hopen ⊢
    exact ⟨(Pool.isOpen_submit hsubmit).symm.trans hopen,
      fun hle => hle.trans (Pool.live_le_submit hsubmit)⟩
  | giveBack crashed _ => cases crashed <;> exact ⟨hopen, id⟩
  | idle hidle =>
    have hopen : u.pool.isOpen = true := (Pool.counters_idleStep hidle).2.1.symm.trans hopen
    refine ⟨hopen, fun hle => ?_⟩
    rw [← hu.spec_eq] at hle ⊢
    exact Pool.core_le_of_idleStep hu.staffed hopen hle hidle
  | timeOut htimeOut =>
    obtain ⟨-, rfl⟩ := Pool.eq_of_timeOut htimeOut
    exact ⟨hopen, id⟩
  | finish crashed _ _ => cases crashed <;> exact ⟨hopen, id⟩
  | shutdown _ _ => cases hopen
  | shutdownAgain _ _ => cases hopen
  | join _ _ => exact ⟨hopen, id⟩

theorem Reachable.isBounded (hcore : 1 ≤ spec.corePoolSize)
    (hmax : spec.corePoolSize ≤ spec.maxPoolSize) (h : Reachable name spec u) :
    u.pool.IsBounded := by
  induction h with
  | start => exact Pool.isBounded_create name spec
  | step _ hu hstep ih => exact isBounded_of_step hcore hmax hu.isSound ih hstep

/-- A pool that is open at the end of a sequence of actions was open all along, and kept
its core from where it was complete. -/
theorem Reachable.core_le_of_run (hu : Reachable name spec u) {actions : List (Action τ)}
    (h : u.run actions = some v) (hopen : v.pool.isOpen = true) :
    u.pool.isOpen = true ∧ (spec.corePoolSize ≤ u.pool.live → spec.corePoolSize ≤ v.pool.live) := by
  induction actions generalizing u with
  | nil =>
    obtain rfl := Option.some.inj h
    exact ⟨hopen, id⟩
  | cons action actions ih =>
    obtain ⟨w, hstep, hrun⟩ := Option.bind_eq_some_iff.1 h
    obtain ⟨hmiddle, hkeeps⟩ := ih (hu.step action hstep) hrun
    obtain ⟨hfirst, hstays⟩ := core_le_of_step hu.isSound hstep hmiddle
    exact ⟨hfirst, fun hle => hkeeps (hstays hle)⟩

/-- The bounds of a pool for a limit, in whatever order its threads and its users act: it
counts its threads and has no more of them, and queues no more tasks, than the limit; it
owes no more tasks than fit into the queue and on its threads, and one more for each
submitter that runs its own; while it is open it keeps its core once it is complete; and no
more threads than the core wait without a limit, so that every other thread is at work or
in a wait that ends by itself. -/
theorem Reachable.keeps_bounds {limit core keepAlive : Nat}
    (h : Reachable name (PoolSpec.ofLimit limit core keepAlive) u) :
    let spec := PoolSpec.ofLimit limit core keepAlive
    u.pool.live = Worker.staff u.pool.workers ∧ u.pool.live ≤ spec.maxPoolSize ∧
    u.pool.queue.length ≤ spec.queueCapacity ∧
    u.accepted.length ≤
      u.ended.length + (spec.queueCapacity + spec.maxPoolSize + u.lent.length) ∧
    (spec.corePoolSize ≤ u.pool.live → ∀ actions v, u.run actions = some v →
      v.pool.isOpen = true → spec.corePoolSize ≤ v.pool.live) ∧
    Worker.untimed u.pool.workers ≤ spec.corePoolSize ∧
    u.pool.live ≤ spec.corePoolSize + Worker.restless u.pool.workers ∧
    (spec.corePoolSize < u.pool.live → ∀ i v, u.step (.idle i) = some v →
      v.pool.workers[i]? ≠ some (.waiting false)) := by
  intro spec
  have hcore : 1 ≤ spec.corePoolSize := PoolSpec.ofLimit_core_pos ..
  have hmax : spec.corePoolSize ≤ spec.maxPoolSize := PoolSpec.ofLimit_core_le_max ..
  have hplaces : spec.places = spec.queueCapacity :=
    Nat.max_eq_left (Nat.le_max_right limit 1)
  have hu : u.IsSound spec := h.isSound
  obtain ⟨hlive, hqueue, huntimed⟩ := h.isBounded hcore hmax
  rw [hu.spec_eq] at hlive hqueue huntimed
  have hstaff := hu.staffed.live_eq
  refine ⟨hstaff, hlive, hqueue.trans hplaces.le, ?_, fun hle actions v hrun hopen => ?_,
    huntimed, ?_, fun hspare i v hstep => ?_⟩
  · have hheld : u.held.card ≤ spec.maxPoolSize :=
      (Worker.card_tasks_le_staff _).trans (hstaff ▸ hlive)
    have hbooks := hu.submitted_eq
    have hsubmitted := hu.submitted
    have hended := hu.ended
    omega
  · exact (h.core_le_of_run hrun hopen).2 hle
  · rw [hstaff, Worker.staff_eq]
    exact Nat.add_le_add_right huntimed _
  · obtain ⟨pool, hpool, rfl⟩ := Option.map_eq_some_iff.1 hstep
    rw [← hu.spec_eq] at hspare
    exact Pool.not_untimed_of_idleStep hspare hpool

/-- A pool with a limit of two, filled up: two tasks run on its threads, two are queued and
one runs on its submitter, which is as much as it can owe. When all is done the further
thread leaves and the core waits without a limit. -/
theorem Reachable.keeps_bounds_of_filled :
    ∃ u v : Usage Nat, Reachable "pool" (PoolSpec.ofLimit 2 4 0) u ∧
      u.accepted.length = 5 ∧ u.ended.length = 0 ∧
      u.accepted.length ≤ u.ended.length + (2 + 2 + u.lent.length) ∧
      u.run [.giveBack 0 false, .finish 0 true, .idle 0, .idle 0, .finish 1 false, .idle 1,
        .idle 1, .finish 0 false, .finish 1 false, .idle 0, .idle 1, .timeOut 0, .timeOut 1,
        .idle 1, .idle 0, .idle 0] = some v ∧
      v.pool.workers = [.waiting false, .gone] ∧ v.ended.length = 5 ∧ 1 ≤ v.pool.live := by
  obtain ⟨u, v, hfill, haccepted, hended, hlive, hrun, hopen, hworkers, hdone⟩ :
      ∃ u v : Usage Nat, (Usage.start "pool" (PoolSpec.ofLimit 2 4 0)).run
        [.submit 0, .submit 1, .submit 2, .submit 3, .submit 4] = some u ∧
        u.accepted.length = 5 ∧ u.ended.length = 0 ∧ u.pool.live = 2 ∧
        u.run [.giveBack 0 false, .finish 0 true, .idle 0, .idle 0, .finish 1 false, .idle 1,
          .idle 1, .finish 0 false, .finish 1 false, .idle 0, .idle 1, .timeOut 0, .timeOut 1,
          .idle 1, .idle 0, .idle 0] = some v ∧
        v.pool.isOpen = true ∧ v.pool.workers = [.waiting false, .gone] ∧ v.ended.length = 5 :=
    ⟨_, _, rfl, rfl, rfl, rfl, rfl, rfl, rfl, rfl⟩
  have hu : Reachable "pool" (PoolSpec.ofLimit 2 4 0) u := Reachable.start.run hfill
  obtain ⟨-, -, -, howed, hkeeps, -⟩ := Reachable.keeps_bounds hu
  have hcore : (PoolSpec.ofLimit 2 4 0).corePoolSize ≤ u.pool.live := by
    rw [hlive]
    decide
  exact ⟨u, v, hu, haccepted, hended, howed, hrun, hworkers, hdone,
    hkeeps hcore _ v hrun hopen⟩

end Usage
end TableCopy
