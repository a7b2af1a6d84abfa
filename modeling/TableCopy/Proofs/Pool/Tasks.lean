import Mathlib.Algebra.BigOperators.Group.Multiset.Basic
import Mathlib.Algebra.Order.Group.Multiset
import Mathlib.Tactic.Abel
import TableCopy.Proofs.Pool.Rule

/-!
# The tasks of a pool

A task that a pool has accepted waits in its queue or runs on one of its threads
until it ends. `tasks` is the multiset of these tasks, whatever their places; every
operation of a pool adds a task, takes one away, or leaves all as they are.
-/

namespace TableCopy

variable {τ : Type}

namespace Worker

/-- The task that a thread is running. -/
def task? : Worker τ → Option τ
  | running task => some task
  | _ => none

/-- The tasks that threads are running. -/
def tasks (workers : List (Worker τ)) : Multiset τ := (workers.filterMap task? : List τ)

@[simp] theorem tasks_concat (workers : List (Worker τ)) (worker : Worker τ) :
    tasks (workers ++ [worker]) = tasks workers + (worker.task?.toList : Multiset τ) := by
  have hone : [worker].filterMap task? = worker.task?.toList := by
    cases h : worker.task? <;> simp [h]
  rw [tasks, List.filterMap_append, hone, ← Multiset.coe_add, tasks]

/-- What a thread turns to takes the place of what it did, and the others are left
alone. -/
theorem exists_tasks_set {workers : List (Worker τ)} {i : Nat} {worker : Worker τ}
    (h : workers[i]? = some worker) :
    ∃ rest : Multiset τ, tasks workers = (worker.task?.toList : Multiset τ) + rest ∧
      ∀ next : Worker τ,
        tasks (workers.set i next) = (next.task?.toList : Multiset τ) + rest := by
  obtain ⟨hlt, hget⟩ := List.getElem?_eq_some_iff.1 h
  have hset : ∀ next : Worker τ, tasks (workers.set i next) =
      (next.task?.toList : Multiset τ) +
        (tasks (workers.take i) + tasks (workers.drop (i + 1))) := by
    intro next
    rw [List.set_eq_take_append_cons_drop, if_pos hlt]
    have hcons : (next :: workers.drop (i + 1)).filterMap task? =
        next.task?.toList ++ (workers.drop (i + 1)).filterMap task? := by
      cases hnext : next.task? <;> simp [hnext]
    rw [tasks, List.filterMap_append, hcons, ← Multiset.coe_add, ← Multiset.coe_add]
    exact add_left_comm _ _ _
  refine ⟨_, ?_, hset⟩
  rw [← hset worker, ← hget, List.set_getElem_self]

/-- What a thread turns to and what it did balance out. -/
theorem tasks_set_add {workers : List (Worker τ)} {i : Nat} {worker : Worker τ}
    (h : workers[i]? = some worker) (next : Worker τ) :
    (next.task?.toList : Multiset τ) + tasks workers =
      (worker.task?.toList : Multiset τ) + tasks (workers.set i next) := by
  obtain ⟨rest, htasks, hset⟩ := exists_tasks_set h
  rw [htasks, hset, add_left_comm]

end Worker

namespace Pool

/-- The tasks that are queued or running. -/
def tasks (pool : Pool τ) : Multiset τ := (pool.queue : Multiset τ) + Worker.tasks pool.workers

@[simp] theorem tasks_finishOnCaller (pool : Pool τ) (crashed : Bool) :
    (pool.finishOnCaller crashed).tasks = pool.tasks := by
  cases crashed <;> rfl

theorem task?_eq_some_iff {pool : Pool τ} {i : Nat} {task : τ} :
    pool.task? i = some task ↔ pool.workers[i]? = some (.running task) := by
  unfold task?
  cases pool.workers[i]? with
  | none => simp
  | some worker => cases worker <;> simp

/-- A running task can be told apart from the others. The thread may go on to another
state of the task, or end it. -/
theorem exists_tasks_eq_cons {pool : Pool τ} {i : Nat} {task : τ} (h : pool.task? i = some task) :
    ∃ rest : Multiset τ, pool.tasks = task ::ₘ rest ∧
      (∀ next, (pool.setWorker i (.running next)).tasks = next ::ₘ rest) ∧
      ∀ crashed, (pool.finish i crashed).tasks = rest := by
  obtain ⟨others, htasks, hset⟩ := Worker.exists_tasks_set (task?_eq_some_iff.1 h)
  have hcons : ∀ t : τ, (pool.queue : Multiset τ) +
      (((Worker.running t).task?.toList : Multiset τ) + others) =
        t ::ₘ ((pool.queue : Multiset τ) + others) := fun t => add_left_comm _ {t} _
  refine ⟨(pool.queue : Multiset τ) + others, ?_, ?_, ?_⟩
  · rw [tasks, htasks, hcons]
  · intro next
    rw [tasks, setWorker, hset, hcons]
  · intro crashed
    have hidle := hset .deciding
    cases crashed <;> simpa [tasks, finish, count, setWorker, Worker.task?] using hidle

/-- A thread that runs no task only changes its place. -/
theorem tasks_setWorker_of_idle {pool : Pool τ} {i : Nat} {worker next : Worker τ}
    (h : pool.workers[i]? = some worker) (hworker : worker.task? = none)
    (hnext : next.task? = none) : (pool.setWorker i next).tasks = pool.tasks := by
  obtain ⟨others, htasks, hset⟩ := Worker.exists_tasks_set h
  rw [tasks, tasks, setWorker, hset, htasks, hworker, hnext]

theorem tasks_leave_of_idle {pool : Pool τ} {i : Nat} {worker : Worker τ}
    (h : pool.workers[i]? = some worker) (hworker : worker.task? = none) :
    (pool.leave i).tasks = pool.tasks :=
  tasks_setWorker_of_idle h hworker rfl

/-- A thread that takes the first queued task moves it and loses none. -/
theorem tasks_take {pool : Pool τ} {i : Nat} {worker : Worker τ} {task : τ} {rest : List τ}
    (h : pool.workers[i]? = some worker) (hworker : worker.task? = none)
    (hqueue : pool.queue = task :: rest) :
    ({ pool with queue := rest }.setWorker i (.running task)).tasks = pool.tasks := by
  obtain ⟨others, htasks, hset⟩ := Worker.exists_tasks_set h
  rw [tasks, tasks, setWorker, hset, htasks, hworker, hqueue, ← Multiset.cons_coe]
  calc (rest : Multiset τ) + ({task} + others)
      = task ::ₘ ((rest : Multiset τ) + others) := add_left_comm _ _ _
    _ = task ::ₘ (rest : Multiset τ) + (0 + others) := by rw [zero_add, Multiset.cons_add]

/-- An idle thread moves tasks from the queue and loses none. -/
theorem tasks_idleStep {pool next : Pool τ} {i : Nat} (h : pool.idleStep i = some next) :
    next.tasks = pool.tasks := by
  cases idleRule_of_idleStep h with
  | decide hworker => exact tasks_setWorker_of_idle hworker rfl rfl
  | take hworker hqueue => exact tasks_take hworker rfl hqueue
  | close hworker _ _ => exact tasks_setWorker_of_idle hworker rfl rfl
  | stay hworker _ => exact tasks_setWorker_of_idle hworker rfl rfl
  | retire hworker _ => exact tasks_leave_of_idle hworker rfl
  | exit hworker => exact tasks_leave_of_idle hworker rfl

/-- Where an idle thread turns to something else, what it runs then is new. -/
theorem running_of_idle {pool next : Pool τ} {i : Nat} {worker turn : Worker τ}
    (h : pool.workers[i]? = some worker) (hworker : worker.task? = none)
    (hnext : next.workers = pool.workers.set i turn) :
    Worker.tasks next.workers =
      ((next.task? i).toList : Multiset τ) + Worker.tasks pool.workers := by
  have hlt := (List.getElem?_eq_some_iff.1 h).1
  have hturn : next.task? i = turn.task? := by
    rw [task?, hnext, List.getElem?_set_self hlt]
    cases turn <;> rfl
  rw [hturn, Worker.tasks_set_add h turn, hworker, hnext]
  exact (zero_add _).symm

/-- The threads of a pool run what they ran before, and what the idle thread has taken. -/
theorem running_idleStep {pool next : Pool τ} {i : Nat} (h : pool.idleStep i = some next) :
    Worker.tasks next.workers =
      ((next.task? i).toList : Multiset τ) + Worker.tasks pool.workers := by
  cases idleRule_of_idleStep h with
  | decide hworker => exact running_of_idle hworker rfl rfl
  | take hworker _ => exact running_of_idle hworker rfl rfl
  | close hworker _ _ => exact running_of_idle hworker rfl rfl
  | stay hworker _ => exact running_of_idle hworker rfl rfl
  | retire hworker _ => exact running_of_idle hworker rfl rfl
  | exit hworker => exact running_of_idle hworker rfl rfl

theorem tasks_timeOut {pool next : Pool τ} {i : Nat} (h : pool.timeOut i = some next) :
    next.tasks = pool.tasks := by
  obtain ⟨hworker, rfl⟩ := eq_of_timeOut h
  exact tasks_setWorker_of_idle hworker rfl rfl

theorem running_timeOut {pool next : Pool τ} {i : Nat} (h : pool.timeOut i = some next) :
    Worker.tasks next.workers = Worker.tasks pool.workers := by
  obtain ⟨hworker, rfl⟩ := eq_of_timeOut h
  have hsame := Worker.tasks_set_add hworker (.timedOut : Worker τ)
  exact (add_left_cancel hsame).symm

/-- A thread that ends its task runs it no more. -/
theorem running_finish {pool : Pool τ} {i : Nat} {task : τ} (h : pool.task? i = some task)
    (crashed : Bool) :
    Worker.tasks pool.workers = task ::ₘ Worker.tasks (pool.finish i crashed).workers := by
  have hworkers : (pool.finish i crashed).workers = pool.workers.set i .deciding := by
    cases crashed <;> rfl
  have hsame := Worker.tasks_set_add (task?_eq_some_iff.1 h) (.deciding : Worker τ)
  rw [hworkers]
  exact (zero_add _).symm.trans hsame

@[simp] theorem tasks_start (pool : Pool τ) (first : Worker τ) :
    (pool.start first).tasks = pool.tasks + (first.task?.toList : Multiset τ) := by
  simp only [tasks, start, Worker.tasks_concat, add_assoc]

/-- A submitted task is in the pool from then on, or the pool holds what it held before. It is
there if it was started or queued, and not there if it is left to the submitting thread, or
refused by a pool that is reliable. -/
theorem tasks_submit {pool next : Pool τ} {task : τ} {placement : Placement}
    (h : pool.submit task = (next, placement)) :
    next.tasks = task ::ₘ pool.tasks ∧ placement ≠ .onCaller ∧
        (pool.IsReliable → placement = .started ∨ placement = .queued) ∨
      next.tasks = pool.tasks ∧ placement ≠ .started ∧ placement ≠ .queued := by
  have hcons : pool.tasks + {task} = task ::ₘ pool.tasks := add_comm _ _
  have hfilled : ((pool.queue ++ [task] : List τ) : Multiset τ) + Worker.tasks pool.workers =
      task ::ₘ pool.tasks := by
    rw [← hcons, ← Multiset.coe_add]
    exact add_right_comm _ _ _
  cases submitRule_of_submit h with
  | start _ _ => exact .inl ⟨(tasks_start _ _).trans hcons, nofun, fun _ => .inl rfl⟩
  | enqueue _ _ _ _ => exact .inl ⟨hfilled, nofun, fun _ => .inr rfl⟩
  | revive _ _ _ _ =>
    exact .inl ⟨(tasks_start _ _).trans ((add_zero _).trans hfilled), nofun, fun _ => .inr rfl⟩
  | strand _ hcore _ hlive hfault =>
    exact .inl ⟨hfilled, nofun,
      fun hreliable => absurd hfault (hreliable.startFault?_ne_some hcore hlive _)⟩
  | refuse _ | lend _ _ _ _ | lose _ _ _ => exact .inr ⟨rfl, nofun, nofun⟩

/-- A submitted task that has no weight adds none to the tasks of the pool. -/
theorem sum_tasks_submit {M : Type} [AddCommMonoid M] {pool next : Pool τ} {task : τ}
    {placement : Placement} (h : pool.submit task = (next, placement)) (weight : τ → M)
    (hweight : weight task = 0) :
    (next.tasks.map weight).sum = (pool.tasks.map weight).sum := by
  rcases tasks_submit h with ⟨htasks, -⟩ | ⟨htasks, -⟩
  · rw [htasks, Multiset.map_cons, Multiset.sum_cons, hweight, zero_add]
  · rw [htasks]

/-- A task that was started or queued is in the pool. -/
theorem tasks_submit_of_taken {pool next : Pool τ} {task : τ} {placement : Placement}
    (h : pool.submit task = (next, placement))
    (hplacement : placement = .started ∨ placement = .queued) :
    next.tasks = task ::ₘ pool.tasks := by
  rcases tasks_submit h with ⟨htasks, -⟩ | ⟨-, hstarted, hqueued⟩
  · exact htasks
  · exact (hplacement.elim hstarted hqueued).elim

/-- A task that was left to its submitter is not in the pool. -/
theorem tasks_submit_of_lent {pool next : Pool τ} {task : τ}
    (h : pool.submit task = (next, .onCaller)) : next.tasks = pool.tasks := by
  rcases tasks_submit h with ⟨-, hplacement, -⟩ | ⟨htasks, -⟩
  · exact absurd rfl hplacement
  · exact htasks

/-- A task that a reliable pool refuses is not in it. -/
theorem tasks_submit_of_refused {pool next : Pool τ} {task : τ} {error : CopyError}
    (hreliable : pool.IsReliable) (h : pool.submit task = (next, .refused error)) :
    next.tasks = pool.tasks := by
  rcases tasks_submit h with ⟨-, -, hplacement⟩ | ⟨htasks, -⟩
  · rcases hplacement hreliable with hplacement | hplacement <;> cases hplacement
  · exact htasks

/-- The task that a pool has got between two of its states: the last one in a queue that is
longer, or that of a thread that is new. -/
def got? (earlier later : Pool τ) : Option τ :=
  if earlier.queue.length < later.queue.length then later.queue.getLast?
  else if earlier.workers.length < later.workers.length then later.task? earlier.workers.length
  else none

section Got

variable {earlier later : Pool τ} {task : τ}

theorem got?_of_same (hqueue : later.queue = earlier.queue)
    (hworkers : later.workers = earlier.workers) : earlier.got? later = none := by
  rw [got?, hqueue, hworkers, if_neg (Nat.lt_irrefl _), if_neg (Nat.lt_irrefl _)]

theorem got?_of_queued (h : later.queue = earlier.queue ++ [task]) :
    earlier.got? later = some task := by
  rw [got?, h, if_pos (by simp)]
  exact List.getLast?_concat

theorem got?_of_started (hqueue : later.queue = earlier.queue)
    (hworkers : later.workers = earlier.workers ++ [.running task]) :
    earlier.got? later = some task := by
  rw [got?, hqueue, if_neg (Nat.lt_irrefl _), hworkers, if_pos (by simp), task?_eq_some_iff,
    hworkers]
  exact List.getElem?_concat_length

end Got

/-- A submitted task is lent to its submitter, or it is what the pool has got, unless it is
refused. -/
theorem got?_submit {pool next : Pool τ} {task : τ} {placement : Placement}
    (h : pool.submit task = (next, placement)) :
    placement = .onCaller ∧ next.callers = pool.callers + 1 ∨
      placement ≠ .onCaller ∧ next.callers = pool.callers ∧
        (pool.got? next = some task ∨
          pool.got? next = none ∧ ∃ error, placement = .refused error) := by
  cases submitRule_of_submit h with
  | lend _ _ _ _ => exact .inl ⟨rfl, rfl⟩
  | start _ _ => exact .inr ⟨nofun, rfl, .inl (got?_of_started rfl rfl)⟩
  | enqueue _ _ _ _ | revive _ _ _ _ | strand _ _ _ _ _ =>
    exact .inr ⟨nofun, rfl, .inl (got?_of_queued rfl)⟩
  | refuse _ | lose _ _ _ => exact .inr ⟨nofun, rfl, .inr ⟨got?_of_same rfl rfl, _, rfl⟩⟩

end Pool
end TableCopy
