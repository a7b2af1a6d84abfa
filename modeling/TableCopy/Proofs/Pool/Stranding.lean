import TableCopy.Proofs.Pool.Bounds

/-!
# Pools without a core

Every thread of a pool without a core waits with a limit. A thread whose wait has run out
leaves without another look at the queue, and until it has left it is counted; so a
submission that comes in between is queued, and starts no thread. Nobody will receive such
a late task before a later submission starts a thread, and it is left behind if the pool is
shut down first. Nothing else can strand a task.
-/

namespace TableCopy

variable {τ : Type}

namespace Worker

/-- Whether a thread of a pool without a core will look at the queue again. -/
def isServing : Worker τ → Bool
  | deciding | waiting _ | running _ => true
  | timedOut | closing | gone => false

theorem any_set_of_eq {workers : List (Worker τ)} {i : Nat} {worker turn : Worker τ}
    (h : workers[i]? = some worker) (hturn : turn.isServing = worker.isServing) :
    (workers.set i turn).any isServing = workers.any isServing := by
  obtain ⟨hlt, rfl⟩ := List.getElem?_eq_some_iff.1 h
  have hmap : (workers.set i turn).map isServing = workers.map isServing := by
    rw [List.map_set, hturn, ← List.getElem_map isServing, List.set_getElem_self]
    rwa [List.length_map]
  simpa only [List.any_map, Function.id_comp] using congrArg (List.any · id) hmap

end Worker

namespace Pool

/-- Some thread will look at the queue again. -/
def isServed (pool : Pool τ) : Bool := pool.workers.any Worker.isServing

/-- Tasks are queued, and no thread will look at the queue again. -/
def IsStranded (pool : Pool τ) : Prop := pool.queue ≠ [] ∧ pool.isServed = false

/-- The waits of all threads that are left have run out. -/
structure IsEmptying (pool : Pool τ) : Prop where
  isOpen : pool.isOpen = true
  live_ne : pool.live ≠ 0
  leaving : ∀ worker ∈ pool.workers, worker = .timedOut ∨ worker = .gone

variable {pool next : Pool τ} {i : Nat} {worker turn : Worker τ} {task : τ}

theorem isServed_of_getElem? (h : pool.workers[i]? = some worker)
    (hworker : worker.isServing = true) : pool.isServed = true :=
  List.any_eq_true.2 ⟨worker, List.mem_of_getElem? h, hworker⟩

theorem isServed_start (pool : Pool τ) {first : Worker τ} (h : first.isServing = true) :
    (pool.start first).isServed = true :=
  List.any_eq_true.2 ⟨first, List.mem_append_right _ (List.mem_singleton.2 rfl), h⟩

/-- A thread that turns to a new wait or to a task looks at the queue again. -/
theorem isServed_setWorker (h : pool.workers[i]? = some worker) (hturn : turn.isServing = true) :
    (pool.setWorker i turn).isServed = true := by
  obtain ⟨hlt, -⟩ := List.getElem?_eq_some_iff.1 h
  exact List.any_eq_true.2 ⟨turn, List.mem_set hlt turn, hturn⟩

theorem queue_eq_of_timeOut (h : pool.timeOut i = some next) : pool.queue = [] := by
  unfold timeOut at h
  split at h
  · split at h
    · rename_i hempty
      rw [Bool.and_eq_true] at hempty
      exact List.isEmpty_iff.1 hempty.1
    · cases h
  · cases h

/-- In an open pool a thread that will not look again has left or is about to. -/
theorem IsStaffed.isEmptying (hpool : pool.IsStaffed) (hopen : pool.isOpen = true)
    (hlive : pool.live ≠ 0) (h : pool.isServed = false) : pool.IsEmptying := by
  refine ⟨hopen, hlive, fun worker hmem => ?_⟩
  have hworker : worker.isServing = false :=
    Bool.eq_false_iff.2 (List.any_eq_false.1 h worker hmem)
  cases worker with
  | timedOut => exact .inl rfl
  | gone => exact .inr rfl
  | closing =>
    rw [(hpool.drained hmem).1] at hopen
    cases hopen
  | _ => cases hworker

theorem IsEmptying.isServed_eq (h : pool.IsEmptying) : pool.isServed = false :=
  List.any_eq_false.2 fun worker hmem => by
    rcases h.leaving worker hmem with rfl | rfl <;> nofun

theorem not_isStranded (h : pool.isServed = true) : ¬ pool.IsStranded := fun hstranded => by
  rw [hstranded.2] at h
  cases h

theorem length_idleStep (h : pool.idleStep i = some next) :
    next.workers.length = pool.workers.length := by
  cases idleRule_of_idleStep h <;> exact List.length_set

/-- An idle thread of a pool without a core strands no task and rescues none. -/
theorem isStranded_iff_of_idleStep (hcore : pool.spec.corePoolSize = 0)
    (hpool : pool.IsStaffed) (h : pool.idleStep i = some next) :
    next.IsStranded ↔ pool.IsStranded := by
  have hleave : ∀ {worker : Worker τ}, pool.workers[i]? = some worker →
      worker.isServing = false → (pool.leave i).isServed = pool.isServed :=
    fun h hworker => Worker.any_set_of_eq h hworker.symm
  cases idleRule_of_idleStep h with
  | decide hworker =>
    exact iff_of_false (not_isStranded (isServed_setWorker hworker rfl))
      (not_isStranded (isServed_of_getElem? hworker rfl))
  | @take _ task rest hworker _ =>
    have hserved : ({ pool with queue := rest }.setWorker i (.running task)).isServed = true :=
      isServed_setWorker hworker rfl
    exact iff_of_false (not_isStranded hserved) (not_isStranded (isServed_of_getElem? hworker rfl))
  | close _ hqueue _ => exact iff_of_false (fun h => h.1 hqueue) (fun h => h.1 hqueue)
  | stay hworker hlive =>
    have hstaff := Worker.staff_pos hworker rfl
    rw [← hpool.live_eq] at hstaff
    omega
  | retire hworker _ => exact and_congr Iff.rfl (hleave hworker rfl ▸ Iff.rfl)
  | exit hworker => exact and_congr Iff.rfl (hleave hworker rfl ▸ Iff.rfl)

/-- Where tasks are queued, a thread that looks at the queue again is at work or can take
one of them. -/
theorem exists_serving (hqueue : pool.queue ≠ []) (h : ¬ pool.IsStranded) :
    ∃ i worker, pool.workers[i]? = some worker ∧ worker.isServing = true ∧
      (pool.task? i ≠ none ∨ pool.idleStep i ≠ none) := by
  have hserved : pool.isServed = true := by
    by_contra hserved
    exact h ⟨hqueue, Bool.eq_false_iff.2 hserved⟩
  obtain ⟨worker, hmem, hworker⟩ := List.any_eq_true.1 hserved
  obtain ⟨i, hi⟩ := List.mem_iff_getElem?.1 hmem
  refine ⟨i, worker, hi, hworker, ?_⟩
  obtain ⟨task, rest, hcons⟩ := List.exists_cons_of_ne_nil hqueue
  cases worker with
  | deciding => exact .inr (by simp [idleStep, hi])
  | waiting timed => exact .inr (by simp [idleStep, hi, hcons])
  | running task => exact .inl (by simp [task?, hi])
  | _ => cases hworker

/-- A pool whose threads have all left is stranded exactly if something is queued. -/
theorem isStranded_iff_of_allGone (h : pool.allGone none = true) :
    pool.IsStranded ↔ pool.queue ≠ [] := by
  refine ⟨And.left, fun hqueue => ⟨hqueue, List.any_eq_false.2 fun worker hmem hserving => ?_⟩⟩
  obtain ⟨i, hi⟩ := List.mem_iff_getElem?.1 hmem
  have hgone := isGone_of_allGone h hi
  cases worker with
  | gone => cases hserving
  | _ => cases hgone

end Pool

namespace Usage

/-- What an action does to the pool. -/
inductive Effect (pool : Pool τ) : Action τ → Pool τ → Prop
  | submit {task next placement} (h : pool.submit task = (next, placement)) :
    Effect pool (.submit task) next
  | giveBack (n crashed) : Effect pool (.giveBack n crashed) (pool.finishOnCaller crashed)
  | idle {i next} (h : pool.idleStep i = some next) : Effect pool (.idle i) next
  | timeOut {i next} (h : pool.timeOut i = some next) : Effect pool (.timeOut i) next
  | finish {i task} (crashed : Bool) (h : pool.task? i = some task) :
    Effect pool (.finish i crashed) (pool.finish i crashed)
  | shutdown (caller?) : Effect pool (.shutdown caller?) pool.close
  | join : Effect pool .join pool

section Effect

variable {pool next : Pool τ} {action : Action τ} {task : τ}

theorem Effect.exists_placement (h : Effect pool (.submit task) next) :
    ∃ placement, pool.submit task = (next, placement) := by
  cases h with
  | submit h => exact ⟨_, h⟩

/-- Threads are started and never forgotten. -/
theorem Effect.length_le (h : Effect pool action next) :
    pool.workers.length ≤ next.workers.length := by
  have hstart : ∀ first : Worker τ, pool.workers.length ≤ (pool.workers ++ [first]).length :=
    fun first => by rw [List.length_append]; exact Nat.le_add_right ..
  have hset : ∀ (i : Nat) (turn : Worker τ),
      pool.workers.length ≤ (pool.workers.set i turn).length :=
    fun i turn => (List.length_set).ge
  cases h with
  | submit h =>
    cases Pool.submitRule_of_submit h with
    | start _ _ => exact hstart _
    | revive _ _ _ _ => exact hstart _
    | _ => exact le_rfl
  | giveBack n crashed => exact (congrArg List.length (Pool.count_workers pool crashed)).ge
  | idle h => cases Pool.idleRule_of_idleStep h <;> exact hset _ _
  | timeOut h =>
    obtain ⟨-, rfl⟩ := Pool.eq_of_timeOut h
    exact hset _ _
  | finish crashed _ =>
    rw [Pool.finish, Pool.setWorker, Pool.count_workers]
    exact hset _ _
  | shutdown caller? => exact le_rfl
  | join => exact le_rfl

/-- Only a submission strands a pool without a core, or comes to the rescue of one. -/
theorem Effect.isStranded_iff_of_ne_submit (h : Effect pool action next)
    (hcore : pool.spec.corePoolSize = 0) (hstaffed : pool.IsStaffed)
    (haction : ∀ task, action ≠ .submit task) :
    next.workers.length = pool.workers.length ∧ (next.IsStranded ↔ pool.IsStranded) := by
  cases h with
  | submit _ => exact absurd rfl (haction _)
  | giveBack n crashed =>
    have hworkers := Pool.count_workers pool crashed
    have hqueue := Pool.count_queue pool crashed
    refine ⟨congrArg List.length hworkers, ?_⟩
    simp only [Pool.IsStranded, Pool.isServed, Pool.finishOnCaller, hworkers, hqueue]
  | idle h => exact ⟨Pool.length_idleStep h, Pool.isStranded_iff_of_idleStep hcore hstaffed h⟩
  | timeOut h =>
    have hempty := Pool.queue_eq_of_timeOut h
    obtain ⟨-, rfl⟩ := Pool.eq_of_timeOut h
    exact ⟨List.length_set, iff_of_false (fun h => h.1 hempty) (fun h => h.1 hempty)⟩
  | finish crashed h =>
    have hworkers := Pool.count_workers pool crashed
    have hrunning := Pool.task?_eq_some_iff.1 h
    refine ⟨List.length_set.trans (congrArg List.length hworkers), iff_of_false ?_ ?_⟩
    · exact Pool.not_isStranded (Pool.isServed_setWorker (hworkers ▸ hrunning) rfl)
    · exact Pool.not_isStranded (Pool.isServed_of_getElem? hrunning rfl)
  | shutdown caller? => exact ⟨rfl, Iff.rfl⟩
  | join => exact ⟨rfl, Iff.rfl⟩

/-- A submission strands a pool exactly if it is queued while the pool is emptying, and a
thread that it starts ends this. -/
theorem isStranded_iff_of_submit {placement : Placement} (hstaffed : pool.IsStaffed)
    (hstarts : ∀ error, pool.startFault? ≠ some error)
    (h : pool.submit task = (next, placement)) :
    next.IsStranded ↔ next.workers.length = pool.workers.length ∧
      (pool.IsStranded ∨ pool.IsEmptying ∧ next.queue = pool.queue ++ [task]) := by
  have hstart : ∀ {first : Worker τ}, (pool.workers ++ [first]).length ≠ pool.workers.length :=
    fun h => by simp at h
  cases Pool.submitRule_of_submit h with
  | refuse _ => simp
  | start _ _ =>
    exact iff_of_false (Pool.not_isStranded (Pool.isServed_start _ rfl)) fun h => hstart h.1
  | enqueue hopen _ _ hlive =>
    refine ⟨fun h => ⟨rfl, .inr ⟨hstaffed.isEmptying hopen hlive h.2, rfl⟩⟩, fun h => ?_⟩
    refine ⟨List.append_ne_nil_of_right_ne_nil _ (List.cons_ne_nil _ _), ?_⟩
    rcases h.2 with hstranded | ⟨hemptying, -⟩
    · exact hstranded.2
    · exact hemptying.isServed_eq
  | revive _ _ _ _ =>
    exact iff_of_false (Pool.not_isStranded (Pool.isServed_start _ rfl)) fun h => hstart h.1
  | lend _ _ _ _ => simp [Pool.IsStranded, Pool.isServed]
  | lose _ _ hfault | strand _ _ _ _ hfault => exact absurd hfault (hstarts _)

/-- Nothing that is queued in a stranded pool leaves the queue before a thread is started. -/
theorem Effect.queue_grows (h : Effect pool action next) (hpool : pool.IsStranded)
    (hnext : next.IsStranded) : pool.queue <+: next.queue := by
  cases h with
  | submit h =>
    cases Pool.submitRule_of_submit h with
    | enqueue _ _ _ _ | revive _ _ _ _ | strand _ _ _ _ _ => exact List.prefix_append _ _
    | _ => exact List.prefix_rfl
  | giveBack n crashed => exact (Pool.count_queue pool crashed).symm ▸ List.prefix_rfl
  | idle h =>
    cases Pool.idleRule_of_idleStep h with
    | take hworker _ =>
      exact absurd hpool (Pool.not_isStranded (Pool.isServed_of_getElem? hworker rfl))
    | _ => exact List.prefix_rfl
  | timeOut h => exact absurd (Pool.queue_eq_of_timeOut h) hpool.1
  | finish crashed _ => exact (Pool.count_queue pool crashed).symm ▸ List.prefix_rfl
  | shutdown caller? => exact List.prefix_rfl
  | join => exact List.prefix_rfl

end Effect

variable [DecidableEq τ] {name : String} {spec : PoolSpec} {u v : Usage τ} {task : τ}

theorem effect_of_step {action : Action τ} (h : u.step action = some v) :
    Effect u.pool action v.pool := by
  cases rule_of_step h with
  | submit _ hsubmit =>
    rw [note_pool]
    exact .submit hsubmit
  | giveBack crashed _ => exact .giveBack _ crashed
  | idle hidle => exact .idle hidle
  | timeOut htimeOut => exact .timeOut htimeOut
  | finish crashed _ htask => exact .finish crashed htask
  | shutdown _ _ => exact .shutdown _
  | shutdownAgain _ _ => exact .shutdown _
  | join _ _ => exact .join

/-- A task is queued while every thread that is left is about to leave. -/
structure IsLate (u : Usage τ) (task : τ) (v : Usage τ) : Prop where
  step_eq : u.step (.submit task) = some v
  emptying : u.pool.IsEmptying
  queue_eq : v.pool.queue = u.pool.queue ++ [task]

/-- An action strands a pool without a core only by a late task. -/
theorem isStranded_iff_of_step {action : Action τ} (hcore : spec.corePoolSize = 0)
    (hu : u.IsSound spec) (h : u.step action = some v) :
    v.pool.IsStranded ↔ v.pool.workers.length = u.pool.workers.length ∧
      (u.pool.IsStranded ∨ ∃ task, action = .submit task ∧ u.IsLate task v) := by
  have heffect := effect_of_step h
  by_cases haction : ∃ task, action = .submit task
  · obtain ⟨task, rfl⟩ := haction
    have hlate : (∃ other, Action.submit task = .submit other ∧ u.IsLate other v) ↔
        u.pool.IsEmptying ∧ v.pool.queue = u.pool.queue ++ [task] := by
      refine ⟨?_, fun ⟨hemptying, hqueue⟩ => ⟨task, rfl, h, hemptying, hqueue⟩⟩
      rintro ⟨other, hother, -, hemptying, hqueue⟩
      obtain rfl := Action.submit.inj hother
      exact ⟨hemptying, hqueue⟩
    obtain ⟨placement, hsubmit⟩ := heffect.exists_placement
    rw [isStranded_iff_of_submit hu.staffed hu.startFault?_ne_some hsubmit, hlate]
  · obtain ⟨hlength, hiff⟩ := heffect.isStranded_iff_of_ne_submit (hu.spec_eq ▸ hcore) hu.staffed
      fun task hsubmit => haction ⟨task, hsubmit⟩
    rw [hiff]
    refine ⟨fun hstranded => ⟨hlength, .inl hstranded⟩, fun ⟨_, hor⟩ => hor.resolve_right ?_⟩
    exact fun ⟨task, hsubmit, _⟩ => haction ⟨task, hsubmit⟩

theorem length_le_of_run {actions : List (Action τ)} (h : u.run actions = some v) :
    u.pool.workers.length ≤ v.pool.workers.length := by
  induction actions generalizing u with
  | nil =>
    obtain rfl := Option.some.inj h
    exact le_rfl
  | cons action actions ih =>
    obtain ⟨w, hstep, hrun⟩ := Option.bind_eq_some_iff.1 h
    exact (effect_of_step hstep).length_le.trans (ih hrun)

/-- What strands the pool in the course of a run: a late task, after which no thread is
started any more. -/
def StrandedBy (u : Usage τ) (actions : List (Action τ)) (v : Usage τ) : Prop :=
  ∃ before task after w x, actions = before ++ .submit task :: after ∧
    u.run before = some w ∧ w.IsLate task x ∧ x.run after = some v ∧
    v.pool.workers.length = w.pool.workers.length

theorem isStranded_iff_of_run {actions : List (Action τ)} (hcore : spec.corePoolSize = 0)
    (hu : u.IsSound spec) (h : u.run actions = some v) :
    v.pool.IsStranded ↔
      u.pool.IsStranded ∧ v.pool.workers.length = u.pool.workers.length ∨
        u.StrandedBy actions v := by
  induction actions generalizing u with
  | nil =>
    obtain rfl := Option.some.inj h
    refine ⟨fun hstranded => .inl ⟨hstranded, rfl⟩, fun hor => ?_⟩
    rcases hor with hstranded | ⟨before, task, after, w, x, hsplit, -⟩
    · exact hstranded.1
    · exact absurd hsplit.symm (List.append_ne_nil_of_right_ne_nil _ (List.cons_ne_nil _ _))
  | cons action actions ih =>
    obtain ⟨m, hstep, hrun⟩ := Option.bind_eq_some_iff.1 h
    have hfirst := (effect_of_step hstep).length_le
    have hrest := length_le_of_run hrun
    rw [ih (hu.step hstep) hrun, isStranded_iff_of_step hcore hu hstep]
    constructor
    · rintro (⟨⟨hsame, hstranded | ⟨task, rfl, hlate⟩⟩, hlength⟩ |
        ⟨before, task, after, w, x, rfl, hbefore, hlate, hafter, hlength⟩)
      · exact .inl ⟨hstranded, hlength.trans hsame⟩
      · exact .inr ⟨[], task, actions, u, m, rfl, rfl, hlate, hrun, hlength.trans hsame⟩
      · refine .inr ⟨action :: before, task, after, w, x, rfl, ?_, hlate, hafter, hlength⟩
        exact Option.bind_eq_some_iff.2 ⟨m, hstep, hbefore⟩
    · rintro (⟨hstranded, hlength⟩ |
        ⟨before, task, after, w, x, hsplit, hbefore, hlate, hafter, hlength⟩)
      · exact .inl ⟨⟨by omega, .inl hstranded⟩, by omega⟩
      · cases before with
        | nil =>
          obtain rfl := Option.some.inj hbefore
          obtain ⟨rfl, rfl⟩ := List.cons.inj hsplit
          obtain rfl : m = x := Option.some.inj (hstep.symm.trans hlate.step_eq)
          exact .inl ⟨⟨by omega, .inr ⟨task, rfl, hlate⟩⟩, by omega⟩
        | cons other before =>
          obtain ⟨rfl, rfl⟩ := List.cons.inj hsplit
          obtain ⟨n, hother, hbefore⟩ := Option.bind_eq_some_iff.1 hbefore
          obtain rfl : m = n := Option.some.inj (hstep.symm.trans hother)
          exact .inr ⟨before, task, after, w, x, rfl, hbefore, hlate, hafter, hlength⟩

/-- Until a thread is started a stranded pool stays stranded, with all that is queued. -/
theorem IsSound.queue_grows_of_run {actions : List (Action τ)} (hu : u.IsSound spec)
    (hcore : spec.corePoolSize = 0) (hstranded : u.pool.IsStranded)
    (h : u.run actions = some v) (hlength : v.pool.workers.length = u.pool.workers.length) :
    v.pool.IsStranded ∧ u.pool.queue <+: v.pool.queue := by
  induction actions generalizing u with
  | nil =>
    obtain rfl := Option.some.inj h
    exact ⟨hstranded, List.prefix_rfl⟩
  | cons action actions ih =>
    obtain ⟨m, hstep, hrun⟩ := Option.bind_eq_some_iff.1 h
    have hfirst := (effect_of_step hstep).length_le
    have hrest := length_le_of_run hrun
    have hm : m.pool.IsStranded :=
      (isStranded_iff_of_step hcore hu hstep).2 ⟨by omega, .inl hstranded⟩
    obtain ⟨hv, hgrown⟩ := ih (hu.step hstep) hm hrun (by omega)
    exact ⟨hv, ((effect_of_step hstep).queue_grows hstranded hm).trans hgrown⟩

/-- A submission to a pool that all threads have left starts one. -/
theorem IsSound.isServed_of_submit (hu : u.IsSound spec) (hmax : 1 ≤ spec.maxPoolSize)
    (hopen : u.pool.isOpen = true) (hlive : u.pool.live = 0)
    (h : u.step (.submit task) = some v) : v.pool.isServed = true := by
  obtain ⟨placement, hsubmit⟩ := (effect_of_step h).exists_placement
  generalize v.pool = next at hsubmit
  cases Pool.submitRule_of_submit hsubmit with
  | refuse hclosed =>
    rw [hclosed] at hopen
    cases hopen
  | start _ _ => exact Pool.isServed_start _ rfl
  | enqueue _ _ _ hne => exact absurd hlive hne
  | revive _ _ _ _ => exact Pool.isServed_start _ rfl
  | lend _ _ _ hfull =>
    rw [hu.spec_eq] at hfull
    omega
  | lose _ _ hfault | strand _ _ _ _ hfault => exact absurd hfault (hu.startFault?_ne_some _)

/-- After a shutdown from outside every accepted task has run, or else is still queued. -/
theorem IsSound.count_of_returned (hu : u.IsSound spec) (hshutdown : u.shutdown = .returned none)
    (hlent : u.lent = []) (hmem : task ∈ u.accepted) :
    u.pool.queue.count task + u.ended.count task = 1 ∧
      u.started.count task = u.ended.count task := by
  have hheld : u.held = 0 := Pool.running_of_allGone (hu.joined hshutdown)
  have hplaces := hu.count_places task
  have hstarted := hu.count_started task
  simp only [hheld, hlent, List.count_nil, Multiset.count_zero, if_pos hmem, zero_add, add_zero]
    at hplaces hstarted
  exact ⟨hplaces, hstarted⟩

/-- A pool without a core strands its tasks in one way only: one of them is submitted after
the waits of all threads that are left have run out, and before these have left; and no
thread is started from then on. In every other state with queued tasks there is a thread
that is at work or can take one. What is stranded stays queued until a thread is started,
which the next submission does once all have left. No task is lost from the books or
started twice; and after a shutdown from outside all accepted tasks have run, except for
those that are stranded, which never run. -/
theorem stranded_iff_late {actions : List (Action τ)} (hcore : spec.corePoolSize = 0)
    (hmax : 1 ≤ spec.maxPoolSize) (h : (start name spec).run actions = some u) :
    (u.pool.IsStranded ↔ (start name spec).StrandedBy actions u) ∧
    (u.pool.queue ≠ [] → ¬ u.pool.IsStranded → ∃ i worker, u.pool.workers[i]? = some worker ∧
      worker.isServing = true ∧ (u.pool.task? i ≠ none ∨ u.pool.idleStep i ≠ none)) ∧
    (u.pool.IsStranded → ∀ more v, u.run more = some v →
      v.pool.workers.length = u.pool.workers.length →
      v.pool.IsStranded ∧ u.pool.queue <+: v.pool.queue) ∧
    (u.pool.isOpen = true → u.pool.live = 0 → ∀ task v, u.step (.submit task) = some v →
      v.pool.isServed = true) ∧
    (∀ task, u.pool.queue.count task + (u.held.count task + u.lent.count task) +
        u.ended.count task = (if task ∈ u.accepted then 1 else 0) ∧
      u.started.count task ≤ 1) ∧
    (u.shutdown = .returned none → u.lent = [] →
      (¬ u.pool.IsStranded → ∀ task ∈ u.accepted,
        u.started.count task = 1 ∧ u.ended.count task = 1) ∧
      (u.pool.IsStranded → u.pool.queue ≠ [] ∧ ∀ task ∈ u.pool.queue,
        task ∈ u.accepted ∧ task ∉ u.started)) := by
  have hu : u.IsSound spec := (Reachable.start.run h).isSound
  have hstart : ¬ (start name spec : Usage τ).pool.IsStranded := fun hstranded => hstranded.1 rfl
  refine ⟨?_, Pool.exists_serving, fun hstranded more v hrun hlength =>
    hu.queue_grows_of_run hcore hstranded hrun hlength, fun hopen hlive task v hstep =>
    hu.isServed_of_submit hmax hopen hlive hstep, fun task => ⟨hu.count_places task, ?_⟩,
    fun hshutdown hlent => ⟨fun hstranded task hmem => ?_, fun hstranded => ⟨hstranded.1, ?_⟩⟩⟩
  · rw [isStranded_iff_of_run hcore (isSound_start name spec) h]
    exact or_iff_right fun hstranded => hstart hstranded.1
  · have hplaces := hu.count_places task
    have hstarted := hu.count_started task
    split at hplaces <;> omega
  · obtain ⟨hcount, hstarted⟩ := hu.count_of_returned hshutdown hlent hmem
    have hqueue : u.pool.queue = [] := by
      by_contra hqueue
      exact hstranded ((Pool.isStranded_iff_of_allGone (hu.joined hshutdown)).2 hqueue)
    rw [hqueue, List.count_nil, Nat.zero_add] at hcount
    exact ⟨hstarted.trans hcount, hcount⟩
  · intro task hqueued
    have hpos := List.count_pos_iff.2 hqueued
    have hmem : task ∈ u.accepted := by
      by_contra hmem
      have hplaces := hu.count_places task
      rw [if_neg hmem] at hplaces
      omega
    obtain ⟨hcount, hstarted⟩ := hu.count_of_returned hshutdown hlent hmem
    exact ⟨hmem, List.count_eq_zero.1 (by omega)⟩

/-- A late task is rescued in time: the next submission finds the queue full and starts a
thread, which takes the late task after its own. -/
theorem stranded_iff_late_of_rescued :
    ∃ u v : Usage Nat, (start "pool" ⟨0, 2, 1, 0⟩).run
        [.submit 0, .idle 0, .idle 0, .finish 0 false, .idle 0, .timeOut 0, .submit 1] = some u ∧
      (start "pool" ⟨0, 2, 1, 0⟩).StrandedBy
        [.submit 0, .idle 0, .idle 0, .finish 0 false, .idle 0, .timeOut 0, .submit 1] u ∧
      (start "pool" ⟨0, 2, 1, 0⟩).run
        [.submit 0, .idle 0, .idle 0, .finish 0 false, .idle 0, .timeOut 0, .submit 1, .submit 2,
          .idle 0, .finish 1 false, .idle 1, .idle 1, .finish 1 true, .shutdown none, .idle 1,
          .idle 1, .idle 1, .join] = some v ∧
      v.accepted = [2, 1, 0] ∧
      ∀ task ∈ v.accepted, v.started.count task = 1 ∧ v.ended.count task = 1 := by
  obtain ⟨u, v, hlate, hqueue, hworkers, hrun, hshutdown, hlent, haccepted, hempty⟩ :
      ∃ u v : Usage Nat, (start "pool" ⟨0, 2, 1, 0⟩).run
          [.submit 0, .idle 0, .idle 0, .finish 0 false, .idle 0, .timeOut 0, .submit 1] = some u ∧
        u.pool.queue = [1] ∧ u.pool.workers = [.timedOut] ∧
        (start "pool" ⟨0, 2, 1, 0⟩).run
          [.submit 0, .idle 0, .idle 0, .finish 0 false, .idle 0, .timeOut 0, .submit 1, .submit 2,
            .idle 0, .finish 1 false, .idle 1, .idle 1, .finish 1 true, .shutdown none, .idle 1,
            .idle 1, .idle 1, .join] = some v ∧
        v.shutdown = .returned none ∧ v.lent = [] ∧ v.accepted = [2, 1, 0] ∧ v.pool.queue = [] :=
    ⟨_, _, rfl, rfl, rfl, rfl, rfl, rfl, rfl, rfl⟩
  have hstranded : u.pool.IsStranded := by
    refine ⟨hqueue ▸ List.cons_ne_nil _ _, ?_⟩
    rw [Pool.isServed, hworkers]
    rfl
  obtain ⟨hiff, -⟩ := stranded_iff_late rfl (by decide) hlate
  obtain ⟨-, -, -, -, -, hdone⟩ := stranded_iff_late rfl (by decide) hrun
  exact ⟨u, v, hlate, hiff.1 hstranded, hrun, haccepted,
    (hdone hshutdown hlent).1 fun h => h.1 hempty⟩

/-- A task that comes when the wait of the only thread has run out is queued, and the thread
leaves; the pool is shut down, and the task has never run. -/
theorem late_task_never_runs :
    ∃ u v : Usage Nat, Reachable "pool" ⟨0, 1, 1, 5000000⟩ u ∧ u.pool.isOpen = true ∧
      u.pool.queue = [1] ∧ (∀ worker ∈ u.pool.workers, worker = .gone) ∧
      u.run [.shutdown none, .join] = some v ∧ v.shutdown = .returned none ∧ v.lent = [] ∧
      1 ∈ v.accepted ∧ 1 ∉ v.started := by
  obtain ⟨u, v, hrun, hopen, hqueue, hworkers, hclose, hshutdown, hlent, haccepted, hstarted⟩ :
      ∃ u v : Usage Nat, (start "pool" ⟨0, 1, 1, 5000000⟩).run
          [.submit 0, .idle 0, .idle 0, .finish 0 false, .idle 0, .timeOut 0, .submit 1,
            .idle 0] = some u ∧ u.pool.isOpen = true ∧ u.pool.queue = [1] ∧
        u.pool.workers = [.gone] ∧ u.run [.shutdown none, .join] = some v ∧
        v.shutdown = .returned none ∧ v.lent = [] ∧ v.accepted = [1, 0] ∧ v.started = [0] :=
    ⟨_, _, rfl, rfl, rfl, rfl, rfl, rfl, rfl, rfl, rfl⟩
  refine ⟨u, v, Reachable.start.run hrun, hopen, hqueue, ?_, hclose, hshutdown, hlent, ?_, ?_⟩
  · rw [hworkers]
    simp
  · simp [haccepted]
  · simp [hstarted]

end Usage
end TableCopy
