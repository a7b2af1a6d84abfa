import Mathlib.Algebra.Order.Group.Multiset
import TableCopy.Proofs.Pool.Staffing

/-!
# The use of a pool

A pool is used by threads that submit tasks and by threads that shut it down, while its
own threads go about their work. A usage is a pool with the history of all this; its
actions are the indivisible steps of the pool, in any order. Submitted work is neither
dropped nor run twice: a task that was accepted is always in one place, and a shutdown
that has returned leaves no task behind.
-/

namespace TableCopy

/-- The shutdown of a pool. The first call closes the pool and waits for its threads;
a thread of the pool that makes the call does not wait for itself. -/
inductive Shutdown
  | uncalled
  | joining (caller? : Option Nat)
  | returned (caller? : Option Nat)
  deriving DecidableEq, Repr

/-- A pool with the history of its use. -/
structure Usage (τ : Type) where
  pool : Pool τ
  shutdown : Shutdown := .uncalled
  /-- The tasks that their submitters are running. -/
  lent : List τ := []
  accepted : List τ := []
  refused : List τ := []
  started : List τ := []
  ended : List τ := []

namespace Usage

variable {τ : Type}

inductive Action (τ : Type)
  | submit (task : τ)
  /-- A submitter ends the task it ran itself. -/
  | giveBack (n : Nat) (crashed : Bool)
  | idle (i : Nat)
  | timeOut (i : Nat)
  | finish (i : Nat) (crashed : Bool)
  | shutdown (caller? : Option Nat)
  /-- The first shutdown returns. -/
  | join
  deriving DecidableEq, Repr

/-- The pool before its use. -/
def start (name : String) (spec : PoolSpec) : Usage τ where
  pool := Pool.create name spec

/-- Note what became of a submission. -/
def note (u : Usage τ) (task : τ) (pool : Pool τ) : Placement → Usage τ
  | .refused _ => { u with pool, refused := task :: u.refused }
  | .queued => { u with pool, accepted := task :: u.accepted }
  | .started =>
    { u with pool, accepted := task :: u.accepted, started := task :: u.started }
  | .onCaller =>
    { u with
      pool, lent := task :: u.lent, accepted := task :: u.accepted,
      started := task :: u.started }

section Step

variable [DecidableEq τ]

/-- An action on a pool, if it is possible. Each submission is of a task of its own, a
task that waits for the pool's threads does not end before they have left, and a shutdown
is called by a task of the pool or from outside. -/
def step (u : Usage τ) : Action τ → Option (Usage τ)
  | .submit task =>
    if task ∈ u.accepted ++ u.refused then none
    else
      let (pool, placement) := u.pool.submit task
      some (u.note task pool placement)
  | .giveBack n crashed =>
    u.lent[n]?.map fun task =>
      { u with
        pool := u.pool.finishOnCaller crashed
        lent := u.lent.eraseIdx n
        ended := task :: u.ended }
  | .idle i =>
    (u.pool.idleStep i).map fun pool =>
      { u with pool, started := (pool.task? i).toList ++ u.started }
  | .timeOut i => (u.pool.timeOut i).map fun pool => { u with pool }
  | .finish i crashed =>
    if u.shutdown = .joining (some i) then none
    else
      (u.pool.task? i).map fun task =>
        { u with pool := u.pool.finish i crashed, ended := task :: u.ended }
  | .shutdown caller? =>
    if caller?.all fun i => (u.pool.task? i).isSome then
      if u.shutdown = .uncalled then
        some { u with pool := u.pool.close, shutdown := .joining caller? }
      else some { u with pool := u.pool.close }
    else none
  | .join =>
    match u.shutdown with
    | .joining caller? =>
      if u.pool.allGone caller? then some { u with shutdown := .returned caller? } else none
    | _ => none

/-- What an action does to a usage, with all that is known when it is possible. -/
inductive Action.Rule (u : Usage τ) : Action τ → Usage τ → Prop
  | submit {task pool placement} (hfresh : task ∉ u.accepted ++ u.refused)
      (h : u.pool.submit task = (pool, placement)) :
    Rule u (.submit task) (u.note task pool placement)
  | giveBack {n task} (crashed : Bool) (h : u.lent[n]? = some task) :
    Rule u (.giveBack n crashed)
      { u with
        pool := u.pool.finishOnCaller crashed
        lent := u.lent.eraseIdx n
        ended := task :: u.ended }
  | idle {i pool} (h : u.pool.idleStep i = some pool) :
    Rule u (.idle i) { u with pool, started := (pool.task? i).toList ++ u.started }
  | timeOut {i pool} (h : u.pool.timeOut i = some pool) : Rule u (.timeOut i) { u with pool }
  | finish {i task} (crashed : Bool) (hfree : u.shutdown ≠ .joining (some i))
      (h : u.pool.task? i = some task) :
    Rule u (.finish i crashed)
      { u with pool := u.pool.finish i crashed, ended := task :: u.ended }
  | shutdown {caller?} (hcaller : (caller?.all fun i => (u.pool.task? i).isSome) = true)
      (huncalled : u.shutdown = .uncalled) :
    Rule u (.shutdown caller?) { u with pool := u.pool.close, shutdown := .joining caller? }
  /-- A later shutdown does not wait. -/
  | shutdownAgain {caller?} (hcaller : (caller?.all fun i => (u.pool.task? i).isSome) = true)
      (hcalled : u.shutdown ≠ .uncalled) :
    Rule u (.shutdown caller?) { u with pool := u.pool.close }
  | join {caller?} (hjoining : u.shutdown = .joining caller?)
      (hgone : u.pool.allGone caller? = true) :
    Rule u .join { u with shutdown := .returned caller? }

theorem rule_of_step {u v : Usage τ} {action : Action τ} (h : u.step action = some v) :
    action.Rule u v := by
  cases action with
  | submit task =>
    simp only [step] at h
    split at h
    · cases h
    · rename_i hfresh
      obtain rfl := Option.some.inj h
      exact .submit hfresh rfl
  | giveBack n crashed =>
    obtain ⟨task, htask, rfl⟩ := Option.map_eq_some_iff.1 h
    exact .giveBack crashed htask
  | idle i =>
    obtain ⟨pool, hidle, rfl⟩ := Option.map_eq_some_iff.1 h
    exact .idle hidle
  | timeOut i =>
    obtain ⟨pool, htimeOut, rfl⟩ := Option.map_eq_some_iff.1 h
    exact .timeOut htimeOut
  | finish i crashed =>
    simp only [step] at h
    split at h
    · cases h
    · rename_i hfree
      obtain ⟨task, htask, rfl⟩ := Option.map_eq_some_iff.1 h
      exact .finish crashed hfree htask
  | shutdown caller? =>
    simp only [step] at h
    split at h
    · rename_i hcaller
      split at h
      · rename_i huncalled
        obtain rfl := Option.some.inj h
        exact .shutdown hcaller huncalled
      · rename_i hcalled
        obtain rfl := Option.some.inj h
        exact .shutdownAgain hcaller hcalled
    · cases h
  | join =>
    simp only [step] at h
    split at h
    · rename_i hjoining
      split at h
      · rename_i hgone
        obtain rfl := Option.some.inj h
        exact .join hjoining hgone
      · cases h
    · cases h

/-- A sequence of actions. -/
def run (u : Usage τ) (actions : List (Action τ)) : Option (Usage τ) :=
  actions.foldlM step u

/-- What a pool can come to. -/
inductive Reachable (name : String) (spec : PoolSpec) : Usage τ → Prop
  | start : Reachable name spec (start name spec)
  | step {u v : Usage τ} (action : Action τ) (hu : Reachable name spec u)
      (h : u.step action = some v) : Reachable name spec v

variable {name : String} {spec : PoolSpec} {u v : Usage τ}

theorem Reachable.run (hu : Reachable name spec u) {actions : List (Action τ)}
    (h : u.run actions = some v) : Reachable name spec v := by
  induction actions generalizing u with
  | nil =>
    obtain rfl := Option.some.inj h
    exact hu
  | cons action actions ih =>
    obtain ⟨w, hstep, hrun⟩ := Option.bind_eq_some_iff.1 h
    exact ih (hu.step action hstep) hrun

end Step

/-- The tasks that threads of the pool are running. -/
def held (u : Usage τ) : Multiset τ := Worker.tasks u.pool.workers

/-- The books of a usage: every task is in one place, and every counter counts what its
name says. -/
structure IsSound (spec : PoolSpec) (u : Usage τ) : Prop where
  provision : u.pool.provision = (spec, [])
  staffed : u.pool.IsStaffed
  callers : u.pool.callers = u.lent.length
  accepted : (u.accepted : Multiset τ) = u.pool.queue + (u.held + u.lent) + u.ended
  started : (u.started : Multiset τ) = u.held + u.lent + u.ended
  submitted : u.pool.submitted = u.accepted.length
  ended : u.pool.completed + u.pool.crashed = u.ended.length
  distinct : (u.accepted ++ u.refused).Nodup
  isOpen : u.pool.isOpen = true ↔ u.shutdown = .uncalled
  /-- A shutdown from outside returns only once every thread has left. -/
  joined : u.shutdown = .returned none → u.pool.allGone none = true

theorem isSound_start (name : String) (spec : PoolSpec) :
    (start name spec : Usage τ).IsSound spec where
  provision := rfl
  staffed := Pool.isStaffed_create name spec
  callers := rfl
  accepted := rfl
  started := rfl
  submitted := rfl
  ended := rfl
  distinct := List.nodup_nil
  isOpen := ⟨fun _ => rfl, fun _ => rfl⟩
  joined := nofun

namespace IsSound

variable {spec : PoolSpec} {u : Usage τ} {i : Nat} {pool : Pool τ} {task : τ}

theorem spec_eq (hu : u.IsSound spec) : u.pool.spec = spec := (Prod.mk.inj hu.provision).1

/-- The system starts every thread. -/
theorem startFault?_ne_some (hu : u.IsSound spec) (error : CopyError) :
    u.pool.startFault? ≠ some error :=
  Pool.startFault?_ne_some (Prod.mk.inj hu.provision).2 error

theorem note (hu : u.IsSound spec) {placement : Placement}
    (hfresh : task ∉ u.accepted ++ u.refused) (h : u.pool.submit task = (pool, placement)) :
    (u.note task pool placement).IsSound spec := by
  have hstaffed := hu.staffed.submit h
  have hdistinct : (task :: u.accepted ++ u.refused).Nodup :=
    List.nodup_cons.2 ⟨hfresh, hu.distinct⟩
  have haccepted : ((task :: u.accepted : List τ) : Multiset τ) =
      task ::ₘ (u.pool.queue + (u.held + u.lent) + u.ended) := by
    rw [← Multiset.cons_coe, hu.accepted]
  have hstarted : ((task :: u.started : List τ) : Multiset τ) =
      task ::ₘ (u.held + u.lent + u.ended) := by
    rw [← Multiset.cons_coe, hu.started]
  have hqueue : ((u.pool.queue ++ [task] : List τ) : Multiset τ) = task ::ₘ u.pool.queue := by
    rw [← Multiset.coe_add]
    exact add_comm _ ({task} : Multiset τ)
  have hheld : Worker.tasks (u.pool.workers ++ [.running task]) = task ::ₘ u.held := by
    rw [Worker.tasks_concat]
    exact add_comm _ ({task} : Multiset τ)
  have hlent : ((task :: u.lent : List τ) : Multiset τ) = task ::ₘ u.lent := rfl
  have hclosed : u.pool.isOpen = true → u.shutdown = .returned none → False := by
    intro hopen hshutdown
    rw [hu.isOpen.1 hopen] at hshutdown
    cases hshutdown
  cases Pool.submitRule_of_submit h with
  | refuse _ => exact { hu with distinct := List.nodup_middle.2 hdistinct }
  | start hopen _ =>
    refine ⟨hu.provision, hstaffed, hu.callers, haccepted.trans ?_, hstarted.trans ?_,
      congrArg (· + 1) hu.submitted, hu.ended, hdistinct, hu.isOpen,
      fun hshutdown => (hclosed hopen hshutdown).elim⟩
    · simp only [Usage.note, Pool.start, held, hheld, Multiset.cons_add, Multiset.add_cons]
    · simp only [Usage.note, Pool.start, held, hheld, Multiset.cons_add]
  | enqueue _ _ _ _ =>
    refine ⟨hu.provision, hstaffed, hu.callers, haccepted.trans ?_, hu.started,
      congrArg (· + 1) hu.submitted, hu.ended, hdistinct, hu.isOpen, hu.joined⟩
    simp only [Usage.note, held, hqueue, Multiset.cons_add]
  | revive hopen _ _ _ =>
    have hsame : Worker.tasks (u.pool.workers ++ [.deciding]) = u.held :=
      (Worker.tasks_concat _ _).trans (add_zero _)
    refine ⟨hu.provision, hstaffed, hu.callers, haccepted.trans ?_, hu.started.trans ?_,
      congrArg (· + 1) hu.submitted, hu.ended, hdistinct, hu.isOpen,
      fun hshutdown => (hclosed hopen hshutdown).elim⟩
    · simp only [Usage.note, Pool.start, held, hsame, hqueue, Multiset.cons_add]
    · simp only [Usage.note, Pool.start, held, hsame]
  | lend _ _ _ _ =>
    refine ⟨hu.provision, hstaffed, congrArg (· + 1) hu.callers, haccepted.trans ?_,
      hstarted.trans ?_, congrArg (· + 1) hu.submitted, hu.ended, hdistinct, hu.isOpen,
      hu.joined⟩
    · simp only [Usage.note, held, hlent, Multiset.cons_add, Multiset.add_cons]
    · simp only [Usage.note, held, hlent, Multiset.cons_add, Multiset.add_cons]
  | lose _ _ hfault | strand _ _ _ _ hfault => exact absurd hfault (hu.startFault?_ne_some _)

theorem giveBack (hu : u.IsSound spec) {n : Nat} (h : u.lent[n]? = some task) (crashed : Bool) :
    ({ u with
        pool := u.pool.finishOnCaller crashed
        lent := u.lent.eraseIdx n
        ended := task :: u.ended } : Usage τ).IsSound spec := by
  obtain ⟨hlt, hget⟩ := List.getElem?_eq_some_iff.1 h
  have hlent : (u.lent : Multiset τ) = task ::ₘ (u.lent.eraseIdx n : List τ) :=
    Multiset.coe_eq_coe.2 (hget ▸ (List.getElem_cons_eraseIdx_perm hlt).symm)
  have hended : ((task :: u.ended : List τ) : Multiset τ) = task ::ₘ u.ended := rfl
  have hworkers := Pool.count_workers u.pool crashed
  have hqueue := Pool.count_queue u.pool crashed
  refine ⟨(Pool.count_provision ..).trans hu.provision, hu.staffed.finishOnCaller crashed, ?_,
    hu.accepted.trans ?_, hu.started.trans ?_, ?_, ?_, hu.distinct, ?_, fun hshutdown => ?_⟩
  · rw [List.length_eraseIdx_of_lt hlt, ← hu.callers]
    rfl
  · simp only [held, Pool.finishOnCaller, hworkers, hqueue, hlent, hended, Multiset.cons_add,
      Multiset.add_cons]
  · simp only [held, Pool.finishOnCaller, hworkers, hlent, hended, Multiset.cons_add,
      Multiset.add_cons]
  · exact (Pool.count_submitted ..).trans hu.submitted
  · exact (Pool.count_ended ..).trans (congrArg (· + 1) hu.ended)
  · exact (Pool.count_isOpen u.pool crashed).symm ▸ hu.isOpen
  · simpa only [Pool.allGone, Pool.finishOnCaller, hworkers] using hu.joined hshutdown

theorem idle (hu : u.IsSound spec) (h : u.pool.idleStep i = some pool) :
    ({ u with pool, started := (pool.task? i).toList ++ u.started } : Usage τ).IsSound spec := by
  obtain ⟨-, hopen, hcallers, hsubmitted, hcompleted, hcrashed⟩ := Pool.counters_idleStep h
  have htasks : (pool.queue : Multiset τ) + Worker.tasks pool.workers =
      (u.pool.queue : Multiset τ) + u.held := Pool.tasks_idleStep h
  refine ⟨(Pool.provision_idleStep h).trans hu.provision, hu.staffed.idleStep h,
    hcallers.trans hu.callers, ?_, ?_, hsubmitted.trans hu.submitted, ?_, hu.distinct, ?_,
    fun hshutdown => ?_⟩
  · rw [hu.accepted, ← add_assoc, ← htasks, add_assoc (pool.queue : Multiset τ)]
    rfl
  · rw [← Multiset.coe_add, hu.started, ← add_assoc, ← add_assoc, held,
      ← Pool.running_idleStep h]
    rfl
  · rw [hcompleted, hcrashed, hu.ended]
  · rw [hopen, hu.isOpen]
  · rw [Pool.idleStep_of_allGone (hu.joined hshutdown)] at h
    cases h

theorem timeOut (hu : u.IsSound spec) (h : u.pool.timeOut i = some pool) :
    ({ u with pool } : Usage τ).IsSound spec := by
  have hheld : Worker.tasks pool.workers = u.held := Pool.running_timeOut h
  have hstaffed := hu.staffed.timeOut h
  obtain ⟨-, rfl⟩ := Pool.eq_of_timeOut h
  refine ⟨hu.provision, hstaffed, hu.callers, ?_, ?_, hu.submitted, hu.ended, hu.distinct,
    hu.isOpen, fun hshutdown => ?_⟩
  · rw [hu.accepted, ← hheld]
    rfl
  · rw [hu.started, ← hheld]
    rfl
  · rw [Pool.timeOut_of_allGone (hu.joined hshutdown)] at h
    cases h

theorem finish (hu : u.IsSound spec) (h : u.pool.task? i = some task) (crashed : Bool) :
    ({ u with
        pool := u.pool.finish i crashed
        ended := task :: u.ended } : Usage τ).IsSound spec := by
  have hheld : u.held = task ::ₘ Worker.tasks (u.pool.finish i crashed).workers :=
    Pool.running_finish h crashed
  have hqueue : (u.pool.finish i crashed).queue = u.pool.queue := Pool.count_queue ..
  have hended : ((task :: u.ended : List τ) : Multiset τ) = task ::ₘ u.ended := rfl
  refine ⟨(Pool.count_provision ..).trans hu.provision, hu.staffed.finish h crashed,
    (Pool.count_callers ..).trans hu.callers, hu.accepted.trans ?_, hu.started.trans ?_,
    (Pool.count_submitted ..).trans hu.submitted,
    (Pool.count_ended ..).trans (congrArg (· + 1) hu.ended), hu.distinct, ?_,
    fun hshutdown => ?_⟩
  · rw [hheld, hqueue, hended, Multiset.cons_add, Multiset.add_cons, Multiset.cons_add,
      Multiset.add_cons]
    rfl
  · rw [hheld, hended, Multiset.cons_add, Multiset.cons_add, Multiset.add_cons]
    rfl
  · exact (Pool.count_isOpen u.pool crashed).symm ▸ hu.isOpen
  · rw [Pool.task?_of_allGone (hu.joined hshutdown)] at h
    cases h

/-- A shutdown closes the pool, whoever calls it and however often. -/
theorem close (hu : u.IsSound spec) {shutdown : Shutdown} (hcalled : shutdown ≠ .uncalled)
    (hjoined : shutdown = .returned none → u.pool.allGone none = true) :
    ({ u with pool := u.pool.close, shutdown } : Usage τ).IsSound spec where
  provision := hu.provision
  staffed := hu.staffed.close
  callers := hu.callers
  accepted := hu.accepted
  started := hu.started
  submitted := hu.submitted
  ended := hu.ended
  distinct := hu.distinct
  isOpen := ⟨nofun, fun h => absurd h hcalled⟩
  joined := hjoined

/-- Every action keeps the books. -/
theorem step [DecidableEq τ] {v : Usage τ} {action : Action τ} (hu : u.IsSound spec)
    (h : u.step action = some v) : v.IsSound spec := by
  cases rule_of_step h with
  | submit hfresh hsubmit => exact hu.note hfresh hsubmit
  | giveBack crashed htask => exact hu.giveBack htask crashed
  | idle hidle => exact hu.idle hidle
  | timeOut htimeOut => exact hu.timeOut htimeOut
  | finish crashed _ htask => exact hu.finish htask crashed
  | shutdown _ _ => exact hu.close nofun nofun
  | shutdownAgain _ hcalled => exact hu.close hcalled hu.joined
  | @join caller? hjoining hgone =>
    have hopen : u.pool.isOpen ≠ true := by
      rw [Ne, hu.isOpen, hjoining]
      nofun
    exact { hu with
      isOpen := ⟨fun h => absurd h hopen, nofun⟩
      joined := fun hnone => by
        obtain rfl := Shutdown.returned.inj hnone
        exact hgone }

theorem nodup_accepted (hu : u.IsSound spec) : u.accepted.Nodup :=
  (List.nodup_append.1 hu.distinct).1

theorem not_mem_accepted (hu : u.IsSound spec) (h : task ∈ u.refused) : task ∉ u.accepted :=
  fun haccepted => (List.nodup_append.1 hu.distinct).2.2 task haccepted task h rfl

/-- The counters of a pool tell where its tasks are. -/
theorem submitted_eq (hu : u.IsSound spec) :
    u.pool.submitted = u.pool.queue.length + (u.held.card + u.lent.length) +
      u.pool.completed + u.pool.crashed := by
  have hcard := congrArg Multiset.card hu.accepted
  simp only [Multiset.card_add, Multiset.coe_card] at hcard
  rw [hu.submitted, hcard, add_assoc _ u.pool.completed, hu.ended]

/-- After a shutdown from outside nothing is queued or held any more. -/
theorem drained (hu : u.IsSound spec) (hcore : 1 ≤ spec.corePoolSize)
    (h : u.shutdown = .returned none) :
    u.pool.live = 0 ∧ u.pool.queue = [] ∧ u.held = 0 := by
  have hgone := hu.joined h
  obtain ⟨hlive, hqueue⟩ := hu.staffed.of_allGone (hu.spec_eq ▸ hcore) hgone
  exact ⟨hlive, hqueue, Pool.running_of_allGone hgone⟩

section Count

variable [DecidableEq τ] {v : Usage τ}

/-- A task is in one place from its acceptance on, and in none if it was not accepted. -/
theorem count_places (hu : u.IsSound spec) (task : τ) :
    u.pool.queue.count task + (u.held.count task + u.lent.count task) + u.ended.count task =
      if task ∈ u.accepted then 1 else 0 := by
  have hcount := congrArg (Multiset.count task) hu.accepted
  simp only [Multiset.count_add, Multiset.coe_count] at hcount
  rw [← hcount, hu.nodup_accepted.count]

theorem count_started (hu : u.IsSound spec) (task : τ) :
    u.started.count task = u.held.count task + u.lent.count task + u.ended.count task := by
  have hcount := congrArg (Multiset.count task) hu.started
  simpa only [Multiset.count_add, Multiset.coe_count] using hcount

theorem not_mem_started (hu : u.IsSound spec) (h : task ∈ u.refused) : task ∉ u.started := by
  have hplaces := hu.count_places task
  rw [if_neg (hu.not_mem_accepted h)] at hplaces
  have hstarted := hu.count_started task
  exact List.count_eq_zero.1 (by omega)

/-- A submission is refused exactly when the pool has been shut down. -/
theorem mem_refused_iff (hu : u.IsSound spec) (h : u.step (.submit task) = some v) :
    task ∈ v.refused ↔ u.shutdown ≠ .uncalled := by
  cases rule_of_step h with
  | submit hfresh hsubmit =>
    have hnew : task ∉ u.refused := fun hmem => hfresh (List.mem_append_right _ hmem)
    rw [Ne, ← hu.isOpen]
    cases Pool.submitRule_of_submit hsubmit with
    | refuse hclosed => simp [Usage.note, hclosed]
    | start hopen _ => simp [Usage.note, hopen, hnew]
    | enqueue hopen _ _ _ => simp [Usage.note, hopen, hnew]
    | revive hopen _ _ _ => simp [Usage.note, hopen, hnew]
    | lend hopen _ _ _ => simp [Usage.note, hopen, hnew]
    | lose _ _ hfault | strand _ _ _ _ hfault => exact absurd hfault (hu.startFault?_ne_some _)

end Count
end IsSound

section Reachable

variable [DecidableEq τ] {name : String} {spec : PoolSpec} {u : Usage τ}

theorem Reachable.isSound (h : Reachable name spec u) : u.IsSound spec := by
  induction h with
  | start => exact isSound_start name spec
  | step _ _ h ih => exact ih.step h

/-- Submitted work is neither dropped nor run twice: each accepted task is queued, held by
a thread, run by its submitter, or ended, and only one of these; a task is refused only by
a pool that has been shut down, and then never started; queued tasks have a thread that is
at work; and a shutdown from outside that has returned leaves every accepted task run
once. -/
theorem Reachable.conserves_tasks (hcore : 1 ≤ spec.corePoolSize) (h : Reachable name spec u) :
    (∀ task, u.pool.queue.count task + (u.held.count task + u.lent.count task) +
        u.ended.count task = if task ∈ u.accepted then 1 else 0) ∧
    u.pool.submitted = u.pool.queue.length + (u.held.card + u.lent.length) +
      u.pool.completed + u.pool.crashed ∧
    (∀ task v, u.step (.submit task) = some v →
      (task ∈ v.refused ↔ u.shutdown ≠ .uncalled)) ∧
    (∀ task ∈ u.refused, task ∉ u.accepted ∧ task ∉ u.started) ∧
    (u.pool.queue ≠ [] → ∃ i, u.pool.task? i ≠ none ∨ u.pool.idleStep i ≠ none) ∧
    (u.shutdown = .returned none → u.lent = [] →
      (∀ task ∈ u.accepted, u.started.count task = 1 ∧ u.ended.count task = 1) ∧
      u.pool.queue = [] ∧ u.pool.live = 0 ∧
      u.pool.submitted = u.pool.completed + u.pool.crashed ∧
      ∀ caller? v, u.step (.shutdown caller?) = some v → v = u) := by
  have hu := h.isSound
  refine ⟨hu.count_places, hu.submitted_eq, fun task v => hu.mem_refused_iff,
    fun task hmem => ⟨hu.not_mem_accepted hmem, hu.not_mem_started hmem⟩,
    hu.staffed.exists_thread (hu.spec_eq ▸ hcore), ?_⟩
  intro hshutdown hlent
  obtain ⟨hlive, hqueue, hheld⟩ := hu.drained hcore hshutdown
  refine ⟨?_, hqueue, hlive, ?_, ?_⟩
  · intro task hmem
    have hplaces := hu.count_places task
    have hstarted := hu.count_started task
    simp only [hqueue, hheld, hlent, List.count_nil, Multiset.count_zero, if_pos hmem, zero_add]
      at hplaces hstarted
    exact ⟨hstarted.trans hplaces, hplaces⟩
  · rw [hu.submitted_eq, hqueue, hheld, hlent]
    simp
  · intro caller? v hstep
    have hcalled : u.shutdown ≠ .uncalled := by simp [hshutdown]
    have hclosed : u.pool.isOpen = false := by rwa [Bool.eq_false_iff, Ne, hu.isOpen]
    have hsame : u.pool.close = u.pool := by rw [Pool.close, ← hclosed]
    simp only [Usage.step, if_neg hcalled, hsame] at hstep
    split at hstep
    · exact (Option.some.inj hstep).symm
    · cases hstep

/-- A pool of one core thread with room for one more, used until it is shut down: a task
starts the core, the next is queued, one starts the further thread, and one is left to its
submitter; a last one comes too late. -/
theorem Reachable.conserves_five_tasks :
    ∃ u : Usage Nat, Reachable "pool" ⟨1, 2, 1, 0⟩ u ∧ u.shutdown = .returned none ∧
      u.lent = [] ∧ u.accepted = [3, 2, 1, 0] ∧ u.refused = [4] ∧ u.pool.crashed = 1 ∧
      (∀ task ∈ u.accepted, u.started.count task = 1 ∧ u.ended.count task = 1) ∧
      4 ∉ u.started := by
  obtain ⟨u, hrun, hshutdown, hlent, haccepted, hrefused, hcrashed⟩ :
      ∃ u : Usage Nat, (Usage.start "pool" ⟨1, 2, 1, 0⟩).run
        [.submit 0, .submit 1, .submit 2, .submit 3, .giveBack 0 false, .finish 0 true,
          .idle 0, .shutdown none, .submit 4, .idle 0, .finish 1 false, .idle 1,
          .finish 0 false, .idle 0, .idle 0, .idle 1, .idle 1, .idle 0, .join] = some u ∧
        u.shutdown = .returned none ∧ u.lent = [] ∧ u.accepted = [3, 2, 1, 0] ∧
        u.refused = [4] ∧ u.pool.crashed = 1 :=
    ⟨_, rfl, rfl, rfl, rfl, rfl, rfl⟩
  have hu : Reachable "pool" ⟨1, 2, 1, 0⟩ u := Reachable.start.run hrun
  obtain ⟨-, -, -, hlost, -, hdone⟩ := Reachable.conserves_tasks (by decide) hu
  refine ⟨u, hu, hshutdown, hlent, haccepted, hrefused, hcrashed,
    (hdone hshutdown hlent).1, (hlost 4 ?_).2⟩
  rw [hrefused]
  exact List.mem_singleton.2 rfl

end Reachable
end Usage
end TableCopy
