import TableCopy.Proofs.Pool.Staffing

/-!
# Changes of a pool

Whatever a user or a thread of a pool does to it in one step is a change: a task is
submitted, taken, led on or ended, or the pool is closed. Next to the pool stands the
number of tasks that are lent, which run on the threads that submitted them. A pool loses
no task by a change, so that its counters tell how many are left.
-/

namespace TableCopy

variable {τ : Type}

namespace Pool

/-- One change of a pool, with the number of lent tasks before and after it. `who?` is the
thread of the pool whose step it is. -/
inductive Change (pool : Pool τ) : Option Nat → Nat → Pool τ → Nat → Prop
  | keep {who? lent} : Change pool who? lent pool lent
  | submit {task placement next lent} (h : pool.submit task = (next, placement)) :
    Change pool none lent next (if placement = .onCaller then lent + 1 else lent)
  | takeBack {lent} : Change pool none (lent + 1) (pool.finishOnCaller false) lent
  | close {lent} : Change pool none lent pool.close lent
  | advance {i task next lent} (h : pool.task? i = some task) :
    Change pool (some i) lent (pool.setWorker i (.running next)) lent
  | finish {i task lent} (h : pool.task? i = some task) :
    Change pool (some i) lent (pool.finish i false) lent
  | idle {i next lent} (h : pool.idleStep i = some next) : Change pool (some i) lent next lent
  | timeOut {i next lent} (h : pool.timeOut i = some next) : Change pool (some i) lent next lent

/-- The books of a pool whose tasks never crash: it has its size and its staff, and what
was submitted is there, lent or completed, or was lost with a thread that was not started. -/
structure IsKept (spec : PoolSpec) (pool : Pool τ) (lent : Nat) : Prop where
  spec_eq : pool.spec = spec
  reliable : pool.IsReliable
  staffed : pool.IsStaffed
  crashed_eq : pool.crashed = 0
  submitted_eq : pool.submitted = pool.tasks.card + lent + pool.completed + pool.unstarted

variable {pool next : Pool τ} {who? : Option Nat} {lent lent' i : Nat} {task : τ}

/-- A thread of a pool that leads its task on keeps the number of tasks. -/
theorem card_tasks_advance (h : pool.task? i = some task) (turn : τ) :
    (pool.setWorker i (.running turn)).tasks.card = pool.tasks.card := by
  obtain ⟨rest, htasks, hset, -⟩ := exists_tasks_eq_cons h
  rw [hset, htasks, Multiset.card_cons, Multiset.card_cons]

theorem card_tasks_finish (h : pool.task? i = some task) (crashed : Bool) :
    (pool.finish i crashed).tasks.card + 1 = pool.tasks.card := by
  obtain ⟨rest, htasks, -, hfinish⟩ := exists_tasks_eq_cons h
  rw [hfinish, htasks, Multiset.card_cons]

/-- A submitted task is counted, and is in the pool or lent, unless it is refused, or lost with
a thread that is not started. -/
theorem load_submit {placement : Placement} (hreliable : pool.IsReliable)
    (h : pool.submit task = (next, placement)) :
    (∃ lost, next.submitted = pool.submitted + lost ∧ next.unstarted = pool.unstarted + lost) ∧
        next.tasks.card = pool.tasks.card ∧ placement ≠ .onCaller ∨
      next.submitted = pool.submitted + 1 ∧ next.unstarted = pool.unstarted ∧
        (next.tasks.card = pool.tasks.card + 1 ∧ placement ≠ .onCaller ∨
          next.tasks.card = pool.tasks.card ∧ placement = .onCaller) := by
  have htaken (hplacement : placement = .started ∨ placement = .queued) :
      next.tasks.card = pool.tasks.card + 1 := by
    rw [tasks_submit_of_taken h hplacement, Multiset.card_cons]
  cases submitRule_of_submit h with
  | refuse _ => exact .inl ⟨⟨0, rfl, rfl⟩, rfl, nofun⟩
  | start _ _ => exact .inr ⟨rfl, rfl, .inl ⟨htaken (.inl rfl), nofun⟩⟩
  | enqueue _ _ _ _ | revive _ _ _ _ => exact .inr ⟨rfl, rfl, .inl ⟨htaken (.inr rfl), nofun⟩⟩
  | lend _ _ _ _ =>
    exact .inr ⟨rfl, rfl, .inr ⟨congrArg Multiset.card (tasks_submit_of_lent h), rfl⟩⟩
  | lose _ _ _ => exact .inl ⟨⟨1, rfl, rfl⟩, rfl, nofun⟩
  | strand _ hcore _ hlive hfault =>
    exact absurd hfault (hreliable.startFault?_ne_some hcore hlive _)

theorem counters_submit {placement : Placement} (h : pool.submit task = (next, placement)) :
    next.completed = pool.completed ∧ next.crashed = pool.crashed := by
  cases submitRule_of_submit h <;> exact ⟨rfl, rfl⟩

theorem counters_timeOut (h : pool.timeOut i = some next) :
    next.submitted = pool.submitted ∧ next.completed = pool.completed ∧
      next.crashed = pool.crashed := by
  obtain ⟨-, rfl⟩ := eq_of_timeOut h
  exact ⟨rfl, rfl, rfl⟩

namespace Change

theorem provision_eq (h : Change pool who? lent next lent') : next.provision = pool.provision := by
  cases h with
  | submit h => exact provision_submit h
  | idle h => exact provision_idleStep h
  | timeOut h => exact provision_timeOut h
  | _ => rfl

/-- What a change submits is what there is more of after it, and what is lost with threads that
are not started. -/
theorem exists_submitted_eq (h : Change pool who? lent next lent') (hreliable : pool.IsReliable) :
    ∃ lost, next.submitted =
        pool.submitted + (next.tasks.card + lent' - (pool.tasks.card + lent)) + lost ∧
      next.unstarted = pool.unstarted + lost := by
  have hsame (hsubmitted : next.submitted = pool.submitted)
      (hunstarted : next.unstarted = pool.unstarted)
      (hload : next.tasks.card + lent' ≤ pool.tasks.card + lent) :
      ∃ lost, next.submitted =
          pool.submitted + (next.tasks.card + lent' - (pool.tasks.card + lent)) + lost ∧
        next.unstarted = pool.unstarted + lost := by
    rw [Nat.sub_eq_zero_of_le hload]
    exact ⟨0, hsubmitted, hunstarted⟩
  cases h with
  | submit h =>
    rcases load_submit hreliable h with ⟨⟨lost, hcount, hlost⟩, hcard, hplace⟩ |
      ⟨hcount, hlost, ⟨hcard, hplace⟩ | ⟨hcard, hplace⟩⟩
    · rw [if_neg hplace, hcount, hcard]
      exact ⟨lost, by omega, hlost⟩
    · rw [if_neg hplace, hcount, hcard]
      exact ⟨0, by omega, hlost⟩
    · rw [if_pos hplace, hcount, hcard]
      exact ⟨0, by omega, hlost⟩
  | takeBack =>
    refine hsame rfl rfl ?_
    rw [tasks_finishOnCaller]
    omega
  | advance htask =>
    refine hsame rfl rfl ?_
    rw [card_tasks_advance htask]
  | finish htask =>
    refine hsame rfl rfl ?_
    have hcard := card_tasks_finish htask false
    omega
  | idle hidle =>
    refine hsame (counters_idleStep hidle).2.2.2.1 (unstarted_idleStep hidle) ?_
    rw [tasks_idleStep hidle]
  | timeOut hout =>
    refine hsame (counters_timeOut hout).1 (unstarted_timeOut hout) ?_
    rw [tasks_timeOut hout]
  | _ => exact hsame rfl rfl le_rfl

/-- A pool keeps its books. -/
theorem isKept (h : Change pool who? lent next lent') {spec : PoolSpec}
    (hpool : IsKept spec pool lent) : IsKept spec next lent' := by
  have hsame := h.provision_eq
  obtain ⟨hspec, hreliable, hstaffed, hcrashed, hsubmitted⟩ := hpool
  have hnext := (Prod.mk.inj hsame).1.trans hspec
  have hgoesOn := hreliable.of_provision_eq hsame
  cases h with
  | keep => exact ⟨hspec, hreliable, hstaffed, hcrashed, hsubmitted⟩
  | submit h =>
    obtain ⟨hcompleted, hcrashed'⟩ := counters_submit h
    refine ⟨hnext, hgoesOn, hstaffed.submit h, hcrashed'.trans hcrashed, ?_⟩
    rcases load_submit hreliable h with ⟨⟨lost, hcount, hlost⟩, hcard, hplace⟩ |
      ⟨hcount, hlost, ⟨hcard, hplace⟩ | ⟨hcard, hplace⟩⟩
    · rw [if_neg hplace, hcount, hcard, hcompleted, hlost]
      omega
    · rw [if_neg hplace, hcount, hcard, hcompleted, hlost]
      omega
    · rw [if_pos hplace, hcount, hcard, hcompleted, hlost]
      omega
  | takeBack =>
    refine ⟨hspec, hgoesOn, hstaffed.finishOnCaller false, hcrashed, ?_⟩
    rw [tasks_finishOnCaller]
    change pool.submitted = pool.tasks.card + lent' + (pool.completed + 1) + pool.unstarted
    omega
  | close => exact ⟨hspec, hgoesOn, hstaffed.close, hcrashed, hsubmitted⟩
  | advance htask =>
    refine ⟨hspec, hgoesOn,
      hstaffed.setWorker (task?_eq_some_iff.1 htask) rfl rfl nofun, hcrashed, ?_⟩
    rw [card_tasks_advance htask]
    exact hsubmitted
  | finish htask =>
    refine ⟨hspec, hgoesOn, hstaffed.finish htask false, hcrashed, hsubmitted.trans ?_⟩
    have hcard := card_tasks_finish htask false
    change _ = _ + _ + (pool.completed + 1) + pool.unstarted
    omega
  | idle hidle =>
    obtain ⟨-, -, -, hcount, hcompleted, hcrashed'⟩ := counters_idleStep hidle
    refine ⟨hnext, hgoesOn, hstaffed.idleStep hidle, hcrashed'.trans hcrashed, ?_⟩
    rw [hcount, hcompleted, tasks_idleStep hidle, unstarted_idleStep hidle, hsubmitted]
  | timeOut hout =>
    obtain ⟨hcount, hcompleted, hcrashed'⟩ := counters_timeOut hout
    refine ⟨hnext, hgoesOn, hstaffed.timeOut hout, hcrashed'.trans hcrashed, ?_⟩
    rw [hcount, hcompleted, tasks_timeOut hout, unstarted_timeOut hout, hsubmitted]

/-- What a thread of a pool runs is changed by its own steps only. -/
theorem task?_of_ne (h : Change pool who? lent next lent') (hother : who? ≠ some i)
    (htask : pool.task? i = some task) : next.task? i = some task := by
  have hset : ∀ {j : Nat} (workers : List (Worker τ)) (turn : Worker τ), some j ≠ some i →
      workers[i]? = some (.running task) → (workers.set j turn)[i]? = some (.running task) := by
    intro j workers turn hne hget
    rw [List.getElem?_set_ne fun hji => hne (congrArg some hji), hget]
  have hstart : ∀ first : Worker τ, pool.workers[i]? = some (.running task) →
      (pool.workers ++ [first])[i]? = some (.running task) := fun first hget => by
    rw [List.getElem?_append_left (List.getElem?_eq_some_iff.1 hget).1, hget]
  rw [task?_eq_some_iff] at htask ⊢
  cases h with
  | keep => exact htask
  | submit h =>
    cases submitRule_of_submit h with
    | start _ _ => exact hstart _ htask
    | revive _ _ _ _ => exact hstart _ htask
    | _ => exact htask
  | takeBack => exact htask
  | close => exact htask
  | advance _ => exact hset _ _ hother htask
  | finish _ => exact hset _ _ hother htask
  | idle hidle => cases idleRule_of_idleStep hidle <;> exact hset _ _ hother htask
  | timeOut hout =>
    obtain ⟨-, rfl⟩ := eq_of_timeOut hout
    exact hset _ _ hother htask

end Change

namespace IsKept

variable {spec : PoolSpec}

theorem tasks_of_allGone (h : IsKept spec pool lent) (hcore : 1 ≤ spec.corePoolSize)
    (hgone : pool.allGone none = true) : pool.tasks = 0 := by
  obtain ⟨-, hqueue⟩ := h.staffed.of_allGone (h.spec_eq ▸ hcore) hgone
  rw [tasks, hqueue, running_of_allGone hgone]
  rfl

/-- A pool whose threads have left, and none of whose tasks are lent, has completed all but those
that it has lost. -/
theorem of_allGone (h : IsKept spec pool 0) (hcore : 1 ≤ spec.corePoolSize)
    (hgone : pool.allGone none = true) :
    pool.live = 0 ∧ pool.submitted = pool.completed + pool.unstarted := by
  refine ⟨(h.staffed.of_allGone (h.spec_eq ▸ hcore) hgone).1, ?_⟩
  rw [h.submitted_eq, h.tasks_of_allGone hcore hgone, Multiset.card_zero, Nat.zero_add]

end IsKept
end Pool
end TableCopy
