import Mathlib.Data.List.Infix
import TableCopy.Proofs.Pool.Bounds

/-!
# The order of placement

A pool whose first tasks stay blocked fills up in the order of submission. The first tasks
start the core, the next ones fill the queue, the ones after that start the further threads,
and all later ones run on the threads that submit them. While it fills up no thread looks at
the queue, so that what the pool holds is told by the stretches of this order.
-/

namespace TableCopy

/-- The sizes that a pool needs to fill up in order. -/
structure PoolSpec.IsSized (spec : PoolSpec) : Prop where
  core_pos : 1 ≤ spec.corePoolSize
  core_le_max : spec.corePoolSize ≤ spec.maxPoolSize
  queue_pos : 1 ≤ spec.queueCapacity

theorem PoolSpec.isSized_ofLimit (limit configuredCore keepAlive : Nat) :
    (ofLimit limit configuredCore keepAlive).IsSized where
  core_pos := ofLimit_core_pos ..
  core_le_max := ofLimit_core_le_max ..
  queue_pos := Nat.le_max_right ..

theorem PoolSpec.IsSized.places_eq {spec : PoolSpec} (h : spec.IsSized) :
    spec.places = spec.queueCapacity := Nat.max_eq_left h.queue_pos

namespace Usage

variable {τ : Type}

/-- The `count` tasks that were submitted after the first `skipped` ones, in the order of
their submission. The accepted tasks are listed latest first. -/
def stretch (accepted : List τ) (skipped count : Nat) : List τ :=
  (accepted.reverse.drop skipped).take count

/-- The tasks that were submitted after the first `full` ones. -/
def surplus (accepted : List τ) (full : Nat) : List τ := accepted.reverse.drop full

section Stretch

variable {accepted : List τ} {task : τ} {skipped count full : Nat}

@[simp] theorem length_stretch :
    (stretch accepted skipped count).length = min count (accepted.length - skipped) := by
  rw [stretch, List.length_take, List.length_drop, List.length_reverse]

/-- A stretch holds what a longer one from the same place on holds. -/
theorem stretch_subset_of_le {longer : Nat} (h : count ≤ longer) :
    stretch accepted skipped count ⊆ stretch accepted skipped longer :=
  (List.take_prefix_take_left h).subset

/-- A stretch holds only tasks of the first ones up to its end. -/
theorem stretch_subset_first (h : skipped + count ≤ full) :
    stretch accepted skipped count ⊆ stretch accepted 0 full := by
  rw [stretch, List.take_drop]
  exact fun task htask => stretch_subset_of_le h (List.mem_of_mem_drop htask)

/-- A submission belongs to a stretch that reaches from before it to beyond it. -/
theorem stretch_cons_of_mem (hskipped : skipped ≤ accepted.length)
    (hcount : accepted.length < skipped + count) :
    stretch (task :: accepted) skipped count = stretch accepted skipped count ++ [task] := by
  have hlength : (accepted.reverse.drop skipped).length < count := by
    rw [List.length_drop, List.length_reverse]
    omega
  rw [stretch, stretch, List.reverse_cons,
    List.drop_append_of_le_length (by rwa [List.length_reverse]),
    List.take_of_length_le hlength.le, List.take_of_length_le]
  rw [List.length_append]
  exact hlength

/-- A stretch stays as it is at a submission that comes too early or too late for it. -/
theorem stretch_cons_of_notMem
    (h : accepted.length < skipped ∨ skipped + count ≤ accepted.length) :
    stretch (task :: accepted) skipped count = stretch accepted skipped count := by
  rw [stretch, stretch, List.reverse_cons]
  rcases h with hearly | hlate
  · rw [List.drop_eq_nil_of_le, List.drop_eq_nil_of_le]
    · rw [List.length_reverse]
      exact hearly.le
    · rw [List.length_append, List.length_reverse]
      exact hearly
  · rw [List.drop_append_of_le_length, List.take_append_of_le_length]
    · rw [List.length_drop, List.length_reverse]
      omega
    · rw [List.length_reverse]
      omega

theorem stretch_isPrefix_of_suffix {later : List τ} (h : accepted <:+ later) :
    stretch accepted 0 count <+: stretch later 0 count :=
  List.IsPrefix.take (List.reverse_prefix.2 h) count

theorem surplus_eq_nil (h : accepted.length ≤ full) : surplus accepted full = [] :=
  List.drop_eq_nil_of_le (by rwa [List.length_reverse])

theorem surplus_cons (h : full ≤ accepted.length) :
    surplus (task :: accepted) full = surplus accepted full ++ [task] := by
  rw [surplus, surplus, List.reverse_cons,
    List.drop_append_of_le_length (by rwa [List.length_reverse])]

end Stretch

/-- As many tasks as fit into the pool, the first ones, have not ended. -/
def IsBlocked (spec : PoolSpec) (u : Usage τ) : Prop :=
  ∀ task ∈ stretch u.accepted 0 (spec.queueCapacity + spec.maxPoolSize), task ∉ u.ended

/-- The tasks that threads were started with: those of the core, and those of the further
threads that came after the queue was full. -/
def starters (spec : PoolSpec) (accepted : List τ) : List τ :=
  stretch accepted 0 spec.corePoolSize ++
    stretch accepted (spec.corePoolSize + spec.queueCapacity)
      (spec.maxPoolSize - spec.corePoolSize)

section Starters

variable {spec : PoolSpec} {accepted : List τ} {task : τ}

@[simp] theorem length_starters :
    (starters spec accepted).length = min accepted.length spec.corePoolSize +
      min (accepted.length - spec.corePoolSize - spec.queueCapacity)
        (spec.maxPoolSize - spec.corePoolSize) := by
  rw [starters, List.length_append, length_stretch, length_stretch]
  omega

theorem starters_subset_first (hmax : spec.corePoolSize ≤ spec.maxPoolSize) :
    starters spec accepted ⊆ stretch accepted 0 (spec.queueCapacity + spec.maxPoolSize) :=
  List.append_subset.2
    ⟨stretch_subset_of_le (by omega), stretch_subset_first (by omega)⟩

theorem starters_cons_of_mem
    (h : accepted.length < spec.corePoolSize ∨
      spec.corePoolSize + spec.queueCapacity ≤ accepted.length ∧
        accepted.length < spec.queueCapacity + spec.maxPoolSize) :
    starters spec (task :: accepted) = starters spec accepted ++ [task] := by
  rcases h with hcore | ⟨hlow, hhigh⟩
  · have hnone : stretch accepted (spec.corePoolSize + spec.queueCapacity)
        (spec.maxPoolSize - spec.corePoolSize) = [] :=
      List.length_eq_zero_iff.1 (by rw [length_stretch]; omega)
    rw [starters, starters, stretch_cons_of_mem (Nat.zero_le _) (by omega),
      stretch_cons_of_notMem (.inl (by omega)), hnone, List.append_nil, List.append_nil]
  · rw [starters, starters, stretch_cons_of_notMem (.inr (by omega)),
      stretch_cons_of_mem hlow (by omega), List.append_assoc]

theorem starters_cons_of_notMem (hmax : spec.corePoolSize ≤ spec.maxPoolSize)
    (h : spec.corePoolSize ≤ accepted.length ∧
        accepted.length < spec.corePoolSize + spec.queueCapacity ∨
      spec.queueCapacity + spec.maxPoolSize ≤ accepted.length) :
    starters spec (task :: accepted) = starters spec accepted := by
  rw [starters, starters, stretch_cons_of_notMem (.inr (by omega)),
    stretch_cons_of_notMem (by omega)]

end Starters

/-- A pool that fills up in order: its threads run the tasks that they were started with,
its queue holds the tasks between the core and the further threads, and the tasks that came
too late for both are on their submitters or have ended. -/
structure FillsInOrder (spec : PoolSpec) (u : Usage τ) : Prop where
  workers : u.pool.workers = (starters spec u.accepted).map .running
  queue : u.pool.queue = stretch u.accepted spec.corePoolSize spec.queueCapacity
  late : (surplus u.accepted (spec.queueCapacity + spec.maxPoolSize) : Multiset τ) =
    u.lent + u.ended
  peak : u.pool.peak = u.pool.live
  callerRuns : u.pool.callerRuns =
    u.accepted.length - (spec.queueCapacity + spec.maxPoolSize)
  refused : u.refused = []

theorem fillsInOrder_start (name : String) (spec : PoolSpec) :
    (start name spec : Usage τ).FillsInOrder spec := by
  constructor <;> simp [start, Pool.create, starters, stretch, surplus]

variable {spec : PoolSpec} {u v : Usage τ} {task : τ} {i : Nat} {pool : Pool τ}
  {placement : Placement}

namespace FillsInOrder

/-- Every thread is at work, on a task that it was started with. -/
theorem exists_running (hfill : u.FillsInOrder spec) {worker : Worker τ}
    (h : u.pool.workers[i]? = some worker) :
    ∃ task ∈ starters spec u.accepted, worker = .running task := by
  have hmem := List.mem_of_getElem? h
  rw [hfill.workers] at hmem
  obtain ⟨task, htask, rfl⟩ := List.mem_map.1 hmem
  exact ⟨task, htask, rfl⟩

theorem live_eq (hfill : u.FillsInOrder spec) (hstaffed : u.pool.IsStaffed) :
    u.pool.live = (starters spec u.accepted).length := by
  rw [hstaffed.live_eq, hfill.workers, Worker.staff, List.countP_map, List.countP_eq_length]
  exact fun _ _ => rfl

/-- No thread looks at the queue. -/
theorem idleStep (hfill : u.FillsInOrder spec) (i : Nat) : u.pool.idleStep i = none := by
  unfold Pool.idleStep
  cases hworker : u.pool.workers[i]? with
  | none => rfl
  | some worker =>
    obtain ⟨task, -, rfl⟩ := hfill.exists_running hworker
    rfl

theorem timeOut (hfill : u.FillsInOrder spec) (i : Nat) : u.pool.timeOut i = none := by
  unfold Pool.timeOut
  cases hworker : u.pool.workers[i]? with
  | none => rfl
  | some worker =>
    obtain ⟨task, -, rfl⟩ := hfill.exists_running hworker
    rfl

/-- The tasks of the threads are among the first ones. -/
theorem mem_of_task? (hmax : spec.corePoolSize ≤ spec.maxPoolSize) (hfill : u.FillsInOrder spec)
    (h : u.pool.task? i = some task) :
    task ∈ stretch u.accepted 0 (spec.queueCapacity + spec.maxPoolSize) := by
  obtain ⟨_, htask, hworker⟩ := hfill.exists_running (Pool.task?_eq_some_iff.1 h)
  obtain rfl := Worker.running.inj hworker
  exact starters_subset_first hmax htask

/-- Where a submission goes is told by its rank. -/
theorem placed (hsized : spec.IsSized) (hu : u.IsSound spec) (hfill : u.FillsInOrder spec)
    (hopen : u.pool.isOpen = true) (h : u.pool.submit task = (pool, placement)) :
    (u.accepted.length < spec.corePoolSize ∨
        spec.corePoolSize + spec.queueCapacity ≤ u.accepted.length ∧
          u.accepted.length < spec.queueCapacity + spec.maxPoolSize) ∧
        placement = .started ∧
        pool = { u.pool with submitted := u.pool.submitted + 1 }.start (.running task) ∨
      (spec.corePoolSize ≤ u.accepted.length ∧
          u.accepted.length < spec.corePoolSize + spec.queueCapacity) ∧
        placement = .queued ∧
        pool =
          { u.pool with submitted := u.pool.submitted + 1, queue := u.pool.queue ++ [task] } ∨
      spec.queueCapacity + spec.maxPoolSize ≤ u.accepted.length ∧ placement = .onCaller ∧
        pool =
          { u.pool with
            submitted := u.pool.submitted + 1
            callerRuns := u.pool.callerRuns + 1
            callers := u.pool.callers + 1 } := by
  have hlive := (hfill.live_eq hu.staffed).trans length_starters
  have hqueue := (congrArg List.length hfill.queue).trans length_stretch
  have hcore := hsized.core_pos
  have hmax := hsized.core_le_max
  cases Pool.submitRule_of_submit h with
  | refuse hclosed =>
    rw [hopen] at hclosed
    cases hclosed
  | start _ hroom =>
    rw [hu.spec_eq, hsized.places_eq] at hroom
    exact .inl ⟨by omega, rfl, rfl⟩
  | enqueue _ hfull hroom _ =>
    rw [hu.spec_eq] at hfull hroom
    rw [hsized.places_eq] at hroom
    exact .inr (.inl ⟨by omega, rfl, rfl⟩)
  | revive _ hfull _ hnone =>
    rw [hu.spec_eq] at hfull
    omega
  | lend _ _ hfull hgrown =>
    rw [hu.spec_eq] at hfull hgrown
    rw [hsized.places_eq] at hfull
    exact .inr (.inr ⟨by omega, rfl, rfl⟩)
  | lose _ _ hfault | strand _ _ _ _ hfault => exact absurd hfault (hu.startFault?_ne_some _)

theorem note (hsized : spec.IsSized) (hu : u.IsSound spec) (hfill : u.FillsInOrder spec)
    (hopen : u.pool.isOpen = true) (h : u.pool.submit task = (pool, placement)) :
    (u.note task pool placement).FillsInOrder spec := by
  have hmax := hsized.core_le_max
  have hfits : u.accepted.length < spec.queueCapacity + spec.maxPoolSize →
      surplus (task :: u.accepted) (spec.queueCapacity + spec.maxPoolSize) =
        surplus u.accepted (spec.queueCapacity + spec.maxPoolSize) ∧
      u.pool.callerRuns =
        (task :: u.accepted).length - (spec.queueCapacity + spec.maxPoolSize) := by
    intro hroom
    rw [surplus_eq_nil hroom.le, surplus_eq_nil (Nat.succ_le_of_lt hroom), hfill.callerRuns,
      List.length_cons]
    exact ⟨rfl, by omega⟩
  rcases hfill.placed hsized hu hopen h with ⟨hrank, rfl, rfl⟩ | ⟨⟨hlow, hhigh⟩, rfl, rfl⟩ |
    ⟨hrank, rfl, rfl⟩
  · obtain ⟨hsurplus, hcallerRuns⟩ := hfits (by omega)
    have hqueue : stretch (task :: u.accepted) spec.corePoolSize spec.queueCapacity =
        stretch u.accepted spec.corePoolSize spec.queueCapacity :=
      stretch_cons_of_notMem (by omega)
    have hpeak : max u.pool.peak (u.pool.live + 1) = u.pool.live + 1 := by
      rw [hfill.peak]
      exact Nat.max_eq_right (Nat.le_succ _)
    refine ⟨?_, hfill.queue.trans hqueue.symm, ?_, hpeak, hcallerRuns, hfill.refused⟩
    · simp only [Usage.note, Pool.start, starters_cons_of_mem hrank, List.map_append,
        ← hfill.workers, List.map_cons, List.map_nil]
    · simp only [Usage.note, hsurplus, hfill.late]
  · obtain ⟨hsurplus, hcallerRuns⟩ := hfits (by omega)
    have hstarters : starters spec (task :: u.accepted) = starters spec u.accepted :=
      starters_cons_of_notMem hmax (.inl ⟨hlow, hhigh⟩)
    refine ⟨?_, ?_, ?_, hfill.peak, hcallerRuns, hfill.refused⟩
    · simp only [Usage.note, hstarters, hfill.workers]
    · simp only [Usage.note, stretch_cons_of_mem hlow hhigh, hfill.queue]
    · simp only [Usage.note, hsurplus, hfill.late]
  · have hstarters : starters spec (task :: u.accepted) = starters spec u.accepted :=
      starters_cons_of_notMem hmax (.inr hrank)
    have hqueue : stretch (task :: u.accepted) spec.corePoolSize spec.queueCapacity =
        stretch u.accepted spec.corePoolSize spec.queueCapacity :=
      stretch_cons_of_notMem (by omega)
    refine ⟨?_, hfill.queue.trans hqueue.symm, ?_, hfill.peak, ?_, hfill.refused⟩
    · simp only [Usage.note, hstarters, hfill.workers]
    · have hlent : ((task :: u.lent : List τ) : Multiset τ) = task ::ₘ u.lent := rfl
      simp only [Usage.note, surplus_cons hrank, ← Multiset.coe_add, hfill.late, hlent,
        Multiset.cons_add]
      exact add_comm _ ({task} : Multiset τ)
    · simp only [Usage.note, List.length_cons, hfill.callerRuns]
      omega

theorem giveBack (hfill : u.FillsInOrder spec) {n : Nat} (h : u.lent[n]? = some task)
    (crashed : Bool) :
    ({ u with
        pool := u.pool.finishOnCaller crashed
        lent := u.lent.eraseIdx n
        ended := task :: u.ended } : Usage τ).FillsInOrder spec := by
  obtain ⟨hlt, hget⟩ := List.getElem?_eq_some_iff.1 h
  have hlent : (u.lent : Multiset τ) = task ::ₘ (u.lent.eraseIdx n : List τ) :=
    Multiset.coe_eq_coe.2 (hget ▸ (List.getElem_cons_eraseIdx_perm hlt).symm)
  have hended : ((task :: u.ended : List τ) : Multiset τ) = task ::ₘ u.ended := rfl
  have hsurplus := hfill.late
  rw [hlent, Multiset.cons_add, ← Multiset.add_cons] at hsurplus
  cases crashed <;>
    exact ⟨hfill.workers, hfill.queue, hsurplus, hfill.peak, hfill.callerRuns, hfill.refused⟩

end FillsInOrder

section Step

variable [DecidableEq τ] {name : String} {action : Action τ}

/-- Tasks that have been submitted stay so, and so do tasks that have ended. -/
theorem suffix_of_step (h : u.step action = some v) :
    u.accepted <:+ v.accepted ∧ u.ended <:+ v.ended := by
  cases rule_of_step h with
  | @submit _ _ placement _ _ =>
    cases placement with
    | refused => exact ⟨List.suffix_rfl, List.suffix_rfl⟩
    | _ => exact ⟨List.suffix_cons _ _, List.suffix_rfl⟩
  | giveBack _ _ => exact ⟨List.suffix_rfl, List.suffix_cons _ _⟩
  | finish _ _ _ => exact ⟨List.suffix_rfl, List.suffix_cons _ _⟩
  | _ => exact ⟨List.suffix_rfl, List.suffix_rfl⟩

/-- A pool whose first tasks are blocked has had them blocked all along. -/
theorem IsBlocked.of_step (hblocked : v.IsBlocked spec) (h : u.step action = some v) :
    u.IsBlocked spec := by
  obtain ⟨haccepted, hended⟩ := suffix_of_step h
  exact fun task htask hmem =>
    hblocked task ((stretch_isPrefix_of_suffix haccepted).subset htask) (hended.subset hmem)

theorem FillsInOrder.step (hsized : spec.IsSized) (hu : u.IsSound spec)
    (hfill : u.FillsInOrder spec) (h : u.step action = some v) (hopen : v.pool.isOpen = true)
    (hblocked : v.IsBlocked spec) : v.FillsInOrder spec := by
  have hwasOpen := (core_le_of_step hu h hopen).1
  cases rule_of_step h with
  | submit _ hsubmit => exact hfill.note hsized hu hwasOpen hsubmit
  | giveBack crashed htask => exact hfill.giveBack htask crashed
  | idle hidle =>
    rw [hfill.idleStep _] at hidle
    cases hidle
  | timeOut htimeOut =>
    rw [hfill.timeOut _] at htimeOut
    cases htimeOut
  | finish _ _ htask =>
    have hfirst := hfill.mem_of_task? hsized.core_le_max htask
    exact absurd List.mem_cons_self (hblocked _ hfirst)
  | shutdown _ _ => cases hopen
  | shutdownAgain _ _ => cases hopen
  | join hjoining _ =>
    rw [hu.isOpen.1 hwasOpen] at hjoining
    cases hjoining

theorem Reachable.fillsInOrder (hsized : spec.IsSized) (h : Reachable name spec u)
    (hopen : u.pool.isOpen = true) (hblocked : u.IsBlocked spec) : u.FillsInOrder spec := by
  induction h with
  | start => exact fillsInOrder_start name spec
  | step action hu hstep ih =>
    have hbefore := ih (core_le_of_step hu.isSound hstep hopen).1 (hblocked.of_step hstep)
    exact hbefore.step hsized hu.isSound hstep hopen hblocked

/-- A task that came too late for the pool has been started, and has ended unless its
submitter is still at it. -/
theorem FillsInOrder.ended_iff (hfill : u.FillsInOrder spec) (hu : u.IsSound spec)
    (h : task ∈ surplus u.accepted (spec.queueCapacity + spec.maxPoolSize)) :
    task ∈ u.started ∧ (task ∈ u.ended ↔ task ∉ u.lent) := by
  have hmem : task ∈ (u.lent : Multiset τ) + u.ended := hfill.late ▸ Multiset.mem_coe.2 h
  have hplaces := hu.count_places task
  have hstarted := hu.count_started task
  have hcount : 1 ≤ u.lent.count task + u.ended.count task := by
    rw [← Multiset.coe_count, ← Multiset.coe_count, ← Multiset.count_add]
    exact Multiset.one_le_count_iff_mem.2 hmem
  have honce : (if task ∈ u.accepted then 1 else 0) ≤ 1 := by split <;> omega
  rw [← List.one_le_count_iff, ← List.one_le_count_iff, ← List.one_le_count_iff]
  omega

/-- What a submission does, told by its rank, which counts from one. -/
theorem FillsInOrder.submit (hsized : spec.IsSized) (hu : u.IsSound spec)
    (hfill : u.FillsInOrder spec) (hopen : u.pool.isOpen = true) (hfresh : task ∉ u.accepted) :
    let rank := u.accepted.length + 1
    ∃ v, u.step (.submit task) = some v ∧ v.accepted = task :: u.accepted ∧
      (rank ≤ spec.corePoolSize ∨ spec.corePoolSize + spec.queueCapacity < rank ∧
          rank ≤ spec.queueCapacity + spec.maxPoolSize →
        v.pool.workers = u.pool.workers ++ [.running task] ∧ v.pool.queue = u.pool.queue ∧
          v.lent = u.lent) ∧
      (spec.corePoolSize < rank ∧ rank ≤ spec.corePoolSize + spec.queueCapacity →
        v.pool.workers = u.pool.workers ∧ v.pool.queue = u.pool.queue ++ [task] ∧
          v.lent = u.lent) ∧
      (spec.queueCapacity + spec.maxPoolSize < rank →
        v.pool.workers = u.pool.workers ∧ v.pool.queue = u.pool.queue ∧
          v.lent = task :: u.lent) := by
  intro rank
  have hmax := hsized.core_le_max
  obtain ⟨pool, placement, hsubmit⟩ :
      ∃ pool placement, u.pool.submit task = (pool, placement) := ⟨_, _, rfl⟩
  have hnew : task ∉ u.accepted ++ u.refused := by rwa [hfill.refused, List.append_nil]
  refine ⟨u.note task pool placement, ?_, ?_⟩
  · rw [Usage.step, if_neg hnew, hsubmit]
  · rcases hfill.placed hsized hu hopen hsubmit with ⟨hrank, rfl, rfl⟩ | ⟨hrank, rfl, rfl⟩ |
      ⟨hrank, rfl, rfl⟩
    · exact ⟨rfl, fun _ => ⟨rfl, rfl, rfl⟩, fun h => by omega, fun h => by omega⟩
    · exact ⟨rfl, fun h => by omega, fun _ => ⟨rfl, rfl, rfl⟩, fun h => by omega⟩
    · exact ⟨rfl, fun h => by omega, fun h => by omega, fun _ => ⟨rfl, rfl, rfl⟩⟩

/-- While the first tasks of an open pool stay blocked, the pool takes its tasks in order, as
many as its queue and its threads hold together; every later task is run by the thread that
submits it, from its submission until its call returns. The rank of a submission alone tells
where it goes, and the number of submissions alone what the pool counts. A pool for a limit
always has the sizes that this needs. -/
theorem Reachable.places_in_order :
    (∀ (name : String) (spec : PoolSpec) (u : Usage τ), 1 ≤ spec.corePoolSize →
      spec.corePoolSize ≤ spec.maxPoolSize → 1 ≤ spec.queueCapacity → Reachable name spec u →
      u.pool.isOpen = true → u.IsBlocked spec →
      let core := spec.corePoolSize
      let q := spec.queueCapacity
      let most := spec.maxPoolSize
      let n := u.accepted.length
      let k := n + 1
      (∀ task, task ∉ u.accepted → ∃ v, u.step (.submit task) = some v ∧
        v.accepted = task :: u.accepted ∧
        (k ≤ core ∨ core + q < k ∧ k ≤ q + most →
          v.pool.workers = u.pool.workers ++ [.running task] ∧ v.pool.queue = u.pool.queue ∧
            v.lent = u.lent) ∧
        (core < k ∧ k ≤ core + q →
          v.pool.workers = u.pool.workers ∧ v.pool.queue = u.pool.queue ++ [task] ∧
            v.lent = u.lent) ∧
        (q + most < k →
          v.pool.workers = u.pool.workers ∧ v.pool.queue = u.pool.queue ∧
            v.lent = task :: u.lent)) ∧
      u.pool.workers = (starters spec u.accepted).map .running ∧
      u.pool.queue = stretch u.accepted core q ∧
      (∀ task ∈ surplus u.accepted (q + most), task ∈ u.started ∧
        (task ∈ u.ended ↔ task ∉ u.lent)) ∧
      u.refused = [] ∧ u.pool.submitted = n ∧
      u.pool.live = min n core + min (n - core - q) (most - core) ∧
      u.pool.peak = min n core + min (n - core - q) (most - core) ∧
      u.pool.callerRuns = n - q - most) ∧
    ∀ limit configuredCore keepAlive,
      let spec := PoolSpec.ofLimit limit configuredCore keepAlive
      1 ≤ spec.corePoolSize ∧ spec.corePoolSize ≤ spec.maxPoolSize ∧ 1 ≤ spec.queueCapacity ∧
      spec.maxPoolSize = max 1 limit ∧ spec.queueCapacity = max 1 limit ∧
      spec.corePoolSize = max 1 (min configuredCore (spec.maxPoolSize - 1)) := by
  refine ⟨?_, fun limit configuredCore keepAlive => ?_⟩
  · intro name spec u hcore hmax hqueue h hopen hblocked core q most n k
    have hsized : spec.IsSized := ⟨hcore, hmax, hqueue⟩
    have hu := h.isSound
    have hfill := h.fillsInOrder hsized hopen hblocked
    have hlive := (hfill.live_eq hu.staffed).trans length_starters
    exact ⟨fun task hfresh => hfill.submit hsized hu hopen hfresh, hfill.workers, hfill.queue,
      fun task htask => hfill.ended_iff hu htask, hfill.refused, hu.submitted, hlive,
      hfill.peak.trans hlive, hfill.callerRuns.trans (Nat.sub_add_eq ..)⟩
  · have hsized := PoolSpec.isSized_ofLimit limit configuredCore keepAlive
    exact ⟨hsized.core_pos, hsized.core_le_max, hsized.queue_pos, Nat.max_comm .., Nat.max_comm ..,
      Nat.max_comm ..⟩

/-- A pool of one core thread, a queue of two and one further thread that has taken six tasks,
the last two on their submitters: of these one has ended and the other not yet. The next task
would be left to its submitter as well. -/
theorem Reachable.places_six_tasks :
    ∃ u : Usage Nat, Reachable "pool" ⟨1, 2, 2, 0⟩ u ∧ u.accepted = [5, 4, 3, 2, 1, 0] ∧
      u.pool.workers = [.running 0, .running 3] ∧ u.pool.queue = [1, 2] ∧ u.lent = [5] ∧
      u.ended = [4] ∧ u.pool.live = 2 ∧ u.pool.peak = 2 ∧ u.pool.callerRuns = 2 ∧
      ∃ v, u.step (.submit 6) = some v ∧ v.lent = [6, 5] := by
  obtain ⟨u, hrun, hopen, haccepted, hlent, hended⟩ :
      ∃ u : Usage Nat, (Usage.start "pool" ⟨1, 2, 2, 0⟩).run
        [.submit 0, .submit 1, .submit 2, .submit 3, .submit 4, .giveBack 0 false,
          .submit 5] = some u ∧
        u.pool.isOpen = true ∧ u.accepted = [5, 4, 3, 2, 1, 0] ∧ u.lent = [5] ∧ u.ended = [4] :=
    ⟨_, rfl, rfl, rfl, rfl, rfl⟩
  have hu : Reachable "pool" ⟨1, 2, 2, 0⟩ u := Reachable.start.run hrun
  have hblocked : u.IsBlocked ⟨1, 2, 2, 0⟩ := by
    rw [IsBlocked, haccepted, hended]
    decide
  obtain ⟨hplaces, hworkers, hqueue, -, -, -, hlive, hpeak, hcallerRuns⟩ :=
    Reachable.places_in_order.1 "pool" ⟨1, 2, 2, 0⟩ u (by decide) (by decide) (by decide) hu hopen
      hblocked
  rw [haccepted] at hworkers hqueue hlive hpeak hcallerRuns hplaces
  obtain ⟨v, hstep, -, -, -, hlast⟩ := hplaces 6 (by decide)
  exact ⟨u, hu, haccepted, hworkers, hqueue, hlent, hended, hlive, hpeak, hcallerRuns,
    v, hstep, (hlast (by decide)).2.2.trans (congrArg _ hlent)⟩

end Step
end Usage
end TableCopy
