import TableCopy.Job.Run
import TableCopy.Proofs.Pipeline.Places
import TableCopy.Proofs.Pipeline.Population
import TableCopy.Proofs.Pool.Change

/-!
# The pools of a copy

Every step of a copy changes each of its two pools by one change at most. A chunk that runs
on the thread of its segment is lent by the write pool, and a segment that runs on the
controlling thread by the read pool.
-/

namespace TableCopy

variable {α ι : Type}

/-- One for a delivery that runs a chunk itself. -/
def Delivery.lent (delivery : Delivery α ι) : Nat :=
  match delivery.phase with
  | .running .. => 1
  | _ => 0

/-- One for a segment task whose thread runs a chunk. -/
def SegmentTask.lent (task : SegmentTask α ι) : Nat :=
  match task.phase with
  | .delivering _ delivery => delivery.lent
  | _ => 0

namespace Control

/-- One for a controlling thread that runs a segment. -/
def lentSegments : Control α ι → Nat
  | running .. => 1
  | _ => 0

/-- One for a controlling thread that runs a chunk. -/
def lentChunks : Control α ι → Nat
  | running task _ => task.lent
  | _ => 0

end Control

namespace State

/-- The chunks that run on the threads of their segments. -/
def lentChunks (s : State α ι) : Nat :=
  s.control.lentChunks + (s.readPool.tasks.map SegmentTask.lent).sum

end State

namespace Move

/-- The thread of the read pool whose step a move is. -/
def reader? : Move α ι → Option Nat
  | act (.reader i) _ | timeOut (.reader i) => some i
  | _ => none

/-- The thread of the write pool whose step a move is. -/
def writer? : Move α ι → Option Nat
  | act (.writer i) _ | timeOut (.writer i) => some i
  | _ => none

end Move

namespace SegmentTask

theorem lent_advance (task : SegmentTask α ι) (nextKey : Option ι) :
    (task.advance nextKey).lent = 0 := by
  cases nextKey <;> rfl

theorem lent_afterHandover (task : SegmentTask α ι) (nextKey : Option ι)
    (result : Except CopyError Unit) : (task.afterHandover nextKey result).lent = 0 := by
  cases result with
  | ok => exact task.lent_advance nextKey
  | error => rfl

theorem lent_of_isFinished {task : SegmentTask α ι} (h : task.isFinished = true) :
    task.lent = 0 := by
  obtain ⟨segment, key, pages, rfl⟩ := exists_of_isFinished h
  rfl

end SegmentTask

/-! ## Tasks of the pools among the holders -/

namespace Holder

/-- One for a segment task. -/
def segmentTasks : Holder α ι → Nat
  | .segment _ => 1
  | _ => 0

/-- One for a chunk task. -/
def chunkTasks : Holder α ι → Nat
  | .chunk _ => 1
  | _ => 0

theorem total_bind {β : Type} (weight : Holder α ι → Nat) (tasks : Multiset β)
    (holders : β → Multiset (Holder α ι)) :
    total weight (tasks.bind holders) =
      (tasks.map fun task => total weight (holders task)).sum := by
  rw [total, Multiset.map_bind, Multiset.sum_bind]
  rfl

theorem segmentTasks_delivery (delivery : Delivery α ι) :
    total segmentTasks delivery.holders = 0 := by
  obtain ⟨segment, phase⟩ := delivery
  cases phase <;> rfl

theorem chunkTasks_delivery (delivery : Delivery α ι) :
    total chunkTasks delivery.holders = delivery.lent := by
  obtain ⟨segment, phase⟩ := delivery
  cases phase <;> rfl

theorem segmentTasks_segment (task : SegmentTask α ι) : total segmentTasks task.holders = 1 := by
  obtain ⟨segment, key, pages, phase⟩ := task
  cases phase with
  | delivering nextKey delivery =>
    rw [SegmentTask.holders, total_add, segmentTasks_delivery]
    rfl
  | _ => rfl

theorem chunkTasks_segment (task : SegmentTask α ι) :
    total chunkTasks task.holders = task.lent := by
  obtain ⟨segment, key, pages, phase⟩ := task
  cases phase with
  | delivering nextKey delivery =>
    rw [SegmentTask.holders, total_add, chunkTasks_delivery]
    exact Nat.zero_add _
  | _ => rfl

theorem segmentTasks_control (control : Control α ι) :
    total segmentTasks control.holders = control.lentSegments := by
  cases control with
  | running task left =>
    rw [Control.holders, total_add, segmentTasks_segment]
    rfl
  | _ => rfl

theorem chunkTasks_control (control : Control α ι) :
    total chunkTasks control.holders = control.lentChunks := by
  cases control with
  | running task left =>
    rw [Control.holders, total_add, chunkTasks_segment]
    exact Nat.zero_add _
  | _ => rfl

end Holder

namespace State

open Holder

/-- The segment tasks are those of the read pool and the one that it has lent. -/
theorem total_segmentTasks (s : State α ι) :
    total segmentTasks s.population = s.readPool.tasks.card + s.control.lentSegments := by
  have hreaders : total segmentTasks s.readers = s.readPool.tasks.card := by
    rw [readers, total_bind]
    simp [segmentTasks_segment]
  have hwriters : total segmentTasks s.writers = 0 := by
    simp [writers, total, segmentTasks, Function.comp_def]
  rw [population, total_add, total_add, segmentTasks_control, hreaders, hwriters, Nat.add_zero,
    Nat.add_comm]

/-- The chunk tasks are those of the write pool and those that it has lent. -/
theorem total_chunkTasks (s : State α ι) :
    total chunkTasks s.population = s.writePool.tasks.card + s.lentChunks := by
  have hreaders : total chunkTasks s.readers =
      (s.readPool.tasks.map SegmentTask.lent).sum := by
    rw [readers, total_bind]
    simp only [chunkTasks_segment]
  have hwriters : total chunkTasks s.writers = s.writePool.tasks.card := by
    simp [writers, total, chunkTasks, Function.comp_def]
  rw [population, total_add, total_add, chunkTasks_control, hreaders, hwriters, lentChunks,
    Nat.add_comm]

end State

/-! ## Steps -/

variable [Quantity α] {setup : Setup α} {s t : State α ι} {answer : Answer α ι}

/-- A delivery changes the write pool when it submits a chunk, and when it has run one. -/
theorem Delivery.change_of_step {delivery next : Delivery α ι}
    (h : delivery.step setup s answer = some (t, next)) (others : Nat) :
    s.writePool.Change none (delivery.lent + others) t.writePool (next.lent + others) := by
  rcases rule_of_step h with hrule |
    ⟨segment, chunk, rest, rfl, pool, placement, hsubmit, rfl, rfl⟩ |
    ⟨segment, task, rest, rfl, -, rfl, rfl⟩ | ⟨segment, task, rest, task', rfl, hstep, rfl⟩
  · rw [hrule.places.2.1]
    have hlent : delivery.lent = 0 ∧ next.lent = 0 := by cases hrule <;> exact ⟨rfl, rfl⟩
    rw [hlent.1, hlent.2]
    exact .keep
  · have hchange : s.writePool.Change none others pool
        (if placement = .onCaller then others + 1 else others) := .submit hsubmit
    cases placement <;> simpa [afterSubmission, lent, Nat.add_comm others] using hchange
  · have hbefore : Delivery.lent (⟨segment, .running task rest⟩ : Delivery α ι) + others =
        others + 1 := Nat.add_comm 1 others
    have hafter : Delivery.lent (⟨segment, .splitting rest⟩ : Delivery α ι) + others = others :=
      Nat.zero_add others
    rw [hbefore, hafter]
    exact .takeBack
  · rw [(ChunkTask.rule_of_step hstep).places.2.1]
    exact .keep

theorem SegmentTask.change_of_step {task next : SegmentTask α ι}
    (hpaced : setup.outsideConsumer = false) (h : task.step setup s answer = some (t, next))
    (others : Nat) :
    s.writePool.Change none (task.lent + others) t.writePool (next.lent + others) := by
  rcases rule_of_step hpaced h with hrule | ⟨segment, key, pages, page, rfl, -, rfl, rfl⟩ |
    ⟨segment, key, pages, nextKey, number, result, rfl, rfl, rfl⟩ |
    ⟨segment, key, pages, nextKey, delivery, delivery', rfl, hstep, rfl⟩
  · rw [hrule.places.2.1]
    have hlent : task.lent = 0 ∧ next.lent = 0 := by
      cases hrule with
      | skip => exact ⟨rfl, lent_advance _ _⟩
      | takenOutside => exact ⟨rfl, lent_afterHandover _ _ _⟩
      | _ => exact ⟨rfl, rfl⟩
    rw [hlent.1, hlent.2]
    exact .keep
  · exact .keep
  · rw [lent_afterHandover]
    exact .keep
  · exact Delivery.change_of_step hstep others

namespace State

omit [Quantity α] in
/-- A running segment can be told apart from the others. -/
theorem lentChunks_of_tasks {task : SegmentTask α ι} {others : Multiset (SegmentTask α ι)}
    (h : s.readPool.tasks = task ::ₘ others) :
    s.lentChunks = task.lent + (s.control.lentChunks + (others.map SegmentTask.lent).sum) := by
  rw [lentChunks, h, Multiset.map_cons, Multiset.sum_cons, Nat.add_left_comm]

theorem pools_of_readerStep {i : Nat} (hpaced : setup.outsideConsumer = false)
    (h : s.readerStep setup i answer = some t) :
    s.readPool.Change (some i) s.control.lentSegments t.readPool t.control.lentSegments ∧
      s.writePool.Change none s.lentChunks t.writePool t.lentChunks := by
  cases rule_of_readerStep h with
  | @retire task htask hfinished =>
    obtain ⟨rest, htasks, -, hfinish⟩ := Pool.exists_tasks_eq_cons htask
    have hafter : ({ s with readPool := s.readPool.finish i false } : State α ι).lentChunks =
        s.control.lentChunks + (rest.map SegmentTask.lent).sum := by
      rw [lentChunks, hfinish]
    rw [lentChunks_of_tasks htasks, hafter, SegmentTask.lent_of_isFinished hfinished, Nat.zero_add]
    exact ⟨.finish htask, .keep⟩
  | @advance task _ u next htask hstep =>
    obtain ⟨rest, htasks, hset, -⟩ := Pool.exists_tasks_eq_cons htask
    obtain ⟨hread, hcontrol⟩ := SegmentTask.places_of_step hpaced hstep
    have hnext : ({ u with readPool := u.readPool.setWorker i (.running next) } :
        State α ι).readPool.tasks = next ::ₘ rest := by
      rw [← hset next, ← hread]
    rw [lentChunks_of_tasks htasks, lentChunks_of_tasks hnext]
    dsimp only
    rw [hread, hcontrol]
    exact ⟨.advance htask, SegmentTask.change_of_step hpaced hstep _⟩
  | @idle pool htask hidle =>
    have hsame : ({ s with readPool := pool } : State α ι).lentChunks = s.lentChunks := by
      rw [lentChunks, Pool.tasks_idleStep hidle]
      rfl
    rw [hsame]
    exact ⟨.idle hidle, .keep⟩

theorem pools_of_writerStep {i : Nat} (h : s.writerStep setup i answer = some t) :
    s.readPool.Change none s.control.lentSegments t.readPool t.control.lentSegments ∧
      s.writePool.Change (some i) s.lentChunks t.writePool t.lentChunks := by
  cases rule_of_writerStep h with
  | retire htask hfinished => exact ⟨.keep, .finish htask⟩
  | @advance task _ u next htask hstep =>
    obtain ⟨hread, hwrite, hcontrol⟩ := (ChunkTask.rule_of_step hstep).places
    have hsame : ({ u with writePool := u.writePool.setWorker i (.running next) } :
        State α ι).lentChunks = s.lentChunks := by
      rw [lentChunks, lentChunks, hread, hcontrol]
    dsimp only
    rw [hsame, hread, hwrite, hcontrol]
    exact ⟨.keep, .advance htask⟩
  | idle htask hidle => exact ⟨.keep, .idle hidle⟩

omit [Quantity α] in
/-- A submitted segment may run on the controlling thread; no chunk does so far. -/
theorem lent_afterSubmission (segment : Nat) (left : List Nat) (placement : Placement) :
    (Control.afterSubmission segment left placement : Control α ι).lentSegments =
        (if placement = .onCaller then 0 + 1 else 0) ∧
      (Control.afterSubmission segment left placement : Control α ι).lentChunks = 0 := by
  cases placement <;> exact ⟨rfl, rfl⟩

theorem pools_of_controlStep (hpaced : setup.outsideConsumer = false)
    (hpiping : s.control.isPiping = true) (h : s.controlStep setup answer = some t) :
    s.readPool.Change none s.control.lentSegments t.readPool t.control.lentSegments ∧
      s.writePool.Change none s.lentChunks t.writePool t.lentChunks := by
  rcases Control.rule_of_step hpaced hpiping h with ⟨-, c, u, c', hcontrol, hrule, rfl⟩ |
    ⟨segment, left, hcontrol, pool, placement, hsubmit, rfl⟩ |
    ⟨task, left, hcontrol, hfinished, rfl⟩ | ⟨task, left, u, next, hcontrol, hstep, rfl⟩
  · simp only [lentChunks, hcontrol]
    cases hrule with
    | closeRead => exact ⟨.close, .keep⟩
    | closeWrite => exact ⟨.keep, .close⟩
    | _ => exact ⟨.keep, .keep⟩
  · obtain ⟨hafter, hnone⟩ := lent_afterSubmission segment left placement
    refine ⟨?_, ?_⟩
    · rw [hcontrol, hafter]
      exact .submit hsubmit
    · have hsame : ({ s with
            readPool := pool
            control := Control.afterSubmission segment left placement } :
          State α ι).lentChunks = s.lentChunks := by
        rw [lentChunks, lentChunks, hcontrol, hnone]
        exact congrArg _ (Pool.sum_tasks_submit hsubmit SegmentTask.lent rfl)
      rw [hsame]
      exact .keep
  · have hsame : ({ s with
          readPool := s.readPool.finishOnCaller false
          control := .submitting left } : State α ι).lentChunks = s.lentChunks := by
      have hlent := SegmentTask.lent_of_isFinished hfinished
      simp only [lentChunks, hcontrol, Pool.tasks_finishOnCaller, Control.lentChunks, hlent]
    rw [hsame, hcontrol]
    exact ⟨.takeBack, .keep⟩
  · obtain ⟨hread, -⟩ := SegmentTask.places_of_step hpaced hstep
    simp only [lentChunks, hcontrol, hread]
    exact ⟨.keep, SegmentTask.change_of_step hpaced hstep _⟩

/-- Every step of a copy in a pipe changes each pool by one change at most. -/
theorem pools_of_step {move : Move α ι} (hpaced : setup.outsideConsumer = false)
    (hpiping : s.control.isPiping = true) (h : s.step setup move = some t) :
    s.readPool.Change move.reader? s.control.lentSegments t.readPool t.control.lentSegments ∧
      s.writePool.Change move.writer? s.lentChunks t.writePool t.lentChunks := by
  cases rule_of_step h with
  | interrupt | elapse => exact ⟨.keep, .keep⟩
  | control h => exact pools_of_controlStep hpaced hpiping h
  | reader h => exact pools_of_readerStep hpaced h
  | writer h => exact pools_of_writerStep h
  | @readerTimeOut i pool hout =>
    have hsame : ({ s with readPool := pool } : State α ι).lentChunks = s.lentChunks := by
      rw [lentChunks, Pool.tasks_timeOut hout]
      rfl
    rw [hsame]
    exact ⟨.timeOut hout, .keep⟩
  | writerTimeOut hout => exact ⟨.keep, .timeOut hout⟩

omit [Quantity α] in
/-- The release of the pools changes neither of them. -/
theorem pools_releasing {result : Except CopyError Unit} (h : s.control = .returned result) :
    s.readPool.Change none s.control.lentSegments s.releasing.readPool
        s.releasing.control.lentSegments ∧
      s.writePool.Change none s.lentChunks s.releasing.writePool s.releasing.lentChunks := by
  have hnext : s.releasing = { s with control := .closingRead result } := by rw [releasing, h]
  rw [hnext, lentChunks, lentChunks, h]
  exact ⟨.keep, .keep⟩

/-- The pools of a copy leave a task that they refuse nowhere. -/
structure IsReliable (s : State α ι) : Prop where
  read : s.readPool.IsReliable
  write : s.writePool.IsReliable

/-- Reliable pools stay so. -/
theorem IsReliable.step {move : Move α ι} (hs : s.IsReliable)
    (hpaced : setup.outsideConsumer = false) (hpiping : s.control.isPiping = true)
    (h : s.step setup move = some t) : t.IsReliable := by
  obtain ⟨hread, hwrite⟩ := pools_of_step hpaced hpiping h
  exact ⟨hs.read.of_provision_eq hread.provision_eq, hs.write.of_provision_eq hwrite.provision_eq⟩

omit [Quantity α] in
theorem IsReliable.releasing (hs : s.IsReliable) {result : Except CopyError Unit}
    (h : s.control = .returned result) : s.releasing.IsReliable := by
  obtain ⟨hread, hwrite⟩ := pools_releasing h
  exact ⟨hs.read.of_provision_eq hread.provision_eq, hs.write.of_provision_eq hwrite.provision_eq⟩

end State
end TableCopy
