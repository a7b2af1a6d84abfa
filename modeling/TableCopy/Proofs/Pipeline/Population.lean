import Mathlib.Algebra.Order.BigOperators.Group.Multiset
import Mathlib.Algebra.Order.Group.Multiset
import Mathlib.Algebra.Order.Group.Nat
import Mathlib.Data.Multiset.Bind
import Mathlib.Tactic.Abel
import TableCopy.Pipeline.Simulation
import TableCopy.Proofs.Pool.Tasks

/-!
# The holders of a copy

What a copy still has to do is held by the controlling thread, by segment tasks, by
deliveries and by chunk tasks. A thread may run one inside another, and a pool may
queue a task or run it; `population` is the multiset of all holders, whatever their
places. A step of a copy is a turn of one holder, or of two that meet, and leaves
the other holders alone.
-/

namespace TableCopy

variable {α ι : Type}

/-- Whoever has a part of the work of a copy. A segment whose page is being delivered is
held apart from the delivery, and the delivery apart from the chunk that it runs. -/
inductive Holder (α ι : Type)
  | control (control : Control α ι)
  | segment (task : SegmentTask α ι)
  | delivery (delivery : Delivery α ι)
  | chunk (task : ChunkTask α ι)

namespace Holder

variable {M : Type} [AddCommMonoid M]

/-- The sum of a weight over holders. -/
def total (weight : Holder α ι → M) (holders : Multiset (Holder α ι)) : M :=
  (holders.map weight).sum

@[simp] theorem total_zero (weight : Holder α ι → M) : total weight 0 = 0 := rfl

@[simp] theorem total_singleton (weight : Holder α ι → M) (holder : Holder α ι) :
    total weight {holder} = weight holder :=
  Multiset.sum_singleton _

@[simp] theorem total_cons (weight : Holder α ι → M) (holder : Holder α ι)
    (holders : Multiset (Holder α ι)) :
    total weight (holder ::ₘ holders) = weight holder + total weight holders := by
  rw [total, Multiset.map_cons, Multiset.sum_cons, total]

@[simp] theorem total_add (weight : Holder α ι → M) (holders others : Multiset (Holder α ι)) :
    total weight (holders + others) = total weight holders + total weight others := by
  rw [total, Multiset.map_add, Multiset.sum_add, total, total]

theorem total_le_total {weight weight' : Holder α ι → Nat}
    (h : ∀ holder, weight holder ≤ weight' holder) (holders : Multiset (Holder α ι)) :
    total weight holders ≤ total weight' holders :=
  Multiset.sum_map_le_sum_map weight weight' fun holder _ => h holder

theorem le_total_of_mem (weight : Holder α ι → Nat) {holder : Holder α ι}
    {holders : Multiset (Holder α ι)} (h : holder ∈ holders) :
    weight holder ≤ total weight holders :=
  Multiset.single_le_sum (fun _ _ => Nat.zero_le _) _ (Multiset.mem_map_of_mem weight h)

/-- A total that is not zero has a holder that counts. -/
theorem exists_of_total_ne_zero {weight : Holder α ι → M} {holders : Multiset (Holder α ι)}
    (h : total weight holders ≠ 0) : ∃ holder ∈ holders, weight holder ≠ 0 := by
  by_contra hnone
  refine h (Multiset.sum_eq_zero fun x hx => ?_)
  obtain ⟨holder, hmem, rfl⟩ := Multiset.mem_map.1 hx
  by_contra hne
  exact hnone ⟨holder, hmem, hne⟩

end Holder

/-- What stands in a segment task for a delivery that is held apart. -/
def Delivery.absent : Delivery α ι := ⟨0, .ended (.ok ())⟩

def Delivery.holders (delivery : Delivery α ι) : Multiset (Holder α ι) :=
  match delivery with
  | ⟨segment, .running task rest⟩ => {.delivery ⟨segment, .splitting rest⟩} + {.chunk task}
  | delivery => {.delivery delivery}

def SegmentTask.holders (task : SegmentTask α ι) : Multiset (Holder α ι) :=
  match task with
  | ⟨segment, key, pages, .delivering nextKey delivery⟩ =>
    {.segment ⟨segment, key, pages, .delivering nextKey Delivery.absent⟩} + delivery.holders
  | task => {.segment task}

def Control.holders (control : Control α ι) : Multiset (Holder α ι) :=
  match control with
  | .running task left => {.control (.submitting left)} + task.holders
  | control => {.control control}

namespace State

/-- The holders in the read pool. -/
def readers (s : State α ι) : Multiset (Holder α ι) := s.readPool.tasks.bind SegmentTask.holders

/-- The holders in the write pool. -/
def writers (s : State α ι) : Multiset (Holder α ι) := s.writePool.tasks.map .chunk

/-- All holders. -/
def population (s : State α ι) : Multiset (Holder α ι) :=
  s.control.holders + s.readers + s.writers

end State

namespace ChunkTask

theorem exists_of_isFinished {task : ChunkTask α ι} (h : task.isFinished = true) :
    ∃ segment pending, task = ⟨segment, pending, .finished⟩ := by
  obtain ⟨segment, pending, phase⟩ := task
  cases phase <;> first | exact ⟨segment, pending, rfl⟩ | cases h

theorem call?_of_isFinished {task : ChunkTask α ι} (h : task.isFinished = true) :
    task.call? = none := by
  obtain ⟨segment, pending, rfl⟩ := exists_of_isFinished h
  rfl

end ChunkTask

namespace SegmentTask

theorem holders_advance (task : SegmentTask α ι) (nextKey : Option ι) :
    (task.advance nextKey).holders = {.segment (task.advance nextKey)} := by
  cases nextKey <;> rfl

theorem holders_afterHandover (task : SegmentTask α ι) (nextKey : Option ι)
    (result : Except CopyError Unit) :
    (task.afterHandover nextKey result).holders =
      {.segment (task.afterHandover nextKey result)} := by
  cases result with
  | ok => exact task.holders_advance nextKey
  | error => rfl

/-- Where a segment goes on does not depend on the delivery that has ended. -/
theorem afterHandover_phase (segment : Nat) (key : Option ι) (pages : Nat)
    (phase phase' : SegmentPhase α ι) (nextKey : Option ι) (result : Except CopyError Unit) :
    afterHandover ⟨segment, key, pages, phase⟩ nextKey result =
      afterHandover ⟨segment, key, pages, phase'⟩ nextKey result := by
  cases result <;> cases nextKey <;> rfl

theorem exists_of_isFinished {task : SegmentTask α ι} (h : task.isFinished = true) :
    ∃ segment key pages, task = ⟨segment, key, pages, .finished⟩ := by
  obtain ⟨segment, key, pages, phase⟩ := task
  cases phase <;> first | exact ⟨segment, key, pages, rfl⟩ | cases h

theorem call?_of_isFinished [Quantity α] {setup : Setup α} {task : SegmentTask α ι}
    (h : task.isFinished = true) :
    task.call? setup = none := by
  obtain ⟨segment, key, pages, rfl⟩ := exists_of_isFinished h
  rfl

/-- A finished segment task is held by nobody else. -/
theorem holders_of_isFinished {task : SegmentTask α ι} (h : task.isFinished = true) :
    task.holders = {.segment task} := by
  obtain ⟨segment, key, pages, rfl⟩ := exists_of_isFinished h
  rfl

end SegmentTask

namespace State

variable {s t : State α ι}

/-- The holders, with those of one running segment task and the write pool first. -/
theorem population_of_readers {held others : Multiset (Holder α ι)}
    (h : s.readers = held + others) :
    s.population = held + s.writers + (s.control.holders + others) := by
  rw [population, h]
  abel

/-- A pool that holds the same tasks holds the same population, wherever they are in it. -/
theorem population_readPool {pool : Pool (SegmentTask α ι)} (h : pool.tasks = s.readPool.tasks) :
    ({ s with readPool := pool } : State α ι).population = s.population := by
  rw [population, readers, h, population, readers]
  rfl

theorem population_writePool {pool : Pool (ChunkTask α ι)} (h : pool.tasks = s.writePool.tasks) :
    ({ s with writePool := pool } : State α ι).population = s.population := by
  rw [population, writers, h, population, writers]
  rfl

theorem writers_congr (h : t.writePool = s.writePool) : t.writers = s.writers := by
  rw [writers, writers, h]

/-- A chunk that the write pool takes is among its holders from then on. -/
theorem writers_of_taken {pool : Pool (ChunkTask α ι)} {task : ChunkTask α ι}
    (h : pool.tasks = task ::ₘ s.writePool.tasks) :
    ({ s with writePool := pool } : State α ι).writers = {.chunk task} + s.writers := by
  rw [writers, h, Multiset.map_cons, writers]
  rfl

theorem writers_of_tasks_eq {pool : Pool (ChunkTask α ι)} (h : pool.tasks = s.writePool.tasks) :
    ({ s with writePool := pool } : State α ι).writers = s.writers := by
  rw [writers, h, writers]

/-- A segment that the read pool takes is among its holders from then on. -/
theorem readers_of_taken {pool : Pool (SegmentTask α ι)} {segment : Nat}
    (h : pool.tasks = ⟨segment, none, 0, .ready⟩ ::ₘ s.readPool.tasks) :
    ({ s with readPool := pool } : State α ι).readers =
      {.segment ⟨segment, none, 0, .ready⟩} + s.readers := by
  rw [readers, h, Multiset.cons_bind]
  rfl

theorem readers_of_tasks_eq {pool : Pool (SegmentTask α ι)} (h : pool.tasks = s.readPool.tasks) :
    ({ s with readPool := pool } : State α ι).readers = s.readers := by
  rw [readers, h, readers]

end State
end TableCopy
