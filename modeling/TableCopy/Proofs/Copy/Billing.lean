import TableCopy.Proofs.Pacing.Limiter
import TableCopy.Proofs.Pipeline.Run
import TableCopy.Proofs.Tally

/-!
# Billing

What a page or a batch has consumed is billed to the task that asked for it. The bill is
charged in steps to the pacer for reads or for writes, and the capacity is counted once all
of it is charged. A turn of a copy opens a bill, charges a step of one, counts one that is
paid, or leaves all of them alone.
-/

namespace TableCopy

variable {α ι : Type}

/-- A capacity that was consumed, with the permits that are still to be charged for it. -/
structure Bill (α : Type) where
  capacity : α
  remaining : Nat
  deriving DecidableEq, Repr

namespace Bill

/-- The capacities that are billed. -/
def capacities (bills : Multiset (Bill α)) : Multiset α := bills.map capacity

/-- The capacities whose bills are not paid in full. -/
def unpaid (bills : Multiset (Bill α)) : Multiset α :=
  capacities (bills.filter fun bill => bill.remaining ≠ 0)

@[simp] theorem capacities_zero : capacities (0 : Multiset (Bill α)) = 0 := rfl

@[simp] theorem capacities_cons (bill : Bill α) (bills : Multiset (Bill α)) :
    capacities (bill ::ₘ bills) = bill.capacity ::ₘ capacities bills :=
  Multiset.map_cons _ _ _

theorem unpaid_le_capacities (bills : Multiset (Bill α)) : unpaid bills ≤ capacities bills :=
  Multiset.map_le_map (Multiset.filter_le _ _)

theorem unpaid_cons (bill : Bill α) (bills : Multiset (Bill α)) :
    unpaid (bill ::ₘ bills) =
      (if bill.remaining = 0 then 0 else {bill.capacity}) + unpaid bills := by
  unfold unpaid
  split
  · rename_i hpaid
    rw [Multiset.filter_cons_of_neg (p := fun bill : Bill α => bill.remaining ≠ 0) _
      (not_not_intro hpaid), zero_add]
  · rename_i hunpaid
    rw [Multiset.filter_cons_of_pos (p := fun bill : Bill α => bill.remaining ≠ 0) _ hunpaid,
      capacities_cons, Multiset.singleton_add]

end Bill

def Setup.throughput (setup : Setup α) : Direction → Option α
  | .read => setup.scan.throughput
  | .write => setup.write.throughput

def Shared.pacer (shared : Shared α ι) : Direction → Pacer α
  | .read => shared.readPacer
  | .write => shared.writePacer

/-- The capacity of a counted page, and the units of a counted batch. -/
@[simp] def Entry.consumed : Direction → Entry α ι → Multiset α
  | .read, scanned _ page => {page.capacity}
  | .write, written _ _ units => {units}
  | _, _ => 0

/-- The capacity of a fetched page, and the units of an acknowledged batch. -/
@[simp] def Exchange.consumed [Quantity α] : Direction → Exchange α ι → Multiset α
  | .read, ⟨.page _, .page (.returned (.ok page))⟩ => {page.capacity}
  | .write, ⟨.batch items, .batch (.returned (.ok outcome))⟩ =>
    {ChunkTask.units ⟨0, items, .ready⟩ outcome}
  | _, _ => 0

/-- What is counted of reads, or of writes. -/
def Shared.counted (direction : Direction) (shared : Shared α ι) : Multiset α :=
  tally (Entry.consumed direction) shared.journal

namespace Holder

/-- The bill of a task for a page, or for a batch, that it has not counted yet. -/
@[simp] def bills : Direction → Holder α ι → Multiset (Bill α)
  | .read, .segment ⟨_, _, _, .charging page permits _⟩ => {⟨page.capacity, permits⟩}
  | .read, .segment ⟨_, _, _, .recording page⟩ => {⟨page.capacity, 0⟩}
  | .write, .chunk ⟨_, _, .charging _ _ units permits _⟩ => {⟨units, permits⟩}
  | .write, .chunk ⟨_, _, .recording _ _ units⟩ => {⟨units, 0⟩}
  | _, _ => 0

/-- Whether a task that reads, or one that writes, has started and not finished. -/
def isRunning : Direction → Holder α ι → Bool
  | .read, .segment ⟨_, _, _, .ready⟩ | .read, .segment ⟨_, _, _, .finished⟩ => false
  | .read, .segment _ => true
  | .write, .chunk ⟨_, _, .ready⟩ | .write, .chunk ⟨_, _, .finished⟩ => false
  | .write, .chunk _ => true
  | _, _ => false

variable {direction : Direction}

/-- Only a running task has a bill, and it has one at most. -/
theorem card_bills_le (holder : Holder α ι) :
    (holder.bills direction).card ≤ if holder.isRunning direction then 1 else 0 := by
  cases direction with
  | read =>
    rcases holder with c | ⟨segment, key, pages, phase⟩ | d | task
    · exact Nat.zero_le _
    · cases phase with
      | charging | recording => exact le_rfl
      | _ => exact Nat.zero_le _
    · exact Nat.zero_le _
    · exact Nat.zero_le _
  | write =>
    rcases holder with c | task | d | ⟨segment, pending, phase⟩
    · exact Nat.zero_le _
    · exact Nat.zero_le _
    · exact Nat.zero_le _
    · cases phase with
      | charging | recording => exact le_rfl
      | _ => exact Nat.zero_le _

theorem bills_control (c : Control α ι) : bills direction (.control c) = 0 := by
  cases direction <;> rfl

theorem bills_delivery (delivery : Delivery α ι) : bills direction (.delivery delivery) = 0 := by
  cases direction <;> rfl

theorem bills_advance (task : SegmentTask α ι) (nextKey : Option ι) :
    bills direction (.segment (task.advance nextKey)) = 0 := by
  cases direction <;> cases nextKey <;> rfl

theorem bills_afterHandover (task : SegmentTask α ι) (nextKey : Option ι)
    (result : Except CopyError Unit) :
    bills direction (.segment (task.afterHandover nextKey result)) = 0 := by
  cases result with
  | ok => exact bills_advance task nextKey
  | error => cases direction <;> rfl

end Holder

namespace State

/-- The bills of all tasks in one direction. -/
def bills (direction : Direction) (s : State α ι) : Multiset (Bill α) :=
  Holder.total (Holder.bills direction) s.population

/-- What was counted in one direction. A page is counted before it is handed to the
consumer. -/
def counted (direction : Direction) (s : State α ι) : Multiset α := s.shared.counted direction

/-- What was consumed in one direction and is not counted yet. -/
def billed (direction : Direction) (s : State α ι) : Multiset α :=
  Bill.capacities (s.bills direction)

/-- What was consumed in one direction and is not paid in full. -/
def unpaid (direction : Direction) (s : State α ι) : Multiset α := Bill.unpaid (s.bills direction)

/-- The number of running tasks that read, or that write. -/
def running (direction : Direction) (s : State α ι) : Nat :=
  s.population.countP fun holder => holder.isRunning direction = true

/-- There is one bill at most for each running task. -/
theorem card_billed_le (direction : Direction) (s : State α ι) :
    (s.billed direction).card ≤ s.running direction := by
  rw [billed, Bill.capacities, Multiset.card_map, bills, running]
  induction s.population using Multiset.induction with
  | empty => exact le_rfl
  | cons holder holders ih =>
    rw [Holder.total_cons, Multiset.card_add, Multiset.countP_cons, Nat.add_comm]
    exact Nat.add_le_add ih holder.card_bills_le

end State

variable [Quantity α]

/-- What a turn can do to the bills in one direction: the bills before, the capacity that
was consumed, and the bills after. -/
inductive Billing (direction : Direction) (s t : Shared α ι) :
    Multiset (Bill α) → Multiset α → Multiset (Bill α) → Prop
  | keep {bills} (hpacer : t.pacer direction = s.pacer direction)
      (hcounted : t.counted direction = s.counted direction) : Billing direction s t bills 0 bills
  /-- A page was fetched, or a batch acknowledged. -/
  | bill {capacity} (hpacer : t.pacer direction = s.pacer direction)
      (hcounted : t.counted direction = s.counted direction) :
    Billing direction s t 0 {capacity} {⟨capacity, (s.pacer direction).permits capacity⟩}
  | charge {capacity remaining left}
      (h : (s.pacer direction).charge s.now remaining = .granted (t.pacer direction) left)
      (hcounted : t.counted direction = s.counted direction) :
    Billing direction s t {⟨capacity, remaining⟩} 0 {⟨capacity, left⟩}
  | count {capacity} (hpacer : t.pacer direction = s.pacer direction)
      (hcounted : t.counted direction = {capacity} + s.counted direction) :
    Billing direction s t {⟨capacity, 0⟩} 0 0

variable {setup : Setup α} {s t : State α ι} {exchanges : List (Exchange α ι)}

open Holder

theorem Control.Rule.billing {c c' : Control α ι} (direction : Direction)
    (h : Control.Rule setup s c t c') :
    Billing direction s.shared t.shared (bills direction (.control c)) 0
      (bills direction (.control c')) := by
  rw [bills_control, bills_control]
  cases direction <;> cases h <;> exact .keep rfl (by simp [Shared.counted])

theorem Delivery.Rule.billing {delivery next : Delivery α ι} (direction : Direction)
    (h : Delivery.Rule setup s delivery t next) :
    Billing direction s.shared t.shared (bills direction (.delivery delivery)) 0
      (bills direction (.delivery next)) := by
  rw [bills_delivery, bills_delivery]
  cases direction <;> cases h <;> exact .keep rfl (by simp [Shared.counted])

theorem SegmentTask.Rule.billing {task next : SegmentTask α ι} (direction : Direction)
    (h : SegmentTask.Rule setup s task exchanges t next) :
    Billing direction s.shared t.shared (bills direction (.segment task))
      (tally (Exchange.consumed direction) exchanges) (bills direction (.segment next)) := by
  cases direction with
  | read =>
    cases h with
    | fetch => exact .bill rfl rfl
    | charge _ _ h => exact .charge h rfl
    | skip =>
      rw [bills_advance]
      exact .count rfl (tally_cons _ _ _)
    | takenOutside =>
      rw [bills_afterHandover]
      exact .keep rfl rfl
    | _ => exact .keep rfl (by simp [Shared.counted])
  | write =>
    cases h with
    | skip =>
      rw [bills_advance]
      exact .keep rfl (by simp [Shared.counted])
    | takenOutside =>
      rw [bills_afterHandover]
      exact .keep rfl rfl
    | _ => exact .keep rfl (by simp [Shared.counted])

theorem ChunkTask.Rule.billing {task next : ChunkTask α ι} (direction : Direction)
    (h : ChunkTask.Rule setup s task exchanges t next) :
    Billing direction s.shared t.shared (bills direction (.chunk task))
      (tally (Exchange.consumed direction) exchanges) (bills direction (.chunk next)) := by
  cases direction with
  | read => cases h <;> exact .keep rfl (by simp [Shared.counted])
  | write =>
    cases h with
    | answer _ hunits =>
      obtain rfl := hunits
      exact .bill rfl rfl
    | charge _ _ h => exact .charge h rfl
    | finish | exhaust | faultyRest | rest => exact .count rfl (by simp [Shared.counted])
    | _ => exact .keep rfl (by simp [Shared.counted])

namespace Turn

variable {before after : Multiset (Holder α ι)}

/-- Every turn does one of these things to the bills in a direction. -/
theorem billing (direction : Direction) (h : Turn setup s before exchanges t after) :
    Billing direction s.shared t.shared (total (bills direction) before)
      (tally (Exchange.consumed direction) exchanges) (total (bills direction) after) := by
  cases h with
  | control h =>
    rw [total_singleton, total_singleton]
    exact h.billing direction
  | segment h =>
    rw [total_singleton, total_singleton]
    exact h.billing direction
  | delivery h =>
    rw [total_singleton, total_singleton]
    exact h.billing direction
  | chunk h =>
    rw [total_singleton, total_singleton]
    exact h.billing direction
  | retireSegment h =>
    obtain ⟨segment, key, pages, rfl⟩ := SegmentTask.exists_of_isFinished h
    cases direction <;> exact .keep rfl rfl
  | retireChunk h =>
    obtain ⟨segment, pending, rfl⟩ := ChunkTask.exists_of_isFinished h
    cases direction <;> exact .keep rfl rfl
  | handOver =>
    rw [total_singleton, total_add, total_singleton, total_singleton]
    cases direction with
    | read => exact .count rfl (tally_cons _ _ _)
    | write => exact .keep rfl (by simp [Shared.counted])
  | takeBack =>
    rw [total_add, total_singleton, total_singleton, total_singleton, bills_afterHandover]
    cases direction <;> exact .keep rfl rfl
  | _ => cases direction <;> exact .keep rfl rfl

/-- Time does not run backwards. -/
theorem now_le (h : Turn setup s before exchanges t after) : s.shared.now ≤ t.shared.now := by
  cases h with
  | elapse h => exact h
  | control h => cases h <;> exact le_rfl
  | segment h => cases h <;> exact le_rfl
  | delivery h => cases h <;> exact le_rfl
  | chunk h => cases h <;> exact le_rfl
  | _ => exact le_rfl

end Turn
end TableCopy
