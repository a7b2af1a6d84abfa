import TableCopy.Proofs.Copy.Billing

/-!
# The books of a copy

What reads, or writes, have consumed is counted or billed, and what was charged for it was
granted by their limiter. A pace allows its burst at once and one permit more in each
period, so that what is charged, and with it what is counted, stays within that budget.
-/

namespace TableCopy

variable {α ι : Type}

/-- The permits that a pace allows in a time. -/
def Pace.budget (pace : Pace α) (elapsed : Nat) : Rat := pace.burst + elapsed / pace.period

theorem Limiter.Covers.granted_le_budget {pace : Pace α} {start now : Nat} {limiter : Limiter}
    {granted : Int} (h : limiter.Covers pace start now granted) (hperiod : 1 ≤ pace.period) :
    granted ≤ pace.budget (now - start) := by
  have hpos : (0 : Rat) < pace.period := Nat.cast_pos.2 hperiod
  have hgranted : (pace.period * granted : Rat) ≤
      (now - start : Nat) + pace.period * pace.burst := by
    rw [Nat.cast_sub h.start_le]
    exact_mod_cast h.granted_le
  have hsum : (pace.budget (now - start)) * pace.period =
      (now - start : Nat) + pace.period * pace.burst := by
    rw [Pace.budget, add_mul, div_mul_cancel₀ _ hpos.ne', add_comm, mul_comm (pace.burst : Rat)]
  rw [mul_comm, ← hsum] at hgranted
  exact le_of_mul_le_mul_right hgranted hpos

variable [Quantity α]

open Quantity

/-- The sum of the exact values of capacities. -/
def exactOf (capacities : Multiset α) : Rat := (capacities.map exact).sum

/-- The permits for capacities, each charged by itself. -/
def permitsOf (capacities : Multiset α) : Int :=
  (capacities.map fun capacity => (permitsFor capacity : Int)).sum

@[simp] theorem exactOf_zero : exactOf (0 : Multiset α) = 0 := rfl

@[simp] theorem exactOf_cons (capacity : α) (capacities : Multiset α) :
    exactOf (capacity ::ₘ capacities) = exact capacity + exactOf capacities := by
  rw [exactOf, Multiset.map_cons, Multiset.sum_cons, exactOf]

@[simp] theorem exactOf_add (capacities others : Multiset α) :
    exactOf (capacities + others) = exactOf capacities + exactOf others := by
  rw [exactOf, Multiset.map_add, Multiset.sum_add, exactOf, exactOf]

@[simp] theorem permitsOf_zero : permitsOf (0 : Multiset α) = 0 := rfl

@[simp] theorem permitsOf_cons (capacity : α) (capacities : Multiset α) :
    permitsOf (capacity ::ₘ capacities) = permitsFor capacity + permitsOf capacities := by
  rw [permitsOf, Multiset.map_cons, Multiset.sum_cons, permitsOf]

/-- Capacities need no more permits than are charged for them. -/
theorem exactOf_le_permitsOf {capacities : Multiset α}
    (h : ∀ capacity ∈ capacities, IsChargeable capacity) :
    exactOf capacities ≤ permitsOf capacities := by
  induction capacities using Multiset.induction with
  | empty => exact le_rfl
  | cons capacity capacities ih =>
    obtain ⟨hcapacity, hrest⟩ := Multiset.forall_mem_cons.1 h
    rw [exactOf_cons, permitsOf_cons, Int.cast_add, Int.cast_natCast]
    exact add_le_add (exact_le_permitsFor hcapacity) (ih hrest)

namespace Bill

/-- The permits that were charged for a bill. -/
def paid (bill : Bill α) : Int := permitsFor bill.capacity - bill.remaining

/-- The permits that were charged for bills. -/
def paidFor (bills : Multiset (Bill α)) : Int := (bills.map paid).sum

@[simp] theorem paidFor_zero : paidFor (0 : Multiset (Bill α)) = 0 := rfl

@[simp] theorem paidFor_cons (bill : Bill α) (bills : Multiset (Bill α)) :
    paidFor (bill ::ₘ bills) = bill.paid + paidFor bills := by
  rw [paidFor, Multiset.map_cons, Multiset.sum_cons, paidFor]

theorem paid_nonneg {bill : Bill α} (h : bill.remaining ≤ permitsFor bill.capacity) :
    0 ≤ bill.paid :=
  Int.sub_nonneg.2 (Int.ofNat_le.2 h)

theorem paidFor_nonneg {bills : Multiset (Bill α)}
    (h : ∀ bill ∈ bills, bill.remaining ≤ permitsFor bill.capacity) : 0 ≤ paidFor bills := by
  apply Multiset.sum_nonneg
  intro permits hmem
  obtain ⟨bill, hbill, rfl⟩ := Multiset.mem_map.1 hmem
  exact paid_nonneg (h bill hbill)

/-- What a bill is for is paid, but for a capacity whose bill is not paid in full. -/
theorem exact_le {bill : Bill α} (hcapacity : IsChargeable bill.capacity)
    (hremaining : bill.remaining ≤ permitsFor bill.capacity) :
    exact bill.capacity ≤
      bill.paid + exactOf (if bill.remaining = 0 then 0 else {bill.capacity}) := by
  split
  · rename_i hzero
    rw [paid, hzero, exactOf_zero, add_zero, Nat.cast_zero, sub_zero, Int.cast_natCast]
    exact exact_le_permitsFor hcapacity
  · rw [← Multiset.cons_zero, exactOf_cons, exactOf_zero, add_zero]
    exact le_add_of_nonneg_left (Int.cast_nonneg (paid_nonneg hremaining))

/-- The same for many bills. -/
theorem exactOf_capacities_le {bills : Multiset (Bill α)}
    (hcapacity : ∀ bill ∈ bills, IsChargeable bill.capacity)
    (hremaining : ∀ bill ∈ bills, bill.remaining ≤ permitsFor bill.capacity) :
    exactOf (capacities bills) ≤ paidFor bills + exactOf (unpaid bills) := by
  induction bills using Multiset.induction with
  | empty => exact le_of_eq (add_zero _).symm
  | cons bill bills ih =>
    obtain ⟨hfirst, hrest⟩ := Multiset.forall_mem_cons.1 hcapacity
    obtain ⟨hfirst', hrest'⟩ := Multiset.forall_mem_cons.1 hremaining
    rw [capacities_cons, exactOf_cons, paidFor_cons, unpaid_cons, exactOf_add, Int.cast_add,
      add_add_add_comm]
    exact add_le_add (exact_le hfirst hfirst') (ih hrest hrest')

end Bill

/-- The books for one direction are in order: what was consumed is counted or billed, no bill
asks for more than its capacity does, and the limiter has granted what was charged. -/
structure Books (direction : Direction) (pace : Pace α) (start : Nat) (consumed : Multiset α)
    (shared : Shared α ι) (bills : Multiset (Bill α)) : Prop where
  consumed_eq : consumed = shared.counted direction + Bill.capacities bills
  remaining_le : ∀ bill ∈ bills, bill.remaining ≤ permitsFor bill.capacity
  pace_eq : (shared.pacer direction).pace = some pace
  covers : (shared.pacer direction).limiter.Covers pace start shared.now
    (permitsOf (shared.counted direction) + Bill.paidFor bills)

namespace Books

variable {direction : Direction} {pace : Pace α} {start : Nat} {s t : Shared α ι}
variable {consumed added : Multiset α} {bills before after rest : Multiset (Bill α)}

/-- What happens to the bills in a turn leaves the books in order. -/
theorem step (h : Books direction pace start consumed s (before + rest))
    (hbilling : Billing direction s t before added after) (hnow : s.now ≤ t.now) :
    Books direction pace start (added + consumed) t (after + rest) := by
  obtain ⟨hconsumed, hremaining, hpace, hcovers⟩ := h
  cases hbilling with
  | keep hpacer hcounted =>
    rw [← hcounted] at hconsumed hcovers
    rw [← hpacer] at hpace hcovers
    rw [zero_add]
    exact ⟨hconsumed, hremaining, hpace, hcovers.later hnow⟩
  | @bill capacity hpacer hcounted =>
    rw [← hcounted] at hconsumed hcovers
    rw [← hpacer] at hpace hcovers ⊢
    rw [zero_add] at hconsumed hremaining hcovers
    rw [Multiset.singleton_add, Multiset.singleton_add]
    refine ⟨?_, ?_, hpace, ?_⟩
    · rw [Bill.capacities_cons, hconsumed, Multiset.add_cons]
    · exact Multiset.forall_mem_cons.2 ⟨Pacer.permits_le _ capacity, hremaining⟩
    · rw [Bill.paidFor_cons, Bill.paid, Pacer.permits_eq hpace, sub_self, zero_add]
      exact hcovers.later hnow
  | @charge capacity remaining left hcharge hcounted =>
    rw [← hcounted] at hconsumed hcovers
    rw [Multiset.singleton_add] at hconsumed hremaining hcovers ⊢
    obtain ⟨hsame, hleft⟩ := Pacer.of_charge_eq hcharge
    obtain ⟨hfirst, hrest⟩ := Multiset.forall_mem_cons.1 hremaining
    have hgranted := Pacer.covers_charge hpace hcovers hcharge
    have hsum : permitsOf (t.counted direction) +
          Bill.paidFor (⟨capacity, remaining⟩ ::ₘ rest) + (remaining - left : Int) =
        permitsOf (t.counted direction) + Bill.paidFor (⟨capacity, left⟩ ::ₘ rest) := by
      rw [Bill.paidFor_cons, Bill.paidFor_cons, Bill.paid, Bill.paid]
      dsimp only
      omega
    rw [hsum] at hgranted
    refine ⟨?_, ?_, hsame.trans hpace, hgranted.later hnow⟩
    · rw [zero_add, hconsumed, Bill.capacities_cons, Bill.capacities_cons]
    · exact Multiset.forall_mem_cons.2 ⟨hleft.trans hfirst, hrest⟩
  | @count capacity hpacer hcounted =>
    rw [← hpacer] at hpace hcovers
    rw [Multiset.singleton_add] at hconsumed hremaining hcovers
    have hsum : permitsOf (s.counted direction) + Bill.paidFor (⟨capacity, 0⟩ ::ₘ rest) =
        permitsOf (t.counted direction) + Bill.paidFor rest := by
      rw [hcounted, Multiset.singleton_add, permitsOf_cons, Bill.paidFor_cons, Bill.paid]
      dsimp only
      omega
    rw [hsum] at hcovers
    rw [zero_add, zero_add]
    refine ⟨?_, (Multiset.forall_mem_cons.1 hremaining).2, hpace, hcovers.later hnow⟩
    rw [hconsumed, hcounted, Bill.capacities_cons, Multiset.add_cons, Multiset.singleton_add,
      Multiset.cons_add]

/-- What is counted, together with what is paid on bills, stays within the budget. -/
theorem granted_le_budget (h : Books direction pace start consumed s bills)
    (hperiod : 1 ≤ pace.period) :
    (permitsOf (s.counted direction) + Bill.paidFor bills : Rat) ≤ pace.budget (s.now - start) := by
  have hgranted := h.covers.granted_le_budget hperiod
  rw [Int.cast_add] at hgranted
  exact hgranted

/-- What is counted needs no more than the permits for it. -/
theorem exactOf_counted_le_permitsOf (h : Books direction pace start consumed s bills)
    (hconsumed : ∀ capacity ∈ consumed, IsChargeable capacity) :
    exactOf (s.counted direction) ≤ permitsOf (s.counted direction) := by
  apply exactOf_le_permitsOf
  intro capacity hmem
  apply hconsumed
  rw [h.consumed_eq]
  exact Multiset.mem_add.2 (.inl hmem)

/-- What is counted stays within the budget. -/
theorem exactOf_counted_le (h : Books direction pace start consumed s bills)
    (hperiod : 1 ≤ pace.period) (hconsumed : ∀ capacity ∈ consumed, IsChargeable capacity) :
    exactOf (s.counted direction) ≤ pace.budget (s.now - start) :=
  calc exactOf (s.counted direction)
      ≤ permitsOf (s.counted direction) := h.exactOf_counted_le_permitsOf hconsumed
    _ ≤ permitsOf (s.counted direction) + Bill.paidFor bills :=
      le_add_of_nonneg_right (Int.cast_nonneg (Bill.paidFor_nonneg h.remaining_le))
    _ ≤ pace.budget (s.now - start) := h.granted_le_budget hperiod

/-- What is consumed exceeds the budget by no more than what is not paid in full. -/
theorem exactOf_consumed_le (h : Books direction pace start consumed s bills)
    (hperiod : 1 ≤ pace.period) (hconsumed : ∀ capacity ∈ consumed, IsChargeable capacity) :
    exactOf consumed ≤ pace.budget (s.now - start) + exactOf (Bill.unpaid bills) := by
  have hbilled : ∀ bill ∈ bills, IsChargeable bill.capacity := by
    intro bill hmem
    apply hconsumed
    rw [h.consumed_eq]
    exact Multiset.mem_add.2 (.inr (Multiset.mem_map_of_mem Bill.capacity hmem))
  calc exactOf consumed
      = exactOf (s.counted direction) + exactOf (Bill.capacities bills) := by
        rw [h.consumed_eq, exactOf_add]
    _ ≤ permitsOf (s.counted direction) + (Bill.paidFor bills + exactOf (Bill.unpaid bills)) :=
      add_le_add (h.exactOf_counted_le_permitsOf hconsumed)
        (Bill.exactOf_capacities_le hbilled h.remaining_le)
    _ = permitsOf (s.counted direction) + Bill.paidFor bills + exactOf (Bill.unpaid bills) :=
      (add_assoc _ _ _).symm
    _ ≤ pace.budget (s.now - start) + exactOf (Bill.unpaid bills) :=
      add_le_add_left (h.granted_le_budget hperiod) _

end Books

variable {setup : Setup α} {start s : State α ι} {history : List (Exchange α ι)} {pace : Pace α}

/-- The pacers of a copy before its pipe have granted nothing yet. -/
theorem State.IsFresh.pacer (h : start.IsFresh setup) (direction : Direction) :
    start.shared.pacer direction = Pacer.ofRate (setup.throughput direction) := by
  cases direction with
  | read => exact h.readPacer
  | write => exact h.writePacer

/-- Where reads or writes are paced, their books are in order along every run. -/
theorem Run.books (hpaced : setup.outsideConsumer = false) (hfresh : start.IsFresh setup)
    {direction : Direction} (hpace : Pace.ofRate (setup.throughput direction) = some pace)
    (hrun : Run setup (start.piping setup) history s) :
    Books direction pace start.now (tally (Exchange.consumed direction) history) s.shared
      (s.bills direction) := by
  refine hrun.invariant
    (P := fun history shared holders => Books direction pace start.now
      (tally (Exchange.consumed direction) history) shared
      (Holder.total (Holder.bills direction) holders))
    hpaced hfresh ?_ ?_
  · have hcounted : start.shared.counted direction = 0 := by
      rw [Shared.counted, State.shared_journal, hfresh.journal, tally_nil]
    rw [tally_nil, Holder.total_singleton, Holder.bills_control]
    refine ⟨?_, fun bill hmem => absurd hmem (Multiset.notMem_zero _), ?_, ?_⟩
    · rw [hcounted, Bill.capacities_zero, add_zero]
    · rw [hfresh.pacer]
      exact hpace
    · rw [hcounted, hfresh.pacer, permitsOf_zero, Bill.paidFor_zero, add_zero]
      exact Limiter.covers_new pace start.now
  · intro history s t before after rest exchanges _ _ h hbooks
    rw [Holder.total_add] at hbooks ⊢
    rw [tally_append]
    exact hbooks.step (h.billing direction) h.now_le

end TableCopy
