import TableCopy.Proofs.Copy.Books
import TableCopy.Proofs.Copy.Tables
import TableCopy.Proofs.Number.Binary64

/-!
# A copy stays within its budget

Of the capacities that are doubles below `2 ^ 64`, none needs more permits than are charged
for it. So whatever a copy has counted of its reads, or of its writes, stays within what
their pace allows, and what it has consumed beyond that is one bill at most for each running
task.
-/

namespace TableCopy

variable {ι : Type}

open Quantity

/-- A capacity that a service can report: a finite number, not negative, below `2 ^ 64`. -/
def Binary64.IsCapacity (x : Float) : Prop := ∃ q, value? x = some q ∧ 0 ≤ q ∧ q < 2 ^ 64

theorem Binary64.IsCapacity.isChargeable {x : Float} (h : IsCapacity x) : IsChargeable x := by
  obtain ⟨q, hvalue, -, hlt⟩ := h
  have hexact : exact x = q := congrArg (Option.getD · 0) hvalue
  rw [IsChargeable, hexact]
  exact value_le_of_lt hvalue hlt

/-- One unit for each of the items that memory can hold is chargeable. -/
theorem Binary64.isChargeable_ofNat {n : Nat} (h : n < 2 ^ 63) :
    IsChargeable (Quantity.ofNat n : Float) := by
  unfold IsChargeable exact
  cases hvalue : Quantity.value? (Quantity.ofNat n : Float) with
  | none => exact Nat.cast_nonneg _
  | some q => exact value_ofRat_natCast_le h hvalue

theorem ChunkTask.isChargeable_units {task : ChunkTask Float ι} {outcome : BatchOutcome Float ι}
    (hcapacity : Binary64.IsCapacity outcome.capacity) (hpending : task.pending.length < 2 ^ 63) :
    IsChargeable (task.units outcome) := by
  unfold units
  split
  · exact hcapacity.isChargeable
  · exact Binary64.isChargeable_ofNat ((Nat.sub_le _ _).trans_lt hpending)

namespace Exchange

/-- A service reports a capacity, and no more unprocessed items than memory can hold: a list
has fewer than `2 ^ 63` of them. -/
def IsMeasured : Exchange Float ι → Prop
  | ⟨.page _, .page (.returned (.ok page))⟩ => Binary64.IsCapacity page.capacity
  | ⟨.batch _, .batch (.returned (.ok outcome))⟩ =>
    Binary64.IsCapacity outcome.capacity ∧ outcome.unprocessed.length < 2 ^ 63
  | _ => True

/-- The batch of a call has no more items than memory can hold. -/
def FitsMemory : Exchange Float ι → Prop
  | ⟨.batch items, _⟩ => items.length < 2 ^ 63
  | _ => True

theorem isChargeable {direction : Direction} {x : Exchange Float ι} (hmeasured : x.IsMeasured)
    (hfits : x.FitsMemory) : ∀ capacity ∈ x.consumed direction, IsChargeable capacity := by
  intro capacity hmem
  unfold consumed at hmem
  split at hmem
  · obtain rfl := Multiset.mem_singleton.1 hmem
    exact Binary64.IsCapacity.isChargeable hmeasured
  · obtain rfl := Multiset.mem_singleton.1 hmem
    exact ChunkTask.isChargeable_units hmeasured.1 hfits
  · exact absurd hmem (Multiset.notMem_zero _)

end Exchange

/-- What a task will send, and what it was answered, has no more items than memory can
hold. -/
def Holder.FitsMemory : Holder Float ι → Prop
  | .delivery ⟨_, .submitting first _⟩ => first.length < 2 ^ 63
  | .chunk ⟨_, _, .charging _ outcome ..⟩ | .chunk ⟨_, _, .recording _ outcome _⟩ =>
    outcome.unprocessed.length < 2 ^ 63
  | .chunk task => task.pending.length < 2 ^ 63
  | _ => True

variable {setup : Setup Float} {start s t : State Float ι} {history : List (Exchange Float ι)}

namespace Turn

variable {before after : Multiset (Holder Float ι)} {exchanges : List (Exchange Float ι)}

/-- Chunks are small at first, and then as long as what was left unprocessed. -/
theorem fitsMemory (h : Turn setup s before exchanges t after)
    (hmeasured : ∀ x ∈ exchanges, x.IsMeasured) (hfits : ∀ holder ∈ before, holder.FitsMemory) :
    ∀ holder ∈ after, holder.FitsMemory := by
  intro holder hmem
  cases h with
  | chunk h =>
    obtain rfl := Multiset.mem_singleton.1 hmem
    have hbefore := hfits _ (Multiset.mem_singleton_self _)
    cases h with
    | answer => exact (hmeasured _ (List.mem_singleton_self _)).2
    | _ => exact hbefore
  | delivery h =>
    obtain rfl := Multiset.mem_singleton.1 hmem
    cases h with
    | register =>
      have hchunk := setup.write.chunkSize_le
      exact (List.length_take_le _ _).trans_lt (hchunk.trans_lt (by decide))
    | _ => trivial
  | submitChunk =>
    have hchunk := hfits _ (Multiset.mem_singleton_self _)
    rcases Multiset.mem_add.1 hmem with hmem | hmem
    · obtain rfl := Multiset.mem_singleton.1 hmem
      trivial
    · obtain rfl := Multiset.mem_singleton.1 hmem
      exact hchunk
  | control | segment | rejectSegment | takeBack | rejectChunk | release =>
    obtain rfl := Multiset.mem_singleton.1 hmem
    trivial
  | submitSegment | handOver =>
    rcases Multiset.mem_add.1 hmem with hmem | hmem <;>
    · obtain rfl := Multiset.mem_singleton.1 hmem
      trivial
  | _ => exact absurd hmem (Multiset.notMem_zero _)

/-- A turn ends a call for nothing but what its holder was about to send. -/
theorem exchanges_fitMemory (h : Turn setup s before exchanges t after)
    (hfits : ∀ holder ∈ before, holder.FitsMemory) : ∀ x ∈ exchanges, x.FitsMemory := by
  intro x hx
  cases h with
  | segment h =>
    cases h with
    | crash | fetch | giveUp | faultyDelay | backOff | takenOutside | crashOutside =>
      obtain rfl := List.mem_singleton.1 hx
      trivial
    | _ => cases hx
  | chunk h =>
    have hbefore := hfits _ (Multiset.mem_singleton_self _)
    cases h with
    | crash | answer | giveUp | faultyDelay | backOff =>
      obtain rfl := List.mem_singleton.1 hx
      exact hbefore
    | _ => cases hx
  | _ => cases hx

end Turn

namespace Run

variable (hpaced : setup.outsideConsumer = false) (hfresh : start.IsFresh setup)
variable (hrun : Run setup (start.piping setup) history s)
variable (hmeasured : ∀ x ∈ history, x.IsMeasured)

include hpaced hfresh hrun hmeasured

theorem fitsMemory : ∀ holder ∈ s.population, holder.FitsMemory :=
  hrun.forall_holders hpaced hfresh trivial Turn.fitsMemory hmeasured

theorem history_fitsMemory : ∀ x ∈ history, x.FitsMemory := by
  refine hrun.invariant
    (P := fun history _ _ => (∀ x ∈ history, x.IsMeasured) → ∀ x ∈ history, x.FitsMemory)
    hpaced hfresh (fun _ => List.forall_mem_nil _) ?_ hmeasured
  intro history s t before after rest exchanges run hpop h hs hmeasured
  obtain ⟨-, hmeasured⟩ := List.forall_mem_append.1 hmeasured
  have hfits := run.fitsMemory hpaced hfresh hmeasured
  rw [hpop] at hfits
  refine List.forall_mem_append.2 ⟨h.exchanges_fitMemory ?_, hs hmeasured⟩
  exact fun holder hmem => hfits holder (Multiset.mem_add.2 (.inl hmem))

/-- Whatever a copy consumes is chargeable. -/
theorem isChargeable_of_mem {direction : Direction} {capacity : Float}
    (hmem : capacity ∈ tally (Exchange.consumed direction) history) : IsChargeable capacity := by
  obtain ⟨x, hx, hmem⟩ := mem_tally.1 hmem
  exact Exchange.isChargeable (hmeasured x hx)
    (hrun.history_fitsMemory hpaced hfresh hmeasured x hx) capacity hmem

/-- A copy stays within its budget. Where reads or writes have a pace, what is counted never
exceeds the burst and one unit for each period since the start, and neither does what is
consumed, but for at most one bill of each running task that is not paid in full. -/
theorem within_budget {direction : Direction} {pace : Pace Float}
    (hpace : Pace.ofRate (setup.throughput direction) = some pace) :
    exactOf (s.counted direction) ≤ pace.budget (s.now - start.now) ∧
      exactOf (tally (Exchange.consumed direction) history) ≤
        pace.budget (s.now - start.now) + exactOf (s.unpaid direction) ∧
      tally (Exchange.consumed direction) history = s.counted direction + s.billed direction ∧
      s.unpaid direction ≤ s.billed direction ∧
      (s.billed direction).card ≤ s.running direction ∧
      ∀ holder ∈ s.population,
        (holder.bills direction).card ≤ if holder.isRunning direction then 1 else 0 := by
  have hbooks := hrun.books hpaced hfresh hpace
  have hperiod := Pace.period_pos hpace
  have hchargeable : ∀ capacity ∈ tally (Exchange.consumed direction) history,
      IsChargeable capacity := fun capacity hmem =>
    hrun.isChargeable_of_mem hpaced hfresh hmeasured hmem
  refine ⟨hbooks.exactOf_counted_le hperiod hchargeable,
    hbooks.exactOf_consumed_le hperiod hchargeable, hbooks.consumed_eq,
    Bill.unpaid_le_capacities _, s.card_billed_le direction, fun holder _ => holder.card_bills_le⟩

end Run

/-! ## A small paced copy -/

/-- A single page of eight units in each segment. -/
def pacedSource (request : PageRequest Nat) : Page Float Nat :=
  ⟨[request.segment], none, Binary64.ofRat 8⟩

/-- A destination that takes all items and reports no units. -/
def silentDestination (_ : List Nat) : Outcome (BatchOutcome Float Nat) :=
  .returned (.ok ⟨[], Binary64.ofRat 0⟩)

/-- Two segments, read at ten units a second and written at one. -/
def pacedSetup : Setup Float where
  scan := ⟨"orders", some (Binary64.ofRat 10), ⟨2, .fallback⟩, .whole, false, none⟩
  write := ⟨"archive", some (Binary64.ofRat 1), 25⟩
  scanRetry := .forScan
  writeRetry := .forBatchWrite

def pacedStart : State Float Nat := .initial pacedSetup (.ofLimit 2 1 0) (.ofLimit 2 1 0)

/-- The state in which the second page waits for the rest of its permits. -/
def pacedMiddle : State Float Nat :=
  ((World.ofTables pacedSource silentDestination).settle pacedSetup 38 ()
    (pacedStart.piping pacedSetup)).2

theorem isMeasured_paced : World.Answers pacedSetup (World.ofTables pacedSource silentDestination)
    Exchange.IsMeasured := by
  intro outside call
  have hpage : Binary64.value? (Binary64.ofRat 8) = some 8 := by decide +kernel
  have hsilent : Binary64.value? (Binary64.ofRat 0) = some 0 := by decide +kernel
  cases call with
  | page => exact ⟨8, hpage, by decide, by decide +kernel⟩
  | batch => exact ⟨⟨0, hsilent, le_rfl, by decide +kernel⟩, by decide⟩
  | _ => trivial

/-- Of two pages of eight units, one is counted at the start, and the other waits because
the burst of ten does not cover both. -/
theorem Run.within_budget_of_waiting : ∃ history,
    Run pacedSetup (pacedStart.piping pacedSetup) history pacedMiddle ∧
      pacedMiddle.now = pacedStart.now ∧
      exactOf (pacedMiddle.counted .read) = 8 ∧
      exactOf (pacedMiddle.counted .read) ≤ 10 ∧
      exactOf (tally (Exchange.consumed .read) history) ≤ 10 + 8 ∧
      (pacedMiddle.billed .read).card ≤ 1 := by
  obtain ⟨history, hsettled, hmeasured⟩ :=
    World.exists_run_settle isMeasured_paced () 38 (.start : Run pacedSetup _ [] _)
  rw [List.append_nil] at hsettled
  have hrun : Run pacedSetup (pacedStart.piping pacedSetup) history pacedMiddle := hsettled
  have hfresh : pacedStart.IsFresh pacedSetup := State.isFresh_initial _ _
  have hsome : (Pace.ofRate (pacedSetup.throughput .read)).map Pace.burst = some 10 := by
    decide +kernel
  obtain ⟨pace, hpace, hburst⟩ := Option.map_eq_some_iff.1 hsome
  have hnow : pacedMiddle.now = pacedStart.now := by decide +kernel
  have hbudget : pace.budget (pacedMiddle.now - pacedStart.now) = 10 := by
    rw [hnow, Nat.sub_self, Pace.budget, hburst, Nat.cast_zero, zero_div, add_zero]
    rfl
  have hunpaid : exactOf (pacedMiddle.unpaid .read) = 8 := by decide +kernel
  have hrunning : pacedMiddle.running .read = 1 := by decide +kernel
  obtain ⟨hcounted, hconsumed, -, -, hbilled, -⟩ :=
    Run.within_budget rfl hfresh hrun hmeasured hpace
  rw [hbudget] at hcounted hconsumed
  rw [hunpaid] at hconsumed
  rw [hrunning] at hbilled
  exact ⟨history, hrun, hnow, by decide +kernel, hcounted, hconsumed, hbilled⟩

end TableCopy
