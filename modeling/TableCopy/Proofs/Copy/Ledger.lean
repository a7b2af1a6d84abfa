import Mathlib.Data.Multiset.AddSub
import TableCopy.Proofs.Pipeline.Run
import TableCopy.Proofs.Tally

/-!
# The ledger of items

Every item that a copy has read is written, dropped, or still held by a delivery or a
chunk. The journal tells what was read, written and dropped, the population what is
held, and the history what the destination has acknowledged.
-/

namespace TableCopy

variable {α ι : Type}

namespace Entry

/-- The items of a counted page. -/
@[simp] def itemsRead : Entry α ι → Multiset ι
  | scanned _ page => page.items
  | _ => 0

/-- The items of a counted batch that the destination has taken. -/
@[simp] def itemsWritten [DecidableEq ι] : Entry α ι → Multiset ι
  | written items unprocessed _ => (items : Multiset ι) - unprocessed
  | _ => 0

/-- The items that were given up. -/
@[simp] def itemsDropped : Entry α ι → Multiset ι
  | dropped items => items
  | _ => 0

end Entry

namespace Exchange

/-- The items that the destination has acknowledged: those sent that were not left
unprocessed. -/
def acknowledged [DecidableEq ι] : Exchange α ι → Multiset ι
  | ⟨.batch items, .batch (.returned (.ok outcome))⟩ => (items : Multiset ι) - outcome.unprocessed
  | _ => 0

/-- A destination leaves none but items of the batch unprocessed. -/
def IsFaithful : Exchange α ι → Prop
  | ⟨.batch items, .batch (.returned (.ok outcome))⟩ => (outcome.unprocessed : Multiset ι) ≤ items
  | _ => True

end Exchange

namespace Holder

/-- The items that were read and are neither written nor dropped. -/
@[simp] def unsettled : Holder α ι → Multiset ι
  | .delivery ⟨_, .checking items⟩ | .delivery ⟨_, .splitting items⟩ => items
  | .delivery ⟨_, .submitting first rest⟩ | .delivery ⟨_, .refused _ first rest⟩ =>
    (first : Multiset ι) + rest
  | .chunk ⟨_, _, .ending _⟩ | .chunk ⟨_, _, .finished⟩ => 0
  | .chunk task => task.pending
  | _ => 0

/-- The items that are acknowledged and not counted yet. -/
def uncounted [DecidableEq ι] : Holder α ι → Multiset ι
  | .chunk ⟨_, pending, .charging _ outcome ..⟩
  | .chunk ⟨_, pending, .recording _ outcome _⟩ =>
    (pending : Multiset ι) - outcome.unprocessed
  | _ => 0

/-- An answer that a chunk task has not counted yet is about its own items. -/
def IsSound : Holder α ι → Prop
  | .chunk ⟨_, pending, .charging _ outcome ..⟩
  | .chunk ⟨_, pending, .recording _ outcome _⟩ =>
    (outcome.unprocessed : Multiset ι) ≤ pending
  | _ => True

theorem uncounted_le_unsettled [DecidableEq ι] (holder : Holder α ι) :
    holder.uncounted ≤ holder.unsettled := by
  rcases holder with c | task | d | ⟨segment, pending, phase⟩
  · exact Multiset.zero_le _
  · exact Multiset.zero_le _
  · exact Multiset.zero_le _
  · cases phase with
    | charging | recording => exact Multiset.sub_le_self (pending : Multiset ι) _
    | _ => exact Multiset.zero_le _

end Holder

namespace State

variable [DecidableEq ι] (s : State α ι)

/-- The items of all counted pages. -/
def itemsRead : Multiset ι := tally Entry.itemsRead s.journal

/-- The items of all counted batches that the destination has taken. -/
def itemsWritten : Multiset ι := tally Entry.itemsWritten s.journal

/-- The items that were read and given up. -/
def itemsDropped : Multiset ι := tally Entry.itemsDropped s.journal

/-- The items that were read and still wait to be written. -/
def itemsHeld : Multiset ι := Holder.total Holder.unsettled s.population

end State

variable [Quantity α] {setup : Setup α} {start s t : State α ι} {history : List (Exchange α ι)}

namespace Turn

open Holder

variable {before after : Multiset (Holder α ι)} {exchanges : List (Exchange α ι)}

/-- From a faithful destination, a turn leads to holders whose answers are about their
own items. -/
theorem isSound (h : Turn setup s before exchanges t after)
    (hfaithful : ∀ x ∈ exchanges, x.IsFaithful) (hsound : ∀ holder ∈ before, holder.IsSound) :
    ∀ holder ∈ after, holder.IsSound := by
  intro holder hmem
  cases h with
  | chunk h =>
    obtain rfl := Multiset.mem_singleton.1 hmem
    have hbefore := hsound _ (Multiset.mem_singleton_self _)
    cases h with
    | answer outcome => exact hfaithful _ (List.mem_singleton_self _)
    | charge | await | charged => exact hbefore
    | _ => trivial
  | control | segment | delivery | rejectSegment | takeBack | rejectChunk | release =>
    obtain rfl := Multiset.mem_singleton.1 hmem
    trivial
  | submitSegment | handOver | submitChunk =>
    rcases Multiset.mem_add.1 hmem with hmem | hmem <;>
    · obtain rfl := Multiset.mem_singleton.1 hmem
      trivial
  | _ => exact absurd hmem (Multiset.notMem_zero _)

/-- A turn reads items for others to hold, and settles only what is held. -/
theorem items_eq [DecidableEq ι] (h : Turn setup s before exchanges t after)
    (hsound : ∀ holder ∈ before, holder.IsSound) :
    tally Entry.itemsRead t.shared.journal +
        (tally Entry.itemsWritten s.shared.journal + tally Entry.itemsDropped s.shared.journal +
          total unsettled before) =
      tally Entry.itemsRead s.shared.journal +
        (tally Entry.itemsWritten t.shared.journal + tally Entry.itemsDropped t.shared.journal +
          total unsettled after) := by
  cases h with
  | control h => cases h <;> simp
  | segment h =>
    cases h with
    | skip hempty => simp [hempty]
    | _ => simp
  | delivery h =>
    cases h with
    | refuse | report =>
      simp only [State.shared_drop, State.shared_endChunk, tally_cons, total_singleton, unsettled,
        Entry.itemsRead, Entry.itemsWritten, Entry.itemsDropped, ← Multiset.coe_add]
      abel
    | _ => simp
  | chunk h =>
    rw [total_singleton, total_singleton]
    have hbefore := hsound _ (Multiset.mem_singleton_self _)
    cases h with
    | interrupt | crash | giveUp | faultyDelay =>
      simp only [State.shared_drop, State.shared_freeWriteSlot, tally_cons, unsettled,
        Entry.itemsRead, Entry.itemsWritten, Entry.itemsDropped]
      abel
    | finish hempty =>
      simp [hempty]
      abel
    | exhaust | faultyRest | rest =>
      simp only [State.shared_drop, State.shared_count, State.shared_countBatch, tally_cons,
        unsettled, Entry.itemsRead, Entry.itemsWritten, Entry.itemsDropped]
      obtain ⟨taken, htaken⟩ := Multiset.le_iff_exists_add.1 hbefore
      rw [add_comm] at htaken
      rw [htaken, Multiset.add_sub_cancel_right]
      abel
    | _ => simp
  | handOver =>
    simp only [State.shared_countPage, tally_cons, total_add, total_singleton, unsettled,
      Entry.itemsRead, Entry.itemsWritten, Entry.itemsDropped]
    abel
  | submitChunk =>
    simp only [total_add, total_singleton, unsettled]
    abel
  | retireChunk h =>
    obtain ⟨segment, pending, rfl⟩ := ChunkTask.exists_of_isFinished h
    rfl
  | _ => simp

/-- What is acknowledged is counted, or still held by the chunk that it is the answer
to. -/
theorem acknowledged_eq [DecidableEq ι] (h : Turn setup s before exchanges t after) :
    tally Exchange.acknowledged exchanges +
        (tally Entry.itemsWritten s.shared.journal + total uncounted before) =
      tally Entry.itemsWritten t.shared.journal + total uncounted after := by
  cases h with
  | control h => cases h <;> simp [uncounted]
  | segment h => cases h <;> simp [uncounted, Exchange.acknowledged, Exchange.page]
  | delivery h => cases h <;> simp [uncounted]
  | chunk h =>
    rw [total_singleton, total_singleton]
    cases h with
    | answer =>
      simp only [tally_cons, tally_nil, add_zero, uncounted, Exchange.acknowledged,
        Exchange.batch, State.shared_freeWriteSlot]
      rw [add_comm]
    | finish | exhaust | faultyRest | rest =>
      simp only [State.shared_drop, State.shared_count, State.shared_countBatch, tally_cons,
        tally_nil, uncounted, Entry.itemsWritten, zero_add, add_zero]
      rw [add_comm]
    | _ => simp [uncounted, Exchange.acknowledged, Exchange.batch]
  | retireChunk h =>
    obtain ⟨segment, pending, rfl⟩ := ChunkTask.exists_of_isFinished h
    simp [uncounted]
  | _ => simp [uncounted]

end Turn

namespace Run

open Holder

variable (hpaced : setup.outsideConsumer = false) (hfresh : start.IsFresh setup)

include hpaced hfresh

/-- With a faithful destination, answers that are not counted yet are about the items of
their chunk. -/
theorem isSound (hrun : Run setup (start.piping setup) history s)
    (hfaithful : ∀ x ∈ history, x.IsFaithful) : ∀ holder ∈ s.population, holder.IsSound :=
  hrun.forall_holders hpaced hfresh trivial Turn.isSound hfaithful

variable [DecidableEq ι]

/-- Every item that was read is written, dropped, or held. -/
theorem itemsRead_eq (hrun : Run setup (start.piping setup) history s)
    (hfaithful : ∀ x ∈ history, x.IsFaithful) :
    s.itemsRead = s.itemsWritten + s.itemsDropped + s.itemsHeld := by
  refine hrun.balance (fun _ shared => tally Entry.itemsRead shared.journal)
    (fun _ shared =>
      tally Entry.itemsWritten shared.journal + tally Entry.itemsDropped shared.journal)
    unsettled hpaced hfresh ?_ ?_ hfaithful
  · rw [State.shared_journal, hfresh.journal]
    rfl
  · intro history s t before after rest exchanges run hpop h hfaithful
    have hsound := run.isSound hpaced hfresh (List.forall_mem_append.1 hfaithful).2
    rw [hpop] at hsound
    exact h.items_eq fun holder hmem => hsound holder (Multiset.mem_add.2 (.inl hmem))

/-- What the destination has acknowledged is counted as written, or about to be. -/
theorem acknowledged_eq (hrun : Run setup (start.piping setup) history s) :
    tally Exchange.acknowledged history = s.itemsWritten + total uncounted s.population := by
  refine hrun.balance (Q := fun _ => True)
    (fun history _ => tally Exchange.acknowledged history)
    (fun _ shared => tally Entry.itemsWritten shared.journal)
    uncounted hpaced hfresh ?_ ?_ fun _ _ => trivial
  · rw [State.shared_journal, hfresh.journal]
    rfl
  · intro history s t before after rest exchanges _ _ h _
    have hlocal := h.acknowledged_eq
    rw [tally_append, add_right_comm, hlocal]
    abel

/-- No item is acknowledged more often than it was read. -/
theorem acknowledged_le_itemsRead (hrun : Run setup (start.piping setup) history s)
    (hfaithful : ∀ x ∈ history, x.IsFaithful) :
    tally Exchange.acknowledged history ≤ s.itemsRead := by
  have huncounted : total uncounted s.population ≤ s.itemsHeld :=
    Multiset.sum_map_le_sum_map _ _ fun holder _ => uncounted_le_unsettled holder
  calc tally Exchange.acknowledged history
      = s.itemsWritten + total uncounted s.population := hrun.acknowledged_eq hpaced hfresh
    _ ≤ s.itemsWritten + s.itemsHeld := Multiset.add_le_add_iff_left.2 huncounted
    _ ≤ s.itemsWritten + s.itemsDropped + s.itemsHeld := by
      rw [add_right_comm]
      exact Multiset.le_add_right _ _
    _ = s.itemsRead := (hrun.itemsRead_eq hpaced hfresh hfaithful).symm

end Run
end TableCopy
