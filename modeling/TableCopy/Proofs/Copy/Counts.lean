import Mathlib.Data.UInt
import Mathlib.Tactic.LinearCombination
import TableCopy.Proofs.Copy.Completeness

/-!
# The counters of a copy that has ended well

A batch counts as written what it does not leave unprocessed, and what it leaves unprocessed
is sent again. So the counters of items read and written differ by the items that are due or
dropped, and by what answers have left unprocessed beyond the items of their batch. A copy
that has ended well has nothing due and nothing dropped.
-/

namespace TableCopy

variable {α ι : Type}

/-- The items that an answer leaves unprocessed beyond those of its batch. -/
def Exchange.surplus : Exchange α ι → Nat
  | ⟨.batch items, .batch (.returned (.ok outcome))⟩ => outcome.unprocessed.length - items.length
  | _ => 0

/-- The items that a holder has still to count as written, or to drop, as a word. -/
def Holder.itemsDue : Holder α ι → UInt64
  | .chunk ⟨_, pending, .charging _ outcome ..⟩ | .chunk ⟨_, pending, .recording _ outcome _⟩ =>
    UInt64.ofNat (max pending.length outcome.unprocessed.length)
  | holder => UInt64.ofNat holder.unsettled.card

theorem ofNat_max (m n : Nat) :
    UInt64.ofNat (max m n) = UInt64.ofNat (m - n) + UInt64.ofNat n := by
  rw [← Nat.sub_add_eq_max, UInt64.ofNat_add]

variable [Quantity α] {setup : Setup α} {start s t : State α ι} {history : List (Exchange α ι)}

open scoped UInt64.CommRing

open Holder in
/-- A turn counts items as written, or drops them, that were due; what it reads is due, and so
is what an answer leaves unprocessed beyond its batch. -/
theorem Turn.counters_eq {before after : Multiset (Holder α ι)} {exchanges : List (Exchange α ι)}
    (h : Turn setup s before exchanges t after) :
    t.shared.metrics.itemsRead + UInt64.ofNat (tally Exchange.surplus exchanges) +
        (s.shared.metrics.itemsWritten +
          UInt64.ofNat (tally Entry.itemsDropped s.shared.journal).card +
          total itemsDue before) =
      s.shared.metrics.itemsRead +
        (t.shared.metrics.itemsWritten +
          UInt64.ofNat (tally Entry.itemsDropped t.shared.journal).card +
          total itemsDue after) := by
  cases h with
  | control h => cases h <;> simp [itemsDue]
  | segment h =>
    cases h with
    | skip hempty => simp [itemsDue, hempty]
    | _ => simp [itemsDue, Exchange.page, Exchange.surplus]
  | delivery h =>
    cases h with
    | refuse | report =>
      simp only [State.shared_drop, State.shared_endChunk, total_singleton, itemsDue, unsettled,
        tally_nil, tally_cons, Entry.itemsDropped, Multiset.card_add, Multiset.card_zero,
        Multiset.coe_add, Multiset.coe_card, List.length_append, UInt64.ofNat_add]
      abel
    | _ => simp [itemsDue]
  | chunk h =>
    rw [total_singleton, total_singleton]
    cases h with
    | answer =>
      simp only [State.shared_freeWriteSlot, Exchange.batch, tally_cons, tally_nil, add_zero,
        Exchange.surplus, itemsDue, unsettled, Multiset.coe_card]
      rw [Nat.max_comm, ofNat_max]
      abel
    | finish hempty =>
      simp only [State.shared_countBatch, tally_nil, tally_cons, Metrics.itemsRead_record,
        Metrics.itemsWritten_record, Metrics.Event.itemsRead, Metrics.Event.itemsWritten,
        Entry.itemsDropped, itemsDue, unsettled, Multiset.card_zero, UInt64.reduceOfNat, add_zero,
        zero_add]
      rw [ofNat_max, hempty, List.length_nil]
      abel
    | exhaust | faultyRest | rest =>
      simp only [State.shared_drop, State.shared_count, State.shared_countBatch, tally_nil,
        tally_cons, Metrics.itemsRead_record, Metrics.itemsWritten_record,
        Metrics.Event.itemsRead, Metrics.Event.itemsWritten, Entry.itemsDropped, itemsDue,
        unsettled, Multiset.card_add, Multiset.card_zero, Multiset.coe_card, UInt64.ofNat_add,
        ofNat_max, UInt64.reduceOfNat, add_zero, zero_add]
      abel
    | interrupt | crash | giveUp | faultyDelay =>
      simp only [State.shared_drop, State.shared_freeWriteSlot, Exchange.batch, tally_cons,
        tally_nil, Exchange.surplus, Entry.itemsDropped, itemsDue, unsettled, Multiset.card_add,
        Multiset.card_zero, Multiset.coe_card, UInt64.ofNat_add, add_zero]
      abel
    | _ => simp [itemsDue, Exchange.batch, Exchange.surplus]
  | retireChunk h =>
    obtain ⟨segment, pending, rfl⟩ := ChunkTask.exists_of_isFinished h
    simp [itemsDue]
  | handOver =>
    simp only [State.shared_countPage, Metrics.itemsRead_record, Metrics.itemsWritten_record,
      Metrics.Event.itemsRead, Metrics.Event.itemsWritten, tally_nil, tally_cons,
      Entry.itemsDropped, total_add, total_singleton, itemsDue, unsettled, Multiset.card_zero,
      Multiset.coe_card, UInt64.reduceOfNat, add_zero, zero_add]
    abel
  | submitChunk =>
    simp only [total_add, total_singleton, itemsDue, unsettled, tally_nil, Multiset.coe_add,
      Multiset.coe_card, List.length_append, UInt64.ofNat_add,
      UInt64.reduceOfNat, add_zero]
    abel
  | _ => simp [itemsDue]

namespace Run

variable (hpaced : setup.outsideConsumer = false) (hfresh : start.IsFresh setup)

include hpaced hfresh

/-- What is read, and what answers leave unprocessed beyond their batch, is written, dropped or
due. -/
theorem counters_eq (hrun : Run setup (start.piping setup) history s) :
    s.metrics.itemsRead + UInt64.ofNat (tally Exchange.surplus history) =
      s.metrics.itemsWritten + UInt64.ofNat (tally Entry.itemsDropped s.journal).card +
        Holder.total Holder.itemsDue s.population := by
  refine hrun.balance (Q := fun _ => True)
    (fun history shared =>
      shared.metrics.itemsRead + UInt64.ofNat (tally Exchange.surplus history))
    (fun _ shared =>
      shared.metrics.itemsWritten + UInt64.ofNat (tally Entry.itemsDropped shared.journal).card)
    Holder.itemsDue hpaced hfresh ?_ ?_ fun _ _ => trivial
  · rw [State.shared_metrics, State.shared_journal, hfresh.metrics, hfresh.journal]
    rfl
  · intro history s t before after rest exchanges _ _ h _
    rw [tally_append, UInt64.ofNat_add]
    linear_combination h.counters_eq

end Run
end TableCopy
