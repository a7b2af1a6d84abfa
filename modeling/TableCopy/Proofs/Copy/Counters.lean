import TableCopy.Proofs.Copy.Ledger

/-!
# The counters of items

The counters of items read and written are the sizes of what the ledger has read and
written, as 64-bit words. As long as fewer than `2 ^ 64` items are read, they never
cross, and their difference counts the items that are not written.
-/

namespace TableCopy

variable {α ι : Type} [Quantity α]

namespace Metrics

/-- Items that an event counts as read. -/
@[simp] def Event.itemsRead : Event α → UInt64
  | .page items _ => items
  | _ => 0

/-- Items that an event counts as written. -/
@[simp] def Event.itemsWritten : Event α → UInt64
  | .batch items _ => items
  | _ => 0

@[simp] theorem itemsRead_record (metrics : Metrics) (event : Event α) :
    (metrics.record event).itemsRead = metrics.itemsRead + event.itemsRead := by
  cases event with
  | segmentEnded success => cases success <;> rfl
  | _ => rfl

@[simp] theorem itemsWritten_record (metrics : Metrics) (event : Event α) :
    (metrics.record event).itemsWritten = metrics.itemsWritten + event.itemsWritten := by
  cases event with
  | segmentEnded success => cases success <;> rfl
  | _ => rfl

end Metrics

variable {setup : Setup α} {start s t : State α ι} {history : List (Exchange α ι)}

namespace Turn

variable {before after : Multiset (Holder α ι)} {exchanges : List (Exchange α ι)}

/-- A turn counts the items that it reads. -/
theorem metrics_itemsRead (h : Turn setup s before exchanges t after) :
    t.shared.metrics.itemsRead + UInt64.ofNat (tally Entry.itemsRead s.shared.journal).card =
      s.shared.metrics.itemsRead + UInt64.ofNat (tally Entry.itemsRead t.shared.journal).card := by
  cases h with
  | control h => cases h <;> simp
  | segment h => cases h <;> simp [UInt64.add_assoc]
  | delivery h => cases h <;> simp
  | chunk h => cases h <;> simp
  | _ => simp [UInt64.add_assoc]

/-- A turn counts the items that it settles as written. -/
theorem metrics_itemsWritten [DecidableEq ι] (h : Turn setup s before exchanges t after)
    (hsound : ∀ holder ∈ before, holder.IsSound) :
    t.shared.metrics.itemsWritten +
        UInt64.ofNat (tally Entry.itemsWritten s.shared.journal).card =
      s.shared.metrics.itemsWritten +
        UInt64.ofNat (tally Entry.itemsWritten t.shared.journal).card := by
  cases h with
  | control h => cases h <;> simp
  | segment h => cases h <;> simp
  | delivery h => cases h <;> simp
  | chunk h =>
    have hbefore := hsound _ (Multiset.mem_singleton_self _)
    cases h with
    | finish | exhaust | faultyRest | rest =>
      have hcard := Multiset.card_sub hbefore
      rw [Multiset.coe_card, Multiset.coe_card] at hcard
      simp [-Multiset.coe_sub, hcard, UInt64.add_assoc]
    | _ => simp
  | _ => simp

end Turn

namespace Run

variable (hpaced : setup.outsideConsumer = false) (hfresh : start.IsFresh setup)

include hpaced hfresh

/-- The counter of items read is the number of them, as a word. -/
theorem metrics_itemsRead (hrun : Run setup (start.piping setup) history s) :
    s.metrics.itemsRead = UInt64.ofNat s.itemsRead.card := by
  refine hrun.invariant
    (P := fun _ shared _ => shared.metrics.itemsRead =
      UInt64.ofNat (tally Entry.itemsRead shared.journal).card) hpaced hfresh ?_ ?_
  · rw [State.shared_metrics, State.shared_journal, hfresh.metrics, hfresh.journal]
    rfl
  · intro history s t before after rest exchanges _ _ h hs
    have hlocal := h.metrics_itemsRead
    rw [hs, UInt64.add_comm] at hlocal
    exact (UInt64.add_right_inj _).1 hlocal

variable [DecidableEq ι]

/-- The counter of items written is the number of them, as a word. -/
theorem metrics_itemsWritten (hrun : Run setup (start.piping setup) history s)
    (hfaithful : ∀ x ∈ history, x.IsFaithful) :
    s.metrics.itemsWritten = UInt64.ofNat s.itemsWritten.card := by
  refine hrun.invariant
    (P := fun history shared _ => (∀ x ∈ history, x.IsFaithful) →
      shared.metrics.itemsWritten =
        UInt64.ofNat (tally Entry.itemsWritten shared.journal).card)
    hpaced hfresh ?_ ?_ hfaithful
  · intro _
    rw [State.shared_metrics, State.shared_journal, hfresh.metrics, hfresh.journal]
    rfl
  · intro history s t before after rest exchanges run hpop h hs hfaithful
    have hfaithful := (List.forall_mem_append.1 hfaithful).2
    have hsound := run.isSound hpaced hfresh hfaithful
    rw [hpop] at hsound
    have hlocal := h.metrics_itemsWritten
      fun holder hmem => hsound holder (Multiset.mem_add.2 (.inl hmem))
    rw [hs hfaithful, UInt64.add_comm] at hlocal
    exact (UInt64.add_right_inj _).1 hlocal

/-- As long as a word holds the number of items read, the counters are exact, and so is
the number of items that they leave to be written. -/
theorem counters_exact (hrun : Run setup (start.piping setup) history s)
    (hfaithful : ∀ x ∈ history, x.IsFaithful) (hfew : s.itemsRead.card < 2 ^ 64) :
    s.metrics.itemsRead.toNat = s.itemsRead.card ∧
      s.metrics.itemsWritten.toNat = s.itemsWritten.card ∧
      s.metrics.itemsPending = (s.itemsDropped + s.itemsHeld).card := by
  have hparts := congrArg Multiset.card (hrun.itemsRead_eq hpaced hfresh hfaithful)
  rw [add_assoc, Multiset.card_add] at hparts
  have hread : s.metrics.itemsRead.toNat = s.itemsRead.card := by
    rw [hrun.metrics_itemsRead hpaced hfresh]
    exact UInt64.toNat_ofNat_of_lt' hfew
  have hwritten : s.metrics.itemsWritten.toNat = s.itemsWritten.card := by
    rw [hrun.metrics_itemsWritten hpaced hfresh hfaithful]
    have hle : s.itemsWritten.card ≤ s.itemsRead.card := by omega
    exact UInt64.toNat_ofNat_of_lt' (hle.trans_lt hfew)
  refine ⟨hread, hwritten, ?_⟩
  rw [Metrics.itemsPending, hread, hwritten]
  omega

end Run
end TableCopy
