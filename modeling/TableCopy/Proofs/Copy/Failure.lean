import TableCopy.Proofs.Copy.Ledger
import TableCopy.Proofs.Copy.Tracking

/-!
# Failures come to light

A failure is first held by the task that met it and then recorded by a tracker, which
keeps it. So a copy that has dropped an item has a failure on record, or a chunk that
is about to record one, and a pipe that returns a success has neither.
-/

namespace TableCopy

variable {α ι : Type}

theorem Outcome.exists_record_eq_error {outcome : Outcome Unit} (label : String)
    (h : outcome ≠ .returned (.ok ())) : ∃ e, outcome.record label = .error e := by
  cases outcome with
  | crashed => exact ⟨_, rfl⟩
  | returned result =>
    cases result with
    | error e => exact ⟨e, rfl⟩
    | ok => exact absurd rfl h

theorem Tracker.hasFailed_complete_record {outcome : Outcome Unit} (tracker : Tracker)
    (label : String) (h : outcome ≠ .returned (.ok ())) :
    (tracker.complete (outcome.record label)).hasFailed = true := by
  obtain ⟨e, he⟩ := Outcome.exists_record_eq_error label h
  rw [he, hasFailed_complete_error]

namespace Holder

/-- The holder is about to report a failure to the scan tracker. -/
def FailsScan : Holder α ι → Prop
  | .control (.refused ..) => True
  | .segment ⟨_, _, _, .closing (.error _)⟩ => True
  | .segment ⟨_, _, _, .ending outcome⟩ => outcome ≠ .returned (.ok ())
  | _ => False

/-- The holder is about to report a failure to the write tracker. -/
def FailsWrite : Holder α ι → Prop
  | .delivery ⟨_, .refused ..⟩ => True
  | .chunk ⟨_, _, .ending outcome⟩ => outcome ≠ .returned (.ok ())
  | _ => False

theorem scanPending_of_failsScan {holder : Holder α ι} (h : holder.FailsScan) :
    holder.scanPending = 1 := by
  rcases holder with c | ⟨segment, key, pages, phase⟩ | d | task
  · cases c <;> first | rfl | cases h
  · cases phase <;> first | rfl | cases h
  · cases h
  · cases h

theorem writePending_of_failsWrite {holder : Holder α ι} (h : holder.FailsWrite) :
    holder.writePending = 1 := by
  rcases holder with c | task | ⟨segment, phase⟩ | ⟨segment, pending, phase⟩
  · cases h
  · cases h
  · cases phase <;> first | rfl | cases h
  · cases phase <;> first | rfl | cases h

end Holder

/-- A segment has failed: on record, or about to be. -/
def ScanFailed (shared : Shared α ι) (holders : Multiset (Holder α ι)) : Prop :=
  shared.scanTracker.hasFailed = true ∨ ∃ holder ∈ holders, holder.FailsScan

/-- A chunk has failed: on record, or about to be. -/
def WriteFailed (shared : Shared α ι) (holders : Multiset (Holder α ι)) : Prop :=
  shared.writeTracker.hasFailed = true ∨ ∃ holder ∈ holders, holder.FailsWrite

section Failed

variable {shared : Shared α ι} {holders others : Multiset (Holder α ι)}

theorem scanFailed_add : ScanFailed shared (holders + others) ↔
    ScanFailed shared holders ∨ ∃ holder ∈ others, holder.FailsScan := by
  simp only [ScanFailed, Multiset.mem_add, or_and_right, exists_or, or_assoc]

theorem writeFailed_add : WriteFailed shared (holders + others) ↔
    WriteFailed shared holders ∨ ∃ holder ∈ others, holder.FailsWrite := by
  simp only [WriteFailed, Multiset.mem_add, or_and_right, exists_or, or_assoc]

theorem writeFailed_singleton {holder : Holder α ι} (h : holder.FailsWrite) :
    WriteFailed shared {holder} := .inr ⟨holder, Multiset.mem_singleton_self holder, h⟩

theorem scanFailed_singleton {holder : Holder α ι} (h : holder.FailsScan) :
    ScanFailed shared {holder} := .inr ⟨holder, Multiset.mem_singleton_self holder, h⟩

end Failed

variable [Quantity α] {setup : Setup α} {start s t : State α ι} {history : List (Exchange α ι)}

namespace Turn

variable {before after : Multiset (Holder α ι)} {exchanges : List (Exchange α ι)}

/-- A failure on record stays on record. -/
theorem hasFailed_scan (h : Turn setup s before exchanges t after)
    (hfailed : s.scanTracker.hasFailed = true) : t.scanTracker.hasFailed = true := by
  cases h with
  | control h =>
    cases h with
    | report => exact Tracker.hasFailed_complete hfailed _
    | _ => exact hfailed
  | segment h =>
    cases h with
    | complete => exact Tracker.hasFailed_complete hfailed _
    | _ => exact hfailed
  | delivery h => cases h <;> exact hfailed
  | chunk h => cases h <;> exact hfailed
  | _ => exact hfailed

theorem hasFailed_write (h : Turn setup s before exchanges t after)
    (hfailed : s.writeTracker.hasFailed = true) : t.writeTracker.hasFailed = true := by
  cases h with
  | control h => cases h <;> exact hfailed
  | segment h => cases h <;> exact hfailed
  | delivery h =>
    cases h with
    | report => exact Tracker.hasFailed_complete hfailed _
    | _ => exact hfailed
  | chunk h =>
    cases h with
    | complete => exact Tracker.hasFailed_complete hfailed _
    | _ => exact hfailed
  | _ => exact hfailed

/-- A failed segment is reported, and nobody forgets it before. -/
theorem scanFailed (h : Turn setup s before exchanges t after)
    (hfailed : ScanFailed s.shared before) : ScanFailed t.shared after := by
  rcases hfailed with hfailed | ⟨holder, hmem, hfails⟩
  · exact .inl (h.hasFailed_scan hfailed)
  · cases h with
    | control h =>
      obtain rfl := Multiset.mem_singleton.1 hmem
      cases h with
      | report => exact .inl (Tracker.hasFailed_complete_error _ _)
      | _ => cases hfails
    | segment h =>
      obtain rfl := Multiset.mem_singleton.1 hmem
      cases h with
      | close result =>
        cases result with
        | error e => exact scanFailed_singleton (fun hok => by cases hok)
        | ok => cases hfails
      | complete => exact .inl (Tracker.hasFailed_complete_record _ _ hfails)
      | _ => cases hfails
    | retireSegment h =>
      obtain rfl := Multiset.mem_singleton.1 hmem
      obtain ⟨segment, key, pages, rfl⟩ := SegmentTask.exists_of_isFinished h
      cases hfails
    | takeBack =>
      rcases Multiset.mem_add.1 hmem with hmem | hmem <;>
      · obtain rfl := Multiset.mem_singleton.1 hmem
        cases hfails
    | rearrange | interrupt | elapse => exact absurd hmem (Multiset.notMem_zero _)
    | _ =>
      obtain rfl := Multiset.mem_singleton.1 hmem
      cases hfails

/-- A failed chunk is reported, and nobody forgets it before. -/
theorem writeFailed (h : Turn setup s before exchanges t after)
    (hfailed : WriteFailed s.shared before) : WriteFailed t.shared after := by
  rcases hfailed with hfailed | ⟨holder, hmem, hfails⟩
  · exact .inl (h.hasFailed_write hfailed)
  · cases h with
    | delivery h =>
      obtain rfl := Multiset.mem_singleton.1 hmem
      cases h with
      | report => exact .inl (Tracker.hasFailed_complete_error _ _)
      | _ => cases hfails
    | chunk h =>
      obtain rfl := Multiset.mem_singleton.1 hmem
      cases h with
      | complete => exact .inl (Tracker.hasFailed_complete_record _ _ hfails)
      | _ => cases hfails
    | retireChunk h =>
      obtain rfl := Multiset.mem_singleton.1 hmem
      obtain ⟨segment, pending, rfl⟩ := ChunkTask.exists_of_isFinished h
      cases hfails
    | takeBack =>
      rcases Multiset.mem_add.1 hmem with hmem | hmem <;>
      · obtain rfl := Multiset.mem_singleton.1 hmem
        cases hfails
    | rearrange | interrupt | elapse => exact absurd hmem (Multiset.notMem_zero _)
    | _ =>
      obtain rfl := Multiset.mem_singleton.1 hmem
      cases hfails

/-- Items are dropped only by a chunk that fails, or where one has failed. -/
theorem itemsDropped_eq (h : Turn setup s before exchanges t after) :
    tally Entry.itemsDropped t.shared.journal = tally Entry.itemsDropped s.shared.journal ∨
      WriteFailed t.shared after := by
  cases h with
  | control h => cases h <;> exact .inl (by simp)
  | segment h => cases h <;> exact .inl (by simp)
  | delivery h =>
    cases h with
    | refuse hfailed => exact .inr (.inl hfailed)
    | report => exact .inr (.inl (Tracker.hasFailed_complete_error _ _))
    | _ => exact .inl (by simp)
  | chunk h =>
    cases h with
    | interrupt | crash | giveUp | faultyDelay | exhaust | faultyRest =>
      exact .inr (writeFailed_singleton (fun hok => by cases hok))
    | _ => exact .inl (by simp)
  | _ => exact .inl (by simp)

end Turn

namespace Run

open Holder

variable (hpaced : setup.outsideConsumer = false) (hfresh : start.IsFresh setup)

include hpaced hfresh

/-- Where items are dropped, a chunk has failed. -/
theorem writeFailed_of_dropped (hrun : Run setup (start.piping setup) history s)
    (hdropped : s.itemsDropped ≠ 0) : WriteFailed s.shared s.population := by
  refine hrun.invariant (P := fun _ shared holders =>
    tally Entry.itemsDropped shared.journal ≠ 0 → WriteFailed shared holders)
    hpaced hfresh ?_ ?_ hdropped
  · intro hdropped
    rw [State.shared_journal, hfresh.journal] at hdropped
    exact absurd rfl hdropped
  · intro history s t before after rest exchanges _ _ h hs hdropped
    rw [writeFailed_add]
    rcases h.itemsDropped_eq with hsame | hfailed
    · rw [hsame] at hdropped
      exact (writeFailed_add.1 (hs hdropped)).imp_left h.writeFailed
    · exact .inl hfailed

omit [Quantity α] hpaced hfresh in
/-- A pipe that has ended has its controlling thread among the holders. -/
theorem mem_population_of_result? {result : Except CopyError Unit}
    (h : s.control.result? = some result) : .control s.control ∈ s.population := by
  have hholders : s.control.holders = {.control s.control} := by
    cases hcontrol : s.control <;> first | rfl | (rw [hcontrol] at h; cases h)
  rw [State.population, hholders]
  exact Multiset.mem_add.2 (.inl (Multiset.mem_add.2 (.inl (Multiset.mem_singleton_self _))))

/-- When a pipe has ended, every task has been reported; if it ended well, all of them
ended well. -/
theorem settled_of_result? (hrun : Run setup (start.piping setup) history s)
    {result : Except CopyError Unit} (hresult : s.control.result? = some result) :
    (total scanPending s.population = 0 ∧ total writePending s.population = 0) ∧
      (result = .ok () → ¬ScanFailed s.shared s.population ∧
        ¬WriteFailed s.shared s.population) := by
  have hsettled := hrun.isSettled hpaced hfresh _ (mem_population_of_result? hresult)
  obtain ⟨hscanned, hwritten⟩ := Control.learned_of_result? hresult
  obtain ⟨hscanPending, hscanOk⟩ := hsettled.scanned result hscanned
  obtain ⟨hwritePending, hwriteOk⟩ := hsettled.written result hwritten
  rw [State.shared_scanTracker, hrun.scanPending_eq hpaced hfresh] at hscanPending
  rw [State.shared_writeTracker, hrun.writePending_eq hpaced hfresh] at hwritePending
  refine ⟨⟨hscanPending, hwritePending⟩, ?_⟩
  intro hok
  constructor
  · rintro (hfailed | ⟨holder, hmem, hfails⟩)
    · rw [hscanOk hok] at hfailed
      cases hfailed
    · have hle := le_total_of_mem scanPending hmem
      rw [hscanPending, scanPending_of_failsScan hfails] at hle
      cases hle
  · rintro (hfailed | ⟨holder, hmem, hfails⟩)
    · rw [hwriteOk hok] at hfailed
      cases hfailed
    · have hle := le_total_of_mem writePending hmem
      rw [hwritePending, writePending_of_failsWrite hfails] at hle
      cases hle

/-- A pipe that has ended has no task left on either side. -/
theorem pending_eq_zero_of_result? {result : Except CopyError Unit}
    (hrun : Run setup (start.piping setup) history s) (hresult : s.control.result? = some result)
    {holder : Holder α ι} (hmem : holder ∈ s.population) :
    holder.scanPending = 0 ∧ holder.writePending = 0 ∧ holder.deliveries = 0 := by
  obtain ⟨⟨hscan, hwrite⟩, -⟩ := hrun.settled_of_result? hpaced hfresh hresult
  have hdelivery := total_le_total delivering_le_scanPending s.population
  rw [hscan, ← hrun.total_deliveries hpaced hfresh] at hdelivery
  exact ⟨Nat.le_zero.1 ((le_total_of_mem _ hmem).trans hscan.le),
    Nat.le_zero.1 ((le_total_of_mem _ hmem).trans hwrite.le),
    Nat.le_zero.1 ((le_total_of_mem _ hmem).trans hdelivery)⟩

/-- A pipe that has dropped items ends with an error. -/
theorem result_eq_error_of_dropped (hrun : Run setup (start.piping setup) history s)
    {result : Except CopyError Unit} (hresult : s.control.result? = some result)
    (hdropped : s.itemsDropped ≠ 0) : ∃ e, result = .error e := by
  cases result with
  | error e => exact ⟨e, rfl⟩
  | ok =>
    have hfailed := hrun.writeFailed_of_dropped hpaced hfresh hdropped
    exact absurd hfailed ((hrun.settled_of_result? hpaced hfresh hresult).2 rfl).2

end Run
end TableCopy
