import TableCopy.Proofs.Copy.Completeness
import TableCopy.Proofs.Pipeline.Submissions
import TableCopy.Proofs.Plan.Section

/-!
# The counters of segments

Every segment that is submitted is started, and one that is started ends well unless the
copy fails. The controlling thread submits no more segments than the copy owns, and leaves
none out unless the copy is stopped.
-/

namespace TableCopy

variable {α ι : Type}

/-- The segments of a scan job can be counted by a word. -/
theorem ScanJob.length_segments_lt (job : ScanJob α) : job.segments.length < 2 ^ 64 :=
  (Section.length_ownedSegments_le _ _).trans_lt
    (job.plan.totalSegments.toNat_lt.trans (by decide))

namespace Metrics

/-- Counters of segments that stand for these numbers. -/
structure CountsSegments (metrics : Metrics) (started completed failed : Nat) : Prop where
  started : metrics.segmentsStarted = UInt64.ofNat started
  completed : metrics.segmentsCompleted = UInt64.ofNat completed
  failed : metrics.segmentsFailed = UInt64.ofNat failed

/-- Segments that an event counts as started. -/
def Event.starts : Event α → Nat
  | .segmentStarted => 1
  | _ => 0

/-- Segments that an event counts as completed. -/
def Event.completions : Event α → Nat
  | .segmentEnded true => 1
  | _ => 0

/-- Segments that an event counts as failed. -/
def Event.failures : Event α → Nat
  | .segmentEnded false => 1
  | _ => 0

theorem CountsSegments.record [Quantity α] {metrics : Metrics} {started completed failed : Nat}
    (h : metrics.CountsSegments started completed failed) (event : Event α) :
    (metrics.record event).CountsSegments (started + event.starts)
      (completed + event.completions) (failed + event.failures) := by
  refine ⟨?_, ?_, ?_⟩
  · rw [UInt64.ofNat_add, ← h.started]
    cases event with
    | segmentEnded success => cases success <;> rfl
    | _ => rfl
  · rw [UInt64.ofNat_add, ← h.completed]
    cases event with
    | segmentEnded success => cases success <;> rfl
    | _ => rfl
  · rw [UInt64.ofNat_add, ← h.failed]
    cases event with
    | segmentEnded success => cases success <;> rfl
    | _ => rfl

end Metrics

namespace Holder

/-- One for a segment task that has not started. -/
def unstarted : Holder α ι → Nat
  | .segment ⟨_, _, _, .ready⟩ => 1
  | _ => 0

/-- One for a segment task that has started and is not counted as ended. -/
def unended : Holder α ι → Nat
  | .segment ⟨_, _, _, .ready⟩ | .segment ⟨_, _, _, .ending _⟩
  | .segment ⟨_, _, _, .finished⟩ => 0
  | .segment _ => 1
  | _ => 0

/-- The segments that are still to be submitted. -/
def unsubmitted : Holder α ι → Nat
  | .control (.submitting left) | .control (.refused _ left) => left.length
  | .control (.beginning _ left) | .control (.handing _ left) => left.length + 1
  | _ => 0

section AfterHandover

variable (segment : Nat) (key : Option ι) (pages : Nat) (phase : SegmentPhase α ι)
variable (nextKey : Option ι) (result : Except CopyError Unit)

end AfterHandover

end Holder

variable [Quantity α] {setup : Setup α} {start s t : State α ι} {history : List (Exchange α ι)}

namespace Turn

open Holder

variable {before after : Multiset (Holder α ι)} {exchanges : List (Exchange α ι)}
variable {started completed failed : Nat}

omit [Quantity α] in
/-- The numbers of segments after a turn that began at these: a segment is started when its
task starts, and completed when that ends well, unless one fails. -/
def CountsOn (before : Multiset (Holder α ι)) (started completed failed : Nat)
    (shared : Shared α ι) (after : Multiset (Holder α ι)) : Prop :=
  ∃ started' completed' failed', shared.metrics.CountsSegments started' completed' failed' ∧
    started' + total unstarted after =
      started + total unstarted before + (total segmentTasks after - total segmentTasks before) ∧
    (ScanFailed shared after ∨
      failed' = failed ∧ completed' + total unended after + started =
        completed + total unended before + started')

omit [Quantity α] in
theorem CountsOn.of_same {shared : Shared α ι}
    (hcounts : shared.metrics.CountsSegments started completed failed)
    (hunstarted : total unstarted after = total unstarted before)
    (htasks : total segmentTasks after ≤ total segmentTasks before)
    (hunended : ScanFailed shared after ∨ total unended after = total unended before) :
    CountsOn before started completed failed shared after := by
  refine ⟨started, completed, failed, hcounts, ?_, hunended.imp_right fun hsame => ⟨rfl, ?_⟩⟩
  · rw [hunstarted, Nat.sub_eq_zero_of_le htasks, Nat.add_zero]
  · rw [hsame]

/-- A turn submits a segment that was to be submitted, to be taken or to be lost, and leaves one
out only if it stops the copy. -/
theorem submitted_eq (h : Turn setup s before exchanges t after) :
    total segmentTasks after - total segmentTasks before + t.shared.missingReaders +
          total unsubmitted after ≤ s.shared.missingReaders + total unsubmitted before ∧
      (total segmentTasks after - total segmentTasks before + t.shared.missingReaders +
          total unsubmitted after = s.shared.missingReaders + total unsubmitted before ∨
        Stops before t.shared after) := by
  cases h with
  | control h =>
    cases h with
    | stop hstop =>
      refine ⟨by simp [segmentTasks, unsubmitted], .inr ?_⟩
      rcases hstop with hint | hfailed
      · refine .inr ⟨hint, rfl, ?_⟩
        intro holder hmem hsuccess
        obtain rfl := Multiset.mem_singleton.1 hmem
        cases hsuccess
      · exact .inl (.inl hfailed)
    | _ => simp [segmentTasks, unsubmitted]
  | submitSegment =>
    simp only [total_add, total_singleton, segmentTasks, unsubmitted]
    exact ⟨by omega, .inl (by omega)⟩
  | rejectSegment hrefused =>
    refine ⟨?_, .inr (.inl (scanFailed_singleton trivial))⟩
    have hlost := Pool.unstarted_submit_le hrefused
    simp only [total_singleton, segmentTasks, unsubmitted, State.shared_missingReaders]
    omega
  | segment h => simp [segmentTasks, unsubmitted, h.places.1]
  | delivery h => simp [segmentTasks, unsubmitted, h.places.1]
  | chunk h => simp [segmentTasks, unsubmitted, h.places.1]
  | _ => simp [segmentTasks, unsubmitted]

end Turn

namespace Run

open Holder

section Counters

variable (hpaced : setup.outsideConsumer = false) (hfresh : start.IsFresh setup)
variable (hnone : start.readPool.submitted = 0)

include hpaced hfresh hnone

/-- The segments that were submitted and those that are still to be submitted are no more
than the copy owns, and as many, unless the copy is stopped. -/
theorem submitted_eq (hrun : Run setup (start.piping setup) history s) :
    s.readPool.submitted + total unsubmitted s.population ≤ setup.scan.segments.length ∧
      (Stopped s.shared s.population ∨
        s.readPool.submitted + total unsubmitted s.population = setup.scan.segments.length) := by
  have hinvariant := hrun.invariant_submitted
    (P := fun _ shared holders read _ =>
      read + shared.missingReaders + total unsubmitted holders ≤
          setup.scan.segments.length + start.readPool.unstarted ∧
        (Stopped shared holders ∨
          read + shared.missingReaders + total unsubmitted holders =
            setup.scan.segments.length + start.readPool.unstarted))
    hpaced hfresh.reliable.piping rfl ?_ ?_
  · obtain ⟨taken, -, lost, -, ⟨hle, heq⟩, hreads, -⟩ := hinvariant
    have hmissing : s.readPool.unstarted = start.readPool.unstarted + lost := hreads.unstarted
    rw [State.shared_missingReaders, hmissing] at hle heq
    rw [hreads.submitted]
    exact ⟨by omega, heq.imp_right fun heq => by omega⟩
  · have hsubmitted : (start.piping setup).readPool.submitted = 0 := hnone
    have hmissing : (start.piping setup).shared.missingReaders = start.readPool.unstarted := rfl
    rw [hfresh.population_piping, hsubmitted, hmissing, total_singleton, Nat.zero_add, Nat.add_comm]
    exact ⟨le_rfl, .inr rfl⟩
  · intro history u v before after rest exchanges read write run hpop h hu
    obtain ⟨hle, heq⟩ := hu
    obtain ⟨hlocal, hlocalEq⟩ := h.submitted_eq
    rw [total_add] at hle heq ⊢
    refine ⟨by omega, ?_⟩
    rcases heq with hstopped | heq
    · exact .inl (h.stopped hstopped)
    · rcases hlocalEq with hlocalEq | hstops
      · exact .inr (by omega)
      · exact .inl (run.stopped_of_stops hpaced hfresh hpop hstops)

end Counters
end Run
end TableCopy
