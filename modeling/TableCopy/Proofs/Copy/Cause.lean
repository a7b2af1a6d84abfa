import TableCopy.Client.Failure
import TableCopy.Proofs.Copy.Calls

/-!
# The cause of a failed copy

The errors of a copy are those that its requests ended with, and those that it makes
itself. Neither are those of a job that is refused before its pipe: whatever a task has
met, a tracker has recorded or a pipe has ended with leaves the exit status of a copy that
has failed while it ran.
-/

namespace TableCopy

variable {α ι : Type}

/-- An error that a request ends with: it failed at the service or on the way there, or its
client did not let it through. -/
inductive CopyError.IsOfRequest : CopyError → Prop
  | failed (failure : RequestFailure) (operation cause : String) :
    IsOfRequest (failure.toError operation cause)
  | withheld (message : String) : IsOfRequest (.unexpected message)

theorem CopyError.IsOfRequest.exitCode_eq_one {e : CopyError} (h : e.IsOfRequest) :
    e.exitCode = 1 := by
  cases h with
  | withheld => rfl
  | failed failure =>
    unfold RequestFailure.toError
    split
    · split
      · rfl
      · split <;> rfl
    · rfl
    · rfl
    · rfl
    · rfl
    · rfl

/-- What is recorded as a failure is the failure of a task, or its crash. -/
theorem Outcome.of_record_eq_error {outcome : Outcome Unit} {label : String} {e : CopyError}
    (h : outcome.record label = .error e) : outcome = .returned (.error e) ∨ e.exitCode = 1 := by
  cases outcome with
  | returned result => exact .inl (congrArg Outcome.returned h)
  | crashed reason =>
    obtain rfl := Except.error.inj h
    exact .inr rfl

/-- The error that an answer brings. -/
def Answer.error? : Answer α ι → Option CopyError
  | page (.returned (.error e)) => some e
  | batch (.returned (.error e)) => some e
  | consumer (.returned (.error e)) => some e
  | _ => Option.none

/-- If an exchange fails, it fails as a request does. -/
def Exchange.FailsByRequest (x : Exchange α ι) : Prop :=
  ∀ e, x.answer.error? = some e → e.IsOfRequest

theorem Exchange.exitCode_of_error? {x : Exchange α ι} {e : CopyError}
    (h : ∀ y ∈ [x], y.FailsByRequest) (he : x.answer.error? = some e) : e.exitCode = 1 :=
  (h x (List.mem_singleton_self x) e he).exitCode_eq_one

namespace Holder

/-- The error that a holder has met and is about to hand on. -/
def error? : Holder α ι → Option CopyError
  | .control (.refused e _) => some e
  | .segment ⟨_, _, _, .closing (.error e)⟩ => some e
  | .segment ⟨_, _, _, .ending (.returned (.error e))⟩ => some e
  | .delivery ⟨_, .refused e _ _⟩ => some e
  | .delivery ⟨_, .ended (.error e)⟩ => some e
  | .chunk ⟨_, _, .ending (.returned (.error e))⟩ => some e
  | _ => none

/-- If a holder has met an error, it is one of a copy that runs. -/
def FailsInCopy (holder : Holder α ι) : Prop := ∀ e, holder.error? = some e → e.exitCode = 1

theorem failsInCopy_of_none {holder : Holder α ι} (h : holder.error? = none) :
    holder.FailsInCopy := by
  intro e he
  rw [h] at he
  cases he

theorem failsInCopy_of_some {holder : Holder α ι} {e : CopyError} (h : holder.error? = some e)
    (hcode : e.exitCode = 1) : holder.FailsInCopy := by
  intro e' he
  obtain rfl := Option.some.inj (h.symm.trans he)
  exact hcode

/-- What a holder reports as a failure is what it has met, or a crash. -/
theorem FailsInCopy.exitCode_of_report? {holder : Holder α ι} {side : Side} {e : CopyError}
    (h : holder.FailsInCopy) (hreport : holder.report? = some (side, .complete (.error e))) :
    e.exitCode = 1 := by
  unfold report? at hreport
  split at hreport
  · cases hreport
  · cases hreport
    exact h _ rfl
  · have hrecord := Tracker.Call.complete.inj (Prod.mk.inj (Option.some.inj hreport)).2
    rcases Outcome.of_record_eq_error hrecord with rfl | hcode
    · exact h _ rfl
    · exact hcode
  · cases hreport
  · cases hreport
    exact h _ rfl
  · have hrecord := Tracker.Call.complete.inj (Prod.mk.inj (Option.some.inj hreport)).2
    rcases Outcome.of_record_eq_error hrecord with rfl | hcode
    · exact h _ rfl
    · exact hcode
  · cases hreport

end Holder

variable {setup : Setup α} {start s t : State α ι} {history : List (Exchange α ι)}
variable {exchanges : List (Exchange α ι)}

theorem Control.Rule.failsInCopy {c c' : Control α ι} (h : Control.Rule setup s c t c') :
    (Holder.control c').FailsInCopy := by
  cases h <;> exact Holder.failsInCopy_of_none rfl

theorem Delivery.Rule.failsInCopy {delivery next : Delivery α ι}
    (h : Delivery.Rule setup s delivery t next) (hd : (Holder.delivery delivery).FailsInCopy) :
    (Holder.delivery next).FailsInCopy := by
  cases h with
  | refuse => exact Holder.failsInCopy_of_some rfl rfl
  | report => exact Holder.failsInCopy_of_some rfl (hd _ rfl)
  | _ => exact Holder.failsInCopy_of_none rfl

/-- A segment goes on after a page, or it has met the error of its delivery. -/
theorem SegmentTask.failsInCopy_afterHandover {task : SegmentTask α ι} {nextKey : Option ι}
    {result : Except CopyError Unit} (h : ∀ e, result = .error e → e.exitCode = 1) :
    (Holder.segment (task.afterHandover nextKey result)).FailsInCopy := by
  cases result with
  | error e => exact Holder.failsInCopy_of_some rfl (h e rfl)
  | ok => cases nextKey <;> exact Holder.failsInCopy_of_none rfl

variable [Quantity α]

theorem ChunkTask.Rule.failsInCopy {task next : ChunkTask α ι}
    (h : ChunkTask.Rule setup s task exchanges t next)
    (hall : ∀ x ∈ exchanges, x.FailsByRequest) : (Holder.chunk next).FailsInCopy := by
  cases h with
  | interrupt | exhaust => exact Holder.failsInCopy_of_some rfl rfl
  | giveUp => exact Holder.failsInCopy_of_some rfl (Exchange.exitCode_of_error? hall rfl)
  | _ => exact Holder.failsInCopy_of_none rfl

theorem SegmentTask.Rule.failsInCopy {task next : SegmentTask α ι}
    (h : SegmentTask.Rule setup s task exchanges t next)
    (hall : ∀ x ∈ exchanges, x.FailsByRequest) (htask : (Holder.segment task).FailsInCopy) :
    (Holder.segment next).FailsInCopy := by
  cases h with
  | interrupt => exact Holder.failsInCopy_of_some rfl rfl
  | giveUp => exact Holder.failsInCopy_of_some rfl (Exchange.exitCode_of_error? hall rfl)
  | @skip segment key pages page =>
    cases hkey : page.nextKey <;> exact Holder.failsInCopy_of_none rfl
  | takenOutside result =>
    refine SegmentTask.failsInCopy_afterHandover ?_
    rintro e rfl
    exact Exchange.exitCode_of_error? hall rfl
  | close result =>
    cases result with
    | error e => exact Holder.failsInCopy_of_some rfl (htask e rfl)
    | ok => exact Holder.failsInCopy_of_none rfl
  | _ => exact Holder.failsInCopy_of_none rfl

/-- A turn hands errors on, meets those of its exchange, or makes its own. -/
theorem Turn.failsInCopy {before after : Multiset (Holder α ι)}
    (h : Turn setup s before exchanges t after) (hall : ∀ x ∈ exchanges, x.FailsByRequest)
    (hbefore : ∀ holder ∈ before, holder.FailsInCopy) :
    ∀ holder ∈ after, holder.FailsInCopy := by
  intro holder hmem
  cases h with
  | control h =>
    obtain rfl := Multiset.mem_singleton.1 hmem
    exact h.failsInCopy
  | segment h =>
    obtain rfl := Multiset.mem_singleton.1 hmem
    exact h.failsInCopy hall (hbefore _ (Multiset.mem_singleton_self _))
  | delivery h =>
    obtain rfl := Multiset.mem_singleton.1 hmem
    exact h.failsInCopy (hbefore _ (Multiset.mem_singleton_self _))
  | chunk h =>
    obtain rfl := Multiset.mem_singleton.1 hmem
    exact h.failsInCopy hall
  | rejectSegment hrefused | rejectChunk hrefused =>
    obtain rfl := Multiset.mem_singleton.1 hmem
    obtain ⟨message, rfl⟩ := Pool.exists_of_submit_refused hrefused
    exact Holder.failsInCopy_of_some rfl rfl
  | @takeBack segment key pages nextKey number result =>
    obtain rfl := Multiset.mem_singleton.1 hmem
    refine SegmentTask.failsInCopy_afterHandover ?_
    rintro e rfl
    exact hbefore (.delivery ⟨number, .ended (.error e)⟩)
      (Multiset.mem_add.2 (.inr (Multiset.mem_singleton_self _))) e rfl
  | submitSegment | handOver | submitChunk =>
    rcases Multiset.mem_add.1 hmem with hmem | hmem <;>
    · obtain rfl := Multiset.mem_singleton.1 hmem
      exact Holder.failsInCopy_of_none rfl
  | release =>
    obtain rfl := Multiset.mem_singleton.1 hmem
    exact Holder.failsInCopy_of_none rfl
  | rearrange | interrupt | elapse | retireSegment | retireChunk =>
    exact absurd hmem (Multiset.notMem_zero _)

section Pipe

variable (hpaced : setup.outsideConsumer = false) (hfresh : start.IsFresh setup)

include hpaced hfresh

theorem Run.failsInCopy (hrun : Run setup (start.piping setup) history s)
    (hall : ∀ x ∈ history, x.FailsByRequest) : ∀ holder ∈ s.population, holder.FailsInCopy :=
  hrun.forall_holders hpaced hfresh (Holder.failsInCopy_of_none rfl) Turn.failsInCopy hall

/-- Whatever is reported to the trackers as a failure is one of a copy that runs. -/
theorem LoggedRun.exitCode_of_mem {log : List (Side × Tracker.Call)}
    (hrun : LoggedRun setup (start.piping setup) log history s)
    (hall : ∀ x ∈ history, x.FailsByRequest) {side : Side} {e : CopyError}
    (hmem : (side, .complete (.error e)) ∈ log) : e.exitCode = 1 := by
  induction hrun with
  | start => cases hmem
  | release _ _ ih => exact ih hall hmem
  | @step log history s t move run h ih =>
    have hearlier := (List.forall_mem_append.1 hall).2
    rcases List.mem_append.1 hmem with hmem | hmem
    · rcases State.reported_cases s move with hsilent | ⟨holder, of, call, hholder, hreport, hcall⟩
      · rw [hsilent] at hmem
        cases hmem
      · rw [hcall] at hmem
        rw [← List.mem_singleton.1 hmem] at hreport
        exact (run.run.failsInCopy hpaced hfresh hearlier holder hholder).exitCode_of_report?
          hreport
    · exact ih hearlier hmem

/-- The failure that a tracker keeps is one of a copy that runs. -/
theorem Run.exitCode_of_firstError (hrun : Run setup (start.piping setup) history s)
    (hall : ∀ x ∈ history, x.FailsByRequest) (side : Side) {e : CopyError}
    (hfirst : (s.tracker side).firstError = some e) : e.exitCode = 1 := by
  obtain ⟨log, hlogged⟩ := hrun.exists_loggedRun
  rw [hlogged.tracker_eq hpaced hfresh, Tracker.firstError_after] at hfirst
  exact hlogged.exitCode_of_mem hpaced hfresh hall
    (Side.mem_calls.1 (Tracker.mem_of_firstFailure? hfirst))

/-- The error that a pipe ends with is one of a copy that runs. -/
theorem Run.exitCode_of_result? (hrun : Run setup (start.piping setup) history s)
    (hall : ∀ x ∈ history, x.FailsByRequest) {e : CopyError}
    (hresult : s.control.result? = some (.error e)) : e.exitCode = 1 := by
  obtain ⟨scanned, written, hscan, hwrite, hended⟩ :=
    (hrun.hasLearned hpaced hfresh _ (mem_population_of_result? hresult)).of_result? hresult
  rcases hended with hended | ⟨-, hended⟩
  · cases scanned with
    | error first =>
      obtain rfl : e = first := Except.error.inj hended
      exact hrun.exitCode_of_firstError hpaced hfresh hall .source
        (Tracker.firstError_of_wait? hscan)
    | ok =>
      obtain rfl : .error e = written := hended
      exact hrun.exitCode_of_firstError hpaced hfresh hall .destination
        (Tracker.firstError_of_wait? hwrite)
  · obtain rfl := Except.error.inj hended
    rfl

end Pipe
end TableCopy
