import TableCopy.Tracker

/-!
# What calls make of a tracker

A tracker keeps a number and a failure; who called it, and in which order, is lost. The
calls of a tracker, the latest first, tell both: the number is that of the tasks that have
begun and not completed, and the failure the one that was reported first.
-/

namespace TableCopy
namespace Tracker

/-- A call of a tracker: a task begins, or it completes with a result. -/
inductive Call
  | begin
  | complete (result : Except CopyError Unit)

namespace Call

def isBegin : Call → Bool
  | begin => true
  | complete _ => false

/-- The failure that a call reports. -/
def failure? : Call → Option CopyError
  | complete (.error e) => some e
  | _ => none

end Call

def apply (tracker : Tracker) : Call → Tracker
  | .begin => tracker.begin
  | .complete result => tracker.complete result

/-- A tracker after calls, the latest first. -/
def after (tracker : Tracker) : List Call → Tracker
  | [] => tracker
  | call :: calls => (tracker.after calls).apply call

theorem after_append (tracker : Tracker) (calls earlier : List Call) :
    tracker.after (calls ++ earlier) = (tracker.after earlier).after calls := by
  induction calls with
  | nil => rfl
  | cons call calls ih => rw [List.cons_append, after, ih, after]

/-- Every completion finds a task pending, so that it is not the completion of a task that
has completed before. -/
inductive IsMatched : List Call → Prop
  | nil : IsMatched []
  | begin {calls} (h : IsMatched calls) : IsMatched (.begin :: calls)
  | complete {calls result} (h : IsMatched calls)
      (hpending : 1 ≤ (({} : Tracker).after calls).pending) :
    IsMatched (.complete result :: calls)

/-- Of the tasks that have begun, those are pending that have not completed. -/
theorem IsMatched.begins_eq {calls : List Call} (h : IsMatched calls) :
    calls.countP Call.isBegin =
      calls.countP (fun call => !call.isBegin) + (({} : Tracker).after calls).pending := by
  induction h with
  | nil => rfl
  | begin _ ih =>
    rw [List.countP_cons_of_pos rfl, List.countP_cons_of_neg (by simp [Call.isBegin]), ih]
    rfl
  | @complete calls result _ hpending ih =>
    have hafter : (({} : Tracker).after (.complete result :: calls)).pending =
        (({} : Tracker).after calls).pending - 1 := rfl
    rw [List.countP_cons_of_neg (by simp [Call.isBegin]), List.countP_cons_of_pos rfl, ih, hafter]
    omega

theorem Call.failure?_eq_some_iff {call : Call} {e : CopyError} :
    call.failure? = some e ↔ call = .complete (.error e) := by
  rcases call with _ | (e' | ⟨⟩) <;> simp [failure?]

/-- The failure that was reported first. -/
def firstFailure? (calls : List Call) : Option CopyError := calls.reverse.findSome? Call.failure?

theorem firstFailure?_cons (call : Call) (calls : List Call) :
    firstFailure? (call :: calls) = (firstFailure? calls).or call.failure? := by
  rw [firstFailure?, List.reverse_cons, List.findSome?_append]
  cases h : call.failure? <;> simp [firstFailure?, h]

theorem mem_of_firstFailure? {calls : List Call} {e : CopyError}
    (h : firstFailure? calls = some e) : .complete (.error e) ∈ calls := by
  obtain ⟨call, hcall, hfailure⟩ := List.exists_of_findSome?_eq_some h
  rw [← Call.failure?_eq_some_iff.1 hfailure]
  exact List.mem_reverse.1 hcall

/-- A tracker keeps the failure that was reported first. -/
theorem firstError_after (calls : List Call) :
    (({} : Tracker).after calls).firstError = firstFailure? calls := by
  induction calls with
  | nil => rfl
  | cons call calls ih =>
    rw [firstFailure?_cons, ← ih, after]
    cases call with
    | begin => exact Option.or_none.symm
    | complete result =>
      cases h : (({} : Tracker).after calls).firstError <;> rcases result with e | _ <;>
        simp [apply, complete, h, Call.failure?]

theorem hasFailed_complete {tracker : Tracker} (h : tracker.hasFailed = true)
    (result : Except CopyError Unit) : (tracker.complete result).hasFailed = true := by
  obtain ⟨e, he⟩ := Option.isSome_iff_exists.1 h
  rw [hasFailed, firstError_complete_of_some he, Option.isSome_some]

/-- Who waits is answered when no task is pending, and favourably when none has failed. -/
theorem of_wait?_eq_some {tracker : Tracker} {result : Except CopyError Unit}
    (h : tracker.wait? = some result) :
    tracker.pending = 0 ∧ (result = .ok () → tracker.hasFailed = false) := by
  unfold wait? at h
  split at h
  · rename_i hpending
    refine ⟨hpending, ?_⟩
    rintro rfl
    cases hfirst : tracker.firstError with
    | none => rw [hasFailed, hfirst, Option.isSome_none]
    | some e =>
      rw [hfirst] at h
      cases h
  · cases h

/-- Who waits is answered with the failure on record. -/
theorem firstError_of_wait? {tracker : Tracker} {e : CopyError}
    (h : tracker.wait? = some (.error e)) : tracker.firstError = some e := by
  rw [wait?, if_pos (of_wait?_eq_some h).1] at h
  cases hfirst : tracker.firstError with
  | none =>
    rw [hfirst] at h
    cases h
  | some first =>
    rw [hfirst] at h
    rw [Except.error.inj (Option.some.inj h)]

/-- What calls have come to: the failure that was reported first, or none. -/
def verdict (calls : List Call) : Except CopyError Unit :=
  match firstFailure? calls with
  | some e => .error e
  | none => .ok ()

theorem wait?_after {calls : List Call} {result : Except CopyError Unit}
    (h : (({} : Tracker).after calls).wait? = some result) : result = verdict calls := by
  rw [wait?, if_pos (of_wait?_eq_some h).1, firstError_after] at h
  exact (Option.some.inj h).symm

end Tracker
end TableCopy
