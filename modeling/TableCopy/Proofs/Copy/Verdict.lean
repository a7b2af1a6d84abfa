import TableCopy.Proofs.Copy.Calls
import TableCopy.Proofs.Copy.Tables

/-!
# What a pipe reports of its failures

A pipe that was not interrupted ends with the first failure of its segments if one of them
has failed, and else with the first failure of its chunks. This need not be the failure
that came first: a segment whose page is refused, because a chunk has failed before, fails
by that refusal, and the refusal hides what happened to the chunk.
-/

namespace TableCopy

/-- The failure that came first, whatever its side. -/
def firstRecorded? (log : List (Side × Tracker.Call)) : Option CopyError :=
  log.reverse.findSome? fun entry => entry.2.failure?

theorem firstRecorded?_cons (entry : Side × Tracker.Call) (log : List (Side × Tracker.Call)) :
    firstRecorded? (entry :: log) = (firstRecorded? log).or entry.2.failure? := by
  rw [firstRecorded?, List.reverse_cons, List.findSome?_append]
  cases h : entry.2.failure? <;> simp [firstRecorded?, h]

theorem firstRecorded?_append_of_some {log later : List (Side × Tracker.Call)} {e : CopyError}
    (h : firstRecorded? log = some e) : firstRecorded? (later ++ log) = some e := by
  induction later with
  | nil => exact h
  | cons entry later ih => rw [List.cons_append, firstRecorded?_cons, ih, Option.some_or]

theorem Side.firstFailure?_calls_cons (side of : Side) (call : Tracker.Call)
    (log : List (Side × Tracker.Call)) :
    Tracker.firstFailure? (side.calls ((of, call) :: log)) =
      (Tracker.firstFailure? (side.calls log)).or (if of = side then call.failure? else none) := by
  by_cases h : of = side
  · rw [if_pos h, ← Tracker.firstFailure?_cons]
    simp [calls, h]
  · rw [if_neg h, Option.or_none]
    simp [calls, h]

/-- The failure that came first is the first one of its side. -/
theorem firstRecorded?_cases (log : List (Side × Tracker.Call)) :
    (firstRecorded? log = none ∧
      ∀ side : Side, Tracker.firstFailure? (side.calls log) = none) ∨
    ∃ (side : Side) (e : CopyError), firstRecorded? log = some e ∧
      Tracker.firstFailure? (side.calls log) = some e := by
  induction log with
  | nil => exact .inl ⟨rfl, fun _ => rfl⟩
  | cons entry log ih =>
    obtain ⟨of, call⟩ := entry
    simp only [firstRecorded?_cons, Side.firstFailure?_calls_cons]
    rcases ih with ⟨hnone, hsides⟩ | ⟨side, e, hfirst, hside⟩
    · simp only [hnone, hsides, Option.none_or]
      cases hcall : call.failure? with
      | none => exact .inl ⟨rfl, fun side => ite_self none⟩
      | some e => exact .inr ⟨of, e, rfl, if_pos rfl⟩
    · exact .inr ⟨side, e, by rw [hfirst, Option.some_or], by rw [hside, Option.some_or]⟩

variable {α ι : Type} [Quantity α] {setup : Setup α} {start s : State α ι}
variable {log : List (Side × Tracker.Call)} {history : List (Exchange α ι)}

namespace LoggedRun

/-- How an uninterrupted pipe ends is the first failure of its segments, or else of its
chunks. It is the failure that came first, unless that is a chunk's and a segment has
failed after it. -/
theorem verdict_eq (hpaced : setup.outsideConsumer = false) (hfresh : start.IsFresh setup)
    (hrun : LoggedRun setup (start.piping setup) log history s)
    {result : Except CopyError Unit} (hresult : s.control.result? = some result)
    (hint : s.interrupted = false) :
    result = firstFailure (Tracker.verdict (Side.source.calls log))
        (Tracker.verdict (Side.destination.calls log)) ∧
      (firstRecorded? log = none → result = .ok ()) ∧
      ∀ e, firstRecorded? log = some e → result = .error e ∨
        Tracker.firstFailure? (Side.destination.calls log) = some e ∧
          ∃ later, Tracker.firstFailure? (Side.source.calls log) = some later ∧
            result = .error later := by
  obtain ⟨scanned, written, hscan, hwrite, hended⟩ :=
    (hrun.run.hasLearned hpaced hfresh _ (Run.mem_population_of_result? hresult)).of_result?
      hresult
  have hverdict : result = firstFailure (Tracker.verdict (Side.source.calls log))
      (Tracker.verdict (Side.destination.calls log)) := by
    have hsource : s.scanTracker = _ := hrun.tracker_eq hpaced hfresh .source
    have hdestination : s.writeTracker = _ := hrun.tracker_eq hpaced hfresh .destination
    rw [State.shared_scanTracker, hsource] at hscan
    rw [State.shared_writeTracker, hdestination] at hwrite
    rw [← Tracker.wait?_after hscan, ← Tracker.wait?_after hwrite]
    rcases hended with hended | ⟨hinterrupted, -⟩
    · exact hended
    · rw [State.shared_interrupted, hint] at hinterrupted
      cases hinterrupted
  refine ⟨hverdict, ?_, ?_⟩
  · intro hnone
    rcases firstRecorded?_cases log with ⟨-, hsides⟩ | ⟨side, e, hfirst, -⟩
    · rw [hverdict, Tracker.verdict, Tracker.verdict, hsides, hsides]
      rfl
    · rw [hnone] at hfirst
      cases hfirst
  · intro e he
    rcases firstRecorded?_cases log with ⟨hnone, -⟩ | ⟨side, first, hfirst, hside⟩
    · rw [hnone] at he
      cases he
    · obtain rfl : first = e := Option.some.inj (hfirst.symm.trans he)
      rw [hverdict, Tracker.verdict]
      cases side with
      | source => exact .inl (by rw [hside]; rfl)
      | destination =>
        cases hsource : Tracker.firstFailure? (Side.source.calls log) with
        | none => exact .inl (by rw [Tracker.verdict, hside]; rfl)
        | some later => exact .inr ⟨hside, later, rfl, rfl⟩

/-- A small copy into a destination that rejects the chunk of its last page: no segment has
failed, and the pipe ends with the rejection. -/
theorem verdict_eq_of_rejected : ∃ log history,
    LoggedRun smallSetup (smallStart.piping smallSetup) log history
        (smallEnd strictDestination) ∧
      (smallEnd strictDestination).control.result? = some (.error (.execution "rejected")) ∧
      (smallEnd strictDestination).interrupted = false ∧
      .error (.execution "rejected") = firstFailure (Tracker.verdict (Side.source.calls log))
        (Tracker.verdict (Side.destination.calls log)) := by
  obtain ⟨log, history, hrun⟩ :=
    (World.ofTables smallSource strictDestination).exists_loggedRun_settle smallSetup 100 ()
      (smallStart.piping smallSetup)
  have hfailed : (smallEnd strictDestination).control.result? =
      some (.error (.execution "rejected")) := by decide +kernel
  have hint : (smallEnd strictDestination).interrupted = false := by decide +kernel
  exact ⟨log, history, hrun, hfailed, hint,
    (verdict_eq rfl (State.isFresh_initial _ _) hrun hfailed hint).1⟩

end LoggedRun

/-! ## A hidden rejection -/

/-- A destination that rejects every batch. While a batch is outstanding, the source does not
answer. -/
def rejectingWorld : World Unit Rat Nat :=
  { World.ofTables smallSource fun _ => .returned (.error (.execution "rejected")) with
    holds := fun s => s.writeTracker.pending != 0 }

/-- A small copy, just after its first batch was rejected. -/
def rejectedMiddle : State Rat Nat :=
  (rejectingWorld.settle smallSetup 22 () (smallStart.piping smallSetup)).2

def rejectedEnd : State Rat Nat := (rejectingWorld.settle smallSetup 100 () rejectedMiddle).2

/-- The rejection of a batch comes first, and the pipe does not end with it, but with the
refusal of a later page. -/
theorem LoggedRun.refusal_hides_rejection : ∃ log history,
    LoggedRun smallSetup (smallStart.piping smallSetup) log history rejectedEnd ∧
      rejectedEnd.interrupted = false ∧
      firstRecorded? log = some (.execution "rejected") ∧
      rejectedEnd.control.result? = some (.error (.execution
        "writes to 'archive' already failed, dropping page from segment 0")) := by
  obtain ⟨log, history, hrun⟩ := rejectingWorld.exists_loggedRun_settle smallSetup 22 ()
    (smallStart.piping smallSetup)
  obtain ⟨later, rest, hlater⟩ := rejectingWorld.exists_loggedRun_settle smallSetup 100 ()
    rejectedMiddle
  have hdestination : Tracker.firstFailure? (Side.destination.calls log) =
      some (.execution "rejected") := by
    rw [← Tracker.firstError_after,
      ← hrun.tracker_eq rfl (State.isFresh_initial _ _) .destination]
    decide +kernel
  have hsource : Tracker.firstFailure? (Side.source.calls log) = none := by
    rw [← Tracker.firstError_after, ← hrun.tracker_eq rfl (State.isFresh_initial _ _) .source]
    decide +kernel
  have hfirst : firstRecorded? log = some (.execution "rejected") := by
    rcases firstRecorded?_cases log with ⟨-, hnone⟩ | ⟨side, e, hfirst, hside⟩
    · rw [hnone] at hdestination
      cases hdestination
    · cases side with
      | source =>
        rw [hsource] at hside
        cases hside
      | destination => rw [hfirst, ← hside, hdestination]
  exact ⟨later ++ log, rest ++ history, hrun.trans hlater, by decide +kernel,
    firstRecorded?_append_of_some hfirst, by decide +kernel⟩

end TableCopy
