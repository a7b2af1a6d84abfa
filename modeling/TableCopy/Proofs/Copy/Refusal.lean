import TableCopy.Proofs.Copy.Conservation
import TableCopy.Proofs.Copy.Interruption
import TableCopy.Proofs.Copy.Verdict

/-!
# A failure stops a copy

A failure on record stays on record. Once a chunk has failed, every page that is handed over
is refused, and its segment fails by the refusal without asking for another page. Once a
segment has failed, no further segment is submitted. Either way the pipe ends with an error.
-/

namespace TableCopy

variable {α ι : Type}

namespace SegmentTask

/-- Where a segment task stands whose page comes after a failure, with the steps that it has
left: the page is refused, and the segment ends with the refusal. -/
inductive IsRefused (setup : Setup α) (e : CopyError) : SegmentTask α ι → Nat → Prop
  | checking {segment key pages nextKey number items}
      (h : e = Delivery.refusal setup (⟨number, .checking items⟩ : Delivery α ι)) :
    IsRefused setup e ⟨segment, key, pages, .delivering nextKey ⟨number, .checking items⟩⟩ 4
  | refused {segment key pages nextKey number} :
    IsRefused setup e ⟨segment, key, pages, .delivering nextKey ⟨number, .ended (.error e)⟩⟩ 3
  | closing {segment key pages} : IsRefused setup e ⟨segment, key, pages, .closing (.error e)⟩ 2
  | ending {segment key pages} :
    IsRefused setup e ⟨segment, key, pages, .ending (.returned (.error e))⟩ 1
  | finished {segment key pages} : IsRefused setup e ⟨segment, key, pages, .finished⟩ 0

variable {setup : Setup α} {e : CopyError} {task : SegmentTask α ι} {left : Nat}

theorem IsRefused.isFinished (h : task.IsRefused setup e (left + 1)) : task.isFinished = false := by
  cases h <;> rfl

/-- Before its last step the task reports the refusal. -/
theorem IsRefused.report? (h : task.IsRefused setup e 1) :
    task.acting.report? = some (.source, .complete (.error e)) := by
  cases h
  rfl

end SegmentTask

variable [Quantity α] {setup : Setup α} {start s t u : State α ι} {e : CopyError}
variable {task next : SegmentTask α ι} {left : Nat} {actor : Actor} {answer : Answer α ι}

/-- What a step does not touch that neither begins a task, nor submits a chunk, nor asks for a
page. -/
structure State.KeepsWrites (s t : State α ι) : Prop where
  writeTracker : t.writeTracker = s.writeTracker
  writePool : t.writePool = s.writePool
  requests : ∀ n, t.requests n = s.requests n

namespace SegmentTask

/-- A refused segment can take its next step, which brings it closer to its end. -/
theorem IsRefused.exists_step (hfailed : s.writeTracker.hasFailed = true)
    (h : task.IsRefused setup e (left + 1)) : ∃ t next,
      task.step setup s .none = some (t, next) ∧ s.KeepsWrites t ∧ next.IsRefused setup e left := by
  cases h with
  | @checking segment key pages nextKey number items he =>
    have hrefused : (⟨number, .checking items⟩ : Delivery α ι).step setup s .none =
        some (s.drop items, ⟨number, .ended (.error e)⟩) := by
      rw [he]
      exact if_pos hfailed
    exact ⟨s.drop items, _, congrArg (Option.map _) hrefused, ⟨rfl, rfl, fun _ => rfl⟩, .refused⟩
  | refused => exact ⟨_, _, rfl, ⟨rfl, rfl, fun _ => rfl⟩, .closing⟩
  | closing => exact ⟨_, _, rfl, ⟨rfl, rfl, fun _ => rfl⟩, .ending⟩
  | ending => exact ⟨_, _, rfl, ⟨rfl, rfl, fun _ => rfl⟩, .finished⟩

/-- It waits for no answer. -/
theorem IsRefused.answer_eq (h : task.IsRefused setup e (left + 1))
    (hstep : task.step setup s answer = some (t, next)) : answer = .none := by
  cases answer with
  | none => rfl
  | _ => cases h <;> cases hstep

end SegmentTask

namespace State

/-- A segment task that can go on goes on by a step of its thread. -/
theorem exists_step_of_segment? (htask : s.segment? actor = some task)
    (hlive : task.isFinished = false) (h : task.step setup s answer = some (u, next)) :
    ∃ t, s.step setup (.act actor answer) = some t ∧ actor.Leaves u t := by
  cases actor with
  | control =>
    cases hcontrol : s.control with
    | running other rest =>
      rw [segment?, hcontrol] at htask
      obtain rfl := Option.some.inj htask
      refine ⟨{ u with control := .running next rest }, ?_, Actor.leaves_control u _⟩
      simp only [step, controlStep, hcontrol, hlive, h, Option.map_some]
      exact if_neg Bool.false_ne_true
    | _ =>
      rw [segment?, hcontrol] at htask
      cases htask
  | reader i =>
    change s.readPool.task? i = some task at htask
    refine ⟨{ u with readPool := u.readPool.setWorker i (.running next) }, ?_,
      Actor.leaves_reader u i _⟩
    simp only [step, readerStep, htask, hlive, h, Option.map_some]
    exact if_neg Bool.false_ne_true
  | writer i => cases htask

/-- The segment task on a thread is refused and on the way to its end: its thread can take the
next step, which brings the task closer to its end, and touches no more than that. -/
structure Refuses (setup : Setup α) (s : State α ι) (actor : Actor) (e : CopyError) : Prop where
  goesOn : ∃ task left t next, s.segment? actor = some task ∧ task.IsRefused setup e (left + 1) ∧
    s.step setup (.act actor .none) = some t ∧ t.segment? actor = some next ∧
      next.IsRefused setup e left
  keepsWrites : ∀ answer t, s.step setup (.act actor answer) = some t → s.KeepsWrites t

theorem refuses_of_isRefused (hpaced : setup.outsideConsumer = false)
    (hpiping : s.control.isPiping = true) (hfailed : s.writeTracker.hasFailed = true)
    (htask : s.segment? actor = some task) (h : task.IsRefused setup e (left + 1)) :
    s.Refuses setup actor e := by
  obtain ⟨u, next, hstep, hkept, hnext⟩ := h.exists_step hfailed
  obtain ⟨t, ht, hleaves⟩ := exists_step_of_segment? htask h.isFinished hstep
  have hpool : t.writePool = u.writePool := by
    refine hleaves.writePool fun i hactor => ?_
    subst hactor
    cases htask
  have hleads : ∀ {answer v}, s.step setup (.act actor answer) = some v →
      answer = .none ∧ v.segment? actor = some next := by
    intro answer v hv
    rcases segment_leadsOn hpaced hpiping hv htask with ⟨hother, -⟩ |
      ⟨_, hmove, hfinished | ⟨w, next', hstep', -, hon⟩⟩
    · exact absurd rfl (hother answer)
    · exact absurd (h.isFinished.symm.trans hfinished) Bool.false_ne_true
    · obtain rfl := (Move.act.inj hmove).2
      obtain rfl := h.answer_eq hstep'
      obtain ⟨-, rfl⟩ := Prod.mk.inj (Option.some.inj (hstep.symm.trans hstep'))
      exact ⟨rfl, hon⟩
  refine ⟨⟨task, left, t, next, htask, h, ht, (hleads ht).2, hnext⟩, fun answer v hv => ?_⟩
  obtain ⟨rfl, -⟩ := hleads hv
  obtain rfl := Option.some.inj (ht.symm.trans hv)
  have hjournal : t.journal = u.journal := congrArg Shared.journal hleaves.shared
  refine ⟨(congrArg Shared.writeTracker hleaves.shared).trans hkept.writeTracker,
    hpool.trans hkept.writePool, fun n => ?_⟩
  rw [requests, hjournal]
  exact hkept.requests n

end State

/-- A refused segment stays refused until it has reported the refusal. -/
theorem LoggedRun.refuses {log : List (Side × Tracker.Call)} {history : List (Exchange α ι)}
    (hpaced : setup.outsideConsumer = false) (hreliable : s.IsReliable)
    (hpiping : s.control.isPiping = true) (hfailed : s.writeTracker.hasFailed = true)
    (htask : s.segment? actor = some task) (h : task.IsRefused setup e (left + 1))
    (hrun : LoggedRun setup s log history t) :
    t.Refuses setup actor e ∨ (.source, .complete (.error e)) ∈ log := by
  have hon : (∃ task left, t.segment? actor = some task ∧ task.IsRefused setup e (left + 1)) ∨
      (.source, .complete (.error e)) ∈ log := by
    induction hrun with
    | start => exact .inl ⟨task, left, htask, h⟩
    | @step log history u v move run hmove ih =>
      have hmiddle := run.run.isPiping_from hpaced hpiping
      rcases ih with ⟨task, left, htask, h⟩ | hmem
      · rcases State.segment_leadsOn hpaced hmiddle hmove htask with ⟨-, hkept⟩ |
          ⟨answer, rfl, hfinished | ⟨w, next, hstep, -, hnext⟩⟩
        · exact .inl ⟨task, left, hkept, h⟩
        · exact absurd (h.isFinished.symm.trans hfinished) Bool.false_ne_true
        · obtain rfl := h.answer_eq hstep
          obtain ⟨w', next', hstep', -, hrefused⟩ :=
            h.exists_step (run.run.hasFailed_write_from hpaced hreliable hpiping hfailed)
          obtain ⟨-, rfl⟩ := Prod.mk.inj (Option.some.inj (hstep.symm.trans hstep'))
          cases left with
          | succ left => exact .inl ⟨next, left, hnext, hrefused⟩
          | zero =>
            refine .inr (List.mem_append_left _ ?_)
            rw [State.reported, State.acting?_of_segment? htask, Option.bind_some, h.report?]
            exact List.mem_singleton_self _
      · exact .inr (List.mem_append_right _ hmem)
    | release run hreturned ih =>
      rcases ih with ⟨task, left, htask, h⟩ | hmem
      · exact .inl ⟨task, left, (State.tasks_releasing hreturned).1 _ htask, h⟩
      · exact .inr hmem
  refine hon.imp_left ?_
  rintro ⟨task, left, htask, h⟩
  exact State.refuses_of_isRefused hpaced (hrun.run.isPiping_from hpaced hpiping)
    (hrun.run.hasFailed_write_from hpaced hreliable hpiping hfailed) htask h

/-! ## The end of the pipe -/

/-- The first failure of what two trackers answer is the first one on record. -/
theorem Tracker.firstFailure_of_wait? {first second : Tracker}
    {scanned written : Except CopyError Unit} (hfirst : first.wait? = some scanned)
    (hsecond : second.wait? = some written) {e : CopyError}
    (h : first.firstError.or second.firstError = some e) :
    firstFailure scanned written = .error e := by
  rw [wait?, if_pos (of_wait?_eq_some hfirst).1] at hfirst
  rw [wait?, if_pos (of_wait?_eq_some hsecond).1] at hsecond
  obtain rfl := Option.some.inj hfirst
  obtain rfl := Option.some.inj hsecond
  cases hrecord : first.firstError with
  | some first =>
    rw [hrecord, Option.some_or] at h
    obtain rfl := Option.some.inj h
    rfl
  | none =>
    rw [hrecord, Option.none_or] at h
    rw [h]
    rfl

namespace Run

variable {history : List (Exchange α ι)}

/-- A pipe ends with an error where a failure is on record; and unless it was interrupted, with
the first failure on record. -/
theorem result_eq_error_of_hasFailed (hpaced : setup.outsideConsumer = false)
    (hfresh : start.IsFresh setup) (hrun : Run setup (start.piping setup) history s)
    (hfailed : s.scanTracker.hasFailed = true ∨ s.writeTracker.hasFailed = true)
    {result : Except CopyError Unit} (hresult : s.control.result? = some result) :
    ∃ e, result = .error e ∧ (s.interrupted = false →
      s.scanTracker.firstError.or s.writeTracker.firstError = some e) := by
  obtain ⟨scanned, written, hscan, hwrite, hended⟩ :=
    (hrun.hasLearned hpaced hfresh _ (mem_population_of_result? hresult)).of_result? hresult
  have hrecord : (s.scanTracker.firstError.or s.writeTracker.firstError).isSome = true :=
    Option.isSome_or.trans (Bool.or_eq_true_iff.2 hfailed)
  obtain ⟨e, he⟩ := Option.isSome_iff_exists.1 hrecord
  rcases hended with rfl | ⟨hint, rfl⟩
  · exact ⟨e, Tracker.firstFailure_of_wait? hscan hwrite he, fun _ => he⟩
  · exact ⟨_, rfl, fun hunraised => absurd (hint.symm.trans hunraised) Bool.noConfusion⟩

end Run

open Holder in
/-- A pipe that has a failure on record, and whatever follows in whatever order. If it is a
segment's, no segment is submitted but one that was past its check, and none is begun, submitted
or read that was not taken before. If it is a chunk's, the consumption of a page that starts from
then on refuses the page: the thread begins no task, submits no chunk and asks for no page, and
goes on until its segment has failed by the refusal. Either failure stays on record, and the pipe
ends with an error, to which it comes once its tasks have completed; without an interrupt the
error is on record. -/
theorem Run.stops_at_failure {history : List (Exchange α ι)}
    (hpaced : setup.outsideConsumer = false) (hfresh : start.IsFresh setup)
    (hrun : Run setup (start.piping setup) history s) :
    (s.scanTracker.hasFailed = true → ∀ later t, Run setup s later t →
      t.scanTracker.hasFailed = true ∧
        t.readPool.submitted ≤ s.readPool.submitted + total passed s.population ∧
        total passed s.population ≤ 1 ∧
        ∀ holder ∈ t.population, ∀ n, holder.HasTaken n →
          ∃ earlier ∈ s.population, earlier.HasTaken n) ∧
    (s.writeTracker.hasFailed = true → ∀ later t, Run setup s later t →
      t.writeTracker.hasFailed = true ∧
        ∀ actor segment key pages nextKey number items, t.segment? actor =
            some ⟨segment, key, pages, .delivering nextKey ⟨number, .checking items⟩⟩ →
          ∀ log rest u, LoggedRun setup t log rest u →
            let failure := Delivery.refusal setup (⟨number, .checking items⟩ : Delivery α ι)
            u.Refuses setup actor failure ∨ (.source, .complete (.error failure)) ∈ log) ∧
    (s.scanTracker.hasFailed = true ∨ s.writeTracker.hasFailed = true →
      ∀ later t, Run setup s later t →
        (∀ result, t.control.result? = some result → ∃ e, result = .error e ∧
          (t.interrupted = false →
            t.scanTracker.firstError.or t.writeTracker.firstError = some e)) ∧
        (t.control.isWaiting = true → t.scanTracker.pending = 0 → t.writeTracker.pending = 0 →
          ∃ u e, Run setup t [] u ∧ u.control = .returned (.error e))) := by
  have hpiping := hrun.isPiping hpaced
  have hreliable := hrun.isReliable hpaced hfresh
  refine ⟨fun hfailed later t hlater => ⟨?_, ?_, ?_, ?_⟩, fun hfailed later t hlater => ⟨?_, ?_⟩,
    fun hfailed later t hlater => ?_⟩
  · exact hlater.hasFailed_scan_from hpaced hreliable hpiping hfailed
  · exact hlater.submissions_le hpaced hreliable hpiping (.inr hfailed)
  · have hpassed := total_le_total passed_le_controls s.population
    rwa [hrun.total_controls hpaced hfresh] at hpassed
  · exact fun holder hmem n => hlater.exists_hasTaken hpaced hreliable hpiping (.inr hfailed) hmem
  · exact hlater.hasFailed_write_from hpaced hreliable hpiping hfailed
  · intro actor segment key pages nextKey number items htask log rest u hthen
    exact hthen.refuses hpaced (hlater.isReliable_from hpaced hreliable hpiping)
      (hlater.isPiping_from hpaced hpiping)
      (hlater.hasFailed_write_from hpaced hreliable hpiping hfailed) htask (.checking rfl)
  · have hstays : ∀ {later t}, Run setup s later t →
        t.scanTracker.hasFailed = true ∨ t.writeTracker.hasFailed = true := fun hlater =>
      hfailed.imp (hlater.hasFailed_scan_from hpaced hreliable hpiping)
        (hlater.hasFailed_write_from hpaced hreliable hpiping)
    refine ⟨fun result => (hrun.trans hlater).result_eq_error_of_hasFailed hpaced hfresh
      (hstays hlater), fun hwaiting hscan hwrite => ?_⟩
    obtain ⟨u, result, hends, hreturned, -⟩ := ends_of_isWaiting hpaced hwaiting hscan hwrite
    have hresult : u.control.result? = some result := by rw [hreturned]; rfl
    have hwhole := hlater.trans hends
    obtain ⟨e, rfl, -⟩ := (hrun.trans hwhole).result_eq_error_of_hasFailed hpaced hfresh
      (hstays hwhole) hresult
    exact ⟨u, e, hends, hreturned⟩

/-- The small copy with its first batch rejected, when its second page is handed over. -/
def refusedMiddle : State Rat Nat := (rejectingWorld.settle smallSetup 1 () rejectedMiddle).2

def refusedEnd : State Rat Nat := (rejectingWorld.settle smallSetup 100 () refusedMiddle).2

/-- The second page is refused, its segment reports that, and the pipe ends with an error. -/
theorem Run.stops_at_failure_of_rejected : ∃ log rest,
    LoggedRun smallSetup refusedMiddle log rest refusedEnd ∧
      (Side.source, .complete (.error (.execution
        "writes to 'archive' already failed, dropping page from segment 0"))) ∈ log ∧
      ∃ e, refusedEnd.control.result? = some (.error e) := by
  obtain ⟨_, before, hbefore⟩ := rejectingWorld.exists_loggedRun_settle smallSetup 22 ()
    (smallStart.piping smallSetup)
  obtain ⟨_, later, hlater⟩ := rejectingWorld.exists_loggedRun_settle smallSetup 1 () rejectedMiddle
  obtain ⟨log, rest, hrest⟩ := rejectingWorld.exists_loggedRun_settle smallSetup 100 ()
    refusedMiddle
  obtain ⟨-, hrefuses, hends⟩ := stops_at_failure rfl (State.isFresh_initial _ _) hbefore.run
  have hfailed : rejectedMiddle.writeTracker.hasFailed = true := by decide +kernel
  have hpage : refusedMiddle.segment? (.reader 0) =
      some ⟨0, some 3, 2, .delivering none ⟨0, .checking [2]⟩⟩ := rfl
  have hgone : (refusedEnd.segment? (.reader 0)).isNone = true := by decide +kernel
  have hresult : refusedEnd.control.result?.isSome = true := by decide +kernel
  refine ⟨log, rest, hrest, ?_, ?_⟩
  · rcases (hrefuses hfailed later _ hlater.run).2 (.reader 0) 0 (some 3) 2 none 0 [2] hpage log
      rest refusedEnd hrest with ⟨⟨task, _, _, _, htask, -⟩, -⟩ | hmem
    · rw [htask] at hgone
      cases hgone
    · exact hmem
  · obtain ⟨result, hresult⟩ := Option.isSome_iff_exists.1 hresult
    obtain ⟨e, rfl, -⟩ :=
      (hends (.inr hfailed) _ refusedEnd (hlater.run.trans hrest.run)).1 result hresult
    exact ⟨e, hresult⟩

end TableCopy
