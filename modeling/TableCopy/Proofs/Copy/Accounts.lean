import TableCopy.Proofs.Copy.Segments
import TableCopy.Proofs.Copy.Shifts

/-!
# The account of the segments

The log of a run lists what its scan tracker is told, the latest first. Along every run, the
counters of segments are those of the tasks that have ended by the log and of the tasks that have
not been reported yet. A pipe returns when none is left of these, so that the log then accounts
for every segment that was started. A task that crashes is on record as a failure, but is counted
as a start and nothing else.
-/

namespace TableCopy

variable {α ι : Type}

namespace ScanEntry

/-- The task of a segment has ended; it was started before. -/
def isEnded : ScanEntry → Bool
  | ended .. => true
  | _ => false

/-- The task of a segment has read its last page. -/
def isCompleted : ScanEntry → Bool
  | ended _ (.returned (.ok ())) => true
  | _ => false

/-- The task of a segment has returned an error. -/
def isFailed : ScanEntry → Bool
  | ended _ (.returned (.error _)) => true
  | _ => false

def isCrashed : ScanEntry → Bool
  | ended _ (.crashed _) => true
  | _ => false

/-- A failure is put on record for a task that was started. -/
def recordsFailure (entry : ScanEntry) : Bool := entry.isEnded && entry.call.failure?.isSome

/-- What the counters say of a task that has ended. -/
def account : ScanEntry → UInt64 × UInt64 × UInt64
  | ended _ outcome => outcome.account
  | _ => (0, 0, 0)

/-- A task that has ended has completed, failed or crashed. -/
theorem countP_isEnded (log : List ScanEntry) :
    log.countP isEnded = log.countP isCompleted + log.countP isFailed + log.countP isCrashed := by
  induction log with
  | nil => rfl
  | cons entry log ih =>
    simp only [List.countP_cons, ih]
    rcases entry with _ | _ | ⟨_, (_ | ⟨⟩) | _⟩ <;>
      simp [isEnded, isCompleted, isFailed, isCrashed] <;> omega

/-- What is on record as a failure has failed or crashed. -/
theorem countP_recordsFailure (log : List ScanEntry) :
    log.countP recordsFailure = log.countP isFailed + log.countP isCrashed := by
  induction log with
  | nil => rfl
  | cons entry log ih =>
    simp only [List.countP_cons, ih]
    rcases entry with _ | _ | ⟨_, (_ | ⟨⟩) | _⟩ <;>
      simp [recordsFailure, isEnded, isFailed, isCrashed, call, Outcome.record,
        Tracker.Call.failure?] <;> omega

end ScanEntry

/-! ## Runs with what they tell -/

section Runs

variable [Quantity α]

/-- The states that a copy reaches from a start, with what its scan tracker is told on the way. -/
inductive ScanRun (setup : Setup α) (start : State α ι) : List ScanEntry → State α ι → Prop
  | start : ScanRun setup start [] start
  | step {log s t} (move : Move α ι) (run : ScanRun setup start log s)
      (h : s.step setup move = some t) : ScanRun setup start (s.told move ++ log) t
  | release {log s result} (run : ScanRun setup start log s)
      (h : s.control = .returned result) : ScanRun setup start log s.releasing

/-- Every run tells something. -/
theorem Run.exists_scanRun {setup : Setup α} {start s : State α ι} {history : List (Exchange α ι)}
    (hrun : Run setup start history s) : ∃ log, ScanRun setup start log s := by
  induction hrun with
  | start => exact ⟨[], .start⟩
  | step move _ h ih =>
    obtain ⟨log, hlog⟩ := ih
    exact ⟨_, hlog.step move h⟩
  | release _ h ih =>
    obtain ⟨log, hlog⟩ := ih
    exact ⟨log, hlog.release h⟩

end Runs

/-! ## What every step keeps -/

namespace ScanStage

/-- One for a segment that has begun and that no task has been made for. -/
def pending : ScanStage → Nat
  | registered _ => 1
  | _ => 0

/-- The segments that tasks may still be made for. -/
def left : ScanStage → Nat
  | submitting n => n
  | beginning n | registered n => n + 1
  | waiting | done => 0

end ScanStage

namespace SegmentTask

/-- One for a task that has to be reported. -/
def unreported (task : SegmentTask α ι) : Nat := if task.isFinished then 0 else 1

theorem account_of_isFinished {task : SegmentTask α ι} (h : task.isFinished = true) :
    task.account = (0, 0, 0) := by
  obtain ⟨segment, key, pages, rfl⟩ := exists_of_isFinished h
  rfl

end SegmentTask

namespace ScanView

/-- Tasks that have to be reported. -/
def unreported (v : ScanView α ι) : Nat := (v.tasks.map SegmentTask.unreported).sum

/-- What the counters say of the tasks that have not been reported. -/
def account (v : ScanView α ι) : UInt64 × UInt64 × UInt64 :=
  (v.tasks.map SegmentTask.account).sum

variable {v : ScanView α ι} {task : SegmentTask α ι} {rest : Multiset (SegmentTask α ι)}

theorem unreported_of_tasks (h : v.tasks = task ::ₘ rest) :
    v.unreported = task.unreported + (rest.map SegmentTask.unreported).sum := by
  rw [unreported, h, Multiset.map_cons, Multiset.sum_cons]

theorem unreported_of_running (h : v.tasks = task ::ₘ rest) (htask : task.isFinished = false) :
    v.unreported = 1 + (rest.map SegmentTask.unreported).sum := by
  rw [unreported_of_tasks h, SegmentTask.unreported, if_neg (Bool.eq_false_iff.1 htask)]

theorem unreported_of_finished (h : v.tasks = task ::ₘ rest) (htask : task.isFinished = true) :
    v.unreported = (rest.map SegmentTask.unreported).sum := by
  rw [unreported_of_tasks h, SegmentTask.unreported, if_pos htask, Nat.zero_add]

theorem account_of_tasks (h : v.tasks = task ::ₘ rest) :
    v.account = task.account + (rest.map SegmentTask.account).sum := by
  rw [account, h, Multiset.map_cons, Multiset.sum_cons]

end ScanView

namespace Shift

variable {v w : ScanView α ι} {entries : List ScanEntry}

/-- A shift moves the counters as it moves what they say of the tasks, reported or not. -/
theorem counters_eq (h : Shift v entries w) :
    w.counters + v.account = v.counters + (tally ScanEntry.account entries + w.account) := by
  cases h with
  | advance gain htasks _ _ hgain =>
    rw [ScanView.account_of_tasks htasks, ScanView.account_of_tasks rfl, hgain]
    simp [add_assoc, add_left_comm, add_comm]
  | @report task rest outcome htasks hphase =>
    have haccount : task.account = outcome.account := by rw [SegmentTask.account, hphase]
    rw [ScanView.account_of_tasks htasks, ScanView.account_of_tasks rfl, haccount,
      SegmentTask.account_of_isFinished rfl]
    simp [ScanEntry.account]
  | retire htasks hfinished =>
    rw [ScanView.account_of_tasks htasks, SegmentTask.account_of_isFinished hfinished]
    simp [ScanView.account]
  | submit => simp [ScanView.account, SegmentTask.account]
  | _ => simp [ScanEntry.account, ScanView.account]

theorem tracker_eq (h : Shift v entries w) :
    w.tracker = v.tracker.after (entries.map ScanEntry.call) := by
  cases h <;> rfl

/-- A shift moves the tracker as it moves the segments that are to be reported. -/
theorem pending_eq (h : Shift v entries w)
    (hpending : v.tracker.pending = v.unreported + v.stage.pending) :
    w.tracker.pending = w.unreported + w.stage.pending := by
  cases h with
  | still => exact hpending
  | stop hstage | next hstage | hear hstage =>
    rw [hstage] at hpending
    exact hpending
  | register hstage =>
    rw [hstage] at hpending
    exact congrArg (· + 1) hpending
  | refuse hstage =>
    rw [hstage] at hpending
    exact congrArg (· - 1) hpending
  | submit hstage =>
    rw [hstage] at hpending
    rw [ScanView.unreported_of_running rfl rfl, Nat.add_comm 1]
    exact hpending
  | advance gain htasks htask hnext =>
    rw [ScanView.unreported_of_running htasks htask] at hpending
    rw [ScanView.unreported_of_running rfl hnext]
    exact hpending
  | @report task rest outcome htasks hphase =>
    have htask : task.isFinished = false := by rw [SegmentTask.isFinished, hphase]
    rw [ScanView.unreported_of_running htasks htask] at hpending
    rw [ScanView.unreported_of_finished rfl rfl]
    refine (congrArg (· - 1) hpending).trans ?_
    dsimp only
    omega
  | retire htasks hfinished =>
    rw [ScanView.unreported_of_finished htasks hfinished] at hpending
    exact hpending

/-- A shift ends no more tasks than there are, and makes none that were not to be made. -/
theorem ended_le (h : Shift v entries w) :
    entries.countP ScanEntry.isEnded + w.unreported + w.stage.left ≤
      v.unreported + v.stage.left := by
  cases h with
  | advance gain htasks htask hnext =>
    rw [ScanView.unreported_of_running htasks htask, ScanView.unreported_of_running rfl hnext]
    simp
  | @report task rest outcome htasks hphase =>
    have htask : task.isFinished = false := by rw [SegmentTask.isFinished, hphase]
    rw [ScanView.unreported_of_running htasks htask, ScanView.unreported_of_finished rfl rfl]
    simp [ScanEntry.isEnded]
  | retire htasks hfinished =>
    rw [ScanView.unreported_of_finished htasks hfinished]
    simp [ScanView.unreported]
  | submit hstage =>
    rw [ScanView.unreported_of_running rfl rfl, hstage]
    simp only [List.countP_nil, ScanStage.left, ScanView.unreported]
    omega
  | still => simp
  | stop hstage | next hstage | register hstage | refuse hstage | hear hstage =>
    rw [hstage]
    simp [ScanEntry.isEnded, ScanStage.left, ScanView.unreported]

/-- Once the tracker has answered, no task has to be reported any more. -/
theorem done (h : Shift v entries w)
    (hpending : v.tracker.pending = v.unreported + v.stage.pending)
    (hdone : v.stage = .done → v.unreported = 0) : w.stage = .done → w.unreported = 0 := by
  cases h with
  | still => exact hdone
  | stop | next | register | refuse | submit => exact nofun
  | hear _ hnone => exact fun _ => (Nat.add_eq_zero_iff.1 (hpending.symm.trans hnone)).1
  | advance gain htasks htask hnext =>
    rw [ScanView.unreported_of_running htasks htask] at hdone
    rw [ScanView.unreported_of_running rfl hnext]
    exact hdone
  | report htasks =>
    rw [ScanView.unreported_of_tasks htasks] at hdone
    rw [ScanView.unreported_of_finished rfl rfl]
    intro hstage
    have hzero := hdone hstage
    omega
  | retire htasks hfinished =>
    rw [ScanView.unreported_of_finished htasks hfinished] at hdone
    exact hdone

end Shift

/-! ## What a log accounts for -/

/-- The log accounts for the counters and for the tracker, and for no more segments than there
are. -/
structure ScanView.IsAccounted (limit : Nat) (log : List ScanEntry) (v : ScanView α ι) : Prop where
  counters_eq : v.counters = tally ScanEntry.account log + v.account
  tracker_eq : v.tracker = ({} : Tracker).after (log.map ScanEntry.call)
  pending_eq : v.tracker.pending = v.unreported + v.stage.pending
  ended_le : log.countP ScanEntry.isEnded + v.unreported + v.stage.left ≤ limit
  done : v.stage = .done → v.unreported = 0

namespace ScanView

variable {v w : ScanView α ι} {limit : Nat} {log entries : List ScanEntry}

theorem IsAccounted.shift (h : v.IsAccounted limit log) (hshift : Shift v entries w) :
    w.IsAccounted limit (entries ++ log) where
  counters_eq := by
    have hcounters := hshift.counters_eq
    rw [h.counters_eq] at hcounters
    rw [tally_append]
    refine add_right_cancel (b := v.account) (hcounters.trans ?_)
    simp [add_assoc, add_left_comm, add_comm]
  tracker_eq := by
    rw [hshift.tracker_eq, h.tracker_eq, List.map_append, Tracker.after_append]
  pending_eq := hshift.pending_eq h.pending_eq
  ended_le := by
    have hended := hshift.ended_le
    have hbefore := h.ended_le
    rw [List.countP_append]
    omega
  done := hshift.done h.pending_eq h.done

theorem isFinished_of_unreported (h : v.unreported = 0) :
    ∀ task ∈ v.tasks, task.isFinished = true := by
  intro task hmem
  obtain ⟨rest, hrest⟩ := Multiset.exists_cons_of_mem hmem
  by_contra hunfinished
  rw [unreported_of_running hrest (Bool.eq_false_iff.2 hunfinished)] at h
  omega

/-- Tasks that have been reported are counted nowhere but in the log. -/
theorem account_of_unreported (h : v.unreported = 0) : v.account = 0 := by
  refine Multiset.sum_eq_zero ?_
  intro account hmem
  obtain ⟨task, htask, rfl⟩ := Multiset.mem_map.1 hmem
  exact SegmentTask.account_of_isFinished (isFinished_of_unreported h task htask)

end ScanView

/-- The accounts of a log are numbers of its entries, as words. -/
theorem tally_account (log : List ScanEntry) : tally ScanEntry.account log =
    (.ofNat (log.countP ScanEntry.isEnded), .ofNat (log.countP ScanEntry.isCompleted),
      .ofNat (log.countP ScanEntry.isFailed)) := by
  induction log with
  | nil => rfl
  | cons entry log ih =>
    simp only [tally_cons, ih, List.countP_cons, UInt64.ofNat_add]
    rcases entry with _ | _ | ⟨_, (_ | ⟨⟩) | _⟩ <;>
      simp [ScanEntry.account, Outcome.account, ScanEntry.isEnded, ScanEntry.isCompleted,
        ScanEntry.isFailed, add_comm]

/-- Once the tracker has answered, the counters are those of the log. -/
theorem ScanView.IsAccounted.counters_of_done {v : ScanView α ι} {limit : Nat}
    {log : List ScanEntry} (h : v.IsAccounted limit log) (hdone : v.stage = .done)
    (hlimit : limit < 2 ^ 64) :
    v.counters.1.toNat = log.countP ScanEntry.isEnded ∧
    v.counters.2.1.toNat = log.countP ScanEntry.isCompleted ∧
    v.counters.2.2.toNat = log.countP ScanEntry.isFailed := by
  have hcounters := h.counters_eq
  rw [account_of_unreported (h.done hdone), add_zero, tally_account] at hcounters
  have hparts := ScanEntry.countP_isEnded log
  have hended : log.countP ScanEntry.isEnded < 2 ^ 64 := by
    have hle := h.ended_le
    omega
  have hcompleted : log.countP ScanEntry.isCompleted < 2 ^ 64 := by omega
  have hfailed : log.countP ScanEntry.isFailed < 2 ^ 64 := by omega
  rw [hcounters]
  exact ⟨UInt64.toNat_ofNat_of_lt' hended, UInt64.toNat_ofNat_of_lt' hcompleted,
    UInt64.toNat_ofNat_of_lt' hfailed⟩

theorem Control.scanStage_of_result? {c : Control α ι} {result : Except CopyError Unit}
    (h : c.result? = some result) : c.scanStage = .done := by
  cases c <;> first | rfl | cases h

variable [Quantity α] {setup : Setup α} {start s : State α ι} {log : List ScanEntry}

theorem State.IsFresh.isAccounted (h : start.IsFresh setup) :
    (start.piping setup).scanView.IsAccounted setup.scan.segments.length [] := by
  have htasks : (start.piping setup).segmentTasks = 0 := by
    rw [State.segmentTasks]
    exact (zero_add _).trans h.readTasks
  have hunreported : (start.piping setup).scanView.unreported = 0 := by
    rw [ScanView.unreported, State.scanView, htasks, Multiset.map_zero, Multiset.sum_zero]
  have haccount : (start.piping setup).scanView.account = 0 :=
    ScanView.account_of_unreported hunreported
  have htracker : (start.piping setup).scanView.tracker = {} := h.scanTracker
  have hcounters : (start.piping setup).scanView.counters = 0 := congrArg Metrics.segments h.metrics
  refine ⟨?_, htracker, ?_, ?_, fun _ => hunreported⟩
  · rw [hcounters, haccount]
    rfl
  · rw [htracker, hunreported]
    rfl
  · rw [hunreported]
    exact (Nat.zero_add _).le

namespace ScanRun

/-- Along every run, the log accounts for the segments. -/
theorem isAccounted (hfresh : start.IsFresh setup)
    (hrun : ScanRun setup (start.piping setup) log s) :
    (s.control.isPiping = true ∧ s.readPool.IsReliable) ∧
      s.scanView.IsAccounted setup.scan.segments.length log := by
  induction hrun with
  | start => exact ⟨⟨rfl, hfresh.reliable.read⟩, hfresh.isAccounted⟩
  | step _ _ h ih =>
    obtain ⟨⟨hpiping, hreliable⟩, haccounted⟩ := ih
    obtain ⟨hgoes, hshift⟩ := State.shift_of_step hreliable hpiping h
    exact ⟨⟨hgoes.isPiping, hreliable.of_provision_eq hgoes.provision⟩, haccounted.shift hshift⟩
  | release _ h ih =>
    obtain ⟨⟨-, hreliable⟩, haccounted⟩ := ih
    obtain ⟨hgoes, hshift⟩ := State.shift_of_releasing h
    exact ⟨⟨hgoes.isPiping, hreliable.of_provision_eq hgoes.provision⟩, haccounted.shift hshift⟩

/-- When a pipe has returned, with whatever result and whoever consumed the pages, every segment
that was started has ended by the log: it has completed, failed or crashed. The first two are
counted as completed and as failed. What is on record as a failure of a segment that was started
are those that have failed and those that have crashed. -/
theorem segments_accounted (hfresh : start.IsFresh setup)
    (hrun : ScanRun setup (start.piping setup) log s) {result : Except CopyError Unit}
    (hresult : s.control.result? = some result) :
    s.scanTracker = ({} : Tracker).after (log.map ScanEntry.call) ∧
    (∀ task ∈ s.segmentTasks, task.isFinished = true) ∧
    s.metrics.segmentsStarted.toNat = log.countP ScanEntry.isEnded ∧
    s.metrics.segmentsCompleted.toNat = log.countP ScanEntry.isCompleted ∧
    s.metrics.segmentsFailed.toNat = log.countP ScanEntry.isFailed ∧
    s.metrics.segmentsStarted.toNat = s.metrics.segmentsCompleted.toNat +
      s.metrics.segmentsFailed.toNat + log.countP ScanEntry.isCrashed ∧
    log.countP ScanEntry.recordsFailure =
      s.metrics.segmentsFailed.toNat + log.countP ScanEntry.isCrashed := by
  obtain ⟨-, haccounted⟩ := hrun.isAccounted hfresh
  have hdone : s.scanView.stage = .done := Control.scanStage_of_result? hresult
  obtain ⟨hstarted, hcompleted, hfailed⟩ :=
    haccounted.counters_of_done hdone setup.scan.length_segments_lt
  have hparts := ScanEntry.countP_isEnded log
  have hrecorded := ScanEntry.countP_recordsFailure log
  rw [← hstarted, ← hcompleted, ← hfailed] at hparts
  rw [← hfailed] at hrecorded
  exact ⟨haccounted.tracker_eq, ScanView.isFinished_of_unreported (haccounted.done hdone),
    hstarted, hcompleted, hfailed, hparts, hrecorded⟩

end ScanRun

/-! ## A segment that crashes -/

/-- The small source, whose first segment makes the scanner crash. -/
def crashingWorld : World Unit Rat Nat :=
  { World.ofTables smallSource slowDestination with
    scan := fun _ request => ((), {
      outcome :=
        if request.segment = 0 then .crashed (some "corrupt page")
        else .returned (.ok (smallSource request)) }) }

def crashedEnd : State Rat Nat :=
  (crashingWorld.settle smallSetup 100 () (smallStart.piping smallSetup)).2

/-- The error that the pipe returns. -/
def crashError : CopyError := .execution "segment 0 panicked: corrupt page"

namespace ScanRun

theorem exists_crashedEnd :
    ∃ log, ScanRun smallSetup (smallStart.piping smallSetup) log crashedEnd := by
  have hanswers : crashingWorld.Answers smallSetup fun _ => True := fun _ _ => trivial
  obtain ⟨_, hrun, -⟩ := World.exists_run_settle hanswers () 100
    (.start : Run smallSetup (smallStart.piping smallSetup) [] _)
  exact hrun.exists_scanRun

/-- The segment that crashed was started, and what is on record is its failure. -/
theorem segments_accounted_of_crash : ∃ log,
    ScanRun smallSetup (smallStart.piping smallSetup) log crashedEnd ∧
      (∀ task ∈ crashedEnd.segmentTasks, task.isFinished = true) ∧
      log.countP ScanEntry.isEnded = 1 ∧ log.countP ScanEntry.isCompleted = 0 ∧
      log.countP ScanEntry.isFailed = 0 ∧ log.countP ScanEntry.isCrashed = 1 ∧
      log.countP ScanEntry.recordsFailure = 1 := by
  obtain ⟨log, hrun⟩ := exists_crashedEnd
  have hfresh : smallStart.IsFresh smallSetup := State.isFresh_initial _ _
  have hresult : crashedEnd.control.result? = some (.error crashError) := by decide +kernel
  have hcounters : crashedEnd.metrics.segments = (1, 0, 0) := by decide +kernel
  obtain ⟨-, htasks, hstarted, hcompleted, hfailed, hparts, hrecorded⟩ :=
    segments_accounted hfresh hrun hresult
  obtain ⟨hone, hnone⟩ := Prod.mk.inj hcounters
  obtain ⟨hnone, hfew⟩ := Prod.mk.inj hnone
  rw [hone] at hstarted hparts
  rw [hnone] at hcompleted hparts
  rw [hfew] at hfailed hparts hrecorded
  have hcrashed : log.countP ScanEntry.isCrashed = 1 :=
    (hparts.trans (Nat.zero_add _)).symm
  rw [hcrashed] at hrecorded
  exact ⟨log, hrun, htasks, hstarted.symm, hcompleted.symm, hfailed.symm, hcrashed, hrecorded⟩

/-- The pipe has returned the error of the segment that crashed, and a failure is on record, but
the counters have a segment that has neither completed nor failed. -/
theorem crashed_segment_uncounted : ∃ log,
    ScanRun smallSetup (smallStart.piping smallSetup) log crashedEnd ∧
      crashedEnd.control.result? = some (.error crashError) ∧
      crashedEnd.metrics.segmentsStarted.toNat ≠
        crashedEnd.metrics.segmentsCompleted.toNat + crashedEnd.metrics.segmentsFailed.toNat ∧
      crashedEnd.metrics.segmentsFailed.toNat ≠ log.countP ScanEntry.recordsFailure := by
  obtain ⟨log, hrun⟩ := exists_crashedEnd
  have hresult : crashedEnd.control.result? = some (.error crashError) := by decide +kernel
  have haccounted := (hrun.isAccounted (State.isFresh_initial _ _)).2
  obtain ⟨hstarted, hcompleted, hfailed⟩ := haccounted.counters_of_done
    (Control.scanStage_of_result? hresult) smallSetup.scan.length_segments_lt
  have hparts := ScanEntry.countP_isEnded log
  have hunequal : crashedEnd.metrics.segmentsStarted.toNat ≠
      crashedEnd.metrics.segmentsCompleted.toNat + crashedEnd.metrics.segmentsFailed.toNat := by
    decide +kernel
  refine ⟨log, hrun, hresult, hunequal, fun hequal => hunequal ?_⟩
  -- Were the failures on record counted, no task had crashed.
  rw [ScanEntry.countP_recordsFailure] at hequal
  dsimp only [State.scanView, Metrics.segments] at hstarted hcompleted hfailed
  omega

end ScanRun
end TableCopy
