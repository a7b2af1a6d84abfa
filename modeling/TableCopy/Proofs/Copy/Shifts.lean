import Mathlib.Data.UInt
import TableCopy.Proofs.Copy.Laps

/-!
# What a step does to the scan of a pipe

Of all that a step of a copy does, the account of its segments needs little: how far the
controlling thread is with submitting and waiting, the segment tasks wherever they are, the
three counters of segments, and the scan tracker. A step of any thread of a pipe moves this part
by a shift, whoever consumes the pages. The entry of a shift tells what the scan tracker is told,
and how the task has ended that tells it.
-/

namespace TableCopy

variable {α ι : Type}

/-! ## The part of a state that is about the scan -/

/-- How far the controlling thread is with the scan. The numbers are those of the segments that
it may still begin. -/
inductive ScanStage
  | submitting (left : Nat)
  | beginning (left : Nat)
  /-- A segment has begun that no task has been made for. -/
  | registered (left : Nat)
  | waiting
  /-- The scan tracker has answered that nothing is pending. -/
  | done
  deriving DecidableEq

def Control.scanStage : Control α ι → ScanStage
  | .submitting left | .running _ left => .submitting left.length
  | .beginning _ left => .beginning left.length
  | .handing _ left | .refused _ left => .registered left.length
  | .idle | .awaitingScan | .delivering _ | .draining => .waiting
  | _ => .done

/-- The segment task that the controlling thread runs itself. -/
def Control.tasks : Control α ι → Multiset (SegmentTask α ι)
  | .running task _ => {task}
  | _ => 0

/-- The counters of segments: those started, completed and failed. -/
def Metrics.segments (metrics : Metrics) : UInt64 × UInt64 × UInt64 :=
  (metrics.segmentsStarted, metrics.segmentsCompleted, metrics.segmentsFailed)

/-- The part of a state that is about the scan. -/
structure ScanView (α ι : Type) where
  stage : ScanStage
  tasks : Multiset (SegmentTask α ι)
  counters : UInt64 × UInt64 × UInt64
  tracker : Tracker

namespace State

/-- The segment tasks of a copy, wherever they are. -/
def segmentTasks (s : State α ι) : Multiset (SegmentTask α ι) := s.control.tasks + s.readPool.tasks

def scanView (s : State α ι) : ScanView α ι where
  stage := s.control.scanStage
  tasks := s.segmentTasks
  counters := s.metrics.segments
  tracker := s.scanTracker

end State

/-- What the scan tracker is told: that a segment begins, that the pool has refused it, or how
its task has ended. -/
inductive ScanEntry
  | begun
  | refused (error : CopyError)
  | ended (label : String) (outcome : Outcome Unit)

/-- The call of the scan tracker that an entry is about. -/
def ScanEntry.call : ScanEntry → Tracker.Call
  | begun => .begin
  | refused error => .complete (.error error)
  | ended label outcome => .complete (outcome.record label)

/-- What the next step of a segment task tells. -/
def SegmentTask.told (task : SegmentTask α ι) : List ScanEntry :=
  match task.phase with
  | .ending outcome => [.ended task.label outcome]
  | _ => []

/-- What the next step of the controlling thread tells. -/
def Control.told : Control α ι → List ScanEntry
  | .beginning .. => [.begun]
  | .refused error _ => [.refused error]
  | .running task _ => task.told
  | _ => []

/-- What a step of a copy tells. -/
def State.told (s : State α ι) : Move α ι → List ScanEntry
  | .act .control _ => s.control.told
  | .act (.reader i) _ => ((s.readPool.task? i).map SegmentTask.told).getD []
  | _ => []

/-! ## Shifts -/

/-- What the counters say of how a segment task has ended. A crash is counted as a start and
nothing else. -/
def Outcome.account : Outcome Unit → UInt64 × UInt64 × UInt64
  | returned (.ok ()) => (1, 1, 0)
  | returned (.error _) => (1, 0, 1)
  | crashed _ => (1, 0, 0)

/-- What the counters say of a segment task that has not been reported. -/
def SegmentTask.account (task : SegmentTask α ι) : UInt64 × UInt64 × UInt64 :=
  match task.phase with
  | .ready | .finished => (0, 0, 0)
  | .ending outcome => outcome.account
  | _ => (1, 0, 0)

/-- One step, as far as it is about the scan, and what the scan tracker is told in it. -/
inductive Shift : ScanView α ι → List ScanEntry → ScanView α ι → Prop
  | still {v} : Shift v [] v
  /-- No further segment is begun. -/
  | stop {v n} (h : v.stage = .submitting n) : Shift v [] { v with stage := .waiting }
  | next {v n} (h : v.stage = .submitting (n + 1)) : Shift v [] { v with stage := .beginning n }
  | register {v n} (h : v.stage = .beginning n) :
    Shift v [.begun] { v with stage := .registered n, tracker := v.tracker.begin }
  | refuse {v n error} (h : v.stage = .registered n) :
    Shift v [.refused error]
      { v with stage := .submitting n, tracker := v.tracker.complete (.error error) }
  | submit {v n segment} (h : v.stage = .registered n) :
    Shift v [] { v with stage := .submitting n, tasks := ⟨segment, none, 0, .ready⟩ ::ₘ v.tasks }
  | hear {v} (h : v.stage = .waiting) (hpending : v.tracker.pending = 0) :
    Shift v [] { v with stage := .done }
  /-- A task goes on, and the counters say the same of it. -/
  | advance {v task next rest} (gain : UInt64 × UInt64 × UInt64)
      (htasks : v.tasks = task ::ₘ rest) (htask : task.isFinished = false)
      (hnext : next.isFinished = false) (hgain : next.account = task.account + gain) :
    Shift v [] { v with tasks := next ::ₘ rest, counters := v.counters + gain }
  | report {v task rest outcome} (htasks : v.tasks = task ::ₘ rest)
      (hphase : task.phase = .ending outcome) :
    Shift v [.ended task.label outcome]
      { v with
        tasks := { task with phase := .finished } ::ₘ rest
        tracker := v.tracker.completeTask task.label outcome }
  | retire {v task rest} (htasks : v.tasks = task ::ₘ rest) (hfinished : task.isFinished = true) :
    Shift v [] { v with tasks := rest }

/-- A task goes on, and nothing is counted. -/
theorem Shift.proceed {v : ScanView α ι} {task next : SegmentTask α ι}
    {rest : Multiset (SegmentTask α ι)} (htasks : v.tasks = task ::ₘ rest)
    (htask : task.isFinished = false) (hnext : next.isFinished = false)
    (haccount : next.account = task.account) : Shift v [] { v with tasks := next ::ₘ rest } := by
  have hshift := Shift.advance 0 htasks htask hnext (haccount.trans (add_zero _).symm)
  rwa [add_zero] at hshift

/-! ## Steps of tasks -/

/-- Nothing of the scan is moved, apart from the step of a task that holds it. -/
structure State.KeepsScan (s t : State α ι) : Prop where
  readPool : t.readPool = s.readPool
  control : t.control = s.control
  counters : t.metrics.segments = s.metrics.segments
  tracker : t.scanTracker = s.scanTracker

section KeepsScan

variable [Quantity α] {setup : Setup α} {s t : State α ι} {answer : Answer α ι}

theorem ChunkTask.keepsScan_of_step {task next : ChunkTask α ι}
    (h : task.step setup s answer = some (t, next)) : s.KeepsScan t := by
  have hrule := rule_of_step h
  obtain ⟨hread, -, hcontrol⟩ := hrule.places
  have hbatch : ∀ (metrics : Metrics) (n : UInt64) (units : α),
      (metrics.record (.batch n units)).segments = metrics.segments := fun metrics n units =>
    add_zero metrics.segments
  have hagain : ∀ metrics : Metrics,
      (metrics.record (.resubmission : Metrics.Event α)).segments = metrics.segments :=
    fun metrics => add_zero metrics.segments
  refine ⟨hread, hcontrol, ?_, ?_⟩
  · cases hrule with
    | finish | exhaust => exact hbatch _ _ _
    | faultyRest | rest => exact (hagain _).trans (hbatch _ _ _)
    | _ => rfl
  · cases hrule <;> rfl

theorem Delivery.keepsScan_of_step {delivery next : Delivery α ι}
    (h : delivery.step setup s answer = some (t, next)) : s.KeepsScan t := by
  rcases rule_of_step h with hrule | ⟨_, _, _, -, _, _, -, rfl, -⟩ | ⟨_, _, _, -, -, rfl, -⟩ |
    ⟨_, _, _, _, -, hstep, -⟩
  · cases hrule <;> exact ⟨rfl, rfl, rfl, rfl⟩
  · exact ⟨rfl, rfl, rfl, rfl⟩
  · exact ⟨rfl, rfl, rfl, rfl⟩
  · exact ChunkTask.keepsScan_of_step hstep

end KeepsScan

namespace SegmentTask

variable [Quantity α] {setup : Setup α} {s t : State α ι} {task next : SegmentTask α ι}
variable {answer : Answer α ι} {exchanges : List (Exchange α ι)}

section Handover

omit [Quantity α]

variable (segment : Nat) (key : Option ι) (pages : Nat) (phase : SegmentPhase α ι)
variable (nextKey : Option ι)

theorem account_advance :
    (advance ⟨segment, key, pages, phase⟩ nextKey).isFinished = false ∧
      (advance ⟨segment, key, pages, phase⟩ nextKey).account = (1, 0, 0) := by
  cases nextKey <;> exact ⟨rfl, rfl⟩

theorem account_afterHandover (result : Except CopyError Unit) :
    (afterHandover ⟨segment, key, pages, phase⟩ nextKey result).isFinished = false ∧
      (afterHandover ⟨segment, key, pages, phase⟩ nextKey result).account = (1, 0, 0) := by
  cases result with
  | ok => exact account_advance ..
  | error => exact ⟨rfl, rfl⟩

end Handover

/-- What a step of a segment task makes of the scan, next to any other tasks. -/
def Shifts (s : State α ι) (task : SegmentTask α ι) (t : State α ι) (next : SegmentTask α ι) :
    Prop :=
  ∀ stage others, Shift ⟨stage, task ::ₘ others, s.metrics.segments, s.scanTracker⟩ task.told
    ⟨stage, next ::ₘ others, t.metrics.segments, t.scanTracker⟩

theorem Rule.shifts (h : Rule setup s task exchanges t next) : Shifts s task t next := by
  intro stage others
  cases h with
  | begin => exact .advance (1, 0, 0) rfl rfl rfl (zero_add _).symm
  | skip =>
    obtain ⟨hunfinished, haccount⟩ := account_advance ..
    exact .advance 0 rfl rfl hunfinished (haccount.trans (add_zero _).symm)
  | takenOutside result =>
    obtain ⟨hunfinished, haccount⟩ := account_afterHandover ..
    exact .proceed rfl rfl hunfinished haccount
  | close result =>
    cases result with
    | ok pages => exact .advance (0, 1, 0) rfl rfl rfl rfl
    | error e => exact .advance (0, 0, 1) rfl rfl rfl rfl
  | complete => exact .report rfl rfl
  | _ => exact .proceed rfl rfl rfl rfl

/-- A page that is handed over is counted, and nothing else of the scan is moved. -/
theorem shifts_of_recording {page : Page α ι} (hphase : task.phase = .recording page)
    (h : task.step setup s answer = some (t, next)) :
    t.readPool = s.readPool ∧ t.control = s.control ∧ Shifts s task t next := by
  obtain ⟨segment, key, pages, phase⟩ := task
  obtain rfl := hphase
  cases answer with
  | none =>
    simp only [step, record] at h
    split at h
    · obtain ⟨rfl, rfl⟩ := Prod.mk.inj (Option.some.inj h)
      obtain ⟨hunfinished, haccount⟩ := account_advance ..
      exact ⟨rfl, rfl, fun stage others =>
        .advance 0 rfl rfl hunfinished (haccount.trans (add_zero _).symm)⟩
    · split at h <;>
      · obtain ⟨rfl, rfl⟩ := Prod.mk.inj (Option.some.inj h)
        exact ⟨rfl, rfl, fun stage others => .advance 0 rfl rfl rfl (add_zero _).symm⟩
  | _ => cases h

/-- A step of a segment task moves the scan by a shift, whoever consumes the pages. -/
theorem shifts_of_step (h : task.step setup s answer = some (t, next)) :
    t.readPool = s.readPool ∧ t.control = s.control ∧ Shifts s task t next := by
  by_cases hrecording : ∃ page, task.phase = .recording page
  · obtain ⟨page, hphase⟩ := hrecording
    exact shifts_of_recording hphase h
  · -- In any other phase the step is that of a copy with the paced writer.
    rw [← step_paced fun page hpage => hrecording ⟨page, hpage⟩] at h
    have hplaces := places_of_step rfl h
    refine ⟨hplaces.1, hplaces.2, ?_⟩
    rcases rule_of_step rfl h with hrule | ⟨_, _, _, page, rfl, -⟩ |
      ⟨segment, key, pages, nextKey, _, result, rfl, rfl, rfl⟩ |
      ⟨_, _, _, _, _, _, rfl, hstep, rfl⟩
    · exact hrule.shifts
    · exact absurd ⟨page, rfl⟩ hrecording
    · intro stage others
      obtain ⟨hunfinished, haccount⟩ := account_afterHandover segment key pages _ nextKey result
      exact .proceed rfl rfl hunfinished haccount
    · intro stage others
      obtain ⟨-, -, hcounters, htracker⟩ := Delivery.keepsScan_of_step hstep
      rw [hcounters, htracker]
      exact .proceed rfl rfl rfl rfl

end SegmentTask

/-! ## Steps of a copy -/

namespace State

variable {s t : State α ι} {answer : Answer α ι} {entries : List ScanEntry}

/-- A copy goes on in its pipe, and with the same read pool. -/
structure GoesOn (s t : State α ι) : Prop where
  isPiping : t.control.isPiping = true
  provision : t.readPool.provision = s.readPool.provision

/-- Where the stage, the tasks, the counters and the tracker are the same, nothing has moved. -/
theorem shift_of_same (hcontrol : t.control = s.control)
    (htasks : t.readPool.tasks = s.readPool.tasks)
    (hcounters : t.metrics.segments = s.metrics.segments)
    (htracker : t.scanTracker = s.scanTracker) : Shift s.scanView [] t.scanView := by
  rw [scanView, scanView, segmentTasks, segmentTasks, hcontrol, htasks, hcounters, htracker]
  exact .still

/-- A controlling thread that runs no task has no part in the tasks. -/
theorem shift_of_control {c c' : Control α ι} (hcontrol : s.control = c) (hc : c.tasks = 0)
    (hcontrol' : t.control = c') (hc' : c'.tasks = 0)
    (hshift : Shift ⟨c.scanStage, s.readPool.tasks, s.metrics.segments, s.scanTracker⟩ entries
      ⟨c'.scanStage, t.readPool.tasks, t.metrics.segments, t.scanTracker⟩) :
    Shift s.scanView entries t.scanView := by
  rw [scanView, scanView, segmentTasks, segmentTasks, hcontrol, hcontrol', hc, hc', zero_add,
    zero_add]
  exact hshift

/-- A submitted segment is refused, or its task is one of the tasks. -/
theorem shift_of_submit {segment : Nat} {left : List Nat} {pool : Pool (SegmentTask α ι)}
    {placement : Placement} (hreliable : s.readPool.IsReliable)
    (hcontrol : s.control = .handing segment left)
    (hsubmit : s.readPool.submit ⟨segment, none, 0, .ready⟩ = (pool, placement)) :
    Shift s.scanView []
      { s with
        readPool := pool
        control := Control.afterSubmission segment left placement }.scanView := by
  cases placement with
  | refused error =>
    refine shift_of_control hcontrol rfl rfl rfl ?_
    dsimp only
    rw [Pool.tasks_submit_of_refused hreliable hsubmit]
    exact .still
  | onCaller =>
    have hview : s.scanView = ⟨.registered left.length, s.readPool.tasks, s.metrics.segments,
        s.scanTracker⟩ := by
      rw [scanView, segmentTasks, hcontrol]
      exact congrArg (ScanView.mk _ · _ _) (zero_add _)
    rw [hview, scanView, segmentTasks]
    dsimp only
    rw [Pool.tasks_submit_of_lent hsubmit]
    exact .submit rfl
  | started | queued =>
    refine shift_of_control hcontrol rfl rfl rfl ?_
    dsimp only
    rw [Pool.tasks_submit_of_taken hsubmit (by decide)]
    exact .submit rfl

variable [Quantity α] {setup : Setup α}

theorem shift_of_controlStep (hreliable : s.readPool.IsReliable)
    (hpiping : s.control.isPiping = true) (h : s.controlStep setup answer = some t) :
    s.GoesOn t ∧ Shift s.scanView s.control.told t.scanView := by
  unfold controlStep at h
  split at h <;> rename_i hcontrol <;> first | rw [hcontrol] | cases h
  · obtain rfl := Option.some.inj h
    exact ⟨⟨rfl, rfl⟩, shift_of_control hcontrol rfl rfl rfl (.stop rfl)⟩
  · split at h
    · obtain rfl := Option.some.inj h
      exact ⟨⟨rfl, rfl⟩, shift_of_control hcontrol rfl rfl rfl (.stop rfl)⟩
    · obtain rfl := Option.some.inj h
      exact ⟨⟨rfl, rfl⟩, shift_of_control hcontrol rfl rfl rfl (.next rfl)⟩
  · obtain rfl := Option.some.inj h
    exact ⟨⟨rfl, rfl⟩, shift_of_control hcontrol rfl rfl rfl (.register rfl)⟩
  · rename_i segment left
    dsimp only at h
    obtain ⟨pool, placement, hsubmit⟩ : ∃ pool placement,
        s.readPool.submit ⟨segment, none, 0, .ready⟩ = (pool, placement) := ⟨_, _, rfl⟩
    rw [hsubmit] at h
    have hshift := shift_of_submit hreliable hcontrol hsubmit
    cases placement <;>
    · obtain rfl := Option.some.inj h
      exact ⟨⟨rfl, Pool.provision_submit hsubmit⟩, hshift⟩
  · obtain rfl := Option.some.inj h
    exact ⟨⟨rfl, rfl⟩, shift_of_control hcontrol rfl rfl rfl (.refuse rfl)⟩
  · rename_i task left
    have hview : s.scanView = ⟨.submitting left.length, task ::ₘ s.readPool.tasks,
        s.metrics.segments, s.scanTracker⟩ := by
      rw [scanView, segmentTasks, hcontrol]
      rfl
    rw [hview]
    split at h
    · rename_i hfinished
      obtain ⟨segment, key, pages, rfl⟩ := SegmentTask.exists_of_isFinished hfinished
      split at h
      · obtain rfl := Option.some.inj h
        refine ⟨⟨rfl, rfl⟩, ?_⟩
        rw [scanView, segmentTasks]
        dsimp only [Control.tasks]
        rw [Pool.tasks_finishOnCaller, zero_add]
        exact .retire rfl rfl
      · cases h
    · obtain ⟨⟨u, next⟩, hstep, rfl⟩ := Option.map_eq_some_iff.1 h
      obtain ⟨hread, -, hshifts⟩ := SegmentTask.shifts_of_step hstep
      refine ⟨⟨rfl, congrArg _ hread⟩, ?_⟩
      rw [← hread]
      exact hshifts _ _
  · obtain ⟨scanned, hwait, rfl⟩ := Option.map_eq_some_iff.1 h
    have hpending := (Tracker.of_wait?_eq_some hwait).1
    exact ⟨⟨rfl, rfl⟩, shift_of_control hcontrol rfl rfl rfl (.hear rfl hpending)⟩
  · obtain rfl := Option.some.inj h
    exact ⟨⟨rfl, rfl⟩, shift_of_control hcontrol rfl rfl rfl .still⟩
  · split at h
    · cases h
    · obtain ⟨written, -, rfl⟩ := Option.map_eq_some_iff.1 h
      exact ⟨⟨rfl, rfl⟩, shift_of_control hcontrol rfl rfl rfl .still⟩
  · split at h
    · obtain rfl := Option.some.inj h
      exact ⟨⟨rfl, rfl⟩, shift_of_control hcontrol rfl rfl rfl .still⟩
    · cases h
  · split at h <;>
    · obtain rfl := Option.some.inj h
      exact ⟨⟨rfl, rfl⟩, shift_of_control hcontrol rfl rfl rfl .still⟩
  · obtain rfl := Option.some.inj h
    exact ⟨⟨rfl, rfl⟩, shift_of_control hcontrol rfl rfl rfl .still⟩
  · split at h
    · obtain rfl := Option.some.inj h
      exact ⟨⟨rfl, rfl⟩, shift_of_control hcontrol rfl rfl rfl .still⟩
    · cases h
  · obtain rfl := Option.some.inj h
    exact ⟨⟨rfl, rfl⟩, shift_of_control hcontrol rfl rfl rfl .still⟩
  · split at h
    · obtain rfl := Option.some.inj h
      exact ⟨⟨rfl, rfl⟩, shift_of_control hcontrol rfl rfl rfl .still⟩
    · cases h
  · rw [hcontrol] at hpiping
    cases hpiping
  · rw [hcontrol] at hpiping
    cases hpiping

theorem shift_of_readerStep {i : Nat} (h : s.readerStep setup i answer = some t) :
    t.control = s.control ∧ t.readPool.provision = s.readPool.provision ∧
      Shift s.scanView (s.told (.act (.reader i) answer)) t.scanView := by
  have hview {task others} (htasks : s.readPool.tasks = task ::ₘ others) :
      s.scanView = ⟨s.control.scanStage, task ::ₘ (s.control.tasks + others),
        s.metrics.segments, s.scanTracker⟩ := by
    rw [scanView, segmentTasks, htasks, Multiset.add_cons]
  cases rule_of_readerStep h with
  | retire htask hfinished =>
    obtain ⟨others, htasks, -, hfinish⟩ := Pool.exists_tasks_eq_cons htask
    obtain ⟨segment, key, pages, rfl⟩ := SegmentTask.exists_of_isFinished hfinished
    refine ⟨rfl, rfl, ?_⟩
    rw [told, htask, hview htasks, scanView, segmentTasks]
    dsimp only
    rw [hfinish]
    exact .retire rfl rfl
  | advance htask hstep =>
    obtain ⟨others, htasks, hset, -⟩ := Pool.exists_tasks_eq_cons htask
    obtain ⟨hread, hcontrol, hshifts⟩ := SegmentTask.shifts_of_step hstep
    have hsame := congrArg Pool.provision hread
    refine ⟨hcontrol, hsame, ?_⟩
    rw [told, htask, Option.map_some, Option.getD_some, hview htasks, scanView, segmentTasks]
    dsimp only
    rw [hread, hset, hcontrol, Multiset.add_cons]
    exact hshifts _ _
  | idle htask hidle =>
    rw [told, htask]
    exact ⟨rfl, Pool.provision_idleStep hidle,
      shift_of_same rfl (Pool.tasks_idleStep hidle) rfl rfl⟩

theorem keepsScan_of_writerStep {i : Nat} (h : s.writerStep setup i answer = some t) :
    s.KeepsScan t := by
  cases rule_of_writerStep h with
  | advance htask hstep =>
    obtain ⟨hread, hcontrol, hcounters, htracker⟩ := ChunkTask.keepsScan_of_step hstep
    exact ⟨hread, hcontrol, hcounters, htracker⟩
  | retire | idle => exact ⟨rfl, rfl, rfl, rfl⟩

/-- Every step of a copy in a pipe moves the scan by a shift, whoever consumes the pages. -/
theorem shift_of_step {move : Move α ι} (hreliable : s.readPool.IsReliable)
    (hpiping : s.control.isPiping = true) (h : s.step setup move = some t) :
    s.GoesOn t ∧ Shift s.scanView (s.told move) t.scanView := by
  cases rule_of_step h with
  | interrupt | elapse => exact ⟨⟨hpiping, rfl⟩, .still⟩
  | control h => exact shift_of_controlStep hreliable hpiping h
  | reader h =>
    obtain ⟨hcontrol, hsame, hshift⟩ := shift_of_readerStep h
    exact ⟨⟨hcontrol ▸ hpiping, hsame⟩, hshift⟩
  | writer h =>
    obtain ⟨hread, hcontrol, hcounters, htracker⟩ := keepsScan_of_writerStep h
    exact ⟨⟨hcontrol ▸ hpiping, congrArg _ hread⟩,
      shift_of_same hcontrol (congrArg _ hread) hcounters htracker⟩
  | readerTimeOut hout =>
    exact ⟨⟨hpiping, Pool.provision_timeOut hout⟩,
      shift_of_same rfl (Pool.tasks_timeOut hout) rfl rfl⟩
  | writerTimeOut => exact ⟨⟨hpiping, rfl⟩, shift_of_same rfl rfl rfl rfl⟩

omit [Quantity α] in
/-- So does the release of the pools after it. -/
theorem shift_of_releasing {result : Except CopyError Unit} (h : s.control = .returned result) :
    s.GoesOn s.releasing ∧ Shift s.scanView [] s.releasing.scanView := by
  rw [releasing, h]
  exact ⟨⟨rfl, rfl⟩, shift_of_control h rfl rfl rfl .still⟩

end State
end TableCopy
