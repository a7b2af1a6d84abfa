import Mathlib.Data.List.Infix
import Mathlib.Data.List.Perm.Subperm
import TableCopy.Proofs.Tracker.Calls

/-!
# A tracker under any schedule

Threads share a tracker. They begin tasks and complete them, run tasks that are completed for
them however they end, and wait until no task is pending. Each of these is one step, and the
steps of the threads come in any order. A thread that has to wait sleeps; the completion that
leaves nothing pending wakes all sleepers, and a sleeper may wake for no reason at all, so that
it looks again before it goes on. The log tells what the steps did, the latest first.
-/

namespace TableCopy

/-- What a crash leaves behind: a text, which comes in two forms, or something else. -/
inductive Payload
  | literal (text : String)
  | owned (text : String)
  | other
  deriving DecidableEq, Repr

namespace Payload

def reason? : Payload → Option String
  | literal text => some text
  | owned text => some text
  | other => none

/-- The reason that is reported for a crash. -/
def reason (payload : Payload) : String := payload.reason?.getD "unknown cause"

end Payload

namespace Tracking

/-- A task that a thread runs, and that is completed under a label when it ends. -/
structure Frame (τ : Type) where
  task : τ
  label : String
  deriving DecidableEq, Repr

inductive Status
  | going
  | asleep
  /-- Woken up, and about to look at the tracker again. -/
  | awake
  | gone
  deriving DecidableEq, Repr

structure Thread (τ : Type) where
  /-- The tasks that the thread runs, each within the next one. -/
  frames : List (Frame τ) := []
  status : Status := .going
  deriving DecidableEq, Repr

/-- A sleeping thread wakes up. -/
def Thread.rouse {τ : Type} (thread : Thread τ) : Thread τ :=
  if thread.status = .asleep then { thread with status := .awake } else thread

/-- What a step did to the tracker, or learned from it. -/
inductive Entry (τ : Type)
  | began (task : τ)
  | completed (task : τ) (result : Except CopyError Unit)
  /-- A wait of a thread is over. -/
  | waited (i : Nat) (answer : Except CopyError Unit)

namespace Entry

variable {τ : Type}

def begun? : Entry τ → Option τ
  | began task => some task
  | _ => none

def completed? : Entry τ → Option τ
  | completed task _ => some task
  | _ => none

/-- The call that the tracker saw. -/
def call? : Entry τ → Option Tracker.Call
  | began _ => some .begin
  | completed _ result => some (.complete result)
  | waited _ _ => none

/-- The failure that a task completed with. -/
def failure? : Entry τ → Option CopyError
  | completed _ (.error e) => some e
  | _ => none

end Entry

section Log

variable {τ : Type} (log : List (Entry τ))

/-- The tasks that have begun. -/
def begun : List τ := log.filterMap Entry.begun?

/-- The tasks that have completed. -/
def completed : List τ := log.filterMap Entry.completed?

/-- The failures that tasks completed with, the earliest first. -/
def failures : List CopyError := log.reverse.filterMap Entry.failure?

def calls : List Tracker.Call := log.filterMap Entry.call?

end Log

end Tracking

/-- A tracker with the threads that share it and the log of their steps. -/
structure Tracking (τ : Type) where
  tracker : Tracker := {}
  threads : List (Tracking.Thread τ) := []
  log : List (Tracking.Entry τ) := []

namespace Tracking

variable {τ : Type}

inductive Action (τ : Type)
  | spawn
  | begin (i : Nat) (task : τ)
  | complete (i : Nat) (task : τ) (result : Except CopyError Unit)
  /-- A thread starts to run a task. -/
  | run (i : Nat) (frame : Frame τ)
  /-- The innermost task that a thread runs returns. -/
  | leave (i : Nat) (result : Except CopyError Unit)
  /-- The innermost task that a thread runs crashes. -/
  | crash (i : Nat) (payload : Payload)
  | wait (i : Nat)
  /-- A sleeper wakes for no reason. -/
  | rouse (i : Nat)
  /-- A thread that has woken up looks at the tracker again. -/
  | recheck (i : Nat)

/-- Thread `i`, if its status is the given one. -/
def find? (u : Tracking τ) (status : Status) (i : Nat) : Option (Thread τ) :=
  u.threads[i]?.filter fun thread => thread.status = status

def setThread (u : Tracking τ) (i : Nat) (thread : Thread τ) : Tracking τ :=
  { u with threads := u.threads.set i thread }

/-- A waiter looks at the tracker: its wait is over, or it falls asleep. -/
def look (u : Tracking τ) (i : Nat) (thread : Thread τ) : Tracking τ :=
  match u.tracker.wait? with
  | some answer =>
    { u.setThread i { thread with status := .going } with log := .waited i answer :: u.log }
  | none => u.setThread i { thread with status := .asleep }

/-- A completion is recorded, and wakes all sleepers if it leaves nothing pending. -/
def record (u : Tracking τ) (task : τ) (result : Except CopyError Unit) : Tracking τ where
  tracker := u.tracker.complete result
  threads :=
    if (u.tracker.complete result).pending = 0 then u.threads.map Thread.rouse else u.threads
  log := .completed task result :: u.log

section Step

variable [DecidableEq τ]

/-- A task completes, if it has begun and has not completed before. -/
def settle (u : Tracking τ) (task : τ) (result : Except CopyError Unit) : Option (Tracking τ) :=
  if task ∈ begun u.log ∧ task ∉ completed u.log then some (u.record task result) else none

/-- The innermost task that a thread runs ends and is completed; a thread that runs none is
gone. -/
def exit (u : Tracking τ) (i : Nat) (thread : Thread τ) (outcome : Outcome Unit) :
    Option (Tracking τ) :=
  match thread.frames with
  | [] => some (u.setThread i { thread with status := .gone })
  | frame :: frames =>
    (u.setThread i { thread with frames }).settle frame.task (outcome.record frame.label)

/-- A step of a thread, if it is possible. Each task begins once, and completes at most once
after that. -/
def step (u : Tracking τ) : Action τ → Option (Tracking τ)
  | .spawn => some { u with threads := u.threads ++ [{}] }
  | .begin i task =>
    if (u.find? .going i).isSome ∧ task ∉ begun u.log then
      some { u with tracker := u.tracker.begin, log := .began task :: u.log }
    else none
  | .complete i task result => (u.find? .going i).bind fun _ => u.settle task result
  | .run i frame =>
    (u.find? .going i).map fun thread =>
      u.setThread i { thread with frames := frame :: thread.frames }
  | .leave i result => (u.find? .going i).bind fun thread => u.exit i thread (.returned result)
  | .crash i payload =>
    (u.find? .going i).bind fun thread => u.exit i thread (.crashed payload.reason?)
  | .wait i => (u.find? .going i).map fun thread => u.look i thread
  | .rouse i => (u.find? .asleep i).map fun thread => u.setThread i thread.rouse
  | .recheck i => (u.find? .awake i).map fun thread => u.look i thread

/-- A sequence of steps. -/
def run (u : Tracking τ) (actions : List (Action τ)) : Option (Tracking τ) :=
  actions.foldlM step u

/-- What the threads of a tracker can come to. -/
inductive Reachable : Tracking τ → Prop
  | start : Reachable {}
  | step {u v : Tracking τ} (action : Action τ) (hu : Reachable u) (h : u.step action = some v) :
    Reachable v

theorem Reachable.run {u v : Tracking τ} (hu : Reachable u) {actions : List (Action τ)}
    (h : u.run actions = some v) : Reachable v := by
  induction actions generalizing u with
  | nil =>
    obtain rfl := Option.some.inj h
    exact hu
  | cons action actions ih =>
    obtain ⟨w, hstep, hrun⟩ := Option.bind_eq_some_iff.1 h
    exact ih (hu.step action hstep) hrun

end Step

/-! ## What the log tells -/

/-- Every wait was over at a moment when all tasks that had begun had completed, and was
answered with what they had come to. -/
inductive IsHeard : List (Entry τ) → Prop
  | nil : IsHeard []
  | begin {task log} (h : IsHeard log) : IsHeard (.began task :: log)
  | complete {task result log} (h : IsHeard log) : IsHeard (.completed task result :: log)
  | wait {i log} (h : IsHeard log) (hidle : (begun log).length = (completed log).length) :
    IsHeard (.waited i (Tracker.verdict (calls log)) :: log)

/-- A tracker that is what its log makes of it. -/
structure IsExact (u : Tracking τ) : Prop where
  tracker_eq : u.tracker = ({} : Tracker).after (calls u.log)
  begun_nodup : (begun u.log).Nodup
  completed_nodup : (completed u.log).Nodup
  completed_subset : completed u.log ⊆ begun u.log
  pending_add : u.tracker.pending + (completed u.log).length = (begun u.log).length
  heard : IsHeard u.log
  /-- No thread sleeps while nothing is pending. -/
  restless : ∀ thread ∈ u.threads, thread.status = .asleep → u.tracker.pending ≠ 0

theorem isExact_start : ({} : Tracking τ).IsExact where
  tracker_eq := rfl
  begun_nodup := List.nodup_nil
  completed_nodup := List.nodup_nil
  completed_subset := List.nil_subset _
  pending_add := rfl
  heard := .nil
  restless := nofun

variable {u v : Tracking τ} {i : Nat} {thread : Thread τ} {task : τ}

theorem IsExact.setThread (hu : u.IsExact)
    (h : thread.status = .asleep → u.tracker.pending ≠ 0) :
    (u.setThread i thread).IsExact := by
  refine { hu with restless := fun other hother hasleep => ?_ }
  rcases List.mem_or_eq_of_mem_set hother with hmem | rfl
  · exact hu.restless other hmem hasleep
  · exact h hasleep

theorem IsExact.spawn (hu : u.IsExact) :
    ({ u with threads := u.threads ++ [{}] } : Tracking τ).IsExact := by
  refine { hu with restless := fun thread hthread hasleep => ?_ }
  rcases List.mem_append.1 hthread with hmem | hnew
  · exact hu.restless thread hmem hasleep
  · obtain rfl := List.mem_singleton.1 hnew
    cases hasleep

theorem IsExact.begin (hu : u.IsExact) (hfresh : task ∉ begun u.log) :
    ({ u with tracker := u.tracker.begin, log := .began task :: u.log } : Tracking τ).IsExact where
  tracker_eq := congrArg Tracker.begin hu.tracker_eq
  begun_nodup := List.nodup_cons.2 ⟨hfresh, hu.begun_nodup⟩
  completed_nodup := hu.completed_nodup
  completed_subset := List.subset_cons_of_subset _ hu.completed_subset
  pending_add := (Nat.add_right_comm _ _ _).trans (congrArg (· + 1) hu.pending_add)
  heard := hu.heard.begin
  restless _ _ _ := Nat.succ_ne_zero _

theorem IsExact.look (hu : u.IsExact) : (u.look i thread).IsExact := by
  unfold Tracking.look
  cases hwait : u.tracker.wait? with
  | none =>
    refine hu.setThread fun _ hpending => ?_
    rw [Tracker.wait?, if_pos hpending] at hwait
    cases hwait
  | some answer =>
    have hidle := (Tracker.of_wait?_eq_some hwait).1
    have hadd := hu.pending_add
    rw [hidle, Nat.zero_add] at hadd
    have hset : (u.setThread i { thread with status := .going }).IsExact :=
      hu.setThread fun hasleep => by cases hasleep
    rw [hu.tracker_eq] at hwait
    rw [Tracker.wait?_after hwait]
    exact { hset with heard := hu.heard.wait hadd.symm }

/-- The completion of a task that has begun and not completed finds it pending. -/
theorem IsExact.record (hu : u.IsExact) (hbegun : task ∈ begun u.log)
    (hopen : task ∉ completed u.log) (result : Except CopyError Unit) :
    (u.record task result).IsExact := by
  have hnodup : (task :: completed u.log).Nodup := List.nodup_cons.2 ⟨hopen, hu.completed_nodup⟩
  have hsubset : task :: completed u.log ⊆ begun u.log :=
    List.cons_subset.2 ⟨hbegun, hu.completed_subset⟩
  have hlength := (List.subperm_of_subset hnodup hsubset).length_le
  have hadd := hu.pending_add
  rw [List.length_cons] at hlength
  refine ⟨congrArg (Tracker.complete · result) hu.tracker_eq, hu.begun_nodup, hnodup, hsubset,
    ?_, hu.heard.complete, ?_⟩
  · change u.tracker.pending - 1 + ((completed u.log).length + 1) = (begun u.log).length
    omega
  · intro thread (hthread : thread ∈ (u.record task result).threads) hasleep hidle
    have hthreads : (u.record task result).threads = u.threads.map Thread.rouse := if_pos hidle
    rw [hthreads] at hthread
    obtain ⟨other, -, rfl⟩ := List.mem_map.1 hthread
    unfold Thread.rouse at hasleep
    split at hasleep
    · cases hasleep
    · contradiction

theorem of_find?_eq_some {status : Status} (h : u.find? status i = some thread) :
    u.threads[i]? = some thread ∧ thread.status = status := by
  obtain ⟨hthread, hstatus⟩ := Option.filter_eq_some_iff.1 h
  exact ⟨hthread, of_decide_eq_true hstatus⟩

section Step

variable [DecidableEq τ] {action : Action τ}

theorem IsExact.settle (hu : u.IsExact) {result : Except CopyError Unit}
    (h : u.settle task result = some v) : v.IsExact := by
  unfold Tracking.settle at h
  split at h
  · rename_i hopen
    obtain rfl := Option.some.inj h
    exact hu.record hopen.1 hopen.2 result
  · cases h

theorem IsExact.exit (hu : u.IsExact) (hgoing : thread.status = .going) {outcome : Outcome Unit}
    (h : u.exit i thread outcome = some v) : v.IsExact := by
  unfold Tracking.exit at h
  split at h
  · obtain rfl := Option.some.inj h
    exact hu.setThread fun hasleep => by cases hasleep
  · refine (hu.setThread fun hasleep => ?_).settle h
    rw [hgoing] at hasleep
    cases hasleep

/-- Every step leaves a tracker what its log makes of it. -/
theorem IsExact.step (hu : u.IsExact) (h : u.step action = some v) : v.IsExact := by
  cases action with
  | spawn =>
    obtain rfl := Option.some.inj h
    exact hu.spawn
  | begin i task =>
    simp only [Tracking.step] at h
    split at h
    · rename_i hfresh
      obtain rfl := Option.some.inj h
      exact hu.begin hfresh.2
    · cases h
  | complete i task result =>
    obtain ⟨thread, -, h⟩ := Option.bind_eq_some_iff.1 h
    exact hu.settle h
  | run i frame =>
    obtain ⟨thread, hthread, rfl⟩ := Option.map_eq_some_iff.1 h
    refine hu.setThread fun hasleep => ?_
    rw [(of_find?_eq_some hthread).2] at hasleep
    cases hasleep
  | leave i result =>
    obtain ⟨thread, hthread, h⟩ := Option.bind_eq_some_iff.1 h
    exact hu.exit (of_find?_eq_some hthread).2 h
  | crash i payload =>
    obtain ⟨thread, hthread, h⟩ := Option.bind_eq_some_iff.1 h
    exact hu.exit (of_find?_eq_some hthread).2 h
  | wait i =>
    obtain ⟨thread, -, rfl⟩ := Option.map_eq_some_iff.1 h
    exact hu.look
  | rouse i =>
    obtain ⟨thread, hthread, rfl⟩ := Option.map_eq_some_iff.1 h
    refine hu.setThread fun hasleep => ?_
    rw [Thread.rouse, if_pos (of_find?_eq_some hthread).2] at hasleep
    cases hasleep
  | recheck i =>
    obtain ⟨thread, -, rfl⟩ := Option.map_eq_some_iff.1 h
    exact hu.look

theorem Reachable.isExact (h : Reachable u) : u.IsExact := by
  induction h with
  | start => exact isExact_start
  | step _ _ h ih => exact ih.step h

end Step

/-! ## What waits are answered with -/

section Log

variable {log later earlier : List (Entry τ)} {answer : Except CopyError Unit} {e : CopyError}

theorem failures_append (later earlier : List (Entry τ)) :
    failures (later ++ earlier) = failures earlier ++ failures later := by
  rw [failures, List.reverse_append, List.filterMap_append]
  rfl

/-- The failure that the tracker keeps is the earliest one. -/
theorem firstFailure?_calls (log : List (Entry τ)) :
    Tracker.firstFailure? (calls log) = (failures log).head? := by
  have hsame : Entry.failure? = fun entry : Entry τ => entry.call?.bind Tracker.Call.failure? := by
    funext entry
    rcases entry with _ | ⟨_, _ | _⟩ | _ <;> rfl
  rw [Tracker.firstFailure?, ← List.head?_filterMap, failures, calls, ← List.filterMap_reverse,
    List.filterMap_filterMap, hsame]

theorem verdict_eq_ok_iff : Tracker.verdict (calls log) = .ok () ↔ failures log = [] := by
  rw [Tracker.verdict, firstFailure?_calls]
  cases failures log <;> simp

theorem verdict_eq_error_iff :
    Tracker.verdict (calls log) = .error e ↔ (failures log).head? = some e := by
  rw [Tracker.verdict, firstFailure?_calls]
  cases failures log <;> simp

/-- The earliest failure remains the earliest one. -/
theorem verdict_append_of_error (h : Tracker.verdict (calls earlier) = .error e)
    (later : List (Entry τ)) : Tracker.verdict (calls (later ++ earlier)) = .error e := by
  rw [verdict_eq_error_iff] at h ⊢
  rw [failures_append, List.head?_append, h, Option.some_or]

/-- A wait was over when nothing was pending, and learned what the tasks had come to. -/
theorem IsHeard.waited_of_mem (h : IsHeard (later ++ .waited i answer :: earlier)) :
    (begun earlier).length = (completed earlier).length ∧
      answer = Tracker.verdict (calls earlier) := by
  induction later with
  | nil =>
    cases h with
    | wait _ hidle => exact ⟨hidle, rfl⟩
  | cons entry later ih =>
    cases h with
    | begin h => exact ih h
    | complete h => exact ih h
    | wait h _ => exact ih h

end Log

theorem IsExact.hasFailed_iff (hu : u.IsExact) :
    u.tracker.hasFailed = true ↔ failures u.log ≠ [] := by
  rw [Tracker.hasFailed, hu.tracker_eq, Tracker.firstError_after, firstFailure?_calls,
    List.isSome_head?]

/-- A completion wakes sleepers and leaves all other threads alone. -/
theorem find?_record (h : u.find? .going i = some thread) (result : Except CopyError Unit) :
    (u.record task result).find? .going i = some thread := by
  obtain ⟨hthread, hgoing⟩ := of_find?_eq_some h
  have hsame : thread.rouse = thread := by
    rw [Thread.rouse, hgoing]
    rfl
  refine Option.filter_eq_some_iff.2 ⟨?_, decide_eq_true hgoing⟩
  unfold record
  dsimp only
  split
  · rw [List.getElem?_map, hthread, Option.map_some, hsame]
  · exact hthread

theorem find?_setThread (h : u.find? .going i = some thread) {other : Thread τ}
    (hgoing : other.status = .going) : (u.setThread i other).find? .going i = some other := by
  obtain ⟨hlt, -⟩ := List.getElem?_eq_some_iff.1 (of_find?_eq_some h).1
  exact Option.filter_eq_some_iff.2 ⟨List.getElem?_set_self hlt, decide_eq_true hgoing⟩

theorem log_suffix_of_look (u : Tracking τ) (i : Nat) (thread : Thread τ) :
    u.log <:+ (u.look i thread).log := by
  unfold look
  split
  · exact List.suffix_cons _ _
  · exact List.suffix_rfl

/-- Who waits while nothing is pending is answered at once. -/
theorem exists_answer_of_look (hidle : u.tracker.pending = 0) (i : Nat) (thread : Thread τ) :
    ∃ answer, (u.look i thread).log = .waited i answer :: u.log := by
  obtain ⟨answer, hwait⟩ : ∃ answer, u.tracker.wait? = some answer := ⟨_, if_pos hidle⟩
  exact ⟨answer, by rw [look, hwait]⟩

section Step

variable [DecidableEq τ] {action : Action τ}

theorem log_of_settle {result : Except CopyError Unit} (h : u.settle task result = some v) :
    v = u.record task result := by
  unfold settle at h
  split at h
  · exact (Option.some.inj h).symm
  · cases h

theorem log_suffix_of_exit {outcome : Outcome Unit} (h : u.exit i thread outcome = some v) :
    u.log <:+ v.log := by
  unfold Tracking.exit at h
  split at h
  · obtain rfl := Option.some.inj h
    exact List.suffix_rfl
  · obtain rfl := log_of_settle h
    exact List.suffix_cons _ _

/-- The log keeps what it tells. -/
theorem log_suffix_of_step (h : u.step action = some v) : u.log <:+ v.log := by
  cases action with
  | spawn =>
    obtain rfl := Option.some.inj h
    exact List.suffix_rfl
  | begin i task =>
    simp only [Tracking.step] at h
    split at h
    · obtain rfl := Option.some.inj h
      exact List.suffix_cons _ _
    · cases h
  | complete i task result =>
    obtain ⟨thread, -, h⟩ := Option.bind_eq_some_iff.1 h
    obtain rfl := log_of_settle h
    exact List.suffix_cons _ _
  | run i frame =>
    obtain ⟨thread, -, rfl⟩ := Option.map_eq_some_iff.1 h
    exact List.suffix_rfl
  | leave i result =>
    obtain ⟨thread, -, h⟩ := Option.bind_eq_some_iff.1 h
    exact log_suffix_of_exit h
  | crash i payload =>
    obtain ⟨thread, -, h⟩ := Option.bind_eq_some_iff.1 h
    exact log_suffix_of_exit h
  | wait i =>
    obtain ⟨thread, -, rfl⟩ := Option.map_eq_some_iff.1 h
    exact log_suffix_of_look u i thread
  | rouse i =>
    obtain ⟨thread, -, rfl⟩ := Option.map_eq_some_iff.1 h
    exact List.suffix_rfl
  | recheck i =>
    obtain ⟨thread, -, rfl⟩ := Option.map_eq_some_iff.1 h
    exact log_suffix_of_look u i thread

theorem log_suffix_of_run {actions : List (Action τ)} (h : u.run actions = some v) :
    u.log <:+ v.log := by
  induction actions generalizing u with
  | nil =>
    obtain rfl := Option.some.inj h
    exact List.suffix_rfl
  | cons action actions ih =>
    obtain ⟨w, hstep, hrun⟩ := Option.bind_eq_some_iff.1 h
    exact (log_suffix_of_step hstep).trans (ih hrun)

/-- A task that crashes is completed as one that returned its crash as a failure, and the
thread goes on after it. -/
theorem step_crash {frame : Frame τ} {frames : List (Frame τ)} (payload : Payload)
    (h : u.find? .going i = some thread) (hframes : thread.frames = frame :: frames) :
    u.step (.crash i payload) = u.step (.leave i
        (.error (.execution (frame.label ++ " panicked: " ++ payload.reason)))) ∧
      ∀ v, u.step (.crash i payload) = some v →
        v.find? .going i = some { thread with frames } := by
  refine ⟨?_, fun v hv => ?_⟩
  · rw [step, step, h, Option.bind_some, Option.bind_some, Tracking.exit, hframes, Tracking.exit,
      hframes]
    rfl
  · rw [step, h, Option.bind_some, Tracking.exit, hframes] at hv
    obtain rfl := log_of_settle hv
    have hgoing : ({ thread with frames } : Thread τ).status = .going := (of_find?_eq_some h).2
    exact find?_record (find?_setThread h hgoing) _

/-- A tracker counts and answers exactly, in whatever order its threads make their steps.
What is pending are the tasks that have begun and not completed. A wait is over only when this
is nothing, and its answer is favourable if none of the tasks that had completed failed, and
else the earliest failure, which is what all later waits are answered with. While nothing is
pending no thread sleeps, and who waits is answered at once. A failure stays on record. And a
task that crashes, whatever the crash leaves behind, is completed as one that returned a
failure which names its label and the reason, and its thread goes on. -/
theorem Reachable.tracks_exactly (h : Reachable u) :
    (u.tracker.pending = (begun u.log).length - (completed u.log).length ∧
      (begun u.log).Nodup ∧ (completed u.log).Nodup ∧ completed u.log ⊆ begun u.log) ∧
    (∀ later i answer earlier, u.log = later ++ .waited i answer :: earlier →
      (begun earlier).length = (completed earlier).length ∧
      (answer = .ok () ↔ failures earlier = []) ∧
      ∀ e, answer = .error e ↔ (failures earlier).head? = some e) ∧
    (∀ later j answer between i e earlier,
      u.log = later ++ .waited j answer :: (between ++ .waited i (.error e) :: earlier) →
      answer = .error e) ∧
    (∀ thread ∈ u.threads, thread.status = .asleep → u.tracker.pending ≠ 0) ∧
    (∀ i, u.tracker.pending = 0 →
      (∀ thread, u.find? .going i = some thread →
        ∃ answer v, u.step (.wait i) = some v ∧ v.log = .waited i answer :: u.log) ∧
      ∀ thread, u.find? .awake i = some thread →
        ∃ answer v, u.step (.recheck i) = some v ∧ v.log = .waited i answer :: u.log) ∧
    (∀ actions v, u.run actions = some v → u.tracker.hasFailed = true →
      v.tracker.hasFailed = true) ∧
    ∀ i thread frame frames payload, u.find? .going i = some thread →
      thread.frames = frame :: frames →
      u.step (.crash i payload) = u.step (.leave i
        (.error (.execution (frame.label ++ " panicked: " ++ payload.reason)))) ∧
      ∀ v, u.step (.crash i payload) = some v →
        v.find? .going i = some { thread with frames } := by
  have hu := h.isExact
  refine ⟨⟨?_, hu.begun_nodup, hu.completed_nodup, hu.completed_subset⟩, ?_, ?_, hu.restless,
    ?_, ?_, fun i thread frame frames payload => step_crash payload⟩
  · rw [← hu.pending_add, Nat.add_sub_cancel]
  · intro later i answer earlier hlog
    obtain ⟨hidle, rfl⟩ := (hlog ▸ hu.heard).waited_of_mem
    exact ⟨hidle, verdict_eq_ok_iff, fun e => verdict_eq_error_iff⟩
  · intro later j answer between i e earlier hlog
    obtain ⟨-, hanswer⟩ := (hlog ▸ hu.heard).waited_of_mem
    rw [← List.cons_append, ← List.append_assoc] at hlog
    obtain ⟨-, hfirst⟩ := (hlog ▸ hu.heard).waited_of_mem
    rw [hanswer, List.append_cons]
    exact verdict_append_of_error hfirst.symm _
  · intro i hidle
    constructor
    · intro thread hthread
      obtain ⟨answer, hlog⟩ := exists_answer_of_look hidle i thread
      exact ⟨answer, _, by rw [Tracking.step, hthread, Option.map_some], hlog⟩
    · intro thread hthread
      obtain ⟨answer, hlog⟩ := exists_answer_of_look hidle i thread
      exact ⟨answer, _, by rw [Tracking.step, hthread, Option.map_some], hlog⟩
  · intro actions v hrun hfailed
    have hv := (h.run hrun).isExact
    obtain ⟨later, hlog⟩ := log_suffix_of_run hrun
    rw [hu.hasFailed_iff] at hfailed
    rw [hv.hasFailed_iff, ← hlog, failures_append]
    exact List.append_ne_nil_of_left_ne_nil hfailed _

/-- Three tasks and two threads. One thread runs the first task and within it the second one,
which crashes; then the first task fails as well. Meanwhile the other thread falls asleep over
the tasks, and is woken by the last one. Both of its waits end with the crash. -/
theorem Reachable.tracks_three_tasks :
    ∃ (u v : Tracking Nat) (earlier : List (Entry Nat)), Reachable u ∧
      begun u.log = [2, 1, 0] ∧ completed u.log = [2, 0, 1] ∧ u.tracker.pending = 0 ∧
      u.step (.wait 0) = some v ∧
      v.log = .waited 0 (.error (.execution "chunk 1 panicked: bad page")) ::
        .waited 0 (.error (.execution "chunk 1 panicked: bad page")) :: earlier := by
  obtain ⟨u, earlier, hrun, hlog, hgoing, hbegun, hcompleted⟩ :
      ∃ (u : Tracking Nat) (earlier : List (Entry Nat)), ({} : Tracking Nat).run
        [.spawn, .spawn, .begin 0 0, .begin 0 1, .begin 0 2, .run 1 ⟨0, "segment 0"⟩,
          .run 1 ⟨1, "chunk 1"⟩, .wait 0, .crash 1 (.owned "bad page"),
          .leave 1 (.error (.execution "rejected")), .rouse 0, .recheck 0,
          .complete 1 2 (.ok ()), .recheck 0] = some u ∧
        u.log = .waited 0 (.error (.execution "chunk 1 panicked: bad page")) :: earlier ∧
        u.find? .going 0 = some {} ∧
        begun u.log = [2, 1, 0] ∧ completed u.log = [2, 0, 1] :=
    ⟨_, _, rfl, rfl, rfl, rfl, rfl⟩
  have hu : Reachable u := Reachable.start.run hrun
  obtain ⟨⟨hpending, -⟩, -, -, -, hanswered, -⟩ := Reachable.tracks_exactly hu
  rw [hbegun, hcompleted] at hpending
  obtain ⟨answer, v, hstep, hnext⟩ := (hanswered 0 hpending).1 {} hgoing
  obtain ⟨-, -, hlater, -⟩ := Reachable.tracks_exactly (hu.step _ hstep)
  have hanswer := hlater [] 0 answer [] 0 _ earlier (hnext.trans (congrArg _ hlog))
  refine ⟨u, v, earlier, hu, hbegun, hcompleted, hpending, hstep, ?_⟩
  rw [hnext, hlog, hanswer]

end Step
end Tracking
end TableCopy
