import TableCopy.Pipeline.Journal
import TableCopy.Proofs.Copy.Calls
import TableCopy.Proofs.Copy.Tables

/-!
# The protocol between reading and writing

The controlling thread asks the consumer to finish once, after the last page has been
taken back, and a pipe that has ended has no task left: nothing is on its way to the
tables, and nothing will be sent any more.
-/

namespace TableCopy

variable {α ι : Type}

/-- How often the consumer has been asked to finish. -/
def State.finishes (s : State α ι) : Nat := s.journal.countP Entry.isFinishing

namespace Holder

/-- One for a controlling thread that has asked the consumer to finish. -/
def asked : Holder α ι → Nat
  | .control (.awaitingWrite _) | .control (.concluding ..) => 1
  | .control c => if c.result?.isSome then 1 else 0
  | _ => 0

theorem asked_le_controls (holder : Holder α ι) : holder.asked ≤ holder.controls := by
  cases holder with
  | control c => cases c <;> exact Nat.le_of_ble_eq_true rfl
  | _ => exact Nat.zero_le _

/-- Who has asked the consumer to finish has waited for the segments before. -/
theorem wait?_of_asked {setup : Setup α} {shared : Shared α ι} {c : Control α ι}
    (hasked : asked (.control c) ≠ 0) (hlearned : c.HasLearned setup shared) :
    ∃ scanned, shared.scanTracker.wait? = some scanned := by
  cases c with
  | awaitingWrite => exact ⟨_, hlearned⟩
  | concluding => exact ⟨_, hlearned.1⟩
  | returned result | closingRead result | joiningRead result | closingWrite result
  | joiningWrite result | released result =>
    obtain ⟨scanned, -, hscan, -⟩ := hlearned.of_result? rfl
    exact ⟨scanned, hscan⟩
  | _ => exact absurd rfl hasked

end Holder

variable [Quantity α] {setup : Setup α} {start s t : State α ι} {history : List (Exchange α ι)}

namespace Turn

open Holder

variable {before after : Multiset (Holder α ι)} {exchanges : List (Exchange α ι)}

/-- A turn notes that the consumer is asked to finish exactly when it asks. -/
theorem finishes_eq (h : Turn setup s before exchanges t after) :
    t.shared.journal.countP Entry.isFinishing + total asked before =
      s.shared.journal.countP Entry.isFinishing + total asked after := by
  cases h with
  | control h =>
    rw [total_singleton, total_singleton]
    cases h with
    | finish =>
      have hone : Entry.isFinishing (.finishing : Entry α ι) = true := rfl
      exact List.countP_cons_of_pos hone
    | _ => simp [asked, Control.result?]
  | segment h =>
    rw [total_singleton, total_singleton]
    cases h <;> simp [asked, Entry.isFinishing]
  | delivery h =>
    rw [total_singleton, total_singleton]
    cases h <;> simp [asked, Entry.isFinishing]
  | chunk h =>
    rw [total_singleton, total_singleton]
    cases h <;> simp [asked, Entry.isFinishing]
  | _ => simp [asked, Control.result?, Entry.isFinishing]

/-- A turn after the end of a pipe sends nothing and hears of nothing. -/
theorem quiet (h : Turn setup s before exchanges t after)
    (hscan : total scanPending before = 0) (hwrite : total writePending before = 0)
    (hdelivery : total deliveries before = 0)
    (hended : ∀ c, .control c ∈ before → c.result? ≠ none) :
    exchanges = [] ∧ t.shared.journal = s.shared.journal := by
  cases h with
  | control h =>
    have hended := hended _ (Multiset.mem_singleton_self _)
    cases h <;> first | exact ⟨rfl, rfl⟩ | exact absurd rfl hended
  | segment h =>
    rw [total_singleton] at hscan
    cases h <;> cases hscan
  | delivery h =>
    rw [total_singleton] at hdelivery
    cases hdelivery
  | chunk h =>
    rw [total_singleton] at hwrite
    cases h <;> cases hwrite
  | handOver =>
    rw [total_singleton] at hscan
    cases hscan
  | _ => exact ⟨rfl, rfl⟩

end Turn

/-! ## The end of a pipe -/

namespace SegmentTask

omit [Quantity α] in
/-- Whose segment and chunk have been reported, that task has finished. -/
theorem isFinished_of_scanPending {task : SegmentTask α ι}
    (h : ∀ holder ∈ task.holders, holder.scanPending = 0) : task.isFinished = true := by
  obtain ⟨segment, key, pages, phase⟩ := task
  cases phase with
  | finished => rfl
  | delivering nextKey delivery =>
    cases h (.segment ⟨segment, key, pages, .delivering nextKey Delivery.absent⟩)
      (Multiset.mem_add.2 (.inl (Multiset.mem_singleton_self _)))
  | _ => cases h _ (Multiset.mem_singleton_self _)

omit [Quantity α] in
/-- Whoever waits for an answer is pending. -/
theorem pending_of_call? {task : SegmentTask α ι} {call : Call ι}
    (h : task.call? setup = some call) :
    task.acting.scanPending = 1 ∨ task.acting.writePending = 1 := by
  obtain ⟨segment, key, pages, phase⟩ := task
  cases phase with
  | fetching | handing => exact .inl rfl
  | delivering nextKey delivery =>
    obtain ⟨number, phase⟩ := delivery
    cases phase with
    | running chunk rest =>
      right
      obtain ⟨n, pending, phase⟩ := chunk
      cases phase <;> first | rfl | cases h
    | _ => cases h
  | _ => cases h

end SegmentTask

namespace State

omit [Quantity α] in
/-- Where an answer is outstanding, a task is pending. -/
theorem exists_holder_of_call? (hpaced : setup.outsideConsumer = false)
    (hpiping : s.control.isPiping = true) {actor : Actor} {call : Call ι}
    (h : s.call? setup actor = some call) :
    ∃ holder ∈ s.population, holder.scanPending = 1 ∨ holder.writePending = 1 := by
  cases actor with
  | reader i =>
    obtain ⟨task, htask, hcall⟩ := Option.bind_eq_some_iff.1 h
    have hacting : s.acting? (.reader i) = some task.acting := by
      rw [acting?, htask, Option.map_some]
    exact ⟨_, acting?_mem hacting, SegmentTask.pending_of_call? hcall⟩
  | writer i =>
    obtain ⟨items, hitems, -⟩ := Option.map_eq_some_iff.1 h
    obtain ⟨⟨n, pending, phase⟩, htask, hcall⟩ := Option.bind_eq_some_iff.1 hitems
    have hacting : s.acting? (.writer i) = some (.chunk ⟨n, pending, phase⟩) := by
      rw [acting?, htask, Option.map_some]
    refine ⟨_, acting?_mem hacting, .inr ?_⟩
    cases phase <;> first | rfl | cases hcall
  | control =>
    have hacting : s.acting? .control = some s.control.acting := rfl
    have hmem : s.control.acting ∈ s.population := acting?_mem hacting
    refine ⟨_, hmem, ?_⟩
    cases hcontrol : s.control with
    | running task left =>
      rw [call?, hcontrol] at h
      exact SegmentTask.pending_of_call? h
    | awaitingWrite scanned =>
      rw [call?, hcontrol] at h
      simp [hpaced] at h
    | delivering delivery =>
      rw [hcontrol] at hpiping
      cases hpiping
    | _ =>
      rw [call?, hcontrol] at h
      cases h

/-- A pipe that has ended does not begin again, and its result stays. -/
theorem result?_of_result? {move : Move α ι} {result : Except CopyError Unit}
    (hpaced : setup.outsideConsumer = false) (hpiping : s.control.isPiping = true)
    (h : s.step setup move = some t) (hresult : s.control.result? = some result) :
    t.control.result? = some result := by
  rcases controlStep_or_control_eq hpaced h with ⟨answer, -, hstep⟩ | hcontrol
  · rcases Control.rule_of_step hpaced hpiping hstep with ⟨-, c, u, c', hcontrol, hrule, rfl⟩ |
      ⟨segment, left, hcontrol, -⟩ | ⟨task, left, hcontrol, -⟩ | ⟨task, left, u, next, hcontrol, -⟩
    · rw [hcontrol] at hresult
      cases hrule <;> first | exact hresult | cases hresult
    all_goals
      rw [hcontrol] at hresult
      cases hresult
  · exact hcontrol ▸ hresult

end State

namespace Run

open Holder

variable (hpaced : setup.outsideConsumer = false) (hfresh : start.IsFresh setup)

include hpaced hfresh

/-- The consumer is asked to finish by the controlling thread, once. -/
theorem finishes_eq (hrun : Run setup (start.piping setup) history s) :
    s.finishes = total asked s.population := by
  refine hrun.count_eq_total hpaced hfresh (fun shared => shared.journal.countP Entry.isFinishing)
    asked ?_ (fun h _ => h.finishes_eq)
  rw [State.shared_journal, hfresh.journal]
  rfl

theorem finishes_le_one (hrun : Run setup (start.piping setup) history s) : s.finishes ≤ 1 := by
  rw [hrun.finishes_eq hpaced hfresh, ← hrun.total_controls hpaced hfresh]
  exact total_le_total asked_le_controls s.population

theorem finishes_eq_one_of_result? {result : Except CopyError Unit}
    (hrun : Run setup (start.piping setup) history s)
    (hresult : s.control.result? = some result) : s.finishes = 1 := by
  refine Nat.le_antisymm (hrun.finishes_le_one hpaced hfresh) ?_
  have hasked : asked (.control s.control) = 1 := by
    cases hcontrol : s.control <;> first | rfl | (rw [hcontrol] at hresult; cases hresult)
  rw [hrun.finishes_eq hpaced hfresh, ← hasked]
  exact le_total_of_mem asked (mem_population_of_result? hresult)

/-- Once the consumer has been asked to finish, all segments have been reported, and no page
is on its way to it. -/
theorem delivered_of_finishes (hrun : Run setup (start.piping setup) history s)
    (h : s.finishes ≠ 0) :
    s.scanTracker.pending = 0 ∧ total deliveries s.population = 0 := by
  have hscan : s.scanTracker.pending = 0 := by
    rw [hrun.finishes_eq hpaced hfresh] at h
    obtain ⟨holder, hmem, hasked⟩ := exists_of_total_ne_zero h
    cases holder with
    | control c =>
      obtain ⟨scanned, hwait⟩ := wait?_of_asked hasked (hrun.hasLearned hpaced hfresh c hmem)
      exact (Tracker.of_wait?_eq_some hwait).1
    | _ => exact absurd rfl hasked
  refine ⟨hscan, ?_⟩
  have hdelivery := total_le_total delivering_le_scanPending s.population
  rw [← hrun.scanPending_eq hpaced hfresh, hscan, ← hrun.total_deliveries hpaced hfresh]
    at hdelivery
  exact Nat.le_zero.1 hdelivery

/-- All tasks that a pool still holds after the end of a pipe have finished. -/
theorem isFinished_of_result? {result : Except CopyError Unit}
    (hrun : Run setup (start.piping setup) history s) (hresult : s.control.result? = some result) :
    (∀ task ∈ s.readPool.tasks, task.isFinished = true) ∧
      ∀ task ∈ s.writePool.tasks, task.isFinished = true := by
  constructor
  · intro task hmem
    refine SegmentTask.isFinished_of_scanPending fun holder hholder => ?_
    have hpopulation : holder ∈ s.population := by
      refine Multiset.mem_add.2 (.inl (Multiset.mem_add.2 (.inr ?_)))
      exact Multiset.mem_bind.2 ⟨task, hmem, hholder⟩
    exact (hrun.pending_eq_zero_of_result? hpaced hfresh hresult hpopulation).1
  · rintro ⟨n, pending, phase⟩ hmem
    have hpopulation : .chunk ⟨n, pending, phase⟩ ∈ s.population :=
      Multiset.mem_add.2 (.inr (Multiset.mem_map_of_mem _ hmem))
    have hwrite := (hrun.pending_eq_zero_of_result? hpaced hfresh hresult hpopulation).2.1
    cases phase <;> first | rfl | cases hwrite

/-- A pipe that has ended waits for no answer. -/
theorem call?_of_result? {result : Except CopyError Unit}
    (hrun : Run setup (start.piping setup) history s) (hresult : s.control.result? = some result)
    (actor : Actor) : s.call? setup actor = none := by
  cases hcall : s.call? setup actor with
  | none => rfl
  | some call =>
    obtain ⟨holder, hmem, hpending⟩ :=
      State.exists_holder_of_call? hpaced (hrun.isPiping hpaced) hcall
    obtain ⟨hscan, hwrite, -⟩ := hrun.pending_eq_zero_of_result? hpaced hfresh hresult hmem
    omega

/-- What follows the end of a pipe is silent. -/
theorem silent_of_result? {result : Except CopyError Unit} {later : List (Exchange α ι)}
    (hrun : Run setup (start.piping setup) history s) (hresult : s.control.result? = some result)
    (hlater : Run setup s later t) :
    later = [] ∧ t.journal = s.journal ∧ t.control.result? = some result := by
  induction hlater with
  | start => exact ⟨rfl, rfl, hresult⟩
  | @step later u v move run h ih =>
    obtain ⟨rfl, hjournal, hended⟩ := ih
    have hthrough := hrun.trans run
    have hpiping := hthrough.isPiping hpaced
    obtain ⟨before, after, rest, w, hturn, hshared, hheld, -⟩ :=
      State.takesTurn_of_step hpaced (hthrough.isReliable hpaced hfresh) hpiping h
    have hidle : ∀ holder ∈ before,
        holder.scanPending = 0 ∧ holder.writePending = 0 ∧ holder.deliveries = 0 := by
      intro holder hmem
      refine hthrough.pending_eq_zero_of_result? hpaced hfresh hended ?_
      exact hheld ▸ Multiset.mem_add.2 (.inl hmem)
    have htotal : ∀ {weight : Holder α ι → Nat}, (∀ holder ∈ before, weight holder = 0) →
        total weight before = 0 := by
      intro weight hzero
      by_contra hne
      obtain ⟨holder, hmem, hholder⟩ := exists_of_total_ne_zero hne
      exact hholder (hzero holder hmem)
    have hcontrol : ∀ c, .control c ∈ before → c.result? ≠ none := by
      intro c hmem
      have hpopulation : .control c ∈ u.population := hheld ▸ Multiset.mem_add.2 (.inl hmem)
      rw [hthrough.control_unique hpaced hfresh (mem_population_of_result? hended) hpopulation,
        hended]
      nofun
    obtain ⟨hsilent, hsame⟩ := hturn.quiet (htotal fun holder hmem => (hidle holder hmem).1)
      (htotal fun holder hmem => (hidle holder hmem).2.1)
      (htotal fun holder hmem => (hidle holder hmem).2.2) hcontrol
    refine ⟨by rw [hsilent]; rfl, ?_, State.result?_of_result? hpaced hpiping h hended⟩
    have hnext : v.journal = w.journal := congrArg Shared.journal hshared
    exact hnext.trans (hsame.trans hjournal)
  | @release later u ended run h ih =>
    obtain ⟨rfl, hjournal, hended⟩ := ih
    rw [State.releasing, h]
    rw [h] at hended
    exact ⟨rfl, hjournal, hended⟩

end Run

namespace LoggedRun

variable {log : List (Side × Tracker.Call)}

/-- On every run of a pipe, whatever fails: each completion of a task is that of a task
that was pending, so that as many tasks have begun as have completed or are pending; the
consumer is asked to finish at most once, and not before the last page was taken back; and
when the pipe ends it was asked once, every task has completed, and no call to a table is
outstanding or follows. -/
theorem keeps_protocol (hpaced : setup.outsideConsumer = false) (hfresh : start.IsFresh setup)
    (hrun : LoggedRun setup (start.piping setup) log history s) :
    (∀ side, s.tracker side = ({} : Tracker).after (side.calls log) ∧
      Tracker.IsMatched (side.calls log) ∧
      (side.calls log).countP Tracker.Call.isBegin =
        (side.calls log).countP (fun call => !call.isBegin) + (s.tracker side).pending ∧
      (s.tracker side).pending = Holder.total side.pending s.population) ∧
    s.finishes ≤ 1 ∧
    (s.finishes ≠ 0 →
      (s.tracker .source).pending = 0 ∧ Holder.total Holder.deliveries s.population = 0) ∧
    ∀ result, s.control.result? = some result →
      s.finishes = 1 ∧ (∀ side, (s.tracker side).pending = 0) ∧
      (∀ task ∈ s.readPool.tasks, task.isFinished = true) ∧
      (∀ task ∈ s.writePool.tasks, task.isFinished = true) ∧
      ∀ later t, Run setup s later t →
        later = [] ∧ t.journal = s.journal ∧ ∀ actor, t.call? setup actor = none := by
  refine ⟨?_, hrun.run.finishes_le_one hpaced hfresh,
    hrun.run.delivered_of_finishes hpaced hfresh, ?_⟩
  · intro side
    have htracker := hrun.tracker_eq hpaced hfresh side
    have hmatched := hrun.isMatched hpaced hfresh side
    refine ⟨htracker, hmatched, ?_, hrun.pending_eq hpaced hfresh side⟩
    rw [htracker]
    exact hmatched.begins_eq
  · intro result hresult
    obtain ⟨hread, hwrite⟩ := hrun.run.isFinished_of_result? hpaced hfresh hresult
    refine ⟨hrun.run.finishes_eq_one_of_result? hpaced hfresh hresult, ?_, hread, hwrite, ?_⟩
    · intro side
      rw [hrun.pending_eq hpaced hfresh]
      obtain ⟨⟨hscan, hwrite⟩, -⟩ := hrun.run.settled_of_result? hpaced hfresh hresult
      cases side with
      | source => exact hscan
      | destination => exact hwrite
    · intro later t hlater
      obtain ⟨hsilent, hjournal, hended⟩ :=
        hrun.run.silent_of_result? hpaced hfresh hresult hlater
      exact ⟨hsilent, hjournal,
        (hrun.run.trans hlater).call?_of_result? hpaced hfresh hended⟩

/-- A small copy into a destination that rejects the chunk of its last page: as many tasks
completed as had begun, and the consumer was asked to finish. -/
theorem keeps_protocol_of_rejected : ∃ log history e,
    LoggedRun smallSetup (smallStart.piping smallSetup) log history
        (smallEnd strictDestination) ∧
      (smallEnd strictDestination).control.result? = some (.error e) ∧
      (smallEnd strictDestination).finishes = 1 ∧
      ∀ side : Side, (side.calls log).countP Tracker.Call.isBegin =
        (side.calls log).countP fun call => !call.isBegin := by
  obtain ⟨history, hrun, -, -⟩ := World.exists_run_ofTables smallSetup smallSource
    (smallStart.piping smallSetup) 100 strictDestination_faithful
  obtain ⟨log, hlogged⟩ := hrun.exists_loggedRun
  obtain ⟨htrackers, -, -, hended⟩ :=
    LoggedRun.keeps_protocol rfl (State.isFresh_initial _ _) hlogged
  have hfailed : (smallEnd strictDestination).control.result? =
      some (.error (.execution "rejected")) := by decide +kernel
  obtain ⟨hfinishes, hpending, -⟩ := hended _ hfailed
  refine ⟨log, history, _, hlogged, hfailed, hfinishes, fun side => ?_⟩
  obtain ⟨-, -, hbegins, -⟩ := htrackers side
  rw [hbegins]
  exact congrArg _ (hpending side)

end LoggedRun
end TableCopy
