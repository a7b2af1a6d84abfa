import TableCopy.Proofs.Copy.Failure

/-!
# The calls of the trackers

A log lists the calls of both trackers of a copy, the latest first. What a thread calls
next is told by the holder that acts on it, so that every step of a copy extends the log by
at most one call, and both trackers are what their calls make of them.
-/

namespace TableCopy

/-- The calls of one side among those of both. -/
def Side.calls (side : Side) (log : List (Side × Tracker.Call)) : List Tracker.Call :=
  log.filterMap fun entry => if entry.1 = side then some entry.2 else none

theorem Side.mem_calls {side : Side} {log : List (Side × Tracker.Call)} {call : Tracker.Call} :
    call ∈ side.calls log ↔ (side, call) ∈ log := by
  simp [calls]

@[simp] theorem Side.calls_append (side : Side) (log earlier : List (Side × Tracker.Call)) :
    side.calls (log ++ earlier) = side.calls log ++ side.calls earlier :=
  List.filterMap_append

@[simp] theorem Side.calls_singleton (side : Side) (call : Tracker.Call) :
    side.calls [(side, call)] = [call] := by
  simp [calls]

theorem Side.calls_singleton_of_ne {side other : Side} (h : other ≠ side) (call : Tracker.Call) :
    side.calls [(other, call)] = [] := by
  simp [calls, h]

variable {α ι : Type}

/-- The tracker of a side. -/
def State.tracker (s : State α ι) : Side → Tracker
  | .source => s.scanTracker
  | .destination => s.writeTracker

/-! ## Who acts on a thread -/

def Delivery.acting : Delivery α ι → Holder α ι
  | ⟨_, .running task _⟩ => .chunk task
  | delivery => .delivery delivery

def SegmentTask.acting : SegmentTask α ι → Holder α ι
  | ⟨_, _, _, .delivering _ delivery⟩ => delivery.acting
  | task => .segment task

def Control.acting : Control α ι → Holder α ι
  | .running task _ => task.acting
  | control => .control control

/-- The holder that makes the next step of a thread. -/
def State.acting? (s : State α ι) : Actor → Option (Holder α ι)
  | .control => some s.control.acting
  | .reader i => (s.readPool.task? i).map SegmentTask.acting
  | .writer i => (s.writePool.task? i).map .chunk

theorem Delivery.acting_mem (delivery : Delivery α ι) : delivery.acting ∈ delivery.holders := by
  obtain ⟨segment, phase⟩ := delivery
  cases phase <;> simp [acting, holders]

theorem SegmentTask.acting_mem (task : SegmentTask α ι) : task.acting ∈ task.holders := by
  obtain ⟨segment, key, pages, phase⟩ := task
  cases phase with
  | delivering nextKey delivery => exact Multiset.mem_add.2 (.inr delivery.acting_mem)
  | _ => exact Multiset.mem_singleton_self _

theorem Control.acting_mem (control : Control α ι) : control.acting ∈ control.holders := by
  cases control with
  | running task left => exact Multiset.mem_add.2 (.inr task.acting_mem)
  | _ => exact Multiset.mem_singleton_self _

theorem Pool.mem_tasks_of_task? {τ : Type} {pool : Pool τ} {i : Nat} {task : τ}
    (h : pool.task? i = some task) : task ∈ pool.tasks := by
  obtain ⟨rest, htasks, -⟩ := Pool.exists_tasks_eq_cons h
  rw [htasks]
  exact Multiset.mem_cons_self _ _

theorem State.acting?_mem {s : State α ι} {actor : Actor} {holder : Holder α ι}
    (h : s.acting? actor = some holder) : holder ∈ s.population := by
  rw [population, Multiset.mem_add, Multiset.mem_add]
  cases actor with
  | control =>
    obtain rfl := Option.some.inj h
    exact .inl (.inl s.control.acting_mem)
  | reader i =>
    obtain ⟨task, htask, rfl⟩ := Option.map_eq_some_iff.1 h
    exact .inl (.inr (Multiset.mem_bind.2 ⟨task, Pool.mem_tasks_of_task? htask, task.acting_mem⟩))
  | writer i =>
    obtain ⟨task, htask, rfl⟩ := Option.map_eq_some_iff.1 h
    exact .inr (Multiset.mem_map_of_mem _ (Pool.mem_tasks_of_task? htask))

/-- The call that a holder makes in its next step. -/
def Holder.report? : Holder α ι → Option (Side × Tracker.Call)
  | .control (.beginning ..) => some (.source, .begin)
  | .control (.refused e _) => some (.source, .complete (.error e))
  | .segment ⟨n, key, pages, .ending outcome⟩ =>
    let task : SegmentTask α ι := ⟨n, key, pages, .ending outcome⟩
    some (.source, .complete (outcome.record task.label))
  | .delivery ⟨_, .splitting (_ :: _)⟩ => some (.destination, .begin)
  | .delivery ⟨_, .refused e _ _⟩ => some (.destination, .complete (.error e))
  | .chunk ⟨n, pending, .ending outcome⟩ =>
    let task : ChunkTask α ι := ⟨n, pending, .ending outcome⟩
    some (.destination, .complete (outcome.record task.label))
  | _ => none

/-- The calls that a step makes. -/
def State.reported (s : State α ι) : Move α ι → List (Side × Tracker.Call)
  | .act actor _ => ((s.acting? actor).bind Holder.report?).toList
  | _ => []

/-- A step calls no tracker, or makes the one call of a holder. -/
theorem State.reported_cases (s : State α ι) (move : Move α ι) :
    s.reported move = [] ∨ ∃ holder side call, holder ∈ s.population ∧
      holder.report? = some (side, call) ∧ s.reported move = [(side, call)] := by
  cases move with
  | act actor answer =>
    cases hcall : (s.acting? actor).bind Holder.report? with
    | none => exact .inl (by rw [reported, hcall, Option.toList_none])
    | some entry =>
      obtain ⟨holder, hholder, hreport⟩ := Option.bind_eq_some_iff.1 hcall
      refine .inr ⟨holder, entry.1, entry.2, State.acting?_mem hholder, hreport, ?_⟩
      rw [reported, hcall, Option.toList_some]
  | _ => exact .inl rfl

/-- The trackers of a state are those of an earlier one after the calls of a log. -/
def State.Reports (s : State α ι) (log : List (Side × Tracker.Call)) (t : State α ι) : Prop :=
  ∀ side, t.tracker side = (s.tracker side).after (side.calls log)

namespace State.Reports

variable {s t u : State α ι}

theorem of_same (hscan : t.scanTracker = s.scanTracker) (hwrite : t.writeTracker = s.writeTracker) :
    s.Reports [] t := by
  intro side
  cases side with
  | source => exact hscan
  | destination => exact hwrite

theorem trans {log later : List (Side × Tracker.Call)} (h : s.Reports log t)
    (hlater : t.Reports later u) : s.Reports (later ++ log) u := by
  intro side
  rw [hlater side, h side, Side.calls_append, Tracker.after_append]

end State.Reports

theorem SegmentTask.report?_acting_of_isFinished {task : SegmentTask α ι}
    (h : task.isFinished = true) : task.acting.report? = none := by
  obtain ⟨segment, key, pages, rfl⟩ := exists_of_isFinished h
  rfl

theorem ChunkTask.report?_of_isFinished {task : ChunkTask α ι} (h : task.isFinished = true) :
    Holder.report? (.chunk task) = none := by
  obtain ⟨segment, pending, rfl⟩ := exists_of_isFinished h
  rfl

variable {setup : Setup α} {s t : State α ι}

theorem Delivery.Rule.reports {delivery next : Delivery α ι}
    (h : Delivery.Rule setup s delivery t next) : s.Reports delivery.acting.report?.toList t := by
  intro side
  cases h with
  | @register segment items hitems =>
    obtain ⟨item, rest, rfl⟩ := List.exists_cons_of_ne_nil hitems
    cases side <;> rfl
  | _ => cases side <;> rfl

theorem Control.Rule.reports {c c' : Control α ι} (h : Control.Rule setup s c t c') :
    s.Reports c.acting.report?.toList t := by
  intro side
  cases h <;> cases side <;> rfl

variable [Quantity α] {answer : Answer α ι} {exchanges : List (Exchange α ι)}

theorem ChunkTask.Rule.reports {task next : ChunkTask α ι}
    (h : ChunkTask.Rule setup s task exchanges t next) :
    s.Reports (Holder.report? (.chunk task)).toList t := by
  intro side
  cases h <;> cases side <;> rfl

theorem SegmentTask.Rule.reports {task next : SegmentTask α ι}
    (h : SegmentTask.Rule setup s task exchanges t next) :
    s.Reports task.acting.report?.toList t := by
  intro side
  cases h <;> cases side <;> rfl

theorem Delivery.reports_of_step {delivery next : Delivery α ι}
    (h : delivery.step setup s answer = some (t, next)) :
    s.Reports delivery.acting.report?.toList t := by
  rcases rule_of_step h with hrule | ⟨segment, chunk, rest, rfl, pool, placement, -, rfl, -⟩ |
    ⟨segment, task, rest, rfl, hfinished, rfl, -⟩ |
    ⟨segment, task, rest, task', rfl, hstep, -⟩
  · exact hrule.reports
  · exact .of_same rfl rfl
  · rw [acting, ChunkTask.report?_of_isFinished hfinished]
    exact .of_same rfl rfl
  · exact (ChunkTask.rule_of_step hstep).reports

theorem SegmentTask.reports_of_step {task next : SegmentTask α ι}
    (hpaced : setup.outsideConsumer = false) (h : task.step setup s answer = some (t, next)) :
    s.Reports task.acting.report?.toList t := by
  rcases rule_of_step hpaced h with hrule | ⟨segment, key, pages, page, rfl, -, rfl, -⟩ |
    ⟨segment, key, pages, nextKey, number, result, rfl, rfl, -⟩ |
    ⟨segment, key, pages, nextKey, delivery, delivery', rfl, hstep, -⟩
  · exact hrule.reports
  · exact .of_same rfl rfl
  · exact .of_same rfl rfl
  · exact Delivery.reports_of_step hstep

namespace State

theorem reports_of_readerStep {i : Nat} (hpaced : setup.outsideConsumer = false)
    (h : s.readerStep setup i answer = some t) :
    s.Reports (s.reported (.act (.reader i) answer)) t := by
  rw [reported, acting?]
  cases rule_of_readerStep h with
  | retire htask hfinished =>
    rw [htask, Option.map_some, Option.bind_some,
      SegmentTask.report?_acting_of_isFinished hfinished]
    exact .of_same rfl rfl
  | advance htask hstep =>
    have hreports := SegmentTask.reports_of_step hpaced hstep
    rw [htask]
    exact hreports
  | idle htask hidle =>
    rw [htask]
    exact .of_same rfl rfl

theorem reports_of_writerStep {i : Nat} (h : s.writerStep setup i answer = some t) :
    s.Reports (s.reported (.act (.writer i) answer)) t := by
  rw [reported, acting?]
  cases rule_of_writerStep h with
  | retire htask hfinished =>
    rw [htask, Option.map_some, Option.bind_some, ChunkTask.report?_of_isFinished hfinished]
    exact .of_same rfl rfl
  | advance htask hstep =>
    have hreports := (ChunkTask.rule_of_step hstep).reports
    rw [htask]
    exact hreports
  | idle htask hidle =>
    rw [htask]
    exact .of_same rfl rfl

theorem reports_of_controlStep (hpaced : setup.outsideConsumer = false)
    (hpiping : s.control.isPiping = true) (h : s.controlStep setup answer = some t) :
    s.Reports (s.reported (.act .control answer)) t := by
  rw [reported, acting?, Option.bind_some]
  rcases Control.rule_of_step hpaced hpiping h with ⟨-, c, u, c', hcontrol, hrule, rfl⟩ |
    ⟨segment, left, hcontrol, pool, placement, -, rfl⟩ |
    ⟨task, left, hcontrol, hfinished, rfl⟩ | ⟨task, left, u, next, hcontrol, hstep, rfl⟩
  · rw [hcontrol]
    exact hrule.reports
  · rw [hcontrol]
    exact .of_same rfl rfl
  · rw [hcontrol, Control.acting, SegmentTask.report?_acting_of_isFinished hfinished]
    exact .of_same rfl rfl
  · have hreports := SegmentTask.reports_of_step hpaced hstep
    rw [hcontrol]
    exact hreports

/-- Every step of a pipe makes of the trackers what its calls say. -/
theorem reports_of_step {move : Move α ι} (hpaced : setup.outsideConsumer = false)
    (hpiping : s.control.isPiping = true) (h : s.step setup move = some t) :
    s.Reports (s.reported move) t := by
  cases rule_of_step h with
  | control h => exact reports_of_controlStep hpaced hpiping h
  | reader h => exact reports_of_readerStep hpaced h
  | writer h => exact reports_of_writerStep h
  | _ => exact .of_same rfl rfl

end State

/-! ## Runs with their log -/

/-- A run with the calls of the trackers on the way. -/
inductive LoggedRun (setup : Setup α) (start : State α ι) :
    List (Side × Tracker.Call) → List (Exchange α ι) → State α ι → Prop
  | start : LoggedRun setup start [] [] start
  | step {log history s t} (move : Move α ι) (run : LoggedRun setup start log history s)
      (h : s.step setup move = some t) :
    LoggedRun setup start (s.reported move ++ log) (s.exchanged setup move ++ history) t
  | release {log history s result} (run : LoggedRun setup start log history s)
      (h : s.control = .returned result) : LoggedRun setup start log history s.releasing

variable {start : State α ι} {log : List (Side × Tracker.Call)} {history : List (Exchange α ι)}

theorem LoggedRun.run (h : LoggedRun setup start log history s) : Run setup start history s := by
  induction h with
  | start => exact .start
  | step move _ h ih => exact ih.step move h
  | release _ h ih => exact ih.release h

/-- Every run has a log. -/
theorem Run.exists_loggedRun (h : Run setup start history s) :
    ∃ log, LoggedRun setup start log history s := by
  induction h with
  | start => exact ⟨[], .start⟩
  | step move _ h ih =>
    obtain ⟨log, hrun⟩ := ih
    exact ⟨_, hrun.step move h⟩
  | release _ h ih =>
    obtain ⟨log, hrun⟩ := ih
    exact ⟨log, hrun.release h⟩

theorem LoggedRun.trans {later : List (Side × Tracker.Call)} {rest : List (Exchange α ι)}
    (hrun : LoggedRun setup start log history s) (hlater : LoggedRun setup s later rest t) :
    LoggedRun setup start (later ++ log) (rest ++ history) t := by
  induction hlater with
  | start => exact hrun
  | step move _ h ih =>
    rw [List.append_assoc, List.append_assoc]
    exact ih.step move h
  | release _ h ih => exact ih.release h

/-- What a world makes of a copy is a run with its log. -/
theorem World.exists_loggedRun_settle {σ : Type} (world : World σ α ι) (setup : Setup α)
    (fuel : Nat) (outside : σ) (s : State α ι) :
    ∃ log history, LoggedRun setup s log history (world.settle setup fuel outside s).2 := by
  have hanswers : world.Answers setup fun _ => True := fun _ _ => trivial
  obtain ⟨history, hrun, -⟩ :=
    exists_run_settle hanswers outside fuel (.start : Run setup s [] s)
  obtain ⟨log, hlogged⟩ := hrun.exists_loggedRun
  exact ⟨log, _, hlogged⟩

/-- The tasks of a side that a holder has still to report. -/
def Side.pending : Side → Holder α ι → Nat
  | .source => Holder.scanPending
  | .destination => Holder.writePending

omit [Quantity α] in
/-- Whoever reports a completion has a task that is pending. -/
theorem Holder.pending_of_report? {holder : Holder α ι} {side : Side}
    {result : Except CopyError Unit} (h : holder.report? = some (side, .complete result)) :
    side.pending holder = 1 := by
  unfold report? at h
  split at h <;> first | cases h; rfl | cases h

namespace LoggedRun

variable (hpaced : setup.outsideConsumer = false) (hfresh : start.IsFresh setup)

include hpaced hfresh

/-- The trackers are what their calls make of them. -/
theorem tracker_eq (hrun : LoggedRun setup (start.piping setup) log history s) (side : Side) :
    s.tracker side = ({} : Tracker).after (side.calls log) := by
  have hreports : (start.piping setup).Reports log s := by
    induction hrun with
    | start => exact .of_same rfl rfl
    | step move run h ih =>
      exact ih.trans (State.reports_of_step hpaced (run.run.isPiping hpaced) h)
    | release run h ih =>
      rw [State.releasing, h]
      exact ih
  have hstart : (start.piping setup).tracker side = {} := by
    cases side with
    | source => exact hfresh.scanTracker
    | destination => exact hfresh.writeTracker
  rw [hreports side, hstart]

/-- A tracker counts the tasks of its side that are pending. -/
theorem pending_eq (hrun : LoggedRun setup (start.piping setup) log history s) (side : Side) :
    (s.tracker side).pending = Holder.total side.pending s.population := by
  cases side with
  | source => exact hrun.run.scanPending_eq hpaced hfresh
  | destination => exact hrun.run.writePending_eq hpaced hfresh

/-- No tracker is told of a completion without a task that has begun and not completed. -/
theorem isMatched (hrun : LoggedRun setup (start.piping setup) log history s) (side : Side) :
    Tracker.IsMatched (side.calls log) := by
  induction hrun with
  | start => exact .nil
  | release _ _ ih => exact ih
  | @step log history s t move run h ih =>
    rw [Side.calls_append]
    rcases State.reported_cases s move with hsilent | ⟨holder, of, call, hmem, hreport, hcall⟩
    · rw [hsilent]
      exact ih
    · rw [hcall]
      by_cases hside : of = side
      · subst hside
        rw [Side.calls_singleton]
        cases call with
        | begin => exact ih.begin
        | complete result =>
          refine ih.complete ?_
          rw [← run.tracker_eq hpaced hfresh, run.pending_eq hpaced hfresh,
            ← Holder.pending_of_report? hreport]
          exact Holder.le_total_of_mem _ hmem
      · rw [Side.calls_singleton_of_ne hside]
        exact ih

end LoggedRun
end TableCopy
