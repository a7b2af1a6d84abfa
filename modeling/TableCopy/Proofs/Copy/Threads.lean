import TableCopy.Proofs.Copy.Calls
import TableCopy.Proofs.Pipeline.Pools

/-!
# A task on its thread

A segment task runs on a thread of the read pool, or on the controlling thread. A chunk task
runs on a thread of the write pool, or on the thread of the segment that submitted it; and a
delivery is made on the thread of its segment. From
its start to its end no step but those of its thread changes a task, and each of these is a
step of the task. What a thread makes of a task is therefore a path of steps of the task, in
states that the other threads have had their part in.
-/

namespace TableCopy

variable {α ι τ : Type}

/-- Tasks of one kind: how they step, when they are through, and which task makes the next
step of a thread. -/
structure TaskKind (α ι τ : Type) where
  step : State α ι → τ → Answer α ι → Option (State α ι × τ)
  isFinished : τ → Bool
  IsOn : State α ι → Actor → τ → Prop

/-- A step that a task has made: the state it found, where the task stood, what the step brought
from outside, the state it left, and where the task stood then. -/
structure TaskStep (α ι τ : Type) where
  found : State α ι
  task : τ
  answer : Answer α ι
  left : State α ι
  next : τ

/-- What a thread leaves by a step of its task is what the task leaves, but for the place of the
task on the thread. -/
structure Actor.Leaves (actor : Actor) (left t : State α ι) : Prop where
  shared : t.shared = left.shared
  readSlots : t.readSlots = left.readSlots
  writeSlots : t.writeSlots = left.writeSlots
  control : actor ≠ .control → t.control = left.control
  readPool : (∀ i, actor ≠ .reader i) → t.readPool = left.readPool
  writePool : (∀ i, actor ≠ .writer i) → t.writePool = left.writePool

namespace Actor

theorem leaves_control (left : State α ι) (control : Control α ι) :
    Leaves .control left { left with control } where
  shared := rfl
  readSlots := rfl
  writeSlots := rfl
  control := absurd rfl
  readPool _ := rfl
  writePool _ := rfl

theorem leaves_reader (left : State α ι) (i : Nat) (worker : Worker (SegmentTask α ι)) :
    Leaves (.reader i) left { left with readPool := left.readPool.setWorker i worker } where
  shared := rfl
  readSlots := rfl
  writeSlots := rfl
  control _ := rfl
  readPool hother := absurd rfl (hother i)
  writePool _ := rfl

theorem leaves_writer (left : State α ι) (i : Nat) (worker : Worker (ChunkTask α ι)) :
    Leaves (.writer i) left { left with writePool := left.writePool.setWorker i worker } where
  shared := rfl
  readSlots := rfl
  writeSlots := rfl
  control _ := rfl
  readPool _ := rfl
  writePool hother := absurd rfl (hother i)

end Actor

namespace TaskKind

/-- What a step makes of the task on a thread: a step of another thread leaves the task as it
is, and a step of this one is the task's own, unless the task has finished. -/
def LeadsOn (kind : TaskKind α ι τ) (s : State α ι) (move : Move α ι) (t : State α ι)
    (actor : Actor) (task : τ) : Prop :=
  ((∀ answer, move ≠ .act actor answer) ∧ kind.IsOn t actor task) ∨
    ∃ answer, move = .act actor answer ∧ (kind.isFinished task = true ∨
      ∃ u next, kind.step s task answer = some (u, next) ∧ actor.Leaves u t ∧
        kind.IsOn t actor next)

/-- The steps that lead a task on, the latest first, in whatever states they find. -/
inductive Path (kind : TaskKind α ι τ) (first : τ) : List (TaskStep α ι τ) → τ → Prop
  | start : Path kind first [] first
  | step {steps task found answer left next} (path : Path kind first steps task)
      (h : kind.step found task answer = some (left, next)) :
    Path kind first (⟨found, task, answer, left, next⟩ :: steps) next

/-- What every step keeps is kept along a path. -/
theorem Path.invariant {kind : TaskKind α ι τ} {P : τ → Prop} {first last : τ}
    {steps : List (TaskStep α ι τ)} (hpath : kind.Path first steps last) (hfirst : P first)
    (hstep : ∀ {found task answer left next}, P task →
      kind.step found task answer = some (left, next) → P next) : P last := by
  induction hpath with
  | start => exact hfirst
  | step _ h ih => exact hstep ih h

end TaskKind

/-- The segment task that runs on a thread. -/
def State.segment? (s : State α ι) : Actor → Option (SegmentTask α ι)
  | .control =>
    match s.control with
    | .running task _ => some task
    | _ => none
  | .reader i => s.readPool.task? i
  | .writer _ => none

namespace SegmentTask

/-- A segment task on whose thread a chunk acts is delivering a page. -/
theorem exists_of_acting {task : SegmentTask α ι} {chunk : ChunkTask α ι}
    (h : task.acting = .chunk chunk) : ∃ segment key pages nextKey number rest,
      task = ⟨segment, key, pages, .delivering nextKey ⟨number, .running chunk rest⟩⟩ := by
  obtain ⟨segment, key, pages, phase⟩ := task
  cases phase with
  | delivering nextKey delivery =>
    obtain ⟨number, phase⟩ := delivery
    cases phase with
    | running task rest =>
      obtain rfl := Holder.chunk.inj h
      exact ⟨segment, key, pages, nextKey, number, rest, rfl⟩
    | _ => cases h
  | _ => cases h

end SegmentTask

namespace State

variable {s : State α ι} {actor : Actor}

theorem acting?_of_segment? {task : SegmentTask α ι} (h : s.segment? actor = some task) :
    s.acting? actor = some task.acting := by
  cases actor with
  | control =>
    cases hcontrol : s.control with
    | running other left =>
      rw [segment?, hcontrol] at h
      obtain rfl := Option.some.inj h
      rw [acting?, hcontrol]
      rfl
    | _ =>
      rw [segment?, hcontrol] at h
      cases h
  | reader i => exact congrArg (Option.map SegmentTask.acting) h
  | writer i => cases h

/-- A chunk that acts on a thread outside the write pool acts for the segment there. -/
theorem exists_segment?_of_acting {chunk : ChunkTask α ι} (hactor : ∀ i, actor ≠ .writer i)
    (h : s.acting? actor = some (.chunk chunk)) :
    ∃ task, s.segment? actor = some task ∧ task.acting = .chunk chunk := by
  cases actor with
  | control =>
    cases hcontrol : s.control with
    | running task left =>
      rw [acting?, hcontrol] at h
      exact ⟨task, by rw [segment?, hcontrol], Option.some.inj h⟩
    | _ =>
      rw [acting?, hcontrol] at h
      cases h
  | reader i => exact Option.map_eq_some_iff.1 h
  | writer i => exact absurd rfl (hactor i)

end State

variable [Quantity α]

def ChunkTask.kind (setup : Setup α) : TaskKind α ι (ChunkTask α ι) where
  step := step setup
  isFinished := isFinished
  IsOn s actor chunk := s.acting? actor = some (.chunk chunk)

def SegmentTask.kind (setup : Setup α) : TaskKind α ι (SegmentTask α ι) where
  step := step setup
  isFinished := isFinished
  IsOn s actor task := s.segment? actor = some task

/-- Whether a delivery has come to its end. -/
def Delivery.isEnded (delivery : Delivery α ι) : Bool :=
  match delivery.phase with
  | .ended _ => true
  | _ => false

/-- The delivery that a segment makes on a thread. -/
def Delivery.kind (setup : Setup α) : TaskKind α ι (Delivery α ι) where
  step := step setup
  isFinished := isEnded
  IsOn s actor delivery := ∃ segment key pages nextKey,
    s.segment? actor = some ⟨segment, key, pages, .delivering nextKey delivery⟩

variable {setup : Setup α} {s t : State α ι} {actor : Actor} {chunk : ChunkTask α ι}

namespace SegmentTask

variable {task next : SegmentTask α ι} {answer : Answer α ι} {move : Move α ι}

/-- Where a chunk acts on the thread of a segment, the step of the segment is a step of the
chunk, until that has finished. -/
theorem step_of_acting (hpaced : setup.outsideConsumer = false)
    (hacting : task.acting = .chunk chunk)
    (h : task.step setup s answer = some (t, next)) :
    chunk.isFinished = true ∨
      ∃ chunk', chunk.step setup s answer = some (t, chunk') ∧ next.acting = .chunk chunk' := by
  obtain ⟨segment, key, pages, nextKey, number, rest, rfl⟩ := exists_of_acting hacting
  rcases rule_of_step hpaced h with hrule | ⟨_, _, _, _, htask, -⟩ |
    ⟨_, _, _, _, _, _, htask, -⟩ | ⟨_, _, _, _, delivery, delivery', htask, hdelivery, rfl⟩
  · cases hrule
  · cases htask
  · cases htask
  · cases htask
    rcases Delivery.rule_of_step hdelivery with hrule | ⟨_, _, _, hrunning, -⟩ |
      ⟨_, _, _, hrunning, hfinished, -⟩ | ⟨_, _, _, chunk', hrunning, hchunk, rfl⟩
    · cases hrule
    · cases hrunning
    · cases hrunning
      exact .inl hfinished
    · cases hrunning
      exact .inr ⟨chunk', hchunk, rfl⟩

/-- What leads a segment on leads on the chunk that acts for it. -/
theorem leadsOn_chunk (hpaced : setup.outsideConsumer = false)
    (hacting : task.acting = .chunk chunk)
    (h : (kind setup).LeadsOn s move t actor task) :
    (ChunkTask.kind setup).LeadsOn s move t actor chunk := by
  rcases h with ⟨hmove, hkept⟩ | ⟨answer, hmove, hfinished | ⟨u, next, hstep, hleaves, hnext⟩⟩
  · exact .inl ⟨hmove, (State.acting?_of_segment? hkept).trans (congrArg some hacting)⟩
  · obtain ⟨segment, key, pages, nextKey, number, rest, rfl⟩ := exists_of_acting hacting
    cases hfinished
  · refine .inr ⟨answer, hmove, (step_of_acting hpaced hacting hstep).imp id ?_⟩
    rintro ⟨chunk', hchunk', hacting'⟩
    exact ⟨u, chunk', hchunk', hleaves,
      (State.acting?_of_segment? hnext).trans (congrArg some hacting')⟩

/-- What leads a segment on leads on the delivery that it makes, until that has ended. -/
theorem leadsOn_delivery {segment pages : Nat} {key nextKey : Option ι} {delivery : Delivery α ι}
    (hpaced : setup.outsideConsumer = false)
    (h : (kind setup).LeadsOn s move t actor
      ⟨segment, key, pages, .delivering nextKey delivery⟩) :
    (Delivery.kind setup).LeadsOn s move t actor delivery := by
  rcases h with ⟨hmove, hkept⟩ | ⟨answer, hmove, hfinished | ⟨u, next, hstep, hleaves, hnext⟩⟩
  · exact .inl ⟨hmove, segment, key, pages, nextKey, hkept⟩
  · cases hfinished
  · refine .inr ⟨answer, hmove, ?_⟩
    have hstep : step setup s ⟨segment, key, pages, .delivering nextKey delivery⟩ answer =
      some (u, next) := hstep
    rcases rule_of_step hpaced hstep with hrule | ⟨_, _, _, _, htask, -⟩ |
      ⟨_, _, _, _, number, result, htask, -⟩ | ⟨_, _, _, _, _, delivery', htask, hdelivery, rfl⟩
    · cases hrule
    · cases htask
    · cases htask
      exact .inl rfl
    · cases htask
      exact .inr ⟨u, delivery', hdelivery, hleaves, segment, key, pages, nextKey, hnext⟩

end SegmentTask

namespace State

variable {task : SegmentTask α ι} {move : Move α ι}

theorem segment_leadsOn_reader {i : Nat} (hpaced : setup.outsideConsumer = false)
    (hpiping : s.control.isPiping = true) (h : s.step setup move = some t)
    (htask : s.readPool.task? i = some task) :
    (SegmentTask.kind setup).LeadsOn s move t (.reader i) task := by
  by_cases hmove : move.reader? = some i
  · cases rule_of_step h with
    | @reader j answer _ hreader =>
      obtain rfl := Option.some.inj hmove
      refine .inr ⟨answer, rfl, ?_⟩
      cases rule_of_readerStep hreader with
      | retire hown hfinished =>
        obtain rfl := Option.some.inj (hown.symm.trans htask)
        exact .inl hfinished
      | @advance _ _ u next hown hstep =>
        obtain rfl := Option.some.inj (hown.symm.trans htask)
        refine .inr ⟨u, next, hstep, Actor.leaves_reader u j (.running next), ?_⟩
        have hlt := (List.getElem?_eq_some_iff.1 (Pool.task?_eq_some_iff.1 htask)).1
        have hread := (SegmentTask.places_of_step hpaced hstep).1
        change (u.readPool.setWorker j (.running next)).task? j = some next
        rw [Pool.task?_eq_some_iff, Pool.setWorker, hread, List.getElem?_set_self hlt]
      | idle hnone => cases hnone.symm.trans htask
    | readerTimeOut hout =>
      obtain rfl := Option.some.inj hmove
      rw [Pool.task?_eq_some_iff, (Pool.eq_of_timeOut hout).1] at htask
      cases htask
    | _ => cases hmove
  · exact .inl ⟨fun answer hanswer => hmove (hanswer ▸ rfl),
      (pools_of_step hpaced hpiping h).1.task?_of_ne hmove htask⟩

theorem segment_leadsOn_control {left : List Nat} (hpaced : setup.outsideConsumer = false)
    (hpiping : s.control.isPiping = true) (h : s.step setup move = some t)
    (hrunning : s.control = .running task left) :
    (SegmentTask.kind setup).LeadsOn s move t .control task := by
  by_cases hmove : ∃ answer, move = .act .control answer
  · obtain ⟨answer, rfl⟩ := hmove
    refine .inr ⟨answer, rfl, ?_⟩
    rcases Control.rule_of_step hpaced hpiping h with ⟨-, c, u, c', hcontrol, hrule, -⟩ |
      ⟨_, _, hcontrol, -⟩ | ⟨_, _, hcontrol, hfinished, -⟩ | ⟨_, _, u, next, hcontrol, hstep, rfl⟩
    · obtain rfl := hcontrol.symm.trans hrunning
      cases hrule
    · cases hcontrol.symm.trans hrunning
    · cases hcontrol.symm.trans hrunning
      exact .inl hfinished
    · cases hcontrol.symm.trans hrunning
      exact .inr ⟨u, next, hstep, Actor.leaves_control u _, rfl⟩
  · have hother : ∀ answer, move ≠ .act .control answer :=
      fun answer hanswer => hmove ⟨answer, hanswer⟩
    refine .inl ⟨hother, ?_⟩
    have hcontrol : t.control = s.control := by
      refine (controlStep_or_control_eq hpaced h).resolve_left ?_
      rintro ⟨answer, hanswer, -⟩
      exact hmove ⟨answer, hanswer⟩
    change t.segment? .control = some task
    rw [segment?, hcontrol, hrunning]

/-- A segment task is led on by the steps of its thread alone. -/
theorem segment_leadsOn (hpaced : setup.outsideConsumer = false)
    (hpiping : s.control.isPiping = true) (h : s.step setup move = some t)
    (htask : s.segment? actor = some task) :
    (SegmentTask.kind setup).LeadsOn s move t actor task := by
  cases actor with
  | control =>
    cases hcontrol : s.control with
    | running other left =>
      rw [segment?, hcontrol] at htask
      obtain rfl := Option.some.inj htask
      exact segment_leadsOn_control hpaced hpiping h hcontrol
    | _ =>
      rw [segment?, hcontrol] at htask
      cases htask
  | reader i => exact segment_leadsOn_reader hpaced hpiping h htask
  | writer i => cases htask

theorem chunk_leadsOn_writer {i : Nat} (hpaced : setup.outsideConsumer = false)
    (hpiping : s.control.isPiping = true) (h : s.step setup move = some t)
    (htask : s.writePool.task? i = some chunk) :
    (ChunkTask.kind setup).LeadsOn s move t (.writer i) chunk := by
  by_cases hmove : move.writer? = some i
  · cases rule_of_step h with
    | @writer j answer _ hwriter =>
      obtain rfl := Option.some.inj hmove
      refine .inr ⟨answer, rfl, ?_⟩
      cases rule_of_writerStep hwriter with
      | retire hown hfinished =>
        obtain rfl := Option.some.inj (hown.symm.trans htask)
        exact .inl hfinished
      | @advance _ _ u next hown hstep =>
        obtain rfl := Option.some.inj (hown.symm.trans htask)
        refine .inr ⟨u, next, hstep, Actor.leaves_writer u j (.running next), ?_⟩
        have hlt := (List.getElem?_eq_some_iff.1 (Pool.task?_eq_some_iff.1 htask)).1
        have hwrite := (ChunkTask.rule_of_step hstep).places.2.1
        have hnext : (u.writePool.setWorker j (.running next)).task? j = some next := by
          rw [Pool.task?_eq_some_iff, Pool.setWorker, hwrite, List.getElem?_set_self hlt]
        exact congrArg (Option.map Holder.chunk) hnext
      | idle hnone => cases hnone.symm.trans htask
    | writerTimeOut hout =>
      obtain rfl := Option.some.inj hmove
      rw [Pool.task?_eq_some_iff, (Pool.eq_of_timeOut hout).1] at htask
      cases htask
    | _ => cases hmove
  · exact .inl ⟨fun answer hanswer => hmove (hanswer ▸ rfl), congrArg (Option.map Holder.chunk)
      ((pools_of_step hpaced hpiping h).2.task?_of_ne hmove htask)⟩

/-- A chunk task is led on by the steps of its thread alone. -/
theorem chunk_leadsOn (hpaced : setup.outsideConsumer = false)
    (hpiping : s.control.isPiping = true) (h : s.step setup move = some t)
    (hacting : s.acting? actor = some (.chunk chunk)) :
    (ChunkTask.kind setup).LeadsOn s move t actor chunk := by
  by_cases hactor : ∃ i, actor = .writer i
  · obtain ⟨i, rfl⟩ := hactor
    obtain ⟨task, htask, hchunk⟩ := Option.map_eq_some_iff.1 hacting
    obtain rfl := Holder.chunk.inj hchunk
    exact chunk_leadsOn_writer hpaced hpiping h htask
  · obtain ⟨task, htask, hchunk⟩ :=
      exists_segment?_of_acting (fun i hi => hactor ⟨i, hi⟩) hacting
    exact SegmentTask.leadsOn_chunk hpaced hchunk (segment_leadsOn hpaced hpiping h htask)

/-- A delivery is led on by the steps of its thread alone. -/
theorem delivery_leadsOn {delivery : Delivery α ι} (hpaced : setup.outsideConsumer = false)
    (hpiping : s.control.isPiping = true) (h : s.step setup move = some t)
    (hon : (Delivery.kind setup).IsOn s actor delivery) :
    (Delivery.kind setup).LeadsOn s move t actor delivery := by
  obtain ⟨segment, key, pages, nextKey, htask⟩ := hon
  exact SegmentTask.leadsOn_delivery hpaced (segment_leadsOn hpaced hpiping h htask)

omit [Quantity α] in
/-- The release of the pools leaves the tasks on all threads as they are. -/
theorem tasks_releasing {result : Except CopyError Unit} (h : s.control = .returned result) :
    (∀ task, s.segment? actor = some task → s.releasing.segment? actor = some task) ∧
      ∀ chunk, s.acting? actor = some (.chunk chunk) →
        s.releasing.acting? actor = some (.chunk chunk) := by
  have hnext : s.releasing = { s with control := .closingRead result } := by rw [releasing, h]
  rw [hnext]
  cases actor with
  | control =>
    refine ⟨fun task htask => ?_, fun chunk hacting => ?_⟩
    · rw [segment?, h] at htask
      cases htask
    · rw [acting?, h] at hacting
      cases hacting
  | _ => exact ⟨fun _ htask => htask, fun _ hacting => hacting⟩

end State

/-- Between two moments of a pipe a task has made this step on its thread: the thread has made
a step in the state that was found, with the same answer, and has left what the task has left. -/
def TaskKind.HasStepped (kind : TaskKind α ι τ) (setup : Setup α) (s t : State α ι)
    (actor : Actor) (step : TaskStep α ι τ) : Prop :=
  kind.IsOn step.found actor step.task ∧ ∃ earlier u later, Run setup s earlier step.found ∧
    step.found.step setup (.act actor step.answer) = some u ∧ actor.Leaves step.left u ∧
    kind.IsOn u actor step.next ∧ Run setup u later t

/-- A task is on its thread at the end of a run, or it has been there in the run when it had
finished. -/
def TaskKind.HasLed (kind : TaskKind α ι τ) (setup : Setup α) (s t : State α ι) (actor : Actor)
    (last : τ) : Prop :=
  kind.IsOn t actor last ∨ kind.isFinished last = true ∧
    ∃ earlier u later, Run setup s earlier u ∧ Run setup u later t ∧ kind.IsOn u actor last

theorem TaskKind.HasStepped.trans {kind : TaskKind α ι τ} {u : State α ι}
    {step : TaskStep α ι τ} {more : List (Exchange α ι)}
    (h : kind.HasStepped setup s t actor step) (hmore : Run setup t more u) :
    kind.HasStepped setup s u actor step := by
  obtain ⟨hon, earlier, v, later, hbefore, hstep, hleaves, hnext, hafter⟩ := h
  exact ⟨hon, earlier, v, _, hbefore, hstep, hleaves, hnext, hafter.trans hmore⟩

namespace Run

variable {history : List (Exchange α ι)}

/-- What is led on by the steps of its thread goes a path along a run, by the steps that the
thread makes in the run, until it has finished. -/
theorem exists_path {kind : TaskKind α ι τ} (hpaced : setup.outsideConsumer = false)
    (hpiping : s.control.isPiping = true)
    (hleads : ∀ {u v move task}, u.control.isPiping = true → u.step setup move = some v →
      kind.IsOn u actor task → kind.LeadsOn u move v actor task)
    (hreleasing : ∀ {u result task}, u.control = .returned result →
      kind.IsOn u actor task → kind.IsOn u.releasing actor task)
    {first : τ} (hon : kind.IsOn s actor first) (hrun : Run setup s history t) :
    ∃ steps last, kind.Path first steps last ∧
      (∀ step ∈ steps, kind.HasStepped setup s t actor step) ∧
      kind.HasLed setup s t actor last := by
  induction hrun with
  | start => exact ⟨[], first, .start, fun _ hmem => absurd hmem List.not_mem_nil, .inl hon⟩
  | @step history u v move run h ih =>
    have hlast : Run setup u _ v := Run.start.step move h
    obtain ⟨steps, last, hpath, hsteps, hled⟩ := ih
    have hsteps := fun step hmem => (hsteps step hmem).trans hlast
    rcases hled with hon | ⟨hfinished, earlier, w, later, hbefore, hafter, hon⟩
    · rcases hleads (run.isPiping_from hpaced hpiping) h hon with
        ⟨-, hkept⟩ | ⟨answer, rfl, hfinished | ⟨left, next, hstep, hleaves, hnext⟩⟩
      · exact ⟨steps, last, hpath, hsteps, .inl hkept⟩
      · exact ⟨steps, last, hpath, hsteps, .inr ⟨hfinished, _, u, _, run, hlast, hon⟩⟩
      · exact ⟨_, next, hpath.step hstep,
          List.forall_mem_cons.2 ⟨⟨hon, _, v, _, run, h, hleaves, hnext, .start⟩, hsteps⟩,
          .inl hnext⟩
    · exact ⟨steps, last, hpath, hsteps,
        .inr ⟨hfinished, earlier, w, _, hbefore, hafter.trans hlast, hon⟩⟩
  | @release history u result run h ih =>
    have hlast : Run setup u [] u.releasing := Run.start.release h
    obtain ⟨steps, last, hpath, hsteps, hled⟩ := ih
    refine ⟨steps, last, hpath, fun step hmem => (hsteps step hmem).trans hlast, ?_⟩
    refine hled.imp (hreleasing h) ?_
    rintro ⟨hfinished, earlier, w, later, hbefore, hafter, hon⟩
    exact ⟨hfinished, earlier, w, _, hbefore, hafter.trans hlast, hon⟩

variable (hpaced : setup.outsideConsumer = false) (hpiping : s.control.isPiping = true)

include hpaced hpiping

theorem exists_chunkPath (hacting : s.acting? actor = some (.chunk chunk))
    (hrun : Run setup s history t) :
    ∃ steps last, (ChunkTask.kind setup).Path chunk steps last ∧
      (∀ step ∈ steps, (ChunkTask.kind setup).HasStepped setup s t actor step) ∧
      (ChunkTask.kind setup).HasLed setup s t actor last :=
  hrun.exists_path hpaced hpiping (fun hmiddle h hon => State.chunk_leadsOn hpaced hmiddle h hon)
    (fun h hon => (State.tasks_releasing h).2 _ hon) hacting

theorem exists_segmentPath {task : SegmentTask α ι} (htask : s.segment? actor = some task)
    (hrun : Run setup s history t) :
    ∃ steps last, (SegmentTask.kind setup).Path task steps last ∧
      (∀ step ∈ steps, (SegmentTask.kind setup).HasStepped setup s t actor step) ∧
      (SegmentTask.kind setup).HasLed setup s t actor last :=
  hrun.exists_path hpaced hpiping
    (fun hmiddle h hon => State.segment_leadsOn hpaced hmiddle h hon)
    (fun h hon => (State.tasks_releasing h).1 _ hon) htask

theorem exists_deliveryPath {delivery : Delivery α ι}
    (hon : (Delivery.kind setup).IsOn s actor delivery) (hrun : Run setup s history t) :
    ∃ steps last, (Delivery.kind setup).Path delivery steps last ∧
      (∀ step ∈ steps, (Delivery.kind setup).HasStepped setup s t actor step) ∧
      (Delivery.kind setup).HasLed setup s t actor last := by
  refine hrun.exists_path hpaced hpiping
    (fun hmiddle h hon => State.delivery_leadsOn hpaced hmiddle h hon) ?_ hon
  rintro u result task h ⟨segment, key, pages, nextKey, htask⟩
  exact ⟨segment, key, pages, nextKey, (State.tasks_releasing h).1 _ htask⟩

end Run
end TableCopy
