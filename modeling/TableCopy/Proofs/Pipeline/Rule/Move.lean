import TableCopy.Proofs.Pipeline.Shared

/-!
# Rules of a copy

A step of a copy is one of the operator, of time, of a thread, or the end of a wait. A thread of
a pool retires its task, advances it, or looks for another one. What a task or the controlling
thread does in its own step is left to their rules.
-/

namespace TableCopy

variable {α ι : Type} [Quantity α]

/-- One step of thread `i` of the read pool. -/
inductive State.ReaderRule (setup : Setup α) (s : State α ι) (i : Nat) :
    Answer α ι → State α ι → Prop
  /-- The task of the thread has finished. -/
  | retire {task} (htask : s.readPool.task? i = some task) (hfinished : task.isFinished = true) :
    ReaderRule setup s i .none { s with readPool := s.readPool.finish i false }
  | advance {task answer u next} (htask : s.readPool.task? i = some task)
      (hstep : task.step setup s answer = some (u, next)) :
    ReaderRule setup s i answer
      { u with readPool := u.readPool.setWorker i (.running next) }
  | idle {pool} (htask : s.readPool.task? i = none) (hidle : s.readPool.idleStep i = some pool) :
    ReaderRule setup s i .none { s with readPool := pool }

/-- One step of thread `i` of the write pool. -/
inductive State.WriterRule (setup : Setup α) (s : State α ι) (i : Nat) :
    Answer α ι → State α ι → Prop
  /-- The task of the thread has finished. -/
  | retire {task} (htask : s.writePool.task? i = some task) (hfinished : task.isFinished = true) :
    WriterRule setup s i .none { s with writePool := s.writePool.finish i false }
  | advance {task answer u next} (htask : s.writePool.task? i = some task)
      (hstep : task.step setup s answer = some (u, next)) :
    WriterRule setup s i answer
      { u with writePool := u.writePool.setWorker i (.running next) }
  | idle {pool} (htask : s.writePool.task? i = none)
      (hidle : s.writePool.idleStep i = some pool) :
    WriterRule setup s i .none { s with writePool := pool }

/-- One step of a copy. -/
inductive Move.Rule (setup : Setup α) (s : State α ι) : Move α ι → State α ι → Prop
  | interrupt : Rule setup s .interrupt s.raise
  | elapse {time} (h : s.now ≤ time) : Rule setup s (.elapse time) (s.waitUntil time)
  | control {answer t} (h : s.controlStep setup answer = some t) :
    Rule setup s (.act .control answer) t
  | reader {i answer t} (h : s.readerStep setup i answer = some t) :
    Rule setup s (.act (.reader i) answer) t
  | writer {i answer t} (h : s.writerStep setup i answer = some t) :
    Rule setup s (.act (.writer i) answer) t
  | readerTimeOut {i pool} (h : s.readPool.timeOut i = some pool) :
    Rule setup s (.timeOut (.reader i)) { s with readPool := pool }
  | writerTimeOut {i pool} (h : s.writePool.timeOut i = some pool) :
    Rule setup s (.timeOut (.writer i)) { s with writePool := pool }

namespace State

variable {setup : Setup α} {s t : State α ι} {i : Nat} {answer : Answer α ι}

theorem rule_of_readerStep (h : s.readerStep setup i answer = some t) :
    ReaderRule setup s i answer t := by
  unfold readerStep at h
  split at h
  · rename_i htask
    split at h
    · rename_i hfinished
      split at h
      · obtain rfl := Option.some.inj h
        exact .retire htask hfinished
      · cases h
    · obtain ⟨⟨u, next⟩, hstep, rfl⟩ := Option.map_eq_some_iff.1 h
      exact .advance htask hstep
  · rename_i htask
    obtain ⟨pool, hidle, rfl⟩ := Option.map_eq_some_iff.1 h
    exact .idle htask hidle
  · cases h

theorem rule_of_writerStep (h : s.writerStep setup i answer = some t) :
    WriterRule setup s i answer t := by
  unfold writerStep at h
  split at h
  · rename_i htask
    split at h
    · rename_i hfinished
      split at h
      · obtain rfl := Option.some.inj h
        exact .retire htask hfinished
      · cases h
    · obtain ⟨⟨u, next⟩, hstep, rfl⟩ := Option.map_eq_some_iff.1 h
      exact .advance htask hstep
  · rename_i htask
    obtain ⟨pool, hidle, rfl⟩ := Option.map_eq_some_iff.1 h
    exact .idle htask hidle
  · cases h

/-- Every step of a copy is one of the rules. -/
theorem rule_of_step {move : Move α ι} (h : s.step setup move = some t) :
    Move.Rule setup s move t := by
  unfold step at h
  split at h
  · obtain rfl := Option.some.inj h
    exact .interrupt
  · split at h
    · rename_i htime
      obtain rfl := Option.some.inj h
      exact .elapse htime
    · cases h
  · exact .control h
  · exact .reader h
  · exact .writer h
  · cases h
  · obtain ⟨pool, hout, rfl⟩ := Option.map_eq_some_iff.1 h
    exact .readerTimeOut hout
  · obtain ⟨pool, hout, rfl⟩ := Option.map_eq_some_iff.1 h
    exact .writerTimeOut hout

end State
end TableCopy
