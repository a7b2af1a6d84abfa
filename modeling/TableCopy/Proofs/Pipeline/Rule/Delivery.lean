import TableCopy.Proofs.Pipeline.Rule.Chunk

/-!
# Rules of a delivery

A delivery looks for a failure, splits its page, and submits one chunk after the
other. Its own steps are the rules here; submitting a chunk also changes the pool,
and the steps of a chunk that runs on the delivering thread are those of the chunk.
-/

namespace TableCopy

variable {α ι : Type} [Quantity α]

namespace Delivery

/-- One step that a delivery makes by itself. -/
inductive Rule (setup : Setup α) (s : State α ι) :
    Delivery α ι → State α ι → Delivery α ι → Prop
  /-- Writing has failed before: the page is refused. -/
  | refuse {segment items} (h : s.writeTracker.hasFailed = true) :
    Rule setup s ⟨segment, .checking items⟩ (s.drop items)
      ⟨segment, .ended (.error (refusal setup ⟨segment, .checking items⟩))⟩
  | proceed {segment items} (h : s.writeTracker.hasFailed = false) :
    Rule setup s ⟨segment, .checking items⟩ s ⟨segment, .splitting items⟩
  | finish {segment} : Rule setup s ⟨segment, .splitting []⟩ s ⟨segment, .ended (.ok ())⟩
  | register {segment items} (h : items ≠ []) :
    Rule setup s ⟨segment, .splitting items⟩ s.beginChunk
      ⟨segment, .submitting (items.take setup.write.chunkSize)
        (items.drop setup.write.chunkSize)⟩
  /-- The pool has refused the chunk: it is lost, and the rest of the page. -/
  | report {segment e chunk rest} :
    Rule setup s ⟨segment, .refused e chunk rest⟩ ((s.endChunk (.error e)).drop (chunk ++ rest))
      ⟨segment, .ended (.error e)⟩

/-- Where a delivery stands after the submission of a chunk. -/
def afterSubmission (segment : Nat) (chunk rest : List ι) : Placement → Delivery α ι
  | .refused error => ⟨segment, .refused error chunk rest⟩
  | .onCaller => ⟨segment, .running ⟨segment, chunk, .ready⟩ rest⟩
  | _ => ⟨segment, .splitting rest⟩

variable {setup : Setup α} {s t : State α ι} {delivery next : Delivery α ι}

/-- A step of a delivery is one of its own rules, a submission, or a step of the chunk
that runs on its thread. -/
theorem rule_of_step {answer : Answer α ι} (h : delivery.step setup s answer = some (t, next)) :
    Rule setup s delivery t next ∨
    (∃ segment chunk rest, delivery = ⟨segment, .submitting chunk rest⟩ ∧
      ∃ pool placement, s.writePool.submit ⟨segment, chunk, .ready⟩ = (pool, placement) ∧
        t = { s with writePool := pool } ∧ next = afterSubmission segment chunk rest placement) ∨
    (∃ segment task rest, delivery = ⟨segment, .running task rest⟩ ∧ task.isFinished = true ∧
      t = { s with writePool := s.writePool.finishOnCaller false } ∧
      next = ⟨segment, .splitting rest⟩) ∨
    (∃ segment task rest task', delivery = ⟨segment, .running task rest⟩ ∧
      task.step setup s answer = some (t, task') ∧ next = ⟨segment, .running task' rest⟩) := by
  obtain ⟨segment, phase⟩ := delivery
  unfold step at h
  split at h
  · rename_i hphase
    obtain rfl := hphase
    split at h
    · rename_i hfailed
      obtain ⟨rfl, rfl⟩ := Prod.mk.inj (Option.some.inj h)
      exact .inl (.refuse hfailed)
    · rename_i hfailed
      obtain ⟨rfl, rfl⟩ := Prod.mk.inj (Option.some.inj h)
      exact .inl (.proceed (Bool.eq_false_iff.2 hfailed))
  · rename_i hphase
    obtain rfl := hphase
    split at h
    · rename_i hempty
      obtain rfl := List.isEmpty_iff.1 hempty
      obtain ⟨rfl, rfl⟩ := Prod.mk.inj (Option.some.inj h)
      exact .inl .finish
    · rename_i hitems
      obtain ⟨rfl, rfl⟩ := Prod.mk.inj (Option.some.inj h)
      exact .inl (.register fun hnil => hitems (List.isEmpty_iff.2 hnil))
  · rename_i chunk rest hphase
    obtain rfl := hphase
    refine .inr (.inl ⟨segment, chunk, rest, rfl, ?_⟩)
    dsimp only at h
    obtain ⟨pool, placement, hsubmit⟩ :
        ∃ pool placement, s.writePool.submit ⟨segment, chunk, .ready⟩ = (pool, placement) :=
      ⟨_, _, rfl⟩
    rw [hsubmit] at h
    refine ⟨pool, placement, hsubmit, ?_⟩
    cases placement <;>
    · obtain ⟨rfl, rfl⟩ := Prod.mk.inj (Option.some.inj h)
      exact ⟨rfl, rfl⟩
  · rename_i hphase
    obtain rfl := hphase
    obtain ⟨rfl, rfl⟩ := Prod.mk.inj (Option.some.inj h)
    exact .inl .report
  · rename_i task rest hphase
    obtain rfl := hphase
    split at h
    · rename_i hfinished
      split at h
      · obtain ⟨rfl, rfl⟩ := Prod.mk.inj (Option.some.inj h)
        exact .inr (.inr (.inl ⟨segment, task, rest, rfl, hfinished, rfl, rfl⟩))
      · cases h
    · obtain ⟨⟨u, task'⟩, hstep, hnext⟩ := Option.map_eq_some_iff.1 h
      obtain ⟨rfl, rfl⟩ := Prod.mk.inj hnext
      exact .inr (.inr (.inr ⟨segment, task, rest, task', rfl, hstep, rfl⟩))
  · cases h

end Delivery
end TableCopy
