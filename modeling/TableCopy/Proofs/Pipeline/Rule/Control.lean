import TableCopy.Proofs.Pipeline.Shared

/-!
# Rules of the controlling thread

The controlling thread submits segments, waits for both sides, and concludes. Its own
steps in a pipe are the rules here, for a copy whose items go to the paced writer; the
submission of a segment also changes the pool, and the steps of a segment that runs on
this thread are those of the segment.
-/

namespace TableCopy

variable {α ι : Type} [Quantity α]

namespace Control

/-- Whether the controlling thread is in a pipe, or shuts the pools down after one. -/
def isPiping : Control α ι → Bool
  | idle | delivering _ | draining => false
  | _ => true

/-- The result of a pipe that has ended. -/
def result? : Control α ι → Option (Except CopyError Unit)
  | returned result | closingRead result | joiningRead result | closingWrite result
  | joiningWrite result | released result => some result
  | _ => none

/-- The error of a pipe that finds itself interrupted at its end. -/
def interruption (setup : Setup α) : CopyError :=
  .interrupted ("scan of '" ++ setup.scan.table ++ "' interrupted")

/-- Where the controlling thread stands after the submission of a segment. -/
def afterSubmission (segment : Nat) (left : List Nat) : Placement → Control α ι
  | .refused error => .refused error left
  | .onCaller => .running ⟨segment, none, 0, .ready⟩ left
  | _ => .submitting left

/-- One step that the controlling thread makes by itself: the state it leaves, and where
it stands then. -/
inductive Rule (setup : Setup α) (s : State α ι) :
    Control α ι → State α ι → Control α ι → Prop
  | done : Rule setup s (.submitting []) s .awaitingScan
  /-- No further segment is submitted. -/
  | stop {segment left} (h : s.interrupted = true ∨ s.scanTracker.hasFailed = true) :
    Rule setup s (.submitting (segment :: left)) s .awaitingScan
  | next {segment left} (hint : s.interrupted = false) (h : s.scanTracker.hasFailed = false) :
    Rule setup s (.submitting (segment :: left)) s (.beginning segment left)
  | register {segment left} :
    Rule setup s (.beginning segment left) s.beginSegment (.handing segment left)
  | report {e left} :
    Rule setup s (.refused e left) (s.endSegment (.error e)) (.submitting left)
  | scanned {scanned} (h : s.scanTracker.wait? = some scanned) :
    Rule setup s .awaitingScan s (.finishing scanned)
  | finish {scanned} : Rule setup s (.finishing scanned) (s.log .finishing) (.awaitingWrite scanned)
  | written {scanned written} (h : s.writeTracker.wait? = some written) :
    Rule setup s (.awaitingWrite scanned) s (.concluding scanned written)
  | interrupt {scanned written} (h : s.interrupted = true) :
    Rule setup s (.concluding scanned written) s (.returned (.error (interruption setup)))
  | conclude {scanned written} (h : s.interrupted = false) :
    Rule setup s (.concluding scanned written) s (.returned (firstFailure scanned written))
  | closeRead {result} :
    Rule setup s (.closingRead result) { s with readPool := s.readPool.close }
      (.joiningRead result)
  | joinRead {result} (h : s.readPool.allGone none = true) :
    Rule setup s (.joiningRead result) s (.closingWrite result)
  | closeWrite {result} :
    Rule setup s (.closingWrite result) { s with writePool := s.writePool.close }
      (.joiningWrite result)
  | joinWrite {result} (h : s.writePool.allGone none = true) :
    Rule setup s (.joiningWrite result) s (.released result)

variable {setup : Setup α} {s t : State α ι}

/-- A step of the controlling thread in a pipe is one of its own rules, the submission
of a segment, or a step of the segment that runs on this thread. -/
theorem rule_of_step {answer : Answer α ι} (hpaced : setup.outsideConsumer = false)
    (hpiping : s.control.isPiping = true) (h : s.controlStep setup answer = some t) :
    (answer = .none ∧ ∃ c u c', s.control = c ∧ Rule setup s c u c' ∧
      t = { u with control := c' }) ∨
    (∃ segment left, s.control = .handing segment left ∧
      ∃ pool placement, s.readPool.submit ⟨segment, none, 0, .ready⟩ = (pool, placement) ∧
        t = { s with readPool := pool, control := afterSubmission segment left placement }) ∨
    (∃ task left, s.control = .running task left ∧ task.isFinished = true ∧
      t = { s with readPool := s.readPool.finishOnCaller false, control := .submitting left }) ∨
    (∃ task left u task', s.control = .running task left ∧
      task.step setup s answer = some (u, task') ∧
      t = { u with control := .running task' left }) := by
  unfold State.controlStep at h
  split at h <;> rename_i hcontrol
  · obtain rfl := Option.some.inj h
    exact .inl ⟨rfl, _, s, _, hcontrol, .done, rfl⟩
  · split at h
    · rename_i hstop
      obtain rfl := Option.some.inj h
      exact .inl ⟨rfl, _, s, _, hcontrol, .stop (Bool.or_eq_true_iff.1 hstop), rfl⟩
    · rename_i hgo
      have hgo := Bool.or_eq_false_iff.1 (Bool.eq_false_iff.2 hgo)
      obtain rfl := Option.some.inj h
      exact .inl ⟨rfl, _, s, _, hcontrol, .next hgo.1 hgo.2, rfl⟩
  · obtain rfl := Option.some.inj h
    exact .inl ⟨rfl, _, _, _, hcontrol, .register, rfl⟩
  · rename_i segment left
    refine .inr (.inl ⟨segment, left, hcontrol, ?_⟩)
    dsimp only at h
    obtain ⟨pool, placement, hsubmit⟩ : ∃ pool placement,
        s.readPool.submit ⟨segment, none, 0, .ready⟩ = (pool, placement) := ⟨_, _, rfl⟩
    rw [hsubmit] at h
    refine ⟨pool, placement, hsubmit, ?_⟩
    cases placement <;> exact (Option.some.inj h).symm
  · obtain rfl := Option.some.inj h
    exact .inl ⟨rfl, _, _, _, hcontrol, .report, rfl⟩
  · rename_i task left
    split at h
    · rename_i hfinished
      split at h
      · obtain rfl := Option.some.inj h
        exact .inr (.inr (.inl ⟨task, left, hcontrol, hfinished, rfl⟩))
      · cases h
    · obtain ⟨⟨u, task'⟩, hstep, hnext⟩ := Option.map_eq_some_iff.1 h
      exact .inr (.inr (.inr ⟨task, left, u, task', hcontrol, hstep, hnext.symm⟩))
  · obtain ⟨scanned, hwait, rfl⟩ := Option.map_eq_some_iff.1 h
    exact .inl ⟨rfl, _, s, _, hcontrol, .scanned hwait, rfl⟩
  · obtain rfl := Option.some.inj h
    exact .inl ⟨rfl, _, _, _, hcontrol, .finish, rfl⟩
  · rw [if_neg (Bool.eq_false_iff.1 hpaced)] at h
    obtain ⟨written, hwait, rfl⟩ := Option.map_eq_some_iff.1 h
    exact .inl ⟨rfl, _, s, _, hcontrol, .written hwait, rfl⟩
  · rw [if_neg (Bool.eq_false_iff.1 hpaced)] at h
    cases h
  · split at h
    · rename_i hint
      obtain rfl := Option.some.inj h
      exact .inl ⟨rfl, _, s, _, hcontrol, .interrupt hint, rfl⟩
    · rename_i hint
      obtain rfl := Option.some.inj h
      exact .inl ⟨rfl, _, s, _, hcontrol, .conclude (Bool.eq_false_iff.2 hint), rfl⟩
  · obtain rfl := Option.some.inj h
    exact .inl ⟨rfl, _, _, _, hcontrol, .closeRead, rfl⟩
  · split at h
    · rename_i hgone
      obtain rfl := Option.some.inj h
      exact .inl ⟨rfl, _, s, _, hcontrol, .joinRead hgone, rfl⟩
    · cases h
  · obtain rfl := Option.some.inj h
    exact .inl ⟨rfl, _, _, _, hcontrol, .closeWrite, rfl⟩
  · split at h
    · rename_i hgone
      obtain rfl := Option.some.inj h
      exact .inl ⟨rfl, _, s, _, hcontrol, .joinWrite hgone, rfl⟩
    · cases h
  · rw [hcontrol] at hpiping
    cases hpiping
  · rw [hcontrol] at hpiping
    cases hpiping
  · cases h

end Control
end TableCopy
