import TableCopy.Proofs.Copy.Interruption

/-!
# Calls after an interrupt

A chunk task looks at the interrupt once, before its first batch, and a segment task before
each page. Neither looks at it between the attempts of a call, and a chunk task does not look
at it before it sends again what a batch has left unprocessed. After an interrupt a task
therefore makes the call that it is past its check for, and one more for each retry and each
resubmission that its retry policy still allows.
-/

namespace TableCopy

variable {α ι τ : Type}

/-- What is to be known about the calls of a task: whether one is in flight, whether the task
waits to repeat one, whether it is to make another before it looks at anything, and how many
its retry policy still allows. -/
structure CallPlan (τ : Type) where
  isCalling : τ → Bool
  isWaiting : τ → Bool
  owed : τ → Nat
  left : τ → Nat

namespace CallPlan

/-- How many of the steps began a call. -/
def calls (plan : CallPlan τ) (steps : List (TaskStep α ι τ)) : Nat :=
  steps.countP fun step => !plan.isCalling step.task && plan.isCalling step.next

/-- How many of the steps decided to repeat a call. -/
def repeats (plan : CallPlan τ) (steps : List (TaskStep α ι τ)) : Nat :=
  steps.countP fun step => !plan.isWaiting step.task && plan.isWaiting step.next

/-- The calls on a path are those that were owed and those that were repeated, but for one
that is still owed; and they are paid for out of those that were left. -/
structure Covers (plan : CallPlan τ) (first : τ) (steps : List (TaskStep α ι τ)) (last : τ) :
    Prop where
  calls_eq : plan.calls steps + plan.owed last = plan.repeats steps + plan.owed first
  calls_le : plan.calls steps + plan.left last ≤ plan.left first

theorem Covers.cons {plan : CallPlan τ} {first : τ} {steps : List (TaskStep α ι τ)}
    {step : TaskStep α ι τ} (h : plan.Covers first steps step.task)
    (hstep : plan.Covers step.task [step] step.next) :
    plan.Covers first (step :: steps) step.next := by
  obtain ⟨heq, hle⟩ := h
  obtain ⟨hstepEq, hstepLe⟩ := hstep
  rw [calls, repeats, List.countP_singleton, List.countP_singleton] at hstepEq
  rw [calls, List.countP_singleton] at hstepLe
  constructor
  · rw [calls, repeats, List.countP_cons, List.countP_cons, ← calls, ← repeats]
    omega
  · rw [calls, List.countP_cons, ← calls]
    omega

end CallPlan

/-- Where each step of a path is covered, so is the path. -/
theorem TaskKind.Path.covers {kind : TaskKind α ι τ} {plan : CallPlan τ} {P : State α ι → Prop}
    {first last : τ} {steps : List (TaskStep α ι τ)}
    (hstep : ∀ {found task answer left next}, P found →
      kind.step found task answer = some (left, next) →
        plan.Covers task [⟨found, task, answer, left, next⟩] next)
    (hpath : kind.Path first steps last) (hfound : ∀ step ∈ steps, P step.found) :
    plan.Covers first steps last := by
  induction hpath with
  | start => exact ⟨rfl, (Nat.zero_add _).le⟩
  | step path h ih =>
    obtain ⟨hhere, hbefore⟩ := List.forall_mem_cons.1 hfound
    exact (ih hbefore).cons (hstep hhere h)

/-! ## Chunk tasks -/

namespace ChunkTask

/-- The calls of a chunk task: in each round of resubmission it may make as many attempts as
a call may have. -/
def callPlan (setup : Setup α) : CallPlan (ChunkTask α ι) where
  isCalling task :=
    match task.phase with
    | .sending .. => true
    | _ => false
  isWaiting task :=
    match task.phase with
    | .backingOff .. | .resting .. => true
    | _ => false
  owed task :=
    match task.phase with
    | .connecting .. | .backingOff .. | .resting .. => 1
    | _ => 0
  left task :=
    let retries := setup.writeRetry.maxRetries
    match task.phase with
    | .connecting round attempt | .backingOff round attempt _ =>
      (retries - round) * (retries + 1) + (retries - attempt + 1)
    | .sending round attempt => (retries - round) * (retries + 1) + (retries - attempt)
    | .charging round .. | .recording round .. => (retries - round) * (retries + 1)
    | .resting round _ => (retries - round) * (retries + 1) + (retries + 1)
    | _ => 0

variable {setup : Setup α}

theorem owed_le_one (task : ChunkTask α ι) : (callPlan setup).owed task ≤ 1 := by
  obtain ⟨segment, pending, phase⟩ := task
  cases phase <;> exact Nat.le_of_ble_eq_true rfl

theorem left_le (task : ChunkTask α ι) :
    (callPlan setup).left task ≤
      (setup.writeRetry.maxRetries + 1) * (setup.writeRetry.maxRetries + 1) := by
  have hrounds : ∀ round, (setup.writeRetry.maxRetries - round) *
      (setup.writeRetry.maxRetries + 1) ≤
        setup.writeRetry.maxRetries * (setup.writeRetry.maxRetries + 1) :=
    fun round => Nat.mul_le_mul_right _ (Nat.sub_le _ _)
  rw [Nat.succ_mul]
  obtain ⟨segment, pending, phase⟩ := task
  cases phase with
  | connecting round | sending round | backingOff round | charging round | recording round
  | resting round =>
    have hround := hrounds round
    simp only [callPlan]
    omega
  | _ => exact Nat.zero_le _

variable [Quantity α] {s t : State α ι} {task next : ChunkTask α ι}

/-- Once a task is past its check a batch is sent where one was owed, and is owed again by a
retry or a resubmission that the policy allows. -/
theorem Rule.covers {exchanges : List (Exchange α ι)} (answer : Answer α ι)
    (hcheck : task.phase = .ready → s.interrupted = true)
    (h : Rule setup s task exchanges t next) :
    (callPlan setup).Covers task [⟨s, task, answer, t, next⟩] next := by
  cases h with
  | start hgo =>
    rw [hcheck rfl] at hgo
    cases hgo
  | send =>
    refine ⟨rfl, ?_⟩
    simp only [CallPlan.calls, List.countP_singleton, callPlan]
    simp only [Bool.not_false, Bool.true_and, if_true]
    omega
  | backOff hagain =>
    have hlt := RetryConfig.lt_of_again hagain
    refine ⟨rfl, ?_⟩
    simp only [CallPlan.calls, List.countP_singleton, callPlan]
    simp only [Bool.not_true, Bool.false_and, Bool.false_eq_true, if_false]
    omega
  | @rest segment pending round _ _ _ _ hround =>
    refine ⟨rfl, ?_⟩
    have hrounds : (setup.writeRetry.maxRetries - round) * (setup.writeRetry.maxRetries + 1) =
        (setup.writeRetry.maxRetries - (round + 1)) * (setup.writeRetry.maxRetries + 1) +
          (setup.writeRetry.maxRetries + 1) := by
      rw [← Nat.succ_mul, ← Nat.sub_sub, Nat.succ_eq_add_one,
        Nat.sub_add_cancel (Nat.sub_pos_of_lt hround)]
    simp only [CallPlan.calls, List.countP_singleton, callPlan]
    simp only [Bool.not_false, Bool.true_and, Bool.false_eq_true, if_false]
    omega
  | retry | resume => exact ⟨rfl, (Nat.zero_add _).le⟩
  | _ =>
    refine ⟨rfl, ?_⟩
    simp only [CallPlan.calls, List.countP_singleton, callPlan]
    simp

theorem covers_of_path {first last : ChunkTask α ι} {steps : List (TaskStep α ι (ChunkTask α ι))}
    (hpath : (kind setup).Path first steps last)
    (hint : ∀ step ∈ steps, step.found.interrupted = true) :
    (callPlan setup).Covers first steps last :=
  hpath.covers (P := fun s => s.interrupted = true)
    (fun hint h => (rule_of_step h).covers _ fun _ => hint) hint

end ChunkTask

/-! ## Segment tasks -/

namespace SegmentTask

/-- The calls of a segment task for its next page. -/
def callPlan (setup : Setup α) : CallPlan (SegmentTask α ι) where
  isCalling task :=
    match task.phase with
    | .fetching _ => true
    | _ => false
  isWaiting task :=
    match task.phase with
    | .backingOff .. => true
    | _ => false
  owed task :=
    match task.phase with
    | .connecting _ | .backingOff .. => 1
    | _ => 0
  left task :=
    match task.phase with
    | .connecting attempt | .backingOff attempt _ => setup.scanRetry.maxRetries - attempt + 1
    | .fetching attempt => setup.scanRetry.maxRetries - attempt
    | _ => 0

variable {setup : Setup α}

theorem owed_le_one (task : SegmentTask α ι) : (callPlan setup).owed task ≤ 1 := by
  obtain ⟨segment, key, pages, phase⟩ := task
  cases phase <;> exact Nat.le_of_ble_eq_true rfl

theorem left_le (task : SegmentTask α ι) :
    (callPlan setup).left task ≤ setup.scanRetry.maxRetries + 1 := by
  obtain ⟨segment, key, pages, phase⟩ := task
  cases phase <;> simp only [callPlan] <;> omega

variable [Quantity α] {s t : State α ι} {task next : SegmentTask α ι} {answer : Answer α ι}

/-- Only the handover of a page tells who consumes it. -/
theorem step_paced (hphase : ∀ page, task.phase ≠ .recording page) :
    task.step { setup with outsideConsumer := false } s answer = task.step setup s answer := by
  obtain ⟨segment, key, pages, phase⟩ := task
  cases phase with
  | recording page => exact absurd rfl (hphase page)
  | delivering => rfl
  | handing =>
    cases answer with
    | consumer outcome => cases outcome <;> rfl
    | _ => rfl
  | _ => cases answer <;> rfl

/-- After an interrupt a page is requested where a request was owed, and is owed again by a
retry that the policy allows. -/
theorem Rule.covers {exchanges : List (Exchange α ι)} (answer : Answer α ι)
    (hint : s.interrupted = true) (h : Rule setup s task exchanges t next) :
    (callPlan setup).Covers task [⟨s, task, answer, t, next⟩] next := by
  cases h with
  | proceed hgo =>
    rw [hint] at hgo
    cases hgo
  | send =>
    refine ⟨rfl, ?_⟩
    simp only [CallPlan.calls, List.countP_singleton, callPlan]
    simp only [Bool.not_false, Bool.true_and, if_true]
    omega
  | backOff hagain =>
    have hlt := RetryConfig.lt_of_again hagain
    refine ⟨rfl, ?_⟩
    simp only [CallPlan.calls, List.countP_singleton, callPlan]
    simp only [Bool.not_true, Bool.false_and, Bool.false_eq_true, if_false]
    omega
  | retry => exact ⟨rfl, (Nat.zero_add _).le⟩
  | @skip _ _ _ page =>
    cases hkey : page.nextKey <;> exact ⟨rfl, Nat.le_refl 0⟩
  | @takenOutside _ _ _ nextKey _ result =>
    cases result <;> cases nextKey <;> exact ⟨rfl, Nat.le_refl 0⟩
  | crash | fetch | giveUp | faultyDelay => exact ⟨rfl, Nat.zero_le _⟩
  | _ => exact ⟨rfl, Nat.le_refl 0⟩

theorem covers_of_step (hint : s.interrupted = true)
    (h : task.step setup s answer = some (t, next)) :
    (callPlan setup).Covers task [⟨s, task, answer, t, next⟩] next := by
  by_cases hrecording : ∃ page, task.phase = .recording page
  · obtain ⟨segment, key, pages, phase⟩ := task
    obtain ⟨page, rfl⟩ := hrecording
    cases answer with
    | none =>
      simp only [step, record] at h
      split at h
      · obtain ⟨-, rfl⟩ := Prod.mk.inj (Option.some.inj h)
        cases hkey : page.nextKey <;> exact ⟨rfl, Nat.le_refl 0⟩
      · split at h
        · obtain ⟨-, rfl⟩ := Prod.mk.inj (Option.some.inj h)
          exact ⟨rfl, Nat.le_refl 0⟩
        · obtain ⟨-, rfl⟩ := Prod.mk.inj (Option.some.inj h)
          exact ⟨rfl, Nat.le_refl 0⟩
    | _ => cases h
  · rw [← step_paced fun page hpage => hrecording ⟨page, hpage⟩] at h
    rcases rule_of_step rfl h with hrule | ⟨_, _, _, page, rfl, -⟩ |
      ⟨_, _, _, nextKey, _, result, rfl, -, rfl⟩ | ⟨_, _, _, _, _, _, rfl, -, rfl⟩
    · have hcovers := hrule.covers answer hint
      exact hcovers
    · exact absurd ⟨page, rfl⟩ hrecording
    · cases result <;> cases nextKey <;> exact ⟨rfl, Nat.le_refl 0⟩
    · exact ⟨rfl, Nat.le_refl 0⟩

theorem covers_of_path {first last : SegmentTask α ι}
    {steps : List (TaskStep α ι (SegmentTask α ι))} (hpath : (kind setup).Path first steps last)
    (hint : ∀ step ∈ steps, step.found.interrupted = true) :
    (callPlan setup).Covers first steps last :=
  hpath.covers (P := fun s => s.interrupted = true) covers_of_step hint

end SegmentTask

/-! ## Tasks of a pipe -/

/-- Tasks whose every step finds the interrupt raised, whatever else it finds and whatever
the answers are. A chunk task makes the batch call that is owed, if one is, and one for each
retry and each resubmission; a segment task makes the request that is owed, and one for each
retry. Neither makes more than its retry policy allows. In a pipe, what the threads do to a
task after an interrupt is such a path. -/
theorem calls_after_interrupt [Quantity α] (setup : Setup α) :
    (∀ first steps last, (ChunkTask.kind (ι := ι) setup).Path first steps last →
      (∀ step ∈ steps, step.found.interrupted = true) →
        (ChunkTask.callPlan setup).Covers first steps last ∧
        (ChunkTask.callPlan setup).owed first ≤ 1 ∧
        (ChunkTask.callPlan setup).left first ≤
          (setup.writeRetry.maxRetries + 1) * (setup.writeRetry.maxRetries + 1)) ∧
    (∀ first steps last, (SegmentTask.kind (ι := ι) setup).Path first steps last →
      (∀ step ∈ steps, step.found.interrupted = true) →
        (SegmentTask.callPlan setup).Covers first steps last ∧
        (SegmentTask.callPlan setup).owed first ≤ 1 ∧
        (SegmentTask.callPlan setup).left first ≤ setup.scanRetry.maxRetries + 1) ∧
    (setup.outsideConsumer = false → ∀ s : State α ι, s.control.isPiping = true →
      s.interrupted = true → ∀ later t, Run setup s later t → ∀ actor,
      (∀ chunk, s.acting? actor = some (.chunk chunk) →
        ∃ steps last, (ChunkTask.kind setup).Path chunk steps last ∧
          (∀ step ∈ steps, step.found.interrupted = true ∧
            (ChunkTask.kind setup).HasStepped setup s t actor step) ∧
          (ChunkTask.kind setup).HasLed setup s t actor last) ∧
      ∀ task, s.segment? actor = some task →
        ∃ steps last, (SegmentTask.kind setup).Path task steps last ∧
          (∀ step ∈ steps, step.found.interrupted = true ∧
            (SegmentTask.kind setup).HasStepped setup s t actor step) ∧
          (SegmentTask.kind setup).HasLed setup s t actor last) := by
  refine ⟨fun first steps last hpath hfound => ?_, fun first steps last hpath hfound => ?_, ?_⟩
  · exact ⟨ChunkTask.covers_of_path hpath hfound, first.owed_le_one, first.left_le⟩
  · exact ⟨SegmentTask.covers_of_path hpath hfound, first.owed_le_one, first.left_le⟩
  · intro hpaced s hpiping hint later t hlater actor
    have hraised : ∀ {before u}, Run setup s before u → u.interrupted = true :=
      fun hbefore => hbefore.interrupted_from hpaced hpiping hint
    refine ⟨fun chunk hacting => ?_, fun task htask => ?_⟩
    · obtain ⟨steps, last, hpath, hsteps, hled⟩ :=
        hlater.exists_chunkPath hpaced hpiping hacting
      refine ⟨steps, last, hpath, fun step hmem => ⟨?_, hsteps step hmem⟩, hled⟩
      obtain ⟨-, _, _, _, hfound, -⟩ := hsteps step hmem
      exact hraised hfound
    · obtain ⟨steps, last, hpath, hsteps, hled⟩ :=
        hlater.exists_segmentPath hpaced hpiping htask
      refine ⟨steps, last, hpath, fun step hmem => ⟨?_, hsteps step hmem⟩, hled⟩
      obtain ⟨-, _, _, _, hfound, -⟩ := hsteps step hmem
      exact hraised hfound

/-- The small copy with the interrupt raised while its first batch is in flight. -/
def resentMiddle : State Rat Nat :=
  ((World.ofTables smallSource slowDestination).settle smallSetup 30 ()
    (smallStart.piping smallSetup)).2.raise

/-- What follows in so many steps. -/
def resent (fuel : Nat) : State Rat Nat :=
  ((World.ofTables smallSource slowDestination).settle smallSetup fuel () resentMiddle).2

theorem run_resent (fuel : Nat) : ∃ later, Run smallSetup resentMiddle later (resent fuel) :=
  let ⟨_, later, hlater⟩ :=
    (World.ofTables smallSource slowDestination).exists_loggedRun_settle smallSetup fuel ()
      resentMiddle
  ⟨later, hlater.run⟩

theorem acting?_resentMiddle :
    resentMiddle.acting? (.writer 0) = some (.chunk ⟨0, [1, 2, 3], .sending 0 0⟩) := rfl

/-- Whatever the task of the first batch has done when all threads have come to rest, each of
its calls was a repetition. -/
theorem calls_after_interrupt_of_resent : ∃ steps last,
    (ChunkTask.kind smallSetup).Path ⟨0, [1, 2, 3], .sending 0 0⟩ steps last ∧
      (∀ step ∈ steps, step.found.interrupted = true) ∧
      (ChunkTask.callPlan smallSetup).Covers ⟨0, [1, 2, 3], .sending 0 0⟩ steps last := by
  obtain ⟨later, hlater⟩ := run_resent 100
  obtain ⟨hchunks, -, htasks⟩ := calls_after_interrupt (ι := Nat) smallSetup
  obtain ⟨steps, last, hpath, hsteps, -⟩ :=
    (htasks rfl resentMiddle rfl rfl later _ hlater (.writer 0)).1 _ acting?_resentMiddle
  have hfound := fun step hmem => (hsteps step hmem).1
  exact ⟨steps, last, hpath, hfound, (hchunks _ steps last hpath hfound).1⟩

/-- The batch leaves an item unprocessed, and its task sends that item once more. -/
theorem ChunkTask.resends_after_interrupt : ∃ history,
    Run smallSetup (smallStart.piping smallSetup) history resentMiddle ∧
      resentMiddle.interrupted = true ∧
      resentMiddle.acting? (.writer 0) = some (.chunk ⟨0, [1, 2, 3], .sending 0 0⟩) ∧
      ∃ steps, (kind smallSetup).Path ⟨0, [1, 2, 3], .sending 0 0⟩ steps
          ⟨0, [3], .sending 1 0⟩ ∧
        (∀ step ∈ steps, ∃ later, Run smallSetup resentMiddle later step.found) ∧
        (callPlan smallSetup).owed ⟨0, [1, 2, 3], .sending 0 0⟩ = 0 ∧
        (callPlan smallSetup).calls steps = 1 := by
  obtain ⟨_, history, hbefore⟩ :=
    (World.ofTables smallSource slowDestination).exists_loggedRun_settle smallSetup 30 ()
      (smallStart.piping smallSetup)
  have hdelay : smallSetup.writeRetry.delay 0 = .ok 50000000 := by decide +kernel
  have hwoke : 50000000 ≤ (resent 7).now := by decide +kernel
  have hfree : (resent 8).writeSlots.acquire?.isSome = true := by decide +kernel
  obtain ⟨slots, hslots⟩ := Option.isSome_iff_exists.1 hfree
  have hanswered : (kind smallSetup).step (resent 0) ⟨0, [1, 2, 3], .sending 0 0⟩
      (.batch (slowDestination [1, 2, 3])) =
        some (_, ⟨0, [1, 2, 3], .charging 0 ⟨[3], 1⟩ 1 0 0⟩) := rfl
  have hcharged : (kind smallSetup).step (resent 1)
      ⟨0, [1, 2, 3], .charging 0 ⟨[3], 1⟩ 1 0 0⟩ .none =
        some (_, ⟨0, [1, 2, 3], .recording 0 ⟨[3], 1⟩ 1⟩) := rfl
  obtain ⟨counted, hcounted⟩ : ∃ counted, (kind smallSetup).step (resent 2)
      ⟨0, [1, 2, 3], .recording 0 ⟨[3], 1⟩ 1⟩ .none =
        some (counted, ⟨0, [3], .resting 1 50000000⟩) := by
    simp only [kind, step, record, hdelay]
    exact ⟨_, rfl⟩
  have hrested : (kind smallSetup).step (resent 7) ⟨0, [3], .resting 1 50000000⟩ .none =
      some (resent 7, ⟨0, [3], .connecting 1 0⟩) := if_pos hwoke
  obtain ⟨sent, hsent⟩ : ∃ sent, (kind smallSetup).step (resent 8) ⟨0, [3], .connecting 1 0⟩
      .none = some (sent, ⟨0, [3], .sending 1 0⟩) := by
    simp only [kind, step, hslots, Option.map_some]
    exact ⟨_, rfl⟩
  refine ⟨history, hbefore.run.step .interrupt rfl, rfl, acting?_resentMiddle, _,
    ((((TaskKind.Path.start.step hanswered).step hcharged).step hcounted).step hrested).step hsent,
    ?_, rfl, rfl⟩
  simp only [List.forall_mem_cons]
  exact ⟨run_resent 8, run_resent 7, run_resent 2, run_resent 1, run_resent 0,
    fun _ hmem => absurd hmem List.not_mem_nil⟩

end TableCopy
