import TableCopy.Proofs.Copy.Segments
import TableCopy.Proofs.Copy.Stopping
import TableCopy.Proofs.Copy.Tables
import TableCopy.Proofs.Pipeline.Release
import TableCopy.Proofs.Pool.Steady

/-!
# Segments that are read at a time

The read pool has a place in its queue for every segment of the plan, and a copy owns no more
segments than the plan has. So the pool never fills up: it starts a thread for each of the
first segments until its core is complete, and queues the others. The controlling thread never
reads a segment itself, and the segments that are read at a time are no more than the core has
threads, however many segments the plan has.
-/

namespace TableCopy

variable {α ι : Type}

namespace Control

/-- How many segments are left, while the controlling thread submits them. -/
def unsubmitted? : Control α ι → Option Nat
  | submitting left => some left.length
  | beginning _ left | handing _ left => some (left.length + 1)
  | _ => none

/-- Whether a segment was not taken over by the read pool. -/
def isLeftWithOne : Control α ι → Bool
  | refused .. | running .. => true
  | _ => false

theorem lentSegments_eq_zero {c : Control α ι} (h : c.isLeftWithOne = false) :
    c.lentSegments = 0 := by
  cases c <;> first | rfl | cases h

end Control

variable [Quantity α] {setup : Setup α} {start s t : State α ι} {answer : Answer α ι}

namespace State

/-- A copy that gives its segments to a read pool that never fills up. As long as segments are
left they are all there; otherwise all were submitted, or a failure or the interrupt has
stopped this. -/
structure SubmitsSteadily (setup : Setup α) (s : State α ι) : Prop where
  pool : s.readPool.IsSteady
  isLeftWithOne : s.control.isLeftWithOne = false
  submitting : ∀ left, s.control.unsubmitted? = some left →
    s.readPool.isOpen = true ∧ s.readPool.submitted + left = setup.scan.segments.length
  submitted : s.control.unsubmitted? = none →
    s.readPool.submitted = setup.scan.segments.length ∨
      s.readPool.submitted < setup.scan.segments.length ∧ s.IsStopping

/-- A step of a copy is one of the controlling thread, or it leaves this thread where it is and
neither closes the read pool nor submits to it. -/
theorem controlStep_or_of_step {move : Move α ι} (hpaced : setup.outsideConsumer = false)
    (h : s.step setup move = some t) :
    (∃ answer, s.controlStep setup answer = some t) ∨
      t.control = s.control ∧ t.readPool.isOpen = s.readPool.isOpen ∧
        t.readPool.submitted = s.readPool.submitted := by
  cases rule_of_step h with
  | control h => exact .inl ⟨_, h⟩
  | reader h =>
    exact .inr ⟨control_of_readerStep hpaced h, (pools_of_readerStep hpaced h).1.of_thread⟩
  | writer h =>
    obtain ⟨hread, hcontrol⟩ := places_of_writerStep h
    rw [hread]
    exact .inr ⟨hcontrol, rfl, rfl⟩
  | readerTimeOut hout =>
    obtain ⟨-, rfl⟩ := Pool.eq_of_timeOut hout
    exact .inr ⟨rfl, rfl, rfl⟩
  | interrupt | elapse | writerTimeOut => exact .inr ⟨rfl, rfl, rfl⟩

namespace SubmitsSteadily

variable (hs : s.SubmitsSteadily setup) (hcore : 1 ≤ s.readPool.spec.corePoolSize)
variable (hdenied : s.readPool.denied = []) (hroom : t.readPool.submitted ≤ s.readPool.spec.places)

include hs hcore hdenied hroom

/-- The controlling thread goes on with the next segment, which the read pool takes over,
unless it stops. -/
theorem controlStep (hpaced : setup.outsideConsumer = false) (hpiping : s.control.isPiping = true)
    (h : s.controlStep setup answer = some t) (hstopped : s.IsStopping → t.IsStopping) :
    t.SubmitsSteadily setup := by
  obtain ⟨hpool, -⟩ := (pools_of_controlStep hpaced hpiping h).1.isSteady hs.pool hcore hdenied
    (Control.lentSegments_eq_zero hs.isLeftWithOne) hroom
  have hleft := hs.isLeftWithOne
  have hsubmitting := hs.submitting
  have hsubmitted := hs.submitted
  rcases Control.rule_of_step hpaced hpiping h with ⟨-, c, u, c', hcontrol, hrule, rfl⟩ |
    ⟨segment, left, hcontrol, pool, placement, hsubmit, rfl⟩ |
    ⟨task, left, hcontrol, -⟩ | ⟨task, left, u, next, hcontrol, -⟩
  · rw [hcontrol] at hleft hsubmitting hsubmitted
    cases hrule with
    | done => exact ⟨hpool, rfl, nofun, fun _ => .inl (hsubmitting 0 rfl).2⟩
    | stop hstop =>
      obtain ⟨-, heq⟩ := hsubmitting _ rfl
      rw [List.length_cons] at heq
      have hless : s.readPool.submitted < setup.scan.segments.length := by omega
      exact ⟨hpool, rfl, nofun, fun _ => .inr ⟨hless, hstop⟩⟩
    | next _ _ => exact ⟨hpool, rfl, fun _ hn => hsubmitting _ hn, nofun⟩
    | register => exact ⟨hpool, rfl, fun _ hn => hsubmitting _ hn, nofun⟩
    | report => cases hleft
    | _ => exact ⟨hpool, rfl, nofun, fun _ => (hsubmitted rfl).imp_right (.imp_right hstopped)⟩
  · rw [hcontrol] at hsubmitting
    obtain ⟨hopen, heq⟩ := hsubmitting _ rfl
    obtain ⟨-, hplacement⟩ := hs.pool.submit hcore hdenied hsubmit hroom
    have hnext : ∀ {next : Pool (SegmentTask α ι)}, next.isOpen = s.readPool.isOpen →
        next.submitted = s.readPool.submitted + 1 →
          next.isOpen = true ∧ next.submitted + left.length = setup.scan.segments.length :=
      fun hsame hcount => ⟨hsame.trans hopen, by omega⟩
    cases Pool.submitRule_of_submit hsubmit with
    | refuse hclosed =>
      rw [hclosed] at hopen
      cases hopen
    | lend _ _ _ _ => exact absurd rfl hplacement
    | lose _ _ hfault | strand _ _ _ _ hfault =>
      exact absurd hfault (Pool.startFault?_ne_some hdenied _)
    | start _ _ | enqueue _ _ _ _ | revive _ _ _ _ =>
      refine ⟨hpool, rfl, fun n hn => ?_, nofun⟩
      obtain rfl := Option.some.inj hn
      exact hnext rfl rfl
  · rw [hcontrol] at hleft
    cases hleft
  · rw [hcontrol] at hleft
    cases hleft

theorem step {move : Move α ι} (hpaced : setup.outsideConsumer = false) (hreliable : s.IsReliable)
    (hpiping : s.control.isPiping = true) (h : s.step setup move = some t) :
    t.SubmitsSteadily setup := by
  have hstopped : s.IsStopping → t.IsStopping := fun hstop =>
    (Run.start.step move h).isStopping_from hpaced hreliable hpiping hstop
  rcases controlStep_or_of_step hpaced h with ⟨answer, hcontrolStep⟩ | ⟨hcontrol, hopen, hcount⟩
  · exact hs.controlStep hcore hdenied hroom hpaced hpiping hcontrolStep hstopped
  · obtain ⟨hpool, -⟩ := (pools_of_step hpaced hpiping h).1.isSteady hs.pool hcore hdenied
      (Control.lentSegments_eq_zero hs.isLeftWithOne) hroom
    refine ⟨hpool, hcontrol ▸ hs.isLeftWithOne, ?_, ?_⟩
    · rw [hcontrol, hopen, hcount]
      exact hs.submitting
    · rw [hcontrol, hcount]
      exact fun hnone => (hs.submitted hnone).imp_right (.imp_right hstopped)

end SubmitsSteadily
end State

namespace Run

variable {history : List (Exchange α ι)} {core keepAlive : Nat}

section ReadPool

variable (hpaced : setup.outsideConsumer = false) (hfresh : start.IsFresh setup)
variable (hpool : start.readPool =
  Pool.create "read" (PoolSpec.ofLimit setup.scan.plan.totalSegments.toNat core keepAlive))

include hpaced hfresh hpool

theorem submitted_le_places (hrun : Run setup (start.piping setup) history s) :
    s.readPool.submitted ≤
      (PoolSpec.ofLimit setup.scan.plan.totalSegments.toNat core keepAlive).places := by
  have hnone : start.readPool.submitted = 0 := by rw [hpool]; rfl
  have hsubmitted := (hrun.submitted_eq hpaced hfresh hnone).1
  have howned : setup.scan.segments.length ≤ setup.scan.plan.totalSegments.toNat :=
    Section.length_ownedSegments_le _ _
  simp only [PoolSpec.places, PoolSpec.ofLimit]
  omega

theorem submitsSteadily (hrun : Run setup (start.piping setup) history s) :
    s.readPool.provision =
        (PoolSpec.ofLimit setup.scan.plan.totalSegments.toNat core keepAlive, []) ∧
      s.SubmitsSteadily setup := by
  induction hrun with
  | start =>
    have hread : (start.piping setup).readPool = start.readPool := rfl
    rw [hread, hpool]
    refine ⟨rfl, ?_, rfl, ?_, fun hnone => by cases hnone⟩
    · rw [hread, hpool]
      exact Pool.isSteady_create _ _
    · intro left hleft
      obtain rfl := Option.some.inj hleft
      rw [hread, hpool]
      exact ⟨rfl, Nat.zero_add _⟩
  | @step history s t move run h ih =>
    obtain ⟨hprovision, hs⟩ := ih
    obtain ⟨hspec, hdenied⟩ := Prod.mk.inj hprovision
    have hcore : 1 ≤ s.readPool.spec.corePoolSize := hspec ▸ PoolSpec.ofLimit_core_pos ..
    have hroom := (run.step move h).submitted_le_places hpaced hfresh hpool
    rw [← hspec] at hroom
    have hpiping := run.isPiping hpaced
    exact ⟨(State.pools_of_step hpaced hpiping h).1.provision_eq.trans hprovision,
      hs.step hcore hdenied hroom hpaced (run.isReliable hpaced hfresh) hpiping h⟩
  | release _ h ih =>
    obtain ⟨hprovision, hs⟩ := ih
    have hsubmitted := hs.submitted
    rw [h] at hsubmitted
    rw [State.releasing, h]
    exact ⟨hprovision, hs.pool, rfl, (fun _ hleft => by cases hleft), hsubmitted⟩

end ReadPool

/-- The read pool never fills up and never grows past its core, whatever its threads do and
however many segments the plan has. No submission of a segment finds the queue full, and none
is refused, so that the controlling thread runs no segment itself. The pool has started as many
threads as its core has or as segments were submitted, whichever is less; and these are all
segments that the copy owns, unless a failure or the interrupt has stopped the submissions. -/
theorem read_pool_stays_at_core (hpaced : setup.outsideConsumer = false)
    (hfresh : start.IsFresh setup)
    (hpool : start.readPool =
      Pool.create "read" (PoolSpec.ofLimit setup.scan.plan.totalSegments.toNat core keepAlive))
    (hrun : Run setup (start.piping setup) history s) :
    let spec := PoolSpec.ofLimit setup.scan.plan.totalSegments.toNat core keepAlive
    s.readPool.callerRuns = 0 ∧ (∀ task left, s.control ≠ .running task left) ∧
    (∀ segment left, s.control = .handing segment left →
      s.readPool.queue.length < spec.queueCapacity ∧
        ((s.readPool.submit ⟨segment, none, 0, .ready⟩).2 = .started ∨
          (s.readPool.submit ⟨segment, none, 0, .ready⟩).2 = .queued)) ∧
    s.readPool.peak ≤ spec.corePoolSize ∧
    s.readPool.peak = min spec.corePoolSize s.readPool.submitted ∧
    (s.control.unsubmitted? = none →
      s.readPool.peak = min spec.corePoolSize setup.scan.segments.length ∨
        s.readPool.submitted < setup.scan.segments.length ∧
          (s.interrupted = true ∨ s.scanTracker.hasFailed = true)) := by
  intro spec
  obtain ⟨hprovision, hs⟩ := hrun.submitsSteadily hpaced hfresh hpool
  obtain ⟨hspec, hdenied⟩ := Prod.mk.inj hprovision
  have hpeak : s.readPool.peak = min spec.corePoolSize s.readPool.submitted := by
    rw [hs.pool.peak_eq, hspec]
  refine ⟨hs.pool.callerRuns_eq, fun task left hcontrol => ?_, fun segment left hcontrol => ?_,
    hpeak.trans_le (Nat.min_le_left ..), hpeak, fun hnone => ?_⟩
  · have hleft := hs.isLeftWithOne
    rw [hcontrol] at hleft
    cases hleft
  · obtain ⟨hopen, heq⟩ := hs.submitting (left.length + 1) (hcontrol ▸ rfl)
    have howned : setup.scan.segments.length ≤ setup.scan.plan.totalSegments.toNat :=
      Section.length_ownedSegments_le _ _
    have hcapacity : setup.scan.plan.totalSegments.toNat ≤ spec.queueCapacity :=
      Nat.le_max_left ..
    have hqueue := hs.pool.queue_le hopen
    have hplace : s.readPool.queue.length < spec.queueCapacity := by omega
    refine ⟨hplace, ?_⟩
    obtain ⟨pool, placement, hsubmit⟩ : ∃ pool placement,
        s.readPool.submit ⟨segment, none, 0, .ready⟩ = (pool, placement) := ⟨_, _, rfl⟩
    rw [hsubmit]
    cases Pool.submitRule_of_submit hsubmit with
    | refuse hclosed =>
      rw [hclosed] at hopen
      cases hopen
    | start _ _ => exact .inl rfl
    | enqueue _ _ _ _ => exact .inr rfl
    | revive _ _ _ _ => exact .inr rfl
    | lose _ _ hfault | strand _ _ _ _ hfault =>
      exact absurd hfault (Pool.startFault?_ne_some hdenied _)
    | lend _ _ hfull _ =>
      have hplaces : spec.queueCapacity ≤ spec.places := Nat.le_max_left ..
      rw [hspec] at hfull
      exact absurd (hplaces.trans hfull) (Nat.not_le.2 hplace)
  · rcases hs.submitted hnone with hall | ⟨hless, hstopped⟩
    · exact .inl (hpeak.trans (by rw [hall]))
    · exact .inr ⟨hless, hstopped⟩

/-- The small copy with four segments. -/
def fourSetup : Setup Rat :=
  { smallSetup with scan := { smallSetup.scan with plan := ⟨4, .fallback⟩ } }

def fourStart : State Rat Nat := .initial fourSetup (.ofLimit 4 2 0) (.ofLimit 4 2 0)

/-- The state in which the copy of four segments ends. -/
def fourEnd : State Rat Nat :=
  ((World.ofTables smallSource slowDestination).settle fourSetup 200 ()
    (fourStart.piping fourSetup)).2

/-- Four segments with a core of two threads: the read pool starts no more than these, although
it could have four. -/
theorem read_pool_stays_at_core_of_four :
    ∃ history, Run fourSetup (fourStart.piping fourSetup) history fourEnd ∧
      fourEnd.control.result? = some (.ok ()) ∧ fourEnd.readPool.submitted = 4 ∧
      fourEnd.readPool.spec.maxPoolSize = 4 ∧ fourEnd.readPool.callerRuns = 0 ∧
      fourEnd.readPool.peak = 2 := by
  obtain ⟨history, hrun, -⟩ := World.exists_run_ofTables fourSetup smallSource
    (fourStart.piping fourSetup) 200 slowDestination_faithful
  obtain ⟨hcalls, -, -, -, hpeak, -⟩ :=
    read_pool_stays_at_core rfl (State.isFresh_initial _ _) rfl hrun
  have hall : fourEnd.readPool.submitted = 4 := by decide +kernel
  refine ⟨history, hrun, by decide +kernel, hall, by decide +kernel, hcalls, ?_⟩
  rw [fourEnd] at hall ⊢
  rw [hpeak, hall]
  decide

end Run
end TableCopy
