import TableCopy.Proofs.Copy.Counters
import TableCopy.Proofs.Copy.Repeats

/-!
# What becomes of a chunk

A chunk is sent in rounds. The batches of a round are all that is left of the chunk, until one
of them is answered; what this one leaves unprocessed is what is left for the next round. So
what was acknowledged and what is left make up the chunk at any time, and in the end either
nothing is left, or the error tells why: it is the error of the last batch, or it counts what
is left after the last resubmission.
-/

namespace TableCopy

variable {α ι : Type}

/-- What a batch that was answered left unprocessed. -/
def Exchange.unprocessed? : Exchange α ι → Option (List ι)
  | ⟨_, .batch (.returned (.ok outcome))⟩ => some outcome.unprocessed
  | _ => none

/-- What is left of a chunk after some batches, the latest first. -/
def remainder (chunk : List ι) : List (Exchange α ι) → List ι
  | [] => chunk
  | x :: earlier => x.unprocessed?.getD (remainder chunk earlier)

/-- Every batch is all that was left of the chunk. -/
def SendsRemainder (chunk : List ι) : List (Exchange α ι) → Prop
  | [] => True
  | x :: earlier => x.call = .batch (remainder chunk earlier) ∧ SendsRemainder chunk earlier

/-- How many batches were answered. -/
def rounds (exchanges : List (Exchange α ι)) : Nat :=
  exchanges.countP fun x => x.unprocessed?.isSome

/-- How often was sent again what a batch had left unprocessed: every answered batch but the
last is followed by another round. -/
def resubmissions (exchanges : List (Exchange α ι)) : Nat := rounds exchanges.tail

/-- How many batches have failed since one was answered. -/
def failures : List (Exchange α ι) → Nat
  | [] => 0
  | x :: earlier => if x.unprocessed?.isSome then 0 else failures earlier + 1

section Exchanges

variable {chunk items : List ι} {exchanges : List (Exchange α ι)} {outcome : BatchOutcome α ι}

theorem rounds_answered : rounds
    (Exchange.batch items (.returned (.ok outcome)) :: exchanges) = rounds exchanges + 1 :=
  List.countP_cons_of_pos rfl

theorem rounds_unanswered {x : Exchange α ι} (h : x.unprocessed? = none) :
    rounds (x :: exchanges) = rounds exchanges :=
  List.countP_cons_of_neg (by rw [h]; exact Bool.false_ne_true)

/-- What was acknowledged of a chunk and what is left make up the chunk. -/
theorem acknowledged_add_remainder [DecidableEq ι] (h : SendsRemainder chunk exchanges)
    (hfaithful : ∀ x ∈ exchanges, x.IsFaithful) :
    tally Exchange.acknowledged exchanges + (remainder chunk exchanges : Multiset ι) = chunk := by
  induction exchanges with
  | nil => exact zero_add _
  | cons x earlier ih =>
    obtain ⟨hcall, hsends⟩ := h
    obtain ⟨hx, hearlier⟩ := List.forall_mem_cons.1 hfaithful
    have ih := ih hsends hearlier
    obtain ⟨call, answer⟩ := x
    obtain rfl : call = .batch (remainder chunk earlier) := hcall
    rw [tally_cons]
    cases answer with
    | batch outcome =>
      rcases outcome with (e | outcome) | reason
      · rw [← ih]
        exact congrArg (· + _) (zero_add _)
      · rw [add_comm (Exchange.acknowledged _), add_assoc]
        have hleft : Exchange.acknowledged
              (⟨.batch (remainder chunk earlier), .batch (.returned (.ok outcome))⟩ :
                Exchange α ι) + (outcome.unprocessed : Multiset ι) = remainder chunk earlier :=
          Multiset.sub_add_cancel hx
        exact (congrArg _ hleft).trans ih
      · rw [← ih]
        exact congrArg (· + _) (zero_add _)
    | _ =>
      rw [← ih]
      exact congrArg (· + _) (zero_add _)

end Exchanges

/-! ## Courses -/

/-- What a chunk task has done: its batches with their answers, the latest first, and what it
has added to the counters of items written and of resubmissions. -/
structure Deeds (α ι : Type) where
  exchanges : List (Exchange α ι) := []
  written : UInt64 := 0
  resubmitted : UInt64 := 0

/-- The deeds after a step that has ended these exchanges, from the state that the step found
and the state that it left. -/
def Deeds.after (deeds : Deeds α ι) (ended : List (Exchange α ι)) (found left : State α ι) :
    Deeds α ι where
  exchanges := ended ++ deeds.exchanges
  written := deeds.written + (left.metrics.itemsWritten - found.metrics.itemsWritten)
  resubmitted :=
    deeds.resubmitted + (left.metrics.unprocessedRetries - found.metrics.unprocessedRetries)

variable [Quantity α] {setup : Setup α} {s t : State α ι} {chunk : List ι}

/-- Before every retry that is allowed comes a delay that can be represented. -/
def RetryConfig.HasDelays (config : RetryConfig α) : Prop :=
  ∀ attempt < config.maxRetries, ∃ delay, config.delay attempt = .ok delay

namespace ChunkTask

/-- The steps of a chunk task, in whatever states they find, and with whatever answers. -/
inductive Course (setup : Setup α) (first : ChunkTask α ι) : Deeds α ι → ChunkTask α ι → Prop
  | start : Course setup first {} first
  | step {deeds task found answer left next} (course : Course setup first deeds task)
      (h : task.step setup found answer = some (left, next)) :
    Course setup first
      (deeds.after (Exchange.ended (task.call?.map .batch) answer) found left) next

end ChunkTask

/-- Whatever the steps of a thread make of a chunk task is a course of it. -/
theorem TaskKind.Path.exists_course {first last : ChunkTask α ι}
    {steps : List (TaskStep α ι (ChunkTask α ι))}
    (hpath : (ChunkTask.kind setup).Path first steps last) :
    ∃ deeds, ChunkTask.Course setup first deeds last :=
  hpath.invariant (P := fun task => ∃ deeds, ChunkTask.Course setup first deeds task) ⟨_, .start⟩
    fun ⟨_, hcourse⟩ h => ⟨_, hcourse.step h⟩

namespace Deeds

variable [DecidableEq ι]

/-- The deeds of a chunk task after so many resubmissions. -/
structure IsInRound (setup : Setup α) (deeds : Deeds α ι) (round : Nat) : Prop where
  rounds_eq : rounds deeds.exchanges = round
  resubmitted_eq : deeds.resubmitted = UInt64.ofNat round
  written_eq : deeds.written = UInt64.ofNat (tally Exchange.acknowledged deeds.exchanges).card
  round_le : round ≤ setup.writeRetry.maxRetries

/-- The deeds of a chunk task that has ended in a way. -/
def Explain (setup : Setup α) (chunk : List ι) (deeds : Deeds α ι) : Outcome Unit → Prop
  | .returned (.ok ()) => remainder chunk deeds.exchanges = []
  | .returned (.error e) =>
    (∃ earlier, deeds.exchanges =
        Exchange.batch (remainder chunk earlier) (.returned (.error e)) :: earlier ∧
      (e.isRetryable = true → failures deeds.exchanges = setup.writeRetry.maxRetries + 1)) ∨
    remainder chunk deeds.exchanges ≠ [] ∧
      resubmissions deeds.exchanges = setup.writeRetry.maxRetries ∧
      e = .execution (toString (remainder chunk deeds.exchanges).length ++
        " items still unprocessed by '" ++ setup.write.table ++ "' after " ++
        toString setup.writeRetry.maxRetries ++ " retries")
  | .crashed reason => ∃ earlier, deeds.exchanges =
      Exchange.batch (remainder chunk earlier) (.crashed reason) :: earlier

/-- The counters that a chunk task has added to tell what it has done. -/
structure IsCounted (deeds : Deeds α ι) : Prop where
  written_eq : deeds.written = UInt64.ofNat (tally Exchange.acknowledged deeds.exchanges).card
  resubmitted_eq : deeds.resubmitted = UInt64.ofNat (resubmissions deeds.exchanges)

/-- The deeds of a chunk task tell where it stands. -/
def Tell (setup : Setup α) (chunk : List ι) (deeds : Deeds α ι) (task : ChunkTask α ι) : Prop :=
  match task.phase with
  | .ready => False
  | .connecting round attempt | .sending round attempt | .backingOff round attempt _ =>
    task.pending = remainder chunk deeds.exchanges ∧ deeds.IsInRound setup round ∧
      failures deeds.exchanges = attempt ∧ attempt ≤ setup.writeRetry.maxRetries
  | .charging round outcome .. | .recording round outcome _ =>
    ∃ earlier, deeds.exchanges =
        Exchange.batch (remainder chunk earlier) (.returned (.ok outcome)) :: earlier ∧
      task.pending = remainder chunk earlier ∧
      ({ deeds with exchanges := earlier } : Deeds α ι).IsInRound setup round
  | .resting round _ =>
    task.pending = remainder chunk deeds.exchanges ∧ deeds.IsInRound setup round ∧
      failures deeds.exchanges = 0
  | .ending outcome => deeds.IsCounted ∧ deeds.Explain setup chunk outcome
  | .finished => True

variable {deeds : Deeds α ι} {ended : List (Exchange α ι)} {round : Nat} {items : List ι}

omit [DecidableEq ι] [Quantity α] in
/-- A step that counts nothing. -/
theorem after_of_metrics_eq (h : t.metrics = s.metrics) :
    deeds.after ended s t = { deeds with exchanges := ended ++ deeds.exchanges } := by
  rw [after, h, UInt64.sub_self, UInt64.sub_self, UInt64.add_zero, UInt64.add_zero]

omit [DecidableEq ι] in
theorem after_of_batch {n : UInt64} {units : α}
    (h : t.metrics = s.metrics.record (.batch n units)) :
    deeds.after [] s t = { deeds with written := deeds.written + n } := by
  have hwritten : t.metrics.itemsWritten = n + s.metrics.itemsWritten := by
    rw [h, UInt64.add_comm]
    rfl
  have hresubmitted : t.metrics.unprocessedRetries = 0 + s.metrics.unprocessedRetries := by
    rw [h, UInt64.add_comm]
    rfl
  rw [after, hwritten, hresubmitted, UInt64.add_sub_cancel, UInt64.add_sub_cancel,
    UInt64.add_zero]
  rfl

omit [DecidableEq ι] in
theorem after_of_resubmission {n : UInt64} {units : α}
    (h : t.metrics = (s.metrics.record (.batch n units)).record (.resubmission : Metrics.Event α)) :
    deeds.after [] s t =
      { deeds with written := deeds.written + n, resubmitted := deeds.resubmitted + 1 } := by
  have hwritten : t.metrics.itemsWritten = n + s.metrics.itemsWritten := by
    rw [h, Metrics.itemsWritten_record, Metrics.itemsWritten_record, UInt64.add_comm n]
    exact UInt64.add_zero _
  have hresubmitted : t.metrics.unprocessedRetries = 1 + s.metrics.unprocessedRetries := by
    rw [h, UInt64.add_comm]
    exact congrArg (· + 1) (UInt64.add_zero _)
  rw [after, hwritten, hresubmitted, UInt64.add_sub_cancel, UInt64.add_sub_cancel]
  rfl

omit [Quantity α] in
/-- Before a further batch is answered, there were as many resubmissions as rounds. -/
theorem IsInRound.resubmitted_cons (h : deeds.IsInRound setup round) (x : Exchange α ι) :
    deeds.resubmitted = UInt64.ofNat (resubmissions (x :: deeds.exchanges)) :=
  h.resubmitted_eq.trans (congrArg UInt64.ofNat h.rounds_eq.symm)

omit [Quantity α] in
/-- A failed batch leaves a round as it is. -/
theorem IsInRound.fail (h : deeds.IsInRound setup round) {outcome : Outcome (BatchOutcome α ι)}
    (hfailed : (Exchange.batch items outcome).unprocessed? = none) :
    ({ deeds with exchanges := Exchange.batch items outcome :: deeds.exchanges } :
      Deeds α ι).IsInRound setup round := by
  have hnothing : Exchange.acknowledged (Exchange.batch items outcome) = 0 := by
    rcases outcome with (e | answered) | reason
    · rfl
    · cases hfailed
    · rfl
  refine ⟨?_, h.resubmitted_eq, ?_, h.round_le⟩
  · exact (rounds_unanswered hfailed).trans h.rounds_eq
  · rw [tally_cons, hnothing, zero_add]
    exact h.written_eq

omit [Quantity α] in
/-- What a batch that is answered acknowledges is what it counts. -/
theorem IsInRound.written_answered {earlier : List (Exchange α ι)} {outcome : BatchOutcome α ι}
    (h : ({ deeds with exchanges := earlier } : Deeds α ι).IsInRound setup round)
    (hfaithful : (Exchange.batch items (.returned (.ok outcome))).IsFaithful) :
    deeds.written + UInt64.ofNat (items.length - outcome.unprocessed.length) =
      UInt64.ofNat (tally Exchange.acknowledged
        (Exchange.batch items (.returned (.ok outcome)) :: earlier)).card := by
  have hcard : (Exchange.acknowledged (Exchange.batch items (.returned (.ok outcome)))).card =
      items.length - outcome.unprocessed.length := Multiset.card_sub hfaithful
  rw [tally_cons, Multiset.card_add, hcard, UInt64.ofNat_add, UInt64.add_comm]
  exact congrArg _ h.written_eq

end Deeds

namespace ChunkTask

variable [DecidableEq ι] {deeds : Deeds α ι} {task next : ChunkTask α ι}
variable {ended : List (Exchange α ι)}

omit [DecidableEq ι] in
/-- Nothing is counted before a batch is recorded. -/
theorem Rule.metrics_eq (h : Rule setup s task ended t next)
    (hphase : ∀ round outcome units, task.phase ≠ .recording round outcome units) :
    t.metrics = s.metrics := by
  cases h with
  | finish | exhaust | faultyRest | rest => exact absurd rfl (hphase _ _ _)
  | _ => rfl

/-- What leads to the answer of a batch, and to its record, is told by the deeds. -/
theorem Rule.tell_of_batch (hdelays : setup.writeRetry.HasDelays)
    (h : Rule setup s task ended t next)
    (hphase : ∀ round outcome units, task.phase ≠ .recording round outcome units)
    (hdeeds : deeds.Tell setup chunk task) :
    (deeds.after ended s t).Tell setup chunk next := by
  rw [Deeds.after_of_metrics_eq (h.metrics_eq hphase)]
  cases h with
  | interrupt | start => cases hdeeds
  | send | retry => exact hdeeds
  | crash reason =>
    obtain ⟨rfl, hround, -⟩ := hdeeds
    exact ⟨⟨(hround.fail rfl).written_eq, hround.resubmitted_cons _⟩, _, rfl⟩
  | answer outcome =>
    obtain ⟨rfl, hround, -⟩ := hdeeds
    exact ⟨deeds.exchanges, rfl, rfl, hround⟩
  | @giveUp segment pending round attempt e hgiveUp =>
    obtain ⟨rfl, hround, rfl, hattempt⟩ := hdeeds
    refine ⟨⟨(hround.fail rfl).written_eq, hround.resubmitted_cons _⟩,
      .inl ⟨_, rfl, fun hretry => ?_⟩⟩
    have hlast : ¬ failures deeds.exchanges < setup.writeRetry.maxRetries := by
      intro hlt
      rw [RetryConfig.onFailure, if_pos ⟨hretry, hlt⟩] at hgiveUp
      cases hgiveUp
    change failures deeds.exchanges + 1 = _
    omega
  | @faultyDelay segment pending round attempt e fault hagain =>
    have hlt := RetryConfig.lt_of_again hagain
    obtain ⟨delay, hdelay⟩ := hdelays attempt hlt
    rw [RetryConfig.onFailure, hdelay] at hagain
    split at hagain <;> cases hagain
  | @backOff segment pending round attempt e delay hagain =>
    obtain ⟨rfl, hround, rfl, -⟩ := hdeeds
    exact ⟨rfl, hround.fail rfl, rfl, RetryConfig.lt_of_again hagain⟩
  | charge | await | charged => exact hdeeds
  | finish | exhaust | faultyRest | rest => exact absurd rfl (hphase _ _ _)
  | resume =>
    obtain ⟨rfl, hround, hfailures⟩ := hdeeds
    exact ⟨rfl, hround, hfailures, Nat.zero_le _⟩
  | complete => trivial

/-- What follows the record of a batch is told by the deeds. -/
theorem Rule.tell_of_record {segment round : Nat} {pending : List ι} {outcome : BatchOutcome α ι}
    {units : α} (hdelays : setup.writeRetry.HasDelays)
    (h : Rule setup s ⟨segment, pending, .recording round outcome units⟩ ended t next)
    (hfaithful : ∀ x ∈ deeds.exchanges, x.IsFaithful)
    (hdeeds : deeds.Tell setup chunk ⟨segment, pending, .recording round outcome units⟩) :
    (deeds.after ended s t).Tell setup chunk next := by
  obtain ⟨earlier, hexchanges, rfl, hround⟩ := hdeeds
  have hanswered := hround.written_answered (hfaithful _ (hexchanges ▸ List.mem_cons_self))
  rw [← hexchanges] at hanswered
  have hbefore : deeds.resubmitted = UInt64.ofNat (resubmissions deeds.exchanges) := by
    rw [hexchanges]
    exact hround.resubmitted_cons _
  have hremainder : remainder chunk deeds.exchanges = outcome.unprocessed := by
    rw [hexchanges]
    rfl
  cases h with
  | finish hempty =>
    have hafter : deeds.after [] s (s.countBatch (remainder chunk earlier) outcome units) = _ :=
      Deeds.after_of_batch rfl
    rw [hafter]
    exact ⟨⟨hanswered, hbefore⟩, hremainder.trans hempty⟩
  | exhaust hleft hmax =>
    have hafter : deeds.after [] s ((s.countBatch (remainder chunk earlier) outcome units).drop
        outcome.unprocessed) = _ := Deeds.after_of_batch rfl
    rw [hafter]
    have hlast : round = setup.writeRetry.maxRetries := le_antisymm hround.round_le hmax
    refine ⟨⟨hanswered, hbefore⟩, .inr ⟨hremainder ▸ hleft, ?_, ?_⟩⟩
    · rw [resubmissions, hexchanges]
      exact hround.rounds_eq.trans hlast
    · rw [exhaustion, hremainder, hlast]
  | faultyRest _ hlt hfault =>
    obtain ⟨delay, hdelay⟩ := hdelays round hlt
    cases hdelay.symm.trans hfault
  | rest _ hlt _ =>
    have hafter : deeds.after [] s ((s.countBatch (remainder chunk earlier) outcome units).count
        .resubmission) = _ := Deeds.after_of_resubmission rfl
    rw [hafter]
    refine ⟨hremainder.symm, ⟨?_, ?_, hanswered, hlt⟩, ?_⟩
    · change rounds deeds.exchanges = round + 1
      rw [hexchanges, rounds_answered, hround.rounds_eq]
    · rw [UInt64.ofNat_add]
      exact congrArg (· + 1) hround.resubmitted_eq
    · change failures deeds.exchanges = 0
      rw [hexchanges]
      rfl

theorem Rule.tell (hdelays : setup.writeRetry.HasDelays) (h : Rule setup s task ended t next)
    (hfaithful : ∀ x ∈ deeds.exchanges, x.IsFaithful) (hdeeds : deeds.Tell setup chunk task) :
    (deeds.after ended s t).Tell setup chunk next := by
  by_cases hphase : ∃ round outcome units, task.phase = .recording round outcome units
  · obtain ⟨segment, pending, phase⟩ := task
    obtain ⟨round, outcome, units, rfl⟩ := hphase
    exact h.tell_of_record hdelays hfaithful hdeeds
  · exact h.tell_of_batch hdelays
      (fun round outcome units hrecording => hphase ⟨round, outcome, units, hrecording⟩) hdeeds

omit [DecidableEq ι] in
/-- An answer ends the call that is in flight, and the calls of a task are those it begins. -/
theorem Rule.length_ended (answer : Answer α ι) (h : Rule setup s task ended t next) :
    ended.length + ((callPlan setup).isCalling next).toNat =
      ((callPlan setup).isCalling task).toNat +
        (callPlan setup).calls [⟨s, task, answer, t, next⟩] := by
  cases h <;> rfl

end ChunkTask

omit [Quantity α] in
theorem Deeds.Tell.call_eq [DecidableEq ι] {deeds : Deeds α ι} {task : ChunkTask α ι}
    {items : List ι} (h : deeds.Tell setup chunk task) (hcall : task.call? = some items) :
    items = remainder chunk deeds.exchanges := by
  obtain ⟨segment, pending, phase⟩ := task
  cases phase with
  | sending round attempt =>
    obtain rfl := Option.some.inj hcall
    exact h.1
  | _ => cases hcall

namespace ChunkTask.Course

variable [DecidableEq ι] {deeds : Deeds α ι} {task : ChunkTask α ι} {segment : Nat}
variable (hdelays : setup.writeRetry.HasDelays)
variable (hcourse : Course setup ⟨segment, chunk, .connecting 0 0⟩ deeds task)
variable (hfaithful : ∀ x ∈ deeds.exchanges, x.IsFaithful)

include hdelays hcourse hfaithful

/-- Wherever a chunk task stands, its deeds tell. -/
theorem tell : deeds.Tell setup chunk task := by
  induction hcourse with
  | start => exact ⟨rfl, ⟨rfl, rfl, rfl, Nat.zero_le _⟩, rfl, Nat.zero_le _⟩
  | step course h ih =>
    have hearlier := (List.forall_mem_append.1 hfaithful).2
    exact (rule_of_step h).tell hdelays hearlier (ih hearlier)

/-- Whatever is sent is all that is left. -/
theorem sends : SendsRemainder chunk deeds.exchanges := by
  induction hcourse with
  | start => trivial
  | @step deeds task found answer left next course h ih =>
    have hearlier := (List.forall_mem_append.1 hfaithful).2
    have htell := course.tell hdelays hearlier
    cases hcall : task.call? with
    | none => exact ih hearlier
    | some items => exact ⟨congrArg Call.batch (htell.call_eq hcall), ih hearlier⟩

/-- Every call is paid for out of what the retry policy allows. -/
theorem calls_le :
    deeds.exchanges.length + ((callPlan setup).isCalling task).toNat +
        (callPlan setup).left task ≤
      (callPlan setup).left (⟨segment, chunk, .connecting 0 0⟩ : ChunkTask α ι) := by
  induction hcourse with
  | start => exact (Nat.zero_add _).le
  | @step deeds task found answer left next course h ih =>
    have hearlier := (List.forall_mem_append.1 hfaithful).2
    have hrule := rule_of_step h
    have hcheck : task.phase = .ready → found.interrupted = true := by
      intro hready
      have htell := course.tell hdelays hearlier
      rw [Deeds.Tell, hready] at htell
      exact htell.elim
    have hbudget := (hrule.covers answer hcheck).calls_le
    have hended := hrule.length_ended answer
    have hbefore := ih hearlier
    simp only [Deeds.after, List.length_append]
    omega

end ChunkTask.Course

/-- A chunk that is sent, with whatever answers, under a policy whose delays can be represented.
Every batch is all that is left of the chunk, be it sent first, again after a failure, or after
an answer that left items unprocessed; the policy bounds how many there are. What was
acknowledged and what is left make up the chunk. A task that ends without an error has left
nothing; otherwise its error is that of its last batch, a retryable one only after the last
attempt of the round, or it tells how many items are left after the last resubmission. The
counters grow by the items acknowledged and by the resubmissions. -/
theorem ChunkTask.writes_exactly [DecidableEq ι] {segment : Nat} {deeds : Deeds α ι}
    {task : ChunkTask α ι} (hdelays : setup.writeRetry.HasDelays)
    (hcourse : Course setup ⟨segment, chunk, .connecting 0 0⟩ deeds task)
    (hfaithful : ∀ x ∈ deeds.exchanges, x.IsFaithful) :
    deeds.exchanges.length + task.call?.toList.length ≤
      (setup.writeRetry.maxRetries + 1) * (setup.writeRetry.maxRetries + 1) ∧
    SendsRemainder chunk deeds.exchanges ∧
    (∀ items, task.call? = some items → items = remainder chunk deeds.exchanges) ∧
    tally Exchange.acknowledged deeds.exchanges +
      (remainder chunk deeds.exchanges : Multiset ι) = chunk ∧
    ∀ outcome, task.phase = .ending outcome →
      deeds.IsCounted ∧ deeds.Explain setup chunk outcome := by
  have htell := hcourse.tell hdelays hfaithful
  have hsends := hcourse.sends hdelays hfaithful
  refine ⟨?_, hsends, fun items => htell.call_eq, acknowledged_add_remainder hsends hfaithful, ?_⟩
  · have hcalls := hcourse.calls_le hdelays hfaithful
    have hleft : (callPlan setup).left (⟨segment, chunk, .connecting 0 0⟩ : ChunkTask α ι) ≤ _ :=
      left_le _
    have hflight : task.call?.toList.length = ((callPlan setup).isCalling task).toNat := by
      obtain ⟨segment, pending, phase⟩ := task
      cases phase <;> rfl
    omega
  · intro outcome hphase
    rw [Deeds.Tell, hphase] at htell
    exact htell

/-- What becomes of a chunk in a pipe once it is sent is a course of it. -/
theorem Run.exists_course {history : List (Exchange α ι)} {actor : Actor}
    {first : ChunkTask α ι} (hpaced : setup.outsideConsumer = false)
    (hpiping : s.control.isPiping = true) (hrun : Run setup s history t)
    (hacting : s.acting? actor = some (.chunk first)) :
    ∃ deeds last, ChunkTask.Course setup first deeds last ∧
      (ChunkTask.kind setup).HasLed setup s t actor last := by
  obtain ⟨steps, last, hpath, -, hled⟩ := hrun.exists_chunkPath hpaced hpiping hacting
  obtain ⟨deeds, hcourse⟩ := hpath.exists_course
  exact ⟨deeds, last, hcourse, hled⟩

theorem hasDelays_smallSetup : smallSetup.writeRetry.HasDelays := by
  have hdelays : ∀ attempt < 10, (smallSetup.writeRetry.delay attempt).toOption.isSome = true := by
    decide +kernel
  intro attempt hlt
  have hdelay := hdelays attempt hlt
  cases h : smallSetup.writeRetry.delay attempt with
  | ok delay => exact ⟨delay, rfl⟩
  | error fault =>
    rw [h] at hdelay
    cases hdelay

/-- The start of the small copy after a second. -/
def smallLater : State Rat Nat := { smallStart with now := 1000000000 }

/-- The first batch leaves an item unprocessed, and the second takes it. -/
theorem ChunkTask.exists_course_in_two : ∃ deeds,
    Course smallSetup ⟨0, [1, 2, 3], .connecting 0 0⟩ deeds ⟨0, [], .ending (.returned (.ok ()))⟩ ∧
      deeds.exchanges = [Exchange.batch [3] (.returned (.ok ⟨[], 1⟩)),
        Exchange.batch [1, 2, 3] (.returned (.ok ⟨[3], 2⟩))] := by
  have hdelay : smallSetup.writeRetry.delay 0 = .ok 50000000 := by decide +kernel
  have hsent : ∀ {items round}, (⟨0, items, .connecting round 0⟩ : ChunkTask Rat Nat).step
      smallSetup smallLater .none =
        some ((smallLater.holdWriteSlots { smallLater.writeSlots with held := 1 }).log
          (.sent "archive" items), ⟨0, items, .sending round 0⟩) := rfl
  have hcharged : ∀ {items round outcome units},
      (⟨0, items, .charging round outcome units 0 1000000000⟩ : ChunkTask Rat Nat).step
        smallSetup smallLater .none =
          some (smallLater, ⟨0, items, .recording round outcome units⟩) := rfl
  have hpartly : (⟨0, [1, 2, 3], .sending 0 0⟩ : ChunkTask Rat Nat).step smallSetup smallLater
      (.batch (.returned (.ok ⟨[3], 2⟩))) = some (smallLater.freeWriteSlot,
        ⟨0, [1, 2, 3], .charging 0 ⟨[3], 2⟩ 2 0 1000000000⟩) := rfl
  have hrest : (⟨0, [1, 2, 3], .recording 0 ⟨[3], 2⟩ 2⟩ : ChunkTask Rat Nat).step smallSetup
      smallStart .none = some ((smallStart.countBatch [1, 2, 3] ⟨[3], 2⟩ 2).count .resubmission,
        ⟨0, [3], .resting 1 50000000⟩) := by
    simp only [step, record, hdelay]
    rfl
  have hresumed : (⟨0, [3], .resting 1 50000000⟩ : ChunkTask Rat Nat).step smallSetup smallLater
      .none = some (smallLater, ⟨0, [3], .connecting 1 0⟩) := rfl
  have hwholly : (⟨0, [3], .sending 1 0⟩ : ChunkTask Rat Nat).step smallSetup smallLater
      (.batch (.returned (.ok ⟨[], 1⟩))) = some (smallLater.freeWriteSlot,
        ⟨0, [3], .charging 1 ⟨[], 1⟩ 1 0 1000000000⟩) := rfl
  have hfinished : (⟨0, [3], .recording 1 ⟨[], 1⟩ 1⟩ : ChunkTask Rat Nat).step smallSetup smallStart
      .none = some (smallStart.countBatch [3] ⟨[], 1⟩ 1,
        ⟨0, [], .ending (.returned (.ok ()))⟩) := rfl
  have hfirst := (((Course.start.step hsent).step hpartly).step hcharged).step hrest
  have hcourse := ((((hfirst.step hresumed).step hsent).step hwholly).step hcharged).step hfinished
  exact ⟨_, hcourse, rfl⟩

theorem ChunkTask.writes_exactly_in_two : ∃ deeds,
    Course smallSetup ⟨0, [1, 2, 3], .connecting 0 0⟩ deeds ⟨0, [], .ending (.returned (.ok ()))⟩ ∧
      deeds.IsCounted ∧ remainder [1, 2, 3] deeds.exchanges = [] ∧
      tally Exchange.acknowledged deeds.exchanges = ([1, 2, 3] : Multiset Nat) := by
  obtain ⟨deeds, hcourse, hexchanges⟩ := exists_course_in_two
  have hfaithful : ∀ x ∈ deeds.exchanges, x.IsFaithful := by
    rw [hexchanges]
    refine List.forall_mem_cons.2 ⟨?_, List.forall_mem_cons.2 ⟨?_, List.forall_mem_nil _⟩⟩
    · exact Multiset.zero_le _
    · exact Multiset.coe_le.2 (by decide)
  obtain ⟨-, -, -, hparts, hended⟩ := writes_exactly hasDelays_smallSetup hcourse hfaithful
  obtain ⟨hcounted, hnothing⟩ := hended _ rfl
  have hleft : remainder [1, 2, 3] deeds.exchanges = [] := hnothing
  rw [hleft] at hparts
  exact ⟨deeds, hcourse, hcounted, hleft, (add_zero _).symm.trans hparts⟩

end TableCopy
