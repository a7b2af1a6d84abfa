import TableCopy.Proofs.Pipeline.Shared

/-!
# Rules of a chunk task

`ChunkTask.Rule` lists everything that one step of a chunk task can do, each with the
guard under which it happens. A step that ends a call notes the call with its answer
as an exchange. Whatever holds of a chunk task is derived from these rules.
-/

namespace TableCopy

variable {α ι : Type} [Quantity α]

namespace ChunkTask

/-- One step of a chunk task: the exchange it ends, the state it leaves, and where the
task stands then. -/
inductive Rule (setup : Setup α) (s : State α ι) :
    ChunkTask α ι → List (Exchange α ι) → State α ι → ChunkTask α ι → Prop
  /-- The task starts after an interrupt and gives its items up. -/
  | interrupt {segment pending} (h : s.interrupted = true) :
    Rule setup s ⟨segment, pending, .ready⟩ [] (s.drop pending)
      ⟨segment, pending,
        .ending (.returned (.error (interruption setup ⟨segment, pending, .ready⟩)))⟩
  | start {segment pending} (h : s.interrupted = false) :
    Rule setup s ⟨segment, pending, .ready⟩ [] s ⟨segment, pending, .connecting 0 0⟩
  | send {segment pending round attempt slots} (h : s.writeSlots.acquire? = some slots) :
    Rule setup s ⟨segment, pending, .connecting round attempt⟩ []
      ((s.holdWriteSlots slots).log (.sent setup.write.table pending))
      ⟨segment, pending, .sending round attempt⟩
  | crash {segment pending round attempt} (reason : Option String) :
    Rule setup s ⟨segment, pending, .sending round attempt⟩
      [Exchange.batch pending (.crashed reason)]
      (s.freeWriteSlot.drop pending) ⟨segment, pending, .ending (.crashed reason)⟩
  /-- The service answered: what it applied is charged next. -/
  | answer {segment pending round attempt units} (outcome : BatchOutcome α ι)
      (hunits : units = ChunkTask.units ⟨segment, pending, .sending round attempt⟩ outcome) :
    Rule setup s ⟨segment, pending, .sending round attempt⟩
      [Exchange.batch pending (.returned (.ok outcome))] s.freeWriteSlot
      ⟨segment, pending, .charging round outcome units (s.writePacer.permits units) s.now⟩
  | giveUp {segment pending round attempt e}
      (h : setup.writeRetry.onFailure attempt e = .giveUp) :
    Rule setup s ⟨segment, pending, .sending round attempt⟩
      [Exchange.batch pending (.returned (.error e))]
      (s.freeWriteSlot.drop pending) ⟨segment, pending, .ending (.returned (.error e))⟩
  /-- The delay before the next attempt is no duration. -/
  | faultyDelay {segment pending round attempt e fault}
      (h : setup.writeRetry.onFailure attempt e = .again (.error fault)) :
    Rule setup s ⟨segment, pending, .sending round attempt⟩
      [Exchange.batch pending (.returned (.error e))]
      (s.freeWriteSlot.drop pending) ⟨segment, pending, .ending (.crashed (some fault.message))⟩
  | backOff {segment pending round attempt e delay}
      (h : setup.writeRetry.onFailure attempt e = .again (.ok delay)) :
    Rule setup s ⟨segment, pending, .sending round attempt⟩
      [Exchange.batch pending (.returned (.error e))]
      s.freeWriteSlot ⟨segment, pending, .backingOff round (attempt + 1) (s.wakeAfter delay)⟩
  | retry {segment pending round attempt wake} (h : wake ≤ s.now) :
    Rule setup s ⟨segment, pending, .backingOff round attempt wake⟩ [] s
      ⟨segment, pending, .connecting round attempt⟩
  | charge {segment pending round outcome units permits wake pacer remaining}
      (hwake : wake ≤ s.now) (hpermits : permits ≠ 0)
      (h : s.writePacer.charge s.now permits = .granted pacer remaining) :
    Rule setup s ⟨segment, pending, .charging round outcome units permits wake⟩ []
      (s.paceWrites pacer)
      ⟨segment, pending, .charging round outcome units remaining s.now⟩
  | await {segment pending round outcome units permits wake time}
      (h : s.writePacer.charge s.now permits = .notBefore time) :
    Rule setup s ⟨segment, pending, .charging round outcome units permits wake⟩ [] s
      ⟨segment, pending, .charging round outcome units permits time⟩
  | charged {segment pending round outcome units wake} (hwake : wake ≤ s.now) :
    Rule setup s ⟨segment, pending, .charging round outcome units 0 wake⟩ [] s
      ⟨segment, pending, .recording round outcome units⟩
  /-- Nothing is left unprocessed. -/
  | finish {segment pending round outcome units} (h : outcome.unprocessed = []) :
    Rule setup s ⟨segment, pending, .recording round outcome units⟩ []
      (s.countBatch pending outcome units)
      ⟨segment, outcome.unprocessed, .ending (.returned (.ok ()))⟩
  | exhaust {segment pending round outcome units} (h : outcome.unprocessed ≠ [])
      (hround : setup.writeRetry.maxRetries ≤ round) :
    Rule setup s ⟨segment, pending, .recording round outcome units⟩ []
      ((s.countBatch pending outcome units).drop outcome.unprocessed)
      ⟨segment, outcome.unprocessed,
        .ending (.returned (.error (exhaustion setup outcome round)))⟩
  /-- The delay before the resubmission is no duration. -/
  | faultyRest {segment pending round outcome units fault} (h : outcome.unprocessed ≠ [])
      (hround : round < setup.writeRetry.maxRetries)
      (hdelay : setup.writeRetry.delay round = .error fault) :
    Rule setup s ⟨segment, pending, .recording round outcome units⟩ []
      (((s.countBatch pending outcome units).count .resubmission).drop outcome.unprocessed)
      ⟨segment, outcome.unprocessed, .ending (.crashed (some fault.message))⟩
  | rest {segment pending round outcome units delay} (h : outcome.unprocessed ≠ [])
      (hround : round < setup.writeRetry.maxRetries)
      (hdelay : setup.writeRetry.delay round = .ok delay) :
    Rule setup s ⟨segment, pending, .recording round outcome units⟩ []
      ((s.countBatch pending outcome units).count .resubmission)
      ⟨segment, outcome.unprocessed, .resting (round + 1) (s.wakeAfter delay)⟩
  | resume {segment pending round wake} (h : wake ≤ s.now) :
    Rule setup s ⟨segment, pending, .resting round wake⟩ [] s
      ⟨segment, pending, .connecting round 0⟩
  | complete {segment pending outcome} :
    Rule setup s ⟨segment, pending, .ending outcome⟩ []
      (s.endChunk (outcome.record (ChunkTask.label ⟨segment, pending, .ending outcome⟩)))
      ⟨segment, pending, .finished⟩

variable {setup : Setup α} {s t : State α ι} {task next : ChunkTask α ι}

/-- An answered batch leads on by the rule for its answer. -/
theorem rule_of_receive {segment : Nat} {pending : List ι} {round attempt : Nat}
    {outcome : Outcome (BatchOutcome α ι)}
    (h : receive setup s.freeWriteSlot ⟨segment, pending, .sending round attempt⟩ round attempt
      outcome = (t, next)) :
    Rule setup s ⟨segment, pending, .sending round attempt⟩
      [Exchange.batch pending outcome] t next := by
  unfold receive at h
  split at h
  · obtain ⟨rfl, rfl⟩ := Prod.mk.inj h
    exact .crash _
  · obtain ⟨rfl, rfl⟩ := Prod.mk.inj h
    exact .answer _ rfl
  · split at h
    · rename_i hverdict
      obtain ⟨rfl, rfl⟩ := Prod.mk.inj h
      exact .giveUp hverdict
    · rename_i hverdict
      obtain ⟨rfl, rfl⟩ := Prod.mk.inj h
      exact .faultyDelay hverdict
    · rename_i hverdict
      obtain ⟨rfl, rfl⟩ := Prod.mk.inj h
      exact .backOff hverdict

/-- A counted batch leads on by what it left unprocessed. -/
theorem rule_of_record {segment : Nat} {pending : List ι} {round : Nat}
    {outcome : BatchOutcome α ι} {units : α}
    (h : record setup s ⟨segment, pending, .recording round outcome units⟩ round outcome units =
      (t, next)) :
    Rule setup s ⟨segment, pending, .recording round outcome units⟩ [] t next := by
  unfold record at h
  split at h
  · rename_i hempty
    obtain ⟨rfl, rfl⟩ := Prod.mk.inj h
    exact .finish (List.isEmpty_iff.1 hempty)
  · rename_i hleft
    have hne : outcome.unprocessed ≠ [] := fun hnil => hleft (List.isEmpty_iff.2 hnil)
    split at h
    · rename_i hround
      obtain ⟨rfl, rfl⟩ := Prod.mk.inj h
      exact .exhaust hne hround
    · rename_i hround
      split at h
      · rename_i hdelay
        obtain ⟨rfl, rfl⟩ := Prod.mk.inj h
        exact .faultyRest hne (Nat.lt_of_not_le hround) hdelay
      · rename_i hdelay
        obtain ⟨rfl, rfl⟩ := Prod.mk.inj h
        exact .rest hne (Nat.lt_of_not_le hround) hdelay

/-- Every step of a chunk task is one of the rules. -/
theorem rule_of_step {answer : Answer α ι} (h : task.step setup s answer = some (t, next)) :
    Rule setup s task (Exchange.ended (task.call?.map .batch) answer) t next := by
  obtain ⟨segment, pending, phase⟩ := task
  unfold step at h
  split at h
  · rename_i hphase
    obtain rfl := hphase
    split at h
    · rename_i hint
      obtain ⟨rfl, rfl⟩ := Prod.mk.inj (Option.some.inj h)
      exact .interrupt hint
    · rename_i hint
      obtain ⟨rfl, rfl⟩ := Prod.mk.inj (Option.some.inj h)
      exact .start (Bool.eq_false_iff.2 hint)
  · rename_i hphase
    obtain rfl := hphase
    obtain ⟨slots, hslots, hst⟩ := Option.map_eq_some_iff.1 h
    obtain ⟨rfl, rfl⟩ := Prod.mk.inj hst
    exact .send hslots
  · rename_i hphase
    obtain rfl := hphase
    exact rule_of_receive (Option.some.inj h)
  · rename_i hphase
    obtain rfl := hphase
    split at h
    · rename_i hwake
      obtain ⟨rfl, rfl⟩ := Prod.mk.inj (Option.some.inj h)
      exact .retry hwake
    · cases h
  · rename_i hphase
    obtain rfl := hphase
    split at h
    · cases h
    · rename_i hwake
      split at h
      · rename_i hpermits
        obtain rfl := hpermits
        obtain ⟨rfl, rfl⟩ := Prod.mk.inj (Option.some.inj h)
        exact .charged (Nat.le_of_not_lt hwake)
      · rename_i hpermits
        split at h
        · rename_i hcharge
          obtain ⟨rfl, rfl⟩ := Prod.mk.inj (Option.some.inj h)
          exact .charge (Nat.le_of_not_lt hwake) hpermits hcharge
        · rename_i hcharge
          obtain ⟨rfl, rfl⟩ := Prod.mk.inj (Option.some.inj h)
          exact .await hcharge
  · rename_i hphase
    obtain rfl := hphase
    exact rule_of_record (Option.some.inj h)
  · rename_i hphase
    obtain rfl := hphase
    split at h
    · rename_i hwake
      obtain ⟨rfl, rfl⟩ := Prod.mk.inj (Option.some.inj h)
      exact .resume hwake
    · cases h
  · rename_i hphase
    obtain rfl := hphase
    obtain ⟨rfl, rfl⟩ := Prod.mk.inj (Option.some.inj h)
    exact .complete
  · cases h

end ChunkTask
end TableCopy
