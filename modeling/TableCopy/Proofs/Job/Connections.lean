import TableCopy.Proofs.Client.Sharing
import TableCopy.Proofs.Job.Sections
import TableCopy.Service.Transport

/-!
# The requests of a job

A job makes its calls one after the other on a thread of its own: it asks for the description
of a table without a slot, and its pipe is through when the pools are shut down. The threads of
the pipe go on in between as they like. So a job is its calls, the description that it waits
for, and the copy that its pipe has begun, and any of them may move next. Both clients keep to
their limit, and a description is never asked for beside another request.
-/

namespace TableCopy

variable {α ι : Type}

/-- The direction of the requests that the client of a side makes for a copy. -/
def Side.direction : Side → Direction
  | .source => .read
  | .destination => .write

/-- A moment of a job: the calls that it has still to make, the table that it waits to be told
about, and the copy that its pipe has begun. -/
structure JobMoment (α ι : Type) where
  left : List (JobCall α)
  describing : Option Side := none
  copy : Option (Delegation α × State α ι) := none

namespace JobMoment

/-- If the pipe of a job has begun a copy, it is over and its pools are shut down. -/
def IsOver (copy : Option (Delegation α × State α ι)) : Prop :=
  ∀ delegation s, copy = some (delegation, s) → s.ending?.isSome = true

/-- The requests in flight of the copy, by direction. -/
def copyInFlight [Quantity α] (moment : JobMoment α ι) : Direction → Nat :=
  moment.copy.elim 0 fun (delegation, s) => s.inFlight delegation.setup

/-- The requests in flight on the client of a side, with those that hold no slot. -/
def inFlight [Quantity α] (moment : JobMoment α ι) (side : Side) : Nat :=
  (if moment.describing = some side then 1 else 0) + moment.copyInFlight side.direction

end JobMoment

variable [Quantity α]

/-- The copy of a delegation before its pipe, with the slots of two new clients. -/
def Delegation.opening (delegation : Delegation α) (maxConnections : Nat) (interrupted : Bool) :
    State α ι :=
  { State.initial delegation.setup delegation.readPool delegation.writePool with
    interrupted
    readSlots := .ofLimit maxConnections
    writeSlots := .ofLimit maxConnections }

/-- A pipe between two services begins like this. -/
theorem Transport.start_eq_opening (delegation : Delegation Float) (maxConnections : Nat)
    (interrupted : Bool) :
    start delegation maxConnections interrupted = delegation.opening maxConnections interrupted :=
  rfl

theorem Delegation.isFresh_opening (delegation : Delegation α) (maxConnections : Nat)
    (interrupted : Bool) :
    (delegation.opening maxConnections interrupted : State α ι).IsFresh delegation.setup where
  reliable := ⟨.inl rfl, .inl rfl⟩
  readTasks := rfl
  writeTasks := rfl
  scanTracker := rfl
  writeTracker := rfl
  metrics := rfl
  journal := rfl
  readPacer := rfl
  writePacer := rfl

theorem Delegation.slots_opening (delegation : Delegation α) (maxConnections : Nat)
    (interrupted : Bool) (direction : Direction) :
    (delegation.opening maxConnections interrupted : State α ι).slots direction =
      .ofLimit maxConnections := by
  cases direction <;> rfl

namespace JobMoment

/-- What a job with some calls can come to. A call is made when the one before it has come to
its end. -/
inductive Reachable (calls : List (JobCall α)) (maxConnections : Nat) : JobMoment α ι → Prop
  | start : Reachable calls maxConnections ⟨calls, none, none⟩
  | connect {source destination left copy}
      (reached : Reachable calls maxConnections ⟨.connect source destination :: left, none, copy⟩)
      (h : IsOver copy) :
    Reachable calls maxConnections ⟨left, none, copy⟩
  | describe {side table left copy}
      (reached : Reachable calls maxConnections ⟨.describe side table :: left, none, copy⟩)
      (h : IsOver copy) :
    Reachable calls maxConnections ⟨left, some side, copy⟩
  | described {side left copy}
      (reached : Reachable calls maxConnections ⟨left, some side, copy⟩) :
    Reachable calls maxConnections ⟨left, none, copy⟩
  | pipe {delegation left copy} (interrupted : Bool)
      (reached : Reachable calls maxConnections ⟨.pipe delegation :: left, none, copy⟩)
      (h : IsOver copy) :
    Reachable calls maxConnections ⟨left, none,
      some (delegation, (delegation.opening maxConnections interrupted).piping delegation.setup)⟩
  | step {left describing delegation s t} (move : Move α ι)
      (reached : Reachable calls maxConnections ⟨left, describing, some (delegation, s)⟩)
      (h : s.step delegation.setup move = some t) :
    Reachable calls maxConnections ⟨left, describing, some (delegation, t)⟩
  | release {left describing delegation s result}
      (reached : Reachable calls maxConnections ⟨left, describing, some (delegation, s)⟩)
      (h : s.control = .returned result) :
    Reachable calls maxConnections ⟨left, describing, some (delegation, s.releasing)⟩

/-- The copy of a job is a run of its pipe, and has come to its result if the job is asking for
a description. -/
structure IsKept (maxConnections : Nat) (moment : JobMoment α ι) : Prop where
  run : ∀ delegation s, moment.copy = some (delegation, s) → ∃ interrupted history,
    Run delegation.setup
      ((delegation.opening maxConnections interrupted).piping delegation.setup) history s
  ended : moment.describing ≠ none → ∀ delegation s, moment.copy = some (delegation, s) →
    ∃ result, s.control.result? = some result

variable {calls : List (JobCall α)} {maxConnections : Nat} {moment : JobMoment α ι}

theorem Reachable.isKept (h : Reachable calls maxConnections moment) :
    moment.IsKept maxConnections := by
  induction h with
  | start => exact ⟨fun _ _ hcopy => absurd hcopy.symm (Option.some_ne_none _), absurd rfl⟩
  | connect _ _ ih => exact ⟨ih.run, absurd rfl⟩
  | @describe side table left copy _ hover ih =>
    refine ⟨ih.run, fun _ delegation s hcopy => ?_⟩
    obtain ⟨ending, hending⟩ := Option.isSome_iff_exists.1 (hover delegation s hcopy)
    exact ⟨_, (State.of_ending?_eq_some hending).1⟩
  | described _ ih => exact ⟨ih.run, absurd rfl⟩
  | @pipe delegation left copy interrupted _ _ _ =>
    refine ⟨fun delegation' s hcopy => ?_, absurd rfl⟩
    obtain ⟨rfl, rfl⟩ := Prod.mk.inj (Option.some.inj hcopy)
    exact ⟨interrupted, [], .start⟩
  | @step left describing delegation s t move _ hstep ih =>
    obtain ⟨interrupted, history, hrun⟩ := ih.run delegation s rfl
    refine ⟨fun delegation' u hcopy => ?_, fun hdescribing delegation' u hcopy => ?_⟩
    · obtain ⟨rfl, rfl⟩ := Prod.mk.inj (Option.some.inj hcopy)
      exact ⟨interrupted, _, hrun.step move hstep⟩
    · obtain ⟨rfl, rfl⟩ := Prod.mk.inj (Option.some.inj hcopy)
      obtain ⟨result, hresult⟩ := ih.ended hdescribing delegation s rfl
      exact ⟨result, State.result?_of_result? rfl (hrun.isPiping rfl) hstep hresult⟩
  | @release left describing delegation s result _ hreturned ih =>
    obtain ⟨interrupted, history, hrun⟩ := ih.run delegation s rfl
    refine ⟨fun delegation' u hcopy => ?_, fun _ delegation' u hcopy => ?_⟩
    · obtain ⟨rfl, rfl⟩ := Prod.mk.inj (Option.some.inj hcopy)
      exact ⟨interrupted, _, hrun.release hreturned⟩
    · obtain ⟨rfl, rfl⟩ := Prod.mk.inj (Option.some.inj hcopy)
      exact ⟨result, by rw [State.releasing, hreturned]; rfl⟩

/-- The copy of a job may go on by any run. -/
theorem Reachable.of_run {left : List (JobCall α)} {describing : Option Side}
    {delegation : Delegation α} {s t : State α ι} {history : List (Exchange α ι)}
    (h : Reachable calls maxConnections ⟨left, describing, some (delegation, s)⟩)
    (hrun : Run delegation.setup s history t) :
    Reachable calls maxConnections ⟨left, describing, some (delegation, t)⟩ := by
  induction hrun with
  | start => exact h
  | step move _ hstep ih => exact ih.step move hstep
  | release _ hreturned ih => exact ih.release hreturned

/-- A job whose two clients keep to their limit, and that asks for no description beside another
request. -/
structure IsLimited (maxConnections : Nat) (moment : JobMoment α ι) : Prop where
  inFlight_le : ∀ side, moment.inFlight side ≤ max 1 maxConnections
  alone : ∀ side, moment.describing = some side → moment.copyInFlight = 0
  /-- What is free and what is in flight of the copy is constant. -/
  available_add : ∀ delegation s, moment.copy = some (delegation, s) → ∀ direction, ∃ free,
    (s.slots direction).available = some free ∧
      free + s.inFlight delegation.setup direction = max 1 maxConnections
  /-- When the copy has come to its result the slots are those of new clients. -/
  returned : ∀ delegation s, moment.copy = some (delegation, s) →
    s.control.result?.isSome = true → ∀ direction, s.slots direction = .ofLimit maxConnections

namespace IsKept

variable (h : moment.IsKept maxConnections) {delegation : Delegation α} {s : State α ι}

include h

theorem slots_serve (hcopy : moment.copy = some (delegation, s)) (direction : Direction) :
    (s.slots direction).Serves maxConnections (s.inFlight delegation.setup direction) := by
  obtain ⟨interrupted, history, hrun⟩ := h.run delegation s hcopy
  exact hrun.slots_serve rfl (delegation.isFresh_opening maxConnections interrupted)
    (delegation.slots_opening maxConnections interrupted) direction

theorem inFlight_of_result? {result : Except CopyError Unit}
    (hcopy : moment.copy = some (delegation, s)) (hresult : s.control.result? = some result) :
    s.inFlight delegation.setup = 0 := by
  obtain ⟨interrupted, history, hrun⟩ := h.run delegation s hcopy
  exact hrun.inFlight_of_result? rfl (delegation.isFresh_opening maxConnections interrupted)
    hresult

theorem copyInFlight_of_describing {side : Side} (hside : moment.describing = some side) :
    moment.copyInFlight = 0 := by
  cases hcopy : moment.copy with
  | none => rw [copyInFlight, hcopy, Option.elim_none]
  | some copy =>
    obtain ⟨delegation, s⟩ := copy
    have hdescribing : moment.describing ≠ none := hside ▸ Option.some_ne_none side
    obtain ⟨result, hresult⟩ := h.ended hdescribing delegation s hcopy
    rw [copyInFlight, hcopy]
    exact h.inFlight_of_result? hcopy hresult

theorem copyInFlight_le (direction : Direction) :
    moment.copyInFlight direction ≤ max 1 maxConnections := by
  rw [max_comm]
  cases hcopy : moment.copy with
  | none =>
    rw [copyInFlight, hcopy]
    exact Nat.zero_le _
  | some copy =>
    rw [copyInFlight, hcopy]
    exact (h.slots_serve hcopy direction).le_limit

theorem isLimited : moment.IsLimited maxConnections where
  inFlight_le side := by
    by_cases hside : moment.describing = some side
    · rw [inFlight, if_pos hside, h.copyInFlight_of_describing hside]
      exact Nat.le_max_left ..
    · rw [inFlight, if_neg hside, Nat.zero_add]
      exact h.copyInFlight_le side.direction
  alone side := h.copyInFlight_of_describing
  available_add delegation s hcopy direction := by
    rw [max_comm]
    exact (h.slots_serve hcopy direction).available_add
  returned delegation s hcopy hresult direction := by
    obtain ⟨result, hresult⟩ := Option.isSome_iff_exists.1 hresult
    have hserves := h.slots_serve hcopy direction
    rw [h.inFlight_of_result? hcopy hresult] at hserves
    exact hserves.eq_ofLimit

end IsKept
end JobMoment

/-- A job that has come to the end of its pipe has asked all its questions before. -/
theorem Course.Rule.calls_of_ending {request : JobRequest α} {backend : Backend α}
    {course : Course α} (h : Course.Rule request backend course)
    (hending : course.ending.isSome = true) : ∃ contexts delegation,
      course.calls = request.questions contexts ++ [.pipe delegation] := by
  cases h with
  | delegate => exact ⟨_, _, rfl⟩
  | _ => cases hending

/-- What the pipe of the small job leaves when both clients have a single slot. -/
def throughOneSlot (delegation : Delegation Rat) : State Rat Nat :=
  ((World.ofTables smallSource slowDestination).runJob delegation.setup 2000 ()
    (delegation.opening 1 false)).2

/-- The small job asks for its destination alone, and comes to its end through a single slot for
each side, which is free then. -/
theorem JobMoment.exists_reachable_of_small : ∃ delegation,
    Reachable (JobRequest.smallRequest.run JobRequest.smallBackend).calls 1
      (⟨[.pipe delegation], some .destination, none⟩ : JobMoment Rat Nat) ∧
    Reachable (JobRequest.smallRequest.run JobRequest.smallBackend).calls 1
      (⟨[], none, some (delegation, throughOneSlot delegation)⟩ : JobMoment Rat Nat) ∧
    (throughOneSlot delegation).ending?.isSome = true := by
  have hpiped : (JobRequest.smallRequest.run JobRequest.smallBackend).ending.isSome = true := by
    decide +kernel
  have hended : ((JobRequest.smallRequest.run JobRequest.smallBackend).calls.all fun call =>
      match call with
      | .pipe delegation => (throughOneSlot delegation).ending?.isSome
      | _ => true) = true := by decide +kernel
  obtain ⟨contexts, delegation, hcalls⟩ :=
    (JobRequest.smallRequest.rule_of_run JobRequest.smallBackend).calls_of_ending hpiped
  rw [hcalls] at hended ⊢
  have hmem : .pipe delegation ∈
      JobRequest.smallRequest.questions contexts ++ [.pipe delegation] :=
    List.mem_append_right _ (List.mem_singleton_self _)
  have hidle : IsOver (none : Option (Delegation Rat × State Rat Nat)) :=
    fun _ _ h => absurd h.symm (Option.some_ne_none _)
  have hasked : Reachable (JobRequest.smallRequest.questions contexts ++ [.pipe delegation]) 1
      (⟨[.pipe delegation], some .destination, none⟩ : JobMoment Rat Nat) :=
    ((Reachable.start.connect hidle).describe hidle).described.describe hidle
  have hanswers : (World.ofTables smallSource slowDestination).Answers delegation.setup
      fun _ => True := fun _ _ => trivial
  obtain ⟨history, hrun, -⟩ := World.exists_run_runJob hanswers 2000 ()
    (delegation.opening 1 false)
  exact ⟨delegation, hasked, (hasked.described.pipe false hidle).of_run hrun,
    List.all_eq_true.1 hended _ hmem⟩

/-- Whatever directions a client serves, and whatever its tasks do in which order, its requests in
flight are within its limit; permits are held for requests in flight only, and all of them are
back when the tasks have ended. The same holds of both clients of a job, and a job asks for no
description of a table beside another request. -/
theorem limits_requests (maxConnections : Nat) :
    (∀ (serves : Direction → Bool) (client : SharedClient α ι),
      SharedClient.Reachable serves maxConnections client →
        client.IsLimited serves maxConnections) ∧
    ∀ (request : JobRequest α) (backend : Backend α) (moment : JobMoment α ι),
      JobMoment.Reachable (request.run backend).calls maxConnections moment →
        moment.IsLimited maxConnections :=
  ⟨fun _ _ h => h.isKept.isLimited, fun _ _ _ h => h.isKept.isLimited⟩

/-- With a single slot for each side, a batch is in flight while a scan backs off, the small job
asks for its destination alone, and its slots are free at its end. -/
theorem limits_requests_of_single :
    (∃ client : SharedClient Rat Nat, SharedClient.Reachable (fun _ => true) 1 client ∧
      client.inFlight (fun _ => true) = 1 ∧
      ∃ sharer ∈ client.sharers, sharer.caller.wake?.isSome = true ∧ sharer.permits = 0) ∧
    ∃ asking ended : JobMoment Rat Nat,
      JobMoment.Reachable (JobRequest.smallRequest.run JobRequest.smallBackend).calls 1 asking ∧
      JobMoment.Reachable (JobRequest.smallRequest.run JobRequest.smallBackend).calls 1 ended ∧
      asking.describing = some .destination ∧ asking.copyInFlight = 0 ∧
      ∃ delegation s, ended.copy = some (delegation, s) ∧
        ∀ direction, s.slots direction = .ofLimit 1 := by
  constructor
  · obtain ⟨client, hclient, hone, sharer, hmem, hwake⟩ :=
      SharedClient.exists_reachable_of_throttled
    have hlimited := (limits_requests 1).1 _ client hclient
    have hsome : sharer.caller.wake?.isSome = true := by rw [hwake, Option.isSome_some]
    exact ⟨client, hclient, hone, sharer, hmem, hsome, hlimited.sleeping sharer hmem hsome⟩
  · obtain ⟨delegation, hasking, hended, hending⟩ := JobMoment.exists_reachable_of_small
    have hasks := (limits_requests 1).2 _ _ _ hasking
    have hends := (limits_requests 1).2 _ _ _ hended
    obtain ⟨ending, hending⟩ := Option.isSome_iff_exists.1 hending
    have hresult := (State.of_ending?_eq_some hending).1
    refine ⟨_, _, hasking, hended, rfl, hasks.alone _ rfl, delegation, _, rfl, ?_⟩
    exact hends.returned delegation _ rfl (by rw [hresult, Option.isSome_some])

end TableCopy
