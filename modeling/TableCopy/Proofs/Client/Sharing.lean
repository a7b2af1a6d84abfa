import TableCopy.Proofs.Client.Traffic

/-!
# Tasks that share a client

Any number of tasks use the clones of one client, which serves scans, writes or both. They
join when they like and step in any order; what else they find is any state of a copy. Next to
each task stand the permits that its own steps have taken and not given back, whatever it needs
them for. They turn out to be its requests in flight, so that the limit of the client is kept
and no permit is lost.
-/

namespace TableCopy

variable {α ι : Type}

/-- A task that makes requests: the scan of a segment, or the writing of a chunk. -/
inductive Caller (α ι : Type)
  | scan (task : SegmentTask α ι)
  | write (task : ChunkTask α ι)

/-- Who sleeps waits for no answer. -/
theorem ChunkTask.call?_of_wake? {task : ChunkTask α ι} (h : task.wake?.isSome = true) :
    task.call? = none := by
  obtain ⟨segment, pending, phase⟩ := task
  cases phase <;> first | rfl | cases h

namespace Caller

def call? (setup : Setup α) : Caller α ι → Option (Call ι)
  | scan task => task.call? setup
  | write task => task.call?.map .batch

/-- The requests in flight of a task, by direction. -/
def inFlight (setup : Setup α) (caller : Caller α ι) : Direction → Nat :=
  Call.inFlightOf (caller.call? setup)

/-- Whether a task has not begun. -/
def isReady : Caller α ι → Bool
  | scan ⟨_, _, _, .ready⟩ | write ⟨_, _, .ready⟩ => true
  | _ => false

def isFinished : Caller α ι → Bool
  | scan task => task.isFinished
  | write task => task.isFinished

/-- When a task wakes that backs off, is paced, or rests before a resubmission. -/
def wake? : Caller α ι → Option Nat
  | scan task => task.wake?
  | write task => task.wake?

/-- Whether a task is handing a page over, to the paced writer or to a consumer outside. -/
def isHandingOver : Caller α ι → Bool
  | scan ⟨_, _, _, .delivering ..⟩ | scan ⟨_, _, _, .handing ..⟩ => true
  | _ => false

/-- The chunk that the thread of a segment writes itself. -/
def inline? : Caller α ι → Option (ChunkTask α ι)
  | scan task => task.inline?
  | write _ => none

variable {setup : Setup α} {caller : Caller α ι}

theorem inFlight_of_isReady (h : caller.isReady = true) : caller.inFlight setup = 0 := by
  unfold isReady at h
  split at h <;> first | rfl | cases h

theorem inFlight_of_isFinished (h : caller.isFinished = true) : caller.inFlight setup = 0 := by
  cases caller with
  | scan task => exact SegmentTask.inFlight_of_isFinished h
  | write task =>
    obtain ⟨segment, pending, rfl⟩ := ChunkTask.exists_of_isFinished h
    rfl

theorem inFlight_of_wake? (h : caller.wake?.isSome = true) : caller.inFlight setup = 0 := by
  cases caller with
  | scan task =>
    obtain ⟨segment, key, pages, phase⟩ := task
    cases phase with
    | delivering nextKey delivery =>
      obtain ⟨number, phase⟩ := delivery
      cases phase with
      | running task rest =>
        have hcall : task.call? = none := ChunkTask.call?_of_wake? h
        show Call.inFlightOf (task.call?.map .batch) = 0
        rw [hcall]
        rfl
      | _ => rfl
    | backingOff | charging => rfl
    | _ => cases h
  | write task =>
    have hcall : task.call? = none := ChunkTask.call?_of_wake? h
    show Call.inFlightOf (task.call?.map .batch) = 0
    rw [hcall]
    rfl

/-- While a page is handed over, the only request is that of a chunk which the same thread
writes. -/
theorem inFlight_of_isHandingOver (h : caller.isHandingOver = true) :
    caller.inFlight setup = (caller.inline?.map ChunkTask.inFlight).getD 0 := by
  unfold isHandingOver at h
  split at h
  · rename_i nextKey delivery
    obtain ⟨number, phase⟩ := delivery
    cases phase <;> rfl
  · rfl
  · cases h

section Steps

variable [Quantity α]

/-- A step of the task. -/
def step (setup : Setup α) (s : State α ι) (answer : Answer α ι) :
    Caller α ι → Option (State α ι × Caller α ι)
  | scan task => (task.step setup s answer).map fun (s, task) => (s, scan task)
  | write task => (task.step setup s answer).map fun (s, task) => (s, write task)

theorem traffic_of_step {s t : State α ι} {answer : Answer α ι} {next : Caller α ι}
    (h : caller.step setup s answer = some (t, next)) :
    Traffic s.slots (caller.inFlight setup) t.slots (next.inFlight setup) := by
  cases caller with
  | scan task =>
    obtain ⟨⟨u, task'⟩, hstep, hnext⟩ := Option.map_eq_some_iff.1 h
    obtain ⟨rfl, rfl⟩ := Prod.mk.inj hnext
    exact (SegmentTask.traffic_of_step hstep).1
  | write task =>
    obtain ⟨⟨u, task'⟩, hstep, hnext⟩ := Option.map_eq_some_iff.1 h
    obtain ⟨rfl, rfl⟩ := Prod.mk.inj hnext
    exact (ChunkTask.rule_of_step hstep).traffic

end Steps
end Caller

/-! ## The share of a client -/

/-- The requests among those of both directions that go to a client, which serves some
directions. -/
def servedOf (serves : Direction → Bool) (requests : Direction → Nat) : Nat :=
  (if serves .read then requests .read else 0) + if serves .write then requests .write else 0

/-- The slots of a client after a step that has found them in each direction the client serves.
The step has changed those of one direction at most. -/
def slotsAfter (serves : Direction → Bool) (slots : Connections)
    (left : Direction → Connections) : Connections :=
  if serves .read = true ∧ left .read ≠ slots then left .read
  else if serves .write then left .write
  else slots

section Serving

variable {serves : Direction → Bool} {slots : Connections} {found left : Direction → Connections}
variable {requests requests' : Direction → Nat}

@[simp] theorem servedOf_zero : servedOf serves 0 = 0 := by
  simp [servedOf]

theorem servedOf_add (requests requests' : Direction → Nat) :
    servedOf serves (requests + requests') =
      servedOf serves requests + servedOf serves requests' := by
  unfold servedOf
  split <;> split <;> simp [add_add_add_comm]

theorem servedOf_single (direction : Direction) :
    servedOf serves (Pi.single direction 1) = if serves direction then 1 else 0 := by
  cases direction <;> simp [servedOf]

theorem slotsAfter_self (hfound : ∀ direction, serves direction = true → found direction = slots) :
    slotsAfter serves slots found = slots := by
  unfold slotsAfter
  split
  · rename_i hread
    exact absurd (hfound .read hread.1) hread.2
  · split
    · rename_i hwrite
      exact hfound .write hwrite
    · rfl

theorem slotsAfter_update
    (hfound : ∀ direction, serves direction = true → found direction = slots)
    (direction : Direction) (changed : Connections) :
    slotsAfter serves slots (Function.update found direction changed) =
      if serves direction then changed else slots := by
  cases direction with
  | read =>
    have hwrite : (if serves .write then Function.update found .read changed .write else slots) =
        slots := by
      split
      · rename_i hserves
        rw [Function.update_of_ne (by decide)]
        exact hfound .write hserves
      · rfl
    rw [slotsAfter, Function.update_self, hwrite]
    by_cases hchanged : changed = slots
    · rw [hchanged, if_neg fun h => h.2 rfl, ite_self]
    · simp [hchanged]
  | write =>
    have hread : Function.update found .write changed .read = found .read :=
      Function.update_of_ne (by decide) ..
    rw [slotsAfter, hread, Function.update_self, if_neg fun h => h.2 (hfound .read h.1)]

/-- With a step a client takes a slot for a request, or has one given back, or neither. -/
theorem Traffic.slotsAfter (h : Traffic found requests left requests')
    (hfound : ∀ direction, serves direction = true → found direction = slots) :
    (TableCopy.slotsAfter serves slots left = slots ∧
        servedOf serves requests' = servedOf serves requests) ∨
      (slots.acquire? = some (TableCopy.slotsAfter serves slots left) ∧
        servedOf serves requests' = servedOf serves requests + 1) ∨
      (TableCopy.slotsAfter serves slots left = slots.release ∧
        servedOf serves requests = servedOf serves requests' + 1) := by
  cases h with
  | keep => exact .inl ⟨slotsAfter_self hfound, rfl⟩
  | @send direction taken hfree =>
    rw [slotsAfter_update hfound, servedOf_add, servedOf_single]
    cases hserves : serves direction with
    | true =>
      rw [hfound direction hserves] at hfree
      exact .inr (.inl ⟨hfree, rfl⟩)
    | false => exact .inl ⟨rfl, rfl⟩
  | @answer direction left hleft =>
    rw [slotsAfter_update hfound, ← hleft, servedOf_add, servedOf_single]
    cases hserves : serves direction with
    | true =>
      rw [hfound direction hserves]
      exact .inr (.inr ⟨rfl, rfl⟩)
    | false => exact .inl ⟨rfl, rfl⟩

end Serving

/-! ## Clients and their tasks -/

/-- A task of a copy, and the permits of a client that it has taken and not given back. -/
structure Sharer (α ι : Type) where
  setup : Setup α
  caller : Caller α ι
  permits : Nat := 0

/-- A client and the tasks that share it. -/
structure SharedClient (α ι : Type) where
  slots : Connections
  sharers : Multiset (Sharer α ι) := 0

/-- The requests in flight of a task on a client that serves some directions. -/
def Sharer.inFlight (serves : Direction → Bool) (sharer : Sharer α ι) : Nat :=
  servedOf serves (sharer.caller.inFlight sharer.setup)

namespace SharedClient

/-- The requests in flight on a client. -/
def inFlight (serves : Direction → Bool) (client : SharedClient α ι) : Nat :=
  (client.sharers.map (Sharer.inFlight serves)).sum

/-- The permits that tasks hold. -/
def permits (client : SharedClient α ι) : Nat := (client.sharers.map Sharer.permits).sum

variable {serves : Direction → Bool} {maxConnections : Nat} {client : SharedClient α ι}

/-- The slots held are the permits that tasks hold, and these are their requests in flight. -/
structure IsKept (serves : Direction → Bool) (maxConnections : Nat) (client : SharedClient α ι) :
    Prop where
  permits_eq : ∀ sharer ∈ client.sharers, sharer.permits = sharer.inFlight serves
  slots : client.slots.Serves maxConnections (client.inFlight serves)

/-- A client whose requests in flight are within its limit, with a permit for each of them and
for nothing else. -/
structure IsLimited (serves : Direction → Bool) (maxConnections : Nat)
    (client : SharedClient α ι) : Prop where
  inFlight_le : client.inFlight serves ≤ max 1 maxConnections
  /-- What is free and what the tasks hold is constant. -/
  available_add : ∃ free, client.slots.available = some free ∧
    free + client.permits = max 1 maxConnections
  /-- The permits that a task holds are those of its requests in flight. -/
  permits_eq : ∀ sharer ∈ client.sharers, sharer.permits = sharer.inFlight serves
  /-- A task that backs off, is paced or rests holds no permit. -/
  sleeping : ∀ sharer ∈ client.sharers, sharer.caller.wake?.isSome = true → sharer.permits = 0
  /-- A task that hands a page over holds no permit, unless its thread writes a chunk of the
  page with a request in flight for it. -/
  handing : ∀ sharer ∈ client.sharers, sharer.caller.isHandingOver = true →
    sharer.permits = servedOf serves ((sharer.caller.inline?.map ChunkTask.inFlight).getD 0)
  /-- When all tasks have ended the slots are those of a new client. -/
  returned : (∀ sharer ∈ client.sharers, sharer.caller.isFinished = true) →
    client.slots = .ofLimit maxConnections

theorem inFlight_cons (slots : Connections) (sharer : Sharer α ι) (others : Multiset (Sharer α ι)) :
    inFlight serves ⟨slots, sharer ::ₘ others⟩ =
      sharer.inFlight serves + (others.map (Sharer.inFlight serves)).sum := by
  rw [inFlight, Multiset.map_cons, Multiset.sum_cons]

theorem IsKept.join {slots : Connections} {sharers : Multiset (Sharer α ι)}
    (h : IsKept serves maxConnections ⟨slots, sharers⟩) (setup : Setup α) {caller : Caller α ι}
    (hready : caller.isReady = true) :
    IsKept serves maxConnections ⟨slots, ⟨setup, caller, 0⟩ ::ₘ sharers⟩ := by
  have hnone : (⟨setup, caller, 0⟩ : Sharer α ι).inFlight serves = 0 := by
    rw [Sharer.inFlight, Caller.inFlight_of_isReady hready, servedOf_zero]
  refine ⟨fun sharer hmem => ?_, ?_⟩
  · rcases Multiset.mem_cons.1 hmem with rfl | hmem
    · exact hnone.symm
    · exact h.permits_eq sharer hmem
  · rw [inFlight_cons, hnone, zero_add]
    exact h.slots

theorem IsKept.permits_eq_inFlight (h : client.IsKept serves maxConnections) :
    client.permits = client.inFlight serves := by
  rw [permits, inFlight, Multiset.map_congr rfl h.permits_eq]

theorem IsKept.isLimited (h : client.IsKept serves maxConnections) :
    client.IsLimited serves maxConnections where
  inFlight_le := max_comm maxConnections 1 ▸ h.slots.le_limit
  available_add := by
    rw [h.permits_eq_inFlight, max_comm]
    exact h.slots.available_add
  permits_eq := h.permits_eq
  sleeping sharer hmem hwake := by
    rw [h.permits_eq sharer hmem, Sharer.inFlight, Caller.inFlight_of_wake? hwake, servedOf_zero]
  handing sharer hmem hhanding := by
    rw [h.permits_eq sharer hmem, Sharer.inFlight, Caller.inFlight_of_isHandingOver hhanding]
  returned hfinished := by
    have hnone : client.inFlight serves = 0 := by
      refine Multiset.sum_eq_zero fun requests hrequests => ?_
      obtain ⟨sharer, hmem, rfl⟩ := Multiset.mem_map.1 hrequests
      rw [Sharer.inFlight, Caller.inFlight_of_isFinished (hfinished sharer hmem), servedOf_zero]
    exact (hnone ▸ h.slots).eq_ofLimit

variable [Quantity α]

/-- What the tasks of a client that serves some directions can come to. -/
inductive Reachable (serves : Direction → Bool) (maxConnections : Nat) : SharedClient α ι → Prop
  | start : Reachable serves maxConnections ⟨.ofLimit maxConnections, 0⟩
  | join {slots sharers} (setup : Setup α) {caller : Caller α ι}
      (reached : Reachable serves maxConnections ⟨slots, sharers⟩) (h : caller.isReady = true) :
    Reachable serves maxConnections ⟨slots, ⟨setup, caller, 0⟩ ::ₘ sharers⟩
  /-- A task finds the slots of the client, and whatever else. -/
  | step {slots slots' others} {setup : Setup α} {caller next : Caller α ι} {permits : Nat}
      {s t : State α ι} {answer : Answer α ι}
      (reached : Reachable serves maxConnections ⟨slots, ⟨setup, caller, permits⟩ ::ₘ others⟩)
      (hfound : ∀ direction, serves direction = true → s.slots direction = slots)
      (h : caller.step setup s answer = some (t, next))
      (hleft : slotsAfter serves slots t.slots = slots') :
    Reachable serves maxConnections
      ⟨slots', ⟨setup, next, permits + slots'.held - slots.held⟩ ::ₘ others⟩

/-- A step changes the permits of its task as it changes the requests of its task. -/
theorem IsKept.step {slots slots' : Connections} {others : Multiset (Sharer α ι)} {setup : Setup α}
    {caller next : Caller α ι} {permits : Nat} {s t : State α ι} {answer : Answer α ι}
    (h : IsKept serves maxConnections ⟨slots, ⟨setup, caller, permits⟩ ::ₘ others⟩)
    (hfound : ∀ direction, serves direction = true → s.slots direction = slots)
    (hstep : caller.step setup s answer = some (t, next))
    (hleft : slotsAfter serves slots t.slots = slots') :
    IsKept serves maxConnections
      ⟨slots', ⟨setup, next, permits + slots'.held - slots.held⟩ ::ₘ others⟩ := by
  have hpermits : permits = servedOf serves (caller.inFlight setup) :=
    h.permits_eq _ (Multiset.mem_cons_self _ _)
  have hslots := h.slots
  rw [inFlight_cons, Sharer.inFlight] at hslots
  change slots.Serves maxConnections _ at hslots
  suffices hafter :
      permits + slots'.held - slots.held = servedOf serves (next.inFlight setup) ∧
      slots'.Serves maxConnections
        (servedOf serves (next.inFlight setup) + (others.map (Sharer.inFlight serves)).sum) by
    refine ⟨fun sharer hmem => ?_, ?_⟩
    · rcases Multiset.mem_cons.1 hmem with rfl | hmem
      · exact hafter.1
      · exact h.permits_eq sharer (Multiset.mem_cons_of_mem hmem)
    · rw [inFlight_cons, Sharer.inFlight]
      exact hafter.2
  have htraffic := (Caller.traffic_of_step hstep).slotsAfter hfound
  rw [hleft] at htraffic
  rcases htraffic with ⟨hsame, hrequests⟩ |
    ⟨hfree, hrequests⟩ | ⟨hback, hrequests⟩
  · rw [hsame, hrequests]
    exact ⟨by omega, hslots⟩
  · have htaken := hslots.acquire hfree
    have hbefore := hslots.held_eq
    have hheld := htaken.held_eq
    rw [hrequests, Nat.add_right_comm]
    exact ⟨by omega, htaken⟩
  · rw [hrequests, Nat.add_right_comm] at hslots
    have hreturned := hslots.release
    have hbefore := hslots.held_eq
    have hheld := hreturned.held_eq
    rw [hback]
    exact ⟨by omega, hreturned⟩

theorem Reachable.isKept (h : Reachable serves maxConnections client) :
    client.IsKept serves maxConnections := by
  induction h with
  | start => exact ⟨fun sharer hmem => absurd hmem (Multiset.notMem_zero _),
      Connections.serves_ofLimit maxConnections⟩
  | join setup _ hready ih => exact ih.join setup hready
  | step _ hfound hstep hleft ih => exact ih.step hfound hstep hleft

/-- The small copy as the tasks of a client with one slot find it. -/
def oneSlot (held : Nat) : State Rat Nat :=
  { smallStart with readSlots := ⟨some 1, held⟩, writeSlots := ⟨some 1, held⟩ }

/-- The scan of a segment is throttled and backs off, and a chunk is written with the slot that
it has given back. -/
theorem exists_reachable_of_throttled : ∃ client : SharedClient Rat Nat,
    Reachable (fun _ => true) 1 client ∧ client.inFlight (fun _ => true) = 1 ∧
      ∃ sharer ∈ client.sharers, sharer.caller.wake? = some 100000000 := by
  have hdelay : smallSetup.scanRetry.delay 0 = .ok 100000000 := by decide +kernel
  have hagain : smallSetup.scanRetry.onFailure 0 (.throttled "slow down") =
      .again (.ok 100000000) := by
    rw [RetryConfig.onFailure, hdelay]
    rfl
  have hslots : ∀ held direction, (fun _ : Direction => true) direction = true →
      (oneSlot held).slots direction = ⟨some 1, held⟩ := by
    intro held direction _
    cases direction <;> rfl
  have hlooked : (Caller.scan ⟨0, none, 0, .ready⟩ : Caller Rat Nat).step smallSetup (oneSlot 0)
      .none = some (_, .scan ⟨0, none, 0, .checking⟩) := rfl
  have hready : (Caller.scan ⟨0, none, 0, .checking⟩ : Caller Rat Nat).step smallSetup (oneSlot 0)
      .none = some (_, .scan ⟨0, none, 0, .connecting 0⟩) := rfl
  have hasked : (Caller.scan ⟨0, none, 0, .connecting 0⟩ : Caller Rat Nat).step smallSetup
      (oneSlot 0) .none = some (_, .scan ⟨0, none, 0, .fetching 0⟩) := rfl
  have hthrottled : (Caller.scan ⟨0, none, 0, .fetching 0⟩ : Caller Rat Nat).step smallSetup
      (oneSlot 1) (.page (.returned (.error (.throttled "slow down")))) =
        some ((oneSlot 1).freeReadSlot, .scan ⟨0, none, 0, .backingOff 1 100000000⟩) := by
    simp only [Caller.step, SegmentTask.step, SegmentTask.receive, hagain, Option.map_some]
    rfl
  have hbegun : (Caller.write ⟨0, [1, 2, 3], .ready⟩ : Caller Rat Nat).step smallSetup
      (oneSlot 0) .none = some (_, .write ⟨0, [1, 2, 3], .connecting 0 0⟩) := rfl
  have hsent : (Caller.write ⟨0, [1, 2, 3], .connecting 0 0⟩ : Caller Rat Nat).step smallSetup
      (oneSlot 0) .none = some (_, .write ⟨0, [1, 2, 3], .sending 0 0⟩) := rfl
  have hjoined : Reachable (fun _ => true) 1
      ⟨⟨some 1, 0⟩, ⟨smallSetup, .scan ⟨0, none, 0, .ready⟩, 0⟩ ::ₘ
        {⟨smallSetup, .write ⟨0, [1, 2, 3], .ready⟩, 0⟩}⟩ :=
    (Reachable.start.join smallSetup rfl).join smallSetup rfl
  have hscanned : Reachable (fun _ => true) 1
      ⟨⟨some 1, 0⟩, ⟨smallSetup, .scan ⟨0, none, 0, .backingOff 1 100000000⟩, 0⟩ ::ₘ
        {⟨smallSetup, .write ⟨0, [1, 2, 3], .ready⟩, 0⟩}⟩ :=
    (((hjoined.step (hslots 0) hlooked rfl).step (hslots 0) hready rfl).step (hslots 0) hasked
      rfl).step (hslots 1) hthrottled rfl
  rw [← Multiset.singleton_add, add_comm, Multiset.singleton_add] at hscanned
  have hopened : Reachable (fun _ => true) 1
      ⟨⟨some 1, 0⟩, ⟨smallSetup, .write ⟨0, [1, 2, 3], .connecting 0 0⟩, 0⟩ ::ₘ
        {⟨smallSetup, .scan ⟨0, none, 0, .backingOff 1 100000000⟩, 0⟩}⟩ :=
    hscanned.step (hslots 0) hbegun rfl
  have hwritten := hopened.step (hslots 0) hsent rfl
  exact ⟨_, hwritten, rfl, _, Multiset.mem_cons_of_mem (Multiset.mem_singleton_self _), rfl⟩

end SharedClient
end TableCopy
