import TableCopy.Proofs.Copy.Chunks
import TableCopy.Proofs.Copy.Threads

/-!
# What a delivery hands over

A delivery cuts one chunk after the other off its page, registers it, and hands a task for it
over, to the pool or to its own thread, until nothing is left. Every chunk but the one at the end
of the page is as large as a batch may be, so the chunks are as few as they can be, and each of
them brings the delivery closer to its end. What was registered and handed over is read off the
states that the steps of the delivery find and leave.
-/

namespace TableCopy

variable {α ι : Type} {size : Nat}

/-- Items that are accepted as one batch. -/
def IsBatch (size : Nat) (items : List ι) : Prop := 1 ≤ items.length ∧ items.length ≤ size

/-! ## Chunks of a page -/

/-- The chunks that were cut off the front of a page, in order, and the rest of the page. -/
structure IsSplit (size : Nat) (page : List ι) (chunks : List (List ι)) (rest : List ι) :
    Prop where
  flatten_append : chunks.flatten ++ rest = page
  isBatch : ∀ chunk ∈ chunks, IsBatch size chunk
  /-- A chunk that is followed by anything is as large as possible. -/
  length_eq : ∀ before chunk after, chunks = before ++ chunk :: after →
    after.flatten ++ rest ≠ [] → chunk.length = size
  length_add : chunks.length + rest.length ⌈/⌉ size = page.length ⌈/⌉ size

namespace IsSplit

variable {page rest : List ι} {chunks : List (List ι)}

theorem nil (size : Nat) (page : List ι) : IsSplit size page [] page where
  flatten_append := rfl
  isBatch := by simp
  length_eq := by simp
  length_add := Nat.zero_add _

/-- One more chunk is cut off. -/
theorem snoc (h : IsSplit size page chunks rest) (hsize : 0 < size) (hrest : rest ≠ []) :
    IsSplit size page (chunks ++ [rest.take size]) (rest.drop size) where
  flatten_append := by simp [← h.flatten_append]
  isBatch chunk hmem := by
    rcases List.mem_append.1 hmem with hmem | hmem
    · exact h.isBatch chunk hmem
    · obtain rfl := List.mem_singleton.1 hmem
      have hpos := List.length_pos_iff.2 hrest
      rw [IsBatch, List.length_take]
      omega
  length_eq before chunk after heq hafter := by
    rcases List.eq_nil_or_concat' after with rfl | ⟨after, last, rfl⟩
    · obtain ⟨-, heq⟩ := List.append_inj' heq rfl
      obtain rfl := List.singleton_inj.1 heq
      have hlt : size < rest.length := by simpa using hafter
      rw [List.length_take, Nat.min_eq_left hlt.le]
    · rw [← List.cons_append, ← List.append_assoc] at heq
      obtain ⟨rfl, -⟩ := List.append_inj' heq rfl
      exact h.length_eq before chunk after rfl (by simp [hrest])
  length_add := by
    have hchunk := ceilDiv_sub_add_one (List.length_pos_iff.2 hrest) hsize
    rw [← h.length_add, ← hchunk, List.length_append, List.length_drop, List.length_singleton]
    omega

/-- There are no more chunks than it takes to hold the page. -/
theorem length_le (h : IsSplit size page chunks rest) : chunks.length ≤ page.length ⌈/⌉ size :=
  h.length_add ▸ Nat.le_add_right _ _

end IsSplit

/-! ## The deeds of a delivery -/

namespace Delivery

/-- Whether a chunk is written on the thread of a delivery. -/
def isWriting (delivery : Delivery α ι) : Bool :=
  match delivery.phase with
  | .running task _ => !task.isFinished
  | _ => false

/-- What a delivery has done: the chunk tasks that it has handed over, in order, how many chunks
it has registered, the batches that its thread has sent with their answers, the latest first, and
how many steps it has made that are not those of a chunk on its thread. -/
structure Deeds (α ι : Type) where
  handed : List (ChunkTask α ι) := []
  begun : Nat := 0
  exchanges : List (Exchange α ι) := []
  moves : Nat := 0

end Delivery

/-- The chunk task that a step of a delivery hands over: that of its own thread, if the pool has
lent it, or else what the pool has got. -/
def TaskStep.handed? (step : TaskStep α ι (Delivery α ι)) : Option (ChunkTask α ι) :=
  if step.found.writePool.callers < step.left.writePool.callers then step.next.inline?
  else step.found.writePool.got? step.left.writePool

namespace Delivery

/-- The deeds after another step of a delivery. -/
def Deeds.after (deeds : Deeds α ι) (step : TaskStep α ι (Delivery α ι)) : Deeds α ι where
  handed := deeds.handed ++ step.handed?.toList
  begun := deeds.begun + (step.left.writeTracker.pending - step.found.writeTracker.pending)
  exchanges :=
    Exchange.ended ((step.task.inline?.bind ChunkTask.call?).map .batch) step.answer ++
      deeds.exchanges
  moves := deeds.moves + (!step.task.isWriting).toNat

/-- The deeds of some steps, of which the latest stands first. -/
def deedsOf : List (TaskStep α ι (Delivery α ι)) → Deeds α ι
  | [] => {}
  | step :: earlier => (deedsOf earlier).after step

/-- Where a delivery stands that has handed over these chunks, and has registered so many. A chunk
takes three steps at most: to cut it off, to submit it, and to go on after it was written on this
thread. -/
def Stands (size : Nat) (page : List ι) (chunks : List (List ι)) (begun moves : Nat)
    (delivery : Delivery α ι) : Prop :=
  match delivery.phase with
  | .checking items => items = page ∧ chunks = [] ∧ begun = 0 ∧ moves = 0
  | .splitting rest =>
    IsSplit size page chunks rest ∧ begun = chunks.length ∧ moves ≤ 3 * chunks.length + 1
  | .submitting chunk rest =>
    IsSplit size page chunks (chunk ++ rest) ∧ IsSplit size page (chunks ++ [chunk]) rest ∧
      begun = chunks.length + 1 ∧ moves ≤ 3 * chunks.length + 2
  | .running _ rest =>
    IsSplit size page chunks rest ∧ begun = chunks.length ∧ moves ≤ 3 * chunks.length
  | .refused .. => (∃ rest, IsSplit size page chunks rest) ∧ chunks.length ≤ begun ∧
      begun ≤ chunks.length + 1 ∧ moves ≤ 3 * (page.length ⌈/⌉ size)
  | .ended result => (∃ rest, IsSplit size page chunks rest ∧
      (result = .ok () → rest = [] ∧ begun = chunks.length)) ∧ chunks.length ≤ begun ∧
      begun ≤ chunks.length + 1 ∧ moves ≤ 3 * (page.length ⌈/⌉ size) + 2

/-- The deeds of a delivery tell where it stands: it has handed over a new task for each chunk. -/
def Deeds.Tell (size : Nat) (page : List ι) (deeds : Deeds α ι) (delivery : Delivery α ι) : Prop :=
  ∃ chunks, deeds.handed = chunks.map (⟨delivery.segment, ·, .ready⟩) ∧
    delivery.Stands size page chunks deeds.begun deeds.moves

variable {delivery : Delivery α ι} {page : List ι} {chunks : List (List ι)} {begun moves : Nat}

/-- Wherever a delivery stands, the chunks that it has handed over are those of the page, and at
most one more is registered. -/
theorem Stands.exists_isSplit (h : delivery.Stands size page chunks begun moves) :
    (∃ rest, IsSplit size page chunks rest ∧
      (delivery.phase = .ended (.ok ()) → rest = [] ∧ begun = chunks.length)) ∧
      chunks.length ≤ begun ∧ begun ≤ chunks.length + 1 ∧
      moves ≤ 3 * (page.length ⌈/⌉ size) + 2 := by
  obtain ⟨segment, phase⟩ := delivery
  cases phase with
  | checking items =>
    obtain ⟨rfl, rfl, rfl, rfl⟩ := h
    exact ⟨⟨_, .nil _ _, nofun⟩, Nat.le_refl _, Nat.zero_le _, Nat.zero_le _⟩
  | splitting rest | running task rest =>
    obtain ⟨hsplit, rfl, hmoves⟩ := h
    have hlength := hsplit.length_le
    exact ⟨⟨rest, hsplit, nofun⟩, Nat.le_refl _, Nat.le_succ _, by omega⟩
  | submitting chunk rest =>
    obtain ⟨hsplit, -, rfl, hmoves⟩ := h
    have hlength := hsplit.length_le
    exact ⟨⟨_, hsplit, nofun⟩, Nat.le_succ _, Nat.le_refl _, by omega⟩
  | refused e chunk rest =>
    obtain ⟨⟨left, hsplit⟩, hle, hge, hmoves⟩ := h
    exact ⟨⟨left, hsplit, nofun⟩, hle, hge, Nat.le_add_right_of_le hmoves⟩
  | ended result =>
    obtain ⟨⟨left, hsplit, hrest⟩, hle, hge, hmoves⟩ := h
    exact ⟨⟨left, hsplit, fun hended => hrest (DeliveryPhase.ended.inj hended)⟩, hle, hge, hmoves⟩

variable {setup : Setup α} {s t : State α ι} {next : Delivery α ι} {answer : Answer α ι}
variable {deeds : Deeds α ι}

/-- A step that leaves the pool alone hands nothing over. -/
theorem handed?_of_same (hqueue : t.writePool.queue = s.writePool.queue)
    (hworkers : t.writePool.workers = s.writePool.workers)
    (hcallers : t.writePool.callers ≤ s.writePool.callers) :
    (⟨s, delivery, answer, t, next⟩ : TaskStep α ι (Delivery α ι)).handed? = none :=
  (if_neg (Nat.not_lt.2 hcallers)).trans (Pool.got?_of_same hqueue hworkers)

/-- A step that hands nothing over leaves the tasks that were handed over. -/
theorem Deeds.handed_after {step : TaskStep α ι (Delivery α ι)} (hnone : step.handed? = none)
    (hhanded : deeds.handed = chunks.map (⟨step.task.segment, ·, .ready⟩))
    (hsegment : step.next.segment = step.task.segment) :
    (deeds.after step).handed = chunks.map (⟨step.next.segment, ·, .ready⟩) := by
  rw [hsegment, ← hhanded, Deeds.after, hnone]
  exact List.append_nil _

/-- One more chunk is handed over. -/
theorem Deeds.handed_after_of_some {step : TaskStep α ι (Delivery α ι)} {chunk : List ι}
    (hsome : step.handed? = some ⟨step.task.segment, chunk, .ready⟩)
    (hhanded : deeds.handed = chunks.map (⟨step.task.segment, ·, .ready⟩))
    (hsegment : step.next.segment = step.task.segment) :
    (deeds.after step).handed = (chunks ++ [chunk]).map (⟨step.next.segment, ·, .ready⟩) := by
  rw [hsegment, List.map_append, ← hhanded, Deeds.after, hsome]
  rfl

/-- By its own steps a delivery registers a chunk, or goes on to its end. -/
theorem Rule.stands [Quantity α] (h : Rule setup s delivery t next)
    (hstands : delivery.Stands setup.write.chunkSize page chunks begun moves) :
    next.Stands setup.write.chunkSize page chunks
      (begun + (t.writeTracker.pending - s.writeTracker.pending)) (moves + 1) := by
  cases h with
  | refuse =>
    obtain ⟨rfl, rfl, rfl, rfl⟩ := hstands
    refine ⟨⟨_, .nil _ _, nofun⟩, ?_, ?_, ?_⟩ <;> simp [State.drop, State.log]
  | proceed =>
    obtain ⟨rfl, rfl, rfl, rfl⟩ := hstands
    exact ⟨.nil _ _, by simp, by simp⟩
  | finish =>
    obtain ⟨hsplit, rfl, hmoves⟩ := hstands
    have hlength := hsplit.length_le
    rw [Nat.sub_self, Nat.add_zero]
    exact ⟨⟨[], hsplit, fun _ => ⟨rfl, rfl⟩⟩, Nat.le_refl _, Nat.le_succ _, by omega⟩
  | register hitems =>
    obtain ⟨hsplit, rfl, hmoves⟩ := hstands
    refine ⟨(List.take_append_drop ..).symm ▸ hsplit,
      hsplit.snoc setup.write.chunkSize_pos hitems, ?_, Nat.succ_le_succ hmoves⟩
    simp [State.beginChunk]
  | report =>
    obtain ⟨⟨rest, hsplit⟩, hle, hge, hmoves⟩ := hstands
    have hended : ∀ e, (s.writeTracker.complete (.error e)).pending - s.writeTracker.pending = 0 :=
      fun e => by simp
    refine ⟨⟨rest, hsplit, nofun⟩, ?_, ?_, Nat.succ_le_succ (Nat.le_succ_of_le hmoves)⟩
    · exact Nat.le_add_right_of_le hle
    · exact (hended _).symm ▸ hge

theorem Rule.tell [Quantity α] (h : Rule setup s delivery t next)
    (hdeeds : deeds.Tell setup.write.chunkSize page delivery) :
    (deeds.after ⟨s, delivery, answer, t, next⟩).Tell setup.write.chunkSize page next := by
  obtain ⟨chunks, hhanded, hstands⟩ := hdeeds
  obtain ⟨-, hpool, -⟩ := h.places
  have hnone : (⟨s, delivery, answer, t, next⟩ : TaskStep α ι (Delivery α ι)).handed? = none :=
    handed?_of_same (by rw [hpool]) (by rw [hpool]) (by rw [hpool])
  have hsegment : next.segment = delivery.segment := by cases h <;> rfl
  have hwriting : delivery.isWriting = false := by cases h <;> rfl
  refine ⟨chunks, Deeds.handed_after hnone hhanded hsegment, ?_⟩
  rw [Deeds.after, hwriting]
  exact h.stands hstands

/-- By a submission a delivery hands its chunk over, unless it is refused. -/
theorem tell_of_submit {segment : Nat} {chunk rest : List ι} {pool : Pool (ChunkTask α ι)}
    {placement : Placement}
    (hsubmit : s.writePool.submit ⟨segment, chunk, .ready⟩ = (pool, placement))
    (hdeeds : deeds.Tell size page ⟨segment, .submitting chunk rest⟩) :
    (deeds.after ⟨s, ⟨segment, .submitting chunk rest⟩, answer, { s with writePool := pool },
      afterSubmission segment chunk rest placement⟩).Tell size page
        (afterSubmission segment chunk rest placement) := by
  obtain ⟨chunks, hhanded, hbefore, hafter, hbegun, hmoves⟩ := hdeeds
  have hlength := hafter.length_le
  have hlast : (chunks ++ [chunk]).length = chunks.length + 1 := List.length_append
  rw [hlast] at hlength
  have hnext : (afterSubmission segment chunk rest placement : Delivery α ι).segment = segment := by
    cases placement <;> rfl
  have hsame : deeds.begun + (s.writeTracker.pending - s.writeTracker.pending) =
      chunks.length + 1 := by rw [hbegun, Nat.sub_self, Nat.add_zero]
  rcases Pool.got?_submit hsubmit with ⟨rfl, hcallers⟩ | ⟨hplacement, hcallers, hgot | hgot⟩
  · refine ⟨_, Deeds.handed_after_of_some (if_pos ?_) hhanded hnext, hafter, ?_, ?_⟩
    · exact hcallers ▸ Nat.lt_succ_self _
    · exact hsame.trans hlast.symm
    · change deeds.moves + 1 ≤ _
      omega
  · refine ⟨_, Deeds.handed_after_of_some ((if_neg (Nat.not_lt.2 hcallers.le)).trans hgot)
      hhanded hnext, ?_⟩
    cases placement with
    | onCaller => exact absurd rfl hplacement
    | started | queued =>
      refine ⟨hafter, hsame.trans hlast.symm, ?_⟩
      change deeds.moves + 1 ≤ _
      omega
    | refused error =>
      refine ⟨⟨rest, hafter⟩, (hlast.trans hsame.symm).le, ?_, ?_⟩
      · exact hsame.le.trans (hlast ▸ Nat.le_succ _)
      · change deeds.moves + 1 ≤ _
        omega
  · obtain ⟨hgot, error, rfl⟩ := hgot
    refine ⟨chunks, Deeds.handed_after ((if_neg (Nat.not_lt.2 hcallers.le)).trans hgot)
      hhanded hnext, ⟨_, hbefore⟩, (Nat.le_succ _).trans hsame.ge, hsame.le, ?_⟩
    change deeds.moves + 1 ≤ _
    omega

variable [Quantity α]

/-- A chunk that is written on the thread of a delivery registers nothing and hands nothing
over. -/
theorem tell_of_running {segment : Nat} {task task' : ChunkTask α ι} {rest : List ι}
    (h : task.step setup s answer = some (t, task'))
    (hdeeds : deeds.Tell size page ⟨segment, .running task rest⟩) :
    (deeds.after ⟨s, ⟨segment, .running task rest⟩, answer, t, ⟨segment, .running task' rest⟩⟩).Tell
      size page ⟨segment, .running task' rest⟩ := by
  obtain ⟨chunks, hhanded, hstands⟩ := hdeeds
  have hrule := ChunkTask.rule_of_step h
  obtain ⟨-, hpool, -⟩ := hrule.places
  have hpending : t.writeTracker.pending - s.writeTracker.pending = 0 := by
    cases hrule with
    | complete => exact Nat.sub_eq_zero_of_le (Nat.sub_le _ _)
    | _ => exact Nat.sub_self _
  have hwriting : (⟨segment, .running task rest⟩ : Delivery α ι).isWriting = true := by
    cases hrule <;> rfl
  refine ⟨chunks, Deeds.handed_after (handed?_of_same ?_ ?_ ?_) hhanded rfl, ?_⟩
  · rw [hpool]
  · rw [hpool]
  · rw [hpool]
  · rw [Deeds.after, hpending, hwriting]
    exact hstands

theorem tell_of_step (h : delivery.step setup s answer = some (t, next))
    (hdeeds : deeds.Tell setup.write.chunkSize page delivery) :
    (deeds.after ⟨s, delivery, answer, t, next⟩).Tell setup.write.chunkSize page next := by
  rcases rule_of_step h with hrule |
    ⟨segment, chunk, rest, rfl, pool, placement, hsubmit, rfl, rfl⟩ |
    ⟨segment, task, rest, rfl, hfinished, rfl, rfl⟩ | ⟨segment, task, rest, task', rfl, hstep, rfl⟩
  · exact hrule.tell hdeeds
  · exact tell_of_submit hsubmit hdeeds
  · obtain ⟨chunks, hhanded, hsplit, hbegun, hmoves⟩ := hdeeds
    have hmoved : (deeds.after ⟨s, ⟨segment, .running task rest⟩, answer,
        { s with writePool := s.writePool.finishOnCaller false },
        ⟨segment, .splitting rest⟩⟩).moves = deeds.moves + 1 := by
      simp [Deeds.after, isWriting, hfinished]
    refine ⟨chunks, Deeds.handed_after (handed?_of_same rfl rfl (Nat.sub_le _ _)) hhanded rfl,
      hsplit, ?_, ?_⟩
    · exact (congrArg (deeds.begun + ·) (Nat.sub_self _)).trans hbegun
    · rw [hmoved]
      exact Nat.succ_le_succ hmoves
  · exact tell_of_running hstep hdeeds

theorem segment_of_step (h : delivery.step setup s answer = some (t, next)) :
    next.segment = delivery.segment := by
  rcases rule_of_step h with hrule | ⟨_, _, _, rfl, _, placement, -, -, rfl⟩ |
    ⟨_, _, _, rfl, -, -, rfl⟩ | ⟨_, _, _, _, rfl, -, rfl⟩
  · cases hrule <;> rfl
  · cases placement <;> rfl
  · rfl
  · rfl

section Path

variable {segment : Nat} {steps : List (TaskStep α ι (Delivery α ι))}
variable (hpath : (kind setup).Path ⟨segment, .checking page⟩ steps delivery)

include hpath

theorem segment_of_path : delivery.segment = segment :=
  hpath.invariant (P := fun delivery => delivery.segment = segment) rfl
    fun hsegment h => (segment_of_step h).trans hsegment

/-- Wherever a delivery stands, its deeds tell. -/
theorem tell_of_path : (deedsOf steps).Tell setup.write.chunkSize page delivery := by
  induction hpath with
  | start => exact ⟨[], rfl, rfl, rfl, rfl, rfl⟩
  | step _ h ih => exact tell_of_step h ih

end Path

/-- A delivery that has not ended goes on, if it does not wait for a chunk on its thread. -/
theorem exists_step (setup : Setup α) (s : State α ι) (delivery : Delivery α ι) :
    (∃ result, delivery.phase = .ended result) ∨ delivery.isWriting = true ∨
      ∃ t next, delivery.step setup s .none = some (t, next) := by
  obtain ⟨segment, phase⟩ := delivery
  cases phase with
  | ended result => exact .inl ⟨result, rfl⟩
  | running task rest =>
    cases hfinished : task.isFinished with
    | false => exact .inr (.inl (by simp [isWriting, hfinished]))
    | true => exact .inr (.inr (by simp [step, hfinished]))
  | checking items =>
    refine .inr (.inr ?_)
    by_cases hfailed : s.writeTracker.hasFailed = true <;> simp [step, hfailed]
  | splitting items =>
    refine .inr (.inr ?_)
    by_cases hempty : items.isEmpty = true <;> simp [step, hempty]
  | submitting chunk rest =>
    refine .inr (.inr ?_)
    simp only [step]
    split <;> exact ⟨_, _, rfl⟩
  | refused e chunk rest => exact .inr (.inr ⟨_, _, rfl⟩)

end Delivery
end TableCopy
