import TableCopy.Proofs.Copy.Handover
import TableCopy.Proofs.Copy.Resubmission

/-!
# Splitting a page

A page is handed over in chunks, each of which is accepted as one batch. A chunk is sent as it
is, and what a batch leaves unprocessed is no more than what was sent: so nothing that is ever
sent is empty, or larger than a batch may be.
-/

namespace TableCopy

variable {α ι : Type} {size : Nat}

/-! ## Batches of a chunk -/

/-- If the call of an exchange is a batch, then it is one that is accepted. -/
def Exchange.Fits (size : Nat) (x : Exchange α ι) : Prop :=
  ∀ items, x.call = .batch items → IsBatch size items

theorem Exchange.fits_batch {items : List ι} (outcome : Outcome (BatchOutcome α ι))
    (h : IsBatch size items) : (Exchange.batch items outcome).Fits size := by
  rintro sent hsent
  obtain rfl := Call.batch.inj hsent
  exact h

namespace ChunkTask

/-- What a chunk task is still to send is accepted as one batch. What an answer has left
unprocessed is sent only if there is any. -/
def Fits (size : Nat) (task : ChunkTask α ι) : Prop :=
  match task.phase with
  | .charging _ outcome .. | .recording _ outcome _ => outcome.unprocessed.length ≤ size
  | .ending _ | .finished => True
  | _ => IsBatch size task.pending

theorem Fits.isBatch_of_call? {task : ChunkTask α ι} {items : List ι} (h : task.Fits size)
    (hcall : task.call? = some items) : IsBatch size items := by
  obtain ⟨segment, pending, phase⟩ := task
  cases phase with
  | sending =>
    obtain rfl := Option.some.inj hcall
    exact h
  | _ => cases hcall

variable [Quantity α] {setup : Setup α} {s t : State α ι} {task next : ChunkTask α ι}
variable {exchanges : List (Exchange α ι)}

theorem Rule.fits (h : Rule setup s task exchanges t next)
    (hfaithful : ∀ x ∈ exchanges, x.IsFaithful) (hfits : task.Fits size) :
    next.Fits size ∧ ∀ x ∈ exchanges, x.Fits size := by
  cases h with
  | answer outcome =>
    have hleft : outcome.unprocessed.length ≤ _ :=
      Multiset.card_le_card (hfaithful _ List.mem_cons_self)
    exact ⟨hleft.trans hfits.2, by simpa using Exchange.fits_batch _ hfits⟩
  | backOff => exact ⟨hfits, by simpa using Exchange.fits_batch _ hfits⟩
  | crash | giveUp | faultyDelay => exact ⟨trivial, by simpa using Exchange.fits_batch _ hfits⟩
  | rest hleft => exact ⟨⟨List.length_pos_iff.2 hleft, hfits⟩, by simp⟩
  | interrupt | finish | exhaust | faultyRest | complete => exact ⟨trivial, by simp⟩
  | _ => exact ⟨hfits, by simp⟩

/-- Whatever the answers are, as long as they leave nothing else unprocessed than was sent,
all that a task sends is accepted. -/
theorem Course.fits {first : ChunkTask α ι} {deeds : Deeds α ι}
    (hcourse : Course setup first deeds task) (hfirst : first.Fits size)
    (hfaithful : ∀ x ∈ deeds.exchanges, x.IsFaithful) :
    task.Fits size ∧ ∀ x ∈ deeds.exchanges, x.Fits size := by
  induction hcourse with
  | start => exact ⟨hfirst, by simp⟩
  | step course h ih =>
    obtain ⟨hhere, hearlier⟩ := List.forall_mem_append.1 hfaithful
    obtain ⟨htask, hbefore⟩ := ih hearlier
    obtain ⟨hnext, hended⟩ := (rule_of_step h).fits hhere htask
    exact ⟨hnext, List.forall_mem_append.2 ⟨hended, hbefore⟩⟩

end ChunkTask

/-! ## Batches of a delivery -/

namespace Delivery

variable [Quantity α] {setup : Setup α} {s t : State α ι} {delivery next : Delivery α ι}
variable {answer : Answer α ι} {page : List ι}

/-- The chunk that a delivery submits, or writes itself, is sent in batches that are
accepted. -/
def Fits (size : Nat) (delivery : Delivery α ι) : Prop :=
  match delivery.phase with
  | .submitting chunk _ => IsBatch size chunk
  | .running task _ => task.Fits size
  | _ => True

omit [Quantity α] in
theorem Fits.of_inline? {task : ChunkTask α ι} (h : delivery.Fits size)
    (hrunning : delivery.inline? = some task) : task.Fits size := by
  obtain ⟨segment, phase⟩ := delivery
  cases phase with
  | running other rest =>
    obtain rfl := Option.some.inj hrunning
    exact h
  | _ => cases hrunning

omit [Quantity α] in
theorem Rule.fits (h : Rule setup s delivery t next) : next.Fits setup.write.chunkSize := by
  cases h with
  | register hitems =>
    exact ((IsSplit.nil _ _).snoc setup.write.chunkSize_pos hitems).isBatch _
      (List.mem_singleton_self _)
  | _ => trivial

theorem fits_of_step (h : delivery.step setup s answer = some (t, next))
    (hfits : delivery.Fits setup.write.chunkSize)
    (hfaithful : ∀ x ∈ Exchange.ended ((delivery.inline?.bind ChunkTask.call?).map .batch) answer,
      x.IsFaithful) :
    next.Fits setup.write.chunkSize ∧
      ∀ x ∈ Exchange.ended ((delivery.inline?.bind ChunkTask.call?).map .batch) answer,
        x.Fits setup.write.chunkSize := by
  rcases rule_of_step h with hrule | ⟨segment, chunk, rest, rfl, pool, placement, -, -, rfl⟩ |
    ⟨segment, task, rest, rfl, hfinished, -, rfl⟩ | ⟨segment, task, rest, task', rfl, hstep, rfl⟩
  · refine ⟨hrule.fits, ?_⟩
    simp [hrule.inline?]
  · cases placement with
    | onCaller => exact ⟨hfits, by simp [inline?]⟩
    | _ => exact ⟨trivial, by simp [inline?]⟩
  · exact ⟨trivial, by simp [inline?, ChunkTask.call?_of_isFinished hfinished]⟩
  · exact (ChunkTask.rule_of_step hstep).fits hfaithful hfits

theorem fits_of_path {segment : Nat} {steps : List (TaskStep α ι (Delivery α ι))}
    (hpath : (kind setup).Path ⟨segment, .checking page⟩ steps delivery)
    (hfaithful : ∀ x ∈ (deedsOf steps).exchanges, x.IsFaithful) :
    delivery.Fits setup.write.chunkSize ∧
      ∀ x ∈ (deedsOf steps).exchanges, x.Fits setup.write.chunkSize := by
  induction hpath with
  | start => exact ⟨trivial, fun _ hmem => absurd hmem List.not_mem_nil⟩
  | step _ h ih =>
    obtain ⟨hhere, hearlier⟩ := List.forall_mem_append.1 hfaithful
    obtain ⟨hdelivery, hbefore⟩ := ih hearlier
    obtain ⟨hnext, hended⟩ := fits_of_step h hdelivery hhere
    exact ⟨hnext, List.forall_mem_append.2 ⟨hended, hbefore⟩⟩

end Delivery

/-! ## Batches of a pipe -/

/-- What a holder submits or sends is accepted as one batch. -/
def Holder.Fits (size : Nat) : Holder α ι → Prop
  | .delivery d => d.Fits size
  | .chunk task => task.Fits size
  | _ => True

variable [Quantity α] {setup : Setup α} {start s t : State α ι} {history : List (Exchange α ι)}

/-- A turn sends nothing but batches that are accepted, and leads to holders that will do so. -/
theorem Turn.fits {before after : Multiset (Holder α ι)} {exchanges : List (Exchange α ι)}
    (h : Turn setup s before exchanges t after) (hfaithful : ∀ x ∈ exchanges, x.IsFaithful)
    (hfits : ∀ holder ∈ before, holder.Fits setup.write.chunkSize) :
    (∀ x ∈ exchanges, x.Fits setup.write.chunkSize) ∧
      ∀ holder ∈ after, holder.Fits setup.write.chunkSize := by
  cases h with
  | chunk h =>
    obtain ⟨hnext, hended⟩ := h.fits hfaithful (hfits _ (Multiset.mem_singleton_self _))
    exact ⟨hended, by simpa [Holder.Fits] using hnext⟩
  | delivery h => exact ⟨by simp, by simpa [Holder.Fits] using h.fits⟩
  | segment h =>
    refine ⟨?_, by simp [Holder.Fits]⟩
    cases h <;> simp [Exchange.Fits, Exchange.page]
  | submitChunk =>
    have hchunk := hfits _ (Multiset.mem_singleton_self _)
    exact ⟨by simp, by simpa [Holder.Fits, Delivery.Fits, ChunkTask.Fits] using hchunk⟩
  | _ => exact ⟨by simp, by simp [Holder.Fits, Delivery.Fits]⟩

omit [Quantity α] in
theorem Delivery.exists_chunk_of_call? {delivery : Delivery α ι} {items : List ι}
    (h : delivery.inline?.bind ChunkTask.call? = some items) :
    ∃ task, delivery.acting = .chunk task ∧ task.call? = some items := by
  obtain ⟨segment, phase⟩ := delivery
  cases phase with
  | running task rest => exact ⟨task, rfl, h⟩
  | _ => cases h

omit [Quantity α] in
theorem SegmentTask.exists_chunk_of_call? {task : SegmentTask α ι} {items : List ι}
    (h : task.call? setup = some (.batch items)) :
    ∃ chunk, task.acting = .chunk chunk ∧ chunk.call? = some items := by
  obtain ⟨segment, key, pages, phase⟩ := task
  cases phase with
  | delivering nextKey delivery =>
    obtain ⟨sent, hsent, hitems⟩ := Option.map_eq_some_iff.1 h
    obtain rfl := Call.batch.inj hitems
    exact Delivery.exists_chunk_of_call? hsent
  | fetching | handing => simp [call?] at h
  | _ => cases h

omit [Quantity α] in
/-- A batch in flight in a pipe is that of the chunk which acts on the thread. -/
theorem State.exists_chunk_of_call? {actor : Actor} {items : List ι}
    (hpiping : s.control.isPiping = true) (h : s.call? setup actor = some (.batch items)) :
    ∃ task, s.acting? actor = some (.chunk task) ∧ task.call? = some items := by
  cases actor with
  | reader i =>
    obtain ⟨task, htask, hcall⟩ := Option.bind_eq_some_iff.1 h
    obtain ⟨chunk, hacting, hitems⟩ := SegmentTask.exists_chunk_of_call? hcall
    exact ⟨chunk, by simp [acting?, htask, hacting], hitems⟩
  | writer i =>
    obtain ⟨sent, hsent, hitems⟩ := Option.map_eq_some_iff.1 h
    obtain ⟨task, htask, hcall⟩ := Option.bind_eq_some_iff.1 hsent
    obtain rfl := Call.batch.inj hitems
    exact ⟨task, by simp [acting?, htask], hcall⟩
  | control =>
    cases hcontrol : s.control with
    | running task left =>
      rw [call?, hcontrol] at h
      obtain ⟨chunk, hacting, hitems⟩ := SegmentTask.exists_chunk_of_call? h
      exact ⟨chunk, by simp [acting?, hcontrol, Control.acting, hacting], hitems⟩
    | delivering delivery =>
      rw [hcontrol] at hpiping
      cases hpiping
    | awaitingWrite => simp [call?, hcontrol] at h
    | _ =>
      rw [call?, hcontrol] at h
      cases h

theorem Run.fits (hpaced : setup.outsideConsumer = false) (hfresh : start.IsFresh setup)
    (hrun : Run setup (start.piping setup) history s) (hfaithful : ∀ x ∈ history, x.IsFaithful) :
    (∀ x ∈ history, x.Fits setup.write.chunkSize) ∧
      ∀ holder ∈ s.population, holder.Fits setup.write.chunkSize := by
  refine hrun.invariant (P := fun history _ holders => (∀ x ∈ history, x.IsFaithful) →
    (∀ x ∈ history, x.Fits setup.write.chunkSize) ∧
      ∀ holder ∈ holders, holder.Fits setup.write.chunkSize) hpaced hfresh ?_ ?_ hfaithful
  · intro _
    simp [Holder.Fits]
  · intro history s t before after rest exchanges _ _ h ih hfaithful
    obtain ⟨hhere, hearlier⟩ := List.forall_mem_append.1 hfaithful
    obtain ⟨hhistory, hholders⟩ := ih hearlier
    obtain ⟨hended, hafter⟩ := h.fits hhere fun holder hmem =>
      hholders holder (Multiset.mem_add.2 (.inl hmem))
    refine ⟨List.forall_mem_append.2 ⟨hended, hhistory⟩, fun holder hmem => ?_⟩
    rcases Multiset.mem_add.1 hmem with hmem | hmem
    · exact hafter holder hmem
    · exact hholders holder (Multiset.mem_add.2 (.inr hmem))

/-! ## Pages and batches -/

/-- A delivery, with whatever answers and whatever the pool does with its chunks. Chunks are cut
off the front of the page in order, and for each a new task is handed over, to the pool or to the
thread of the delivery; each chunk is accepted as one batch, and all but the one at the end of the
page are as large as possible. No more than one chunk is registered that is not handed over, and
none without an error, where the whole page was handed over. There are no more steps than it takes
to submit the page, and one is always possible, unless the delivery has ended or writes a chunk
itself. As long as answers leave nothing else unprocessed than was sent, each batch that is sent
for a chunk, be it sent first, again after a failure, or after an answer that left items
unprocessed, is accepted: by a thread that delivers a page, by one that writes a chunk, and
throughout a pipe, whose threads lead their deliveries on in this way. -/
theorem sends_accepted_batches (setup : Setup α) :
    (∀ segment (page : List ι) steps delivery,
      (Delivery.kind setup).Path ⟨segment, .checking page⟩ steps delivery →
        let deeds := Delivery.deedsOf steps
        (∃ chunks rest, deeds.handed = chunks.map (⟨segment, ·, .ready⟩) ∧
          IsSplit setup.write.chunkSize page chunks rest ∧
          chunks.length ≤ deeds.begun ∧ deeds.begun ≤ chunks.length + 1 ∧
          (delivery.phase = .ended (.ok ()) → rest = [] ∧ deeds.begun = chunks.length)) ∧
        deeds.moves ≤ 3 * (page.length ⌈/⌉ setup.write.chunkSize) + 2 ∧
        ((∀ x ∈ deeds.exchanges, x.IsFaithful) →
          (∀ x ∈ deeds.exchanges, x.Fits setup.write.chunkSize) ∧
          ∀ items, delivery.inline?.bind ChunkTask.call? = some items →
            IsBatch setup.write.chunkSize items)) ∧
    (∀ (s : State α ι) (delivery : Delivery α ι), (∃ result, delivery.phase = .ended result) ∨
      delivery.isWriting = true ∨ ∃ t next, delivery.step setup s .none = some (t, next)) ∧
    (∀ segment (chunk : List ι) deeds task,
      ChunkTask.Course setup ⟨segment, chunk, .ready⟩ deeds task →
        IsBatch setup.write.chunkSize chunk → (∀ x ∈ deeds.exchanges, x.IsFaithful) →
          (∀ x ∈ deeds.exchanges, x.Fits setup.write.chunkSize) ∧
          ∀ items, task.call? = some items → IsBatch setup.write.chunkSize items) ∧
    (setup.outsideConsumer = false → ∀ start : State α ι, start.IsFresh setup →
      ∀ history s, Run setup (start.piping setup) history s →
        (∀ actor delivery later t, (Delivery.kind setup).IsOn s actor delivery →
          Run setup s later t → ∃ steps last, (Delivery.kind setup).Path delivery steps last ∧
            (∀ step ∈ steps, (Delivery.kind setup).HasStepped setup s t actor step) ∧
            (Delivery.kind setup).HasLed setup s t actor last) ∧
        ((∀ x ∈ history, x.IsFaithful) → (∀ x ∈ history, x.Fits setup.write.chunkSize) ∧
          ∀ actor items, s.call? setup actor = some (.batch items) →
            IsBatch setup.write.chunkSize items)) := by
  refine ⟨fun segment page steps delivery hpath => ?_, Delivery.exists_step setup,
    fun segment chunk deeds task hcourse hchunk hfaithful => ?_,
    fun hpaced start hfresh history s hrun => ⟨?_, fun hfaithful => ?_⟩⟩
  · obtain ⟨chunks, hhanded, hstands⟩ := Delivery.tell_of_path hpath
    obtain ⟨⟨rest, hsplit, hrest⟩, hle, hge, hmoves⟩ := hstands.exists_isSplit
    rw [Delivery.segment_of_path hpath] at hhanded
    refine ⟨⟨chunks, rest, hhanded, hsplit, hle, hge, hrest⟩, hmoves, fun hfaithful => ?_⟩
    obtain ⟨hfits, hexchanges⟩ := Delivery.fits_of_path hpath hfaithful
    refine ⟨hexchanges, fun items hcall => ?_⟩
    obtain ⟨task, hrunning, htask⟩ := Option.bind_eq_some_iff.1 hcall
    exact (hfits.of_inline? hrunning).isBatch_of_call? htask
  · obtain ⟨hfits, hexchanges⟩ := hcourse.fits hchunk hfaithful
    exact ⟨hexchanges, fun items => hfits.isBatch_of_call?⟩
  · exact fun actor delivery later t hon hlater =>
      hlater.exists_deliveryPath hpaced (hrun.isPiping hpaced) hon
  · obtain ⟨hexchanges, hholders⟩ := hrun.fits hpaced hfresh hfaithful
    refine ⟨hexchanges, fun actor items hcall => ?_⟩
    obtain ⟨task, hacting, hitems⟩ := State.exists_chunk_of_call? (hrun.isPiping hpaced) hcall
    have hfits : task.Fits setup.write.chunkSize := hholders _ (State.acting?_mem hacting)
    exact hfits.isBatch_of_call? hitems

/-- The small copy with batches of two items. -/
def pairSetup : Setup Rat := { smallSetup with write := ⟨"archive", none, 2⟩ }

def pairStart : State Rat Nat := .initial pairSetup (.ofLimit 2 1 0) (.ofLimit 2 1 0)

/-- The copy so many steps after its first page, of three items, is handed over. -/
def pairAfter (fuel : Nat) : State Rat Nat :=
  ((World.ofTables smallSource slowDestination).settle pairSetup (9 + fuel) ()
    (pairStart.piping pairSetup)).2

/-- The page is handed over in two chunks. -/
theorem Delivery.exists_path_of_three : ∃ steps,
    (kind pairSetup).Path ⟨0, .checking [1, 2, 3]⟩ steps ⟨0, .ended (.ok ())⟩ ∧
      (deedsOf steps).handed = [⟨0, [1, 2], .ready⟩, ⟨0, [3], .ready⟩] := by
  have hchecked : (kind pairSetup).step (pairAfter 0) ⟨0, .checking [1, 2, 3]⟩ .none =
      some (_, ⟨0, .splitting [1, 2, 3]⟩) := rfl
  have hfirst : (kind pairSetup).step (pairAfter 1) ⟨0, .splitting [1, 2, 3]⟩ .none =
      some (_, ⟨0, .submitting [1, 2] [3]⟩) := rfl
  have hone : (kind pairSetup).step (pairAfter 2) ⟨0, .submitting [1, 2] [3]⟩ .none =
      some (_, ⟨0, .splitting [3]⟩) := rfl
  have hlast : (kind pairSetup).step (pairAfter 3) ⟨0, .splitting [3]⟩ .none =
      some (_, ⟨0, .submitting [3] []⟩) := rfl
  have htwo : (kind pairSetup).step (pairAfter 4) ⟨0, .submitting [3] []⟩ .none =
      some (_, ⟨0, .splitting []⟩) := rfl
  have hended : (kind pairSetup).step (pairAfter 5) ⟨0, .splitting []⟩ .none =
      some (_, ⟨0, .ended (.ok ())⟩) := rfl
  have hpath := (((((TaskKind.Path.start.step hchecked).step hfirst).step hone).step hlast).step
    htwo).step hended
  exact ⟨_, hpath, rfl⟩

/-- The page of three items is split in two, what the thread of its segment does is such a
delivery, and the batches of the copy are all accepted. -/
theorem sends_accepted_batches_of_three :
    (∃ steps, (Delivery.kind pairSetup).Path ⟨0, .checking [1, 2, 3]⟩ steps ⟨0, .ended (.ok ())⟩ ∧
      (Delivery.deedsOf steps).handed = [⟨0, [1, 2], .ready⟩, ⟨0, [3], .ready⟩] ∧
      ∃ chunks, (Delivery.deedsOf steps).handed = chunks.map (⟨0, ·, .ready⟩) ∧
        IsSplit 2 [1, 2, 3] chunks [] ∧ (Delivery.deedsOf steps).begun = chunks.length) ∧
    (∃ steps last, (Delivery.kind pairSetup).Path ⟨0, .checking [1, 2, 3]⟩ steps last ∧
      (∀ step ∈ steps, (Delivery.kind pairSetup).HasStepped pairSetup (pairAfter 0) (pairAfter 6)
        (.reader 0) step) ∧
      (Delivery.kind pairSetup).HasLed pairSetup (pairAfter 0) (pairAfter 6) (.reader 0) last) ∧
    ∃ history, Run pairSetup (pairStart.piping pairSetup) history (pairAfter 91) ∧
      ∀ x ∈ history, x.Fits 2 := by
  obtain ⟨hpages, -, -, hruns⟩ := sends_accepted_batches (ι := Nat) pairSetup
  have hruns {history s} (hrun : Run pairSetup (pairStart.piping pairSetup) history s) :=
    hruns rfl pairStart (State.isFresh_initial _ _) history s hrun
  refine ⟨?_, ?_, ?_⟩
  · obtain ⟨steps, hpath, hhanded⟩ := Delivery.exists_path_of_three
    obtain ⟨⟨chunks, rest, hchunks, hsplit, -, -, hrest⟩, -⟩ := hpages 0 [1, 2, 3] steps _ hpath
    obtain ⟨rfl, hbegun⟩ := hrest rfl
    exact ⟨steps, hpath, hhanded, chunks, hchunks, hsplit, hbegun⟩
  · obtain ⟨_, hbefore, -⟩ := World.exists_run_ofTables pairSetup smallSource
      (pairStart.piping pairSetup) 9 slowDestination_faithful
    obtain ⟨later, hlater, -⟩ := World.exists_run_ofTables pairSetup smallSource (pairAfter 0) 6
      slowDestination_faithful
    have hpage : (pairAfter 0).segment? (.reader 0) =
        some ⟨0, none, 1, .delivering (some 3) ⟨0, .checking [1, 2, 3]⟩⟩ := rfl
    exact (hruns hbefore).1 (.reader 0) _ later _ ⟨0, none, 1, some 3, hpage⟩ hlater
  · obtain ⟨history, hrun, -, hfaithful⟩ := World.exists_run_ofTables pairSetup smallSource
      (pairStart.piping pairSetup) 100 slowDestination_faithful
    exact ⟨history, hrun, ((hruns hrun).2 hfaithful).1⟩

end TableCopy
