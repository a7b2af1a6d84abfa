import TableCopy.Proofs.Pipeline.Exchange

/-!
# What the threads of a copy share

Apart from the pools and the connection slots, the threads share the clock, the
interrupt, the counters, the trackers, the pacers and the journal. Everything that a
step does to them is one of the updates here, each with what it does to the shared
part. How many threads the pools are missing belongs to it, too.
-/

namespace TableCopy

variable {α ι : Type}

/-- The state of a copy without its slots and its controlling thread. All that is left of the
pools is how many threads of theirs were not started. -/
structure Shared (α ι : Type) where
  now : Nat
  interrupted : Bool
  metrics : Metrics
  scanTracker : Tracker
  readPacer : Pacer α
  writeTracker : Tracker
  writePacer : Pacer α
  journal : List (Entry α ι)
  missingReaders : Nat
  missingWriters : Nat

namespace State

def shared (s : State α ι) : Shared α ι where
  now := s.now
  interrupted := s.interrupted
  metrics := s.metrics
  scanTracker := s.scanTracker
  readPacer := s.readPacer
  writeTracker := s.writeTracker
  writePacer := s.writePacer
  journal := s.journal
  missingReaders := s.readPool.unstarted
  missingWriters := s.writePool.unstarted

section Fields

variable (s : State α ι)

@[simp] theorem shared_now : s.shared.now = s.now := rfl

@[simp] theorem shared_interrupted : s.shared.interrupted = s.interrupted := rfl

@[simp] theorem shared_metrics : s.shared.metrics = s.metrics := rfl

@[simp] theorem shared_scanTracker : s.shared.scanTracker = s.scanTracker := rfl

@[simp] theorem shared_readPacer : s.shared.readPacer = s.readPacer := rfl

@[simp] theorem shared_writeTracker : s.shared.writeTracker = s.writeTracker := rfl

@[simp] theorem shared_writePacer : s.shared.writePacer = s.writePacer := rfl

@[simp] theorem shared_journal : s.shared.journal = s.journal := rfl

@[simp] theorem shared_missingReaders : s.shared.missingReaders = s.readPool.unstarted := rfl

@[simp] theorem shared_missingWriters : s.shared.missingWriters = s.writePool.unstarted := rfl

end Fields

/-! ## Time, the interrupt and the journal -/

/-- Raise the interrupt. -/
def raise (s : State α ι) : State α ι := { s with interrupted := true }

/-- Let time pass. -/
def waitUntil (s : State α ι) (time : Nat) : State α ι := { s with now := time }

@[simp] theorem shared_raise (s : State α ι) :
    s.raise.shared = { s.shared with interrupted := true } := rfl

@[simp] theorem shared_waitUntil (s : State α ι) (time : Nat) :
    (s.waitUntil time).shared = { s.shared with now := time } := rfl

@[simp] theorem shared_log (s : State α ι) (entry : Entry α ι) :
    (s.log entry).shared = { s.shared with journal := entry :: s.shared.journal } := rfl

@[simp] theorem shared_drop (s : State α ι) (items : List ι) :
    (s.drop items).shared = { s.shared with journal := .dropped items :: s.shared.journal } := rfl

/-! ## Slots -/

def holdReadSlots (s : State α ι) (slots : Connections) : State α ι := { s with readSlots := slots }

def holdWriteSlots (s : State α ι) (slots : Connections) : State α ι :=
  { s with writeSlots := slots }

/-- Give back the slot of an answered request for a page. -/
def freeReadSlot (s : State α ι) : State α ι := s.holdReadSlots s.readSlots.release

/-- Give back the slot of an answered batch request. -/
def freeWriteSlot (s : State α ι) : State α ι := s.holdWriteSlots s.writeSlots.release

@[simp] theorem shared_holdReadSlots (s : State α ι) (slots : Connections) :
    (s.holdReadSlots slots).shared = s.shared := rfl

@[simp] theorem shared_holdWriteSlots (s : State α ι) (slots : Connections) :
    (s.holdWriteSlots slots).shared = s.shared := rfl

@[simp] theorem shared_freeReadSlot (s : State α ι) : s.freeReadSlot.shared = s.shared := rfl

@[simp] theorem shared_freeWriteSlot (s : State α ι) : s.freeWriteSlot.shared = s.shared := rfl

/-! ## Pacers -/

def paceReads (s : State α ι) (pacer : Pacer α) : State α ι := { s with readPacer := pacer }

def paceWrites (s : State α ι) (pacer : Pacer α) : State α ι := { s with writePacer := pacer }

@[simp] theorem shared_paceReads (s : State α ι) (pacer : Pacer α) :
    (s.paceReads pacer).shared = { s.shared with readPacer := pacer } := rfl

@[simp] theorem shared_paceWrites (s : State α ι) (pacer : Pacer α) :
    (s.paceWrites pacer).shared = { s.shared with writePacer := pacer } := rfl

/-! ## Trackers -/

/-- Register a segment. -/
def beginSegment (s : State α ι) : State α ι := { s with scanTracker := s.scanTracker.begin }

/-- Record how a registered segment ended. -/
def endSegment (s : State α ι) (result : Except CopyError Unit) : State α ι :=
  { s with scanTracker := s.scanTracker.complete result }

/-- Register a chunk. -/
def beginChunk (s : State α ι) : State α ι := { s with writeTracker := s.writeTracker.begin }

/-- Record how a registered chunk ended. -/
def endChunk (s : State α ι) (result : Except CopyError Unit) : State α ι :=
  { s with writeTracker := s.writeTracker.complete result }

@[simp] theorem shared_beginSegment (s : State α ι) :
    s.beginSegment.shared = { s.shared with scanTracker := s.shared.scanTracker.begin } := rfl

@[simp] theorem shared_endSegment (s : State α ι) (result : Except CopyError Unit) :
    (s.endSegment result).shared =
      { s.shared with scanTracker := s.shared.scanTracker.complete result } := rfl

@[simp] theorem shared_beginChunk (s : State α ι) :
    s.beginChunk.shared = { s.shared with writeTracker := s.shared.writeTracker.begin } := rfl

@[simp] theorem shared_endChunk (s : State α ι) (result : Except CopyError Unit) :
    (s.endChunk result).shared =
      { s.shared with writeTracker := s.shared.writeTracker.complete result } := rfl

/-! ## Counters -/

variable [Quantity α]

/-- Count an event. -/
def count (s : State α ι) (event : Metrics.Event α) : State α ι :=
  { s with metrics := s.metrics.record event }

/-- Count a page and note it. -/
def countPage (s : State α ι) (segment : Nat) (page : Page α ι) : State α ι :=
  (s.count (.page (UInt64.ofNat page.items.length) page.capacity)).log (.scanned segment page)

/-- Count an answered batch and note it. -/
def countBatch (s : State α ι) (pending : List ι) (outcome : BatchOutcome α ι) (units : α) :
    State α ι :=
  (s.count (.batch (UInt64.ofNat (pending.length - outcome.unprocessed.length)) units)).log
    (.written pending outcome.unprocessed units)

@[simp] theorem shared_count (s : State α ι) (event : Metrics.Event α) :
    (s.count event).shared = { s.shared with metrics := s.shared.metrics.record event } := rfl

@[simp] theorem shared_countPage (s : State α ι) (segment : Nat) (page : Page α ι) :
    (s.countPage segment page).shared =
      { s.shared with
        metrics := s.shared.metrics.record (.page (UInt64.ofNat page.items.length) page.capacity)
        journal := .scanned segment page :: s.shared.journal } := rfl

@[simp] theorem shared_countBatch (s : State α ι) (pending : List ι)
    (outcome : BatchOutcome α ι) (units : α) :
    (s.countBatch pending outcome units).shared =
      { s.shared with
        metrics := s.shared.metrics.record
          (.batch (UInt64.ofNat (pending.length - outcome.unprocessed.length)) units)
        journal := .written pending outcome.unprocessed units :: s.shared.journal } := rfl

end State
end TableCopy
