import TableCopy.Pipeline.Delivery

/-!
# Steps of a segment task

A segment is read page by page: each page is requested with the key that the
page before it ended with, charged, counted, and handed over unless it is empty.
The interrupt is looked at before each page.
-/

namespace TableCopy
namespace SegmentTask

variable {α ι : Type} [Quantity α]

/-- The request for the next page. -/
def request (setup : Setup α) (task : SegmentTask α ι) : PageRequest ι where
  table := setup.scan.table
  segment := task.segment
  totalSegments := setup.scan.plan.totalSegments.toNat
  consistentRead := setup.scan.consistentRead
  limit := setup.scan.pageLimit
  startKey := task.startKey

/-- The error of a segment that is interrupted between pages. -/
def interruption (task : SegmentTask α ι) : CopyError :=
  .interrupted ("segment " ++ toString task.segment ++ " stopped after " ++ toString task.pages ++
    " pages")

/-- Go on after a page: with the next one, or to the end. -/
def advance (task : SegmentTask α ι) : Option ι → SegmentTask α ι
  | some key => { task with startKey := some key, phase := .checking }
  | none => { task with phase := .closing (.ok task.pages) }

/-- Go on after a page was handed over. -/
def afterHandover (task : SegmentTask α ι) (nextKey : Option ι) :
    Except CopyError Unit → SegmentTask α ι
  | .ok () => task.advance nextKey
  | .error e => { task with phase := .closing (.error e) }

/-- What follows the answer to a request for a page. -/
def receive (setup : Setup α) (s : State α ι) (task : SegmentTask α ι) (attempt : Nat) :
    Outcome (Page α ι) → SegmentTask α ι
  | .crashed reason => { task with phase := .ending (.crashed reason) }
  | .returned (.ok page) =>
    { task with phase := .charging page (s.readPacer.permits page.capacity) s.now }
  | .returned (.error e) =>
    match setup.scanRetry.onFailure attempt e with
    | .giveUp => { task with phase := .closing (.error e) }
    | .again (.error fault) => { task with phase := .ending (.crashed (some fault.message)) }
    | .again (.ok delay) => { task with phase := .backingOff (attempt + 1) (s.wakeAfter delay) }

/-- Count a page, and hand its items over if there are any. -/
def record (setup : Setup α) (s : State α ι) (task : SegmentTask α ι) (page : Page α ι) :
    State α ι × SegmentTask α ι :=
  let counted :=
    { s with
      metrics := s.metrics.record (.page (UInt64.ofNat page.items.length) page.capacity) }.log
      (.scanned task.segment page)
  let read := { task with pages := task.pages + 1 }
  if page.items.isEmpty then (counted, read.advance page.nextKey)
  else if setup.outsideConsumer then
    (counted.log (.handed task.segment page.items),
      { read with phase := .handing page.nextKey page.items })
  else
    (counted,
      { read with
        phase := .delivering page.nextKey ⟨task.segment, .checking page.items⟩ })

/-- One step of a segment task. There is none while it sleeps, while no slot is
free, and while an answer is outstanding. -/
def step (setup : Setup α) (s : State α ι) (task : SegmentTask α ι) (answer : Answer α ι) :
    Option (State α ι × SegmentTask α ι) :=
  match task.phase, answer with
  | .ready, .none =>
    some ({ s with metrics := s.metrics.record (α := α) .segmentStarted },
      { task with phase := .checking })
  | .checking, .none =>
    if s.interrupted then some (s, { task with phase := .closing (.error task.interruption) })
    else some (s, { task with phase := .connecting 0 })
  | .connecting attempt, .none =>
    s.readSlots.acquire?.map fun slots =>
      ({ s with readSlots := slots }.log (.requested (task.request setup)),
        { task with phase := .fetching attempt })
  | .fetching attempt, .page outcome =>
    let freed := { s with readSlots := s.readSlots.release }
    some (freed, task.receive setup freed attempt outcome)
  | .backingOff attempt wake, .none =>
    if wake ≤ s.now then some (s, { task with phase := .connecting attempt }) else none
  | .charging page permits wake, .none =>
    if s.now < wake then none
    else if permits = 0 then some (s, { task with phase := .recording page })
    else
      match s.readPacer.charge s.now permits with
      | .granted pacer remaining =>
        some ({ s with readPacer := pacer },
          { task with phase := .charging page remaining s.now })
      | .notBefore time => some (s, { task with phase := .charging page permits time })
  | .recording page, .none => some (record setup s task page)
  | .delivering nextKey delivery, answer =>
    match delivery.phase, answer with
    | .ended result, .none => some (s, task.afterHandover nextKey result)
    | _, _ =>
      (delivery.step setup s answer).map fun (s, delivery) =>
        (s, { task with phase := .delivering nextKey delivery })
  | .handing nextKey _, .consumer (.returned result) => some (s, task.afterHandover nextKey result)
  | .handing _ _, .consumer (.crashed reason) =>
    some (s, { task with phase := .ending (.crashed reason) })
  | .closing result, .none =>
    some ({ s with metrics := s.metrics.record (α := α) (.segmentEnded result.isOk) },
      { task with phase := .ending (.returned (result.map fun _ => ())) })
  | .ending outcome, .none =>
    some ({ s with scanTracker := s.scanTracker.completeTask task.label outcome },
      { task with phase := .finished })
  | _, _ => none

/-- The chunk that the thread of this segment writes itself. -/
def inline? (task : SegmentTask α ι) : Option (ChunkTask α ι) :=
  match task.phase with
  | .delivering _ delivery => delivery.inline?
  | _ => none

/-- When a sleeping task wakes. -/
def wake? (task : SegmentTask α ι) : Option Nat :=
  match task.phase with
  | .backingOff _ wake | .charging _ _ wake => some wake
  | _ => task.inline?.bind ChunkTask.wake?

end SegmentTask
end TableCopy
