import TableCopy.Proofs.Copy.Failure
import TableCopy.Proofs.Pipeline.Submissions
import TableCopy.Proofs.Plan.Section

/-!
# Reading after an interrupt

Every segment is read by one task at a time, and the task looks at the interrupt before
each page. Once the interrupt is raised no task gets past this check. What is still read
and handed over belongs to tasks that had passed it, and each of them had passed it for one
page. The controlling thread looks at the interrupt before it submits a segment and before
it ends, so that it submits no segment but the one for which it had passed its check, and
ends with the interrupt. A failed segment stops the submissions in the same way.
-/

namespace TableCopy

variable {α ι : Type}

/-- Whether an exchange brought a page of a segment. -/
def Exchange.bringsPage (n : Nat) : Exchange α ι → Bool
  | ⟨.page request, .page (.returned (.ok _))⟩ => request.segment == n
  | _ => false

namespace Entry

/-- Whether an entry notes a request for a page of a segment. -/
def asksFor (n : Nat) : Entry α ι → Bool
  | requested request => request.segment == n
  | _ => false

/-- Whether an entry notes a page of a segment that is handed over. A page without items is
not. -/
def handsOver (n : Nat) : Entry α ι → Bool
  | scanned segment page => segment == n && !page.items.isEmpty
  | _ => false

end Entry

namespace State

/-- How many requests were made for pages of a segment. -/
def requests (s : State α ι) (n : Nat) : Nat := s.journal.countP (Entry.asksFor n)

/-- How many pages of a segment were handed over. -/
def handovers (s : State α ι) (n : Nat) : Nat := s.journal.countP (Entry.handsOver n)

/-- No further segment gets past the check before its submission. -/
def IsStopping (s : State α ι) : Prop := s.interrupted = true ∨ s.scanTracker.hasFailed = true

end State

namespace Holder

/-- How often a holder has a segment before it, as a task or still to be submitted. -/
def ofSegment (n : Nat) : Holder α ι → Nat
  | .control (.submitting left) | .control (.refused _ left) => left.count n
  | .control (.beginning m left) | .control (.handing m left) => (m :: left).count n
  | .segment task => if task.segment = n then 1 else 0
  | _ => 0

/-- One for a task of a segment that is past its check and has no page yet. -/
def fetching (n : Nat) : Holder α ι → Nat
  | .segment ⟨m, _, _, .connecting _⟩ | .segment ⟨m, _, _, .fetching _⟩
  | .segment ⟨m, _, _, .backingOff ..⟩ => if m = n then 1 else 0
  | _ => 0

/-- One for a task of a segment that is past its check and has handed over no page since. -/
def bearing (n : Nat) : Holder α ι → Nat
  | .segment ⟨m, _, _, .connecting _⟩ | .segment ⟨m, _, _, .fetching _⟩
  | .segment ⟨m, _, _, .backingOff ..⟩ | .segment ⟨m, _, _, .charging ..⟩
  | .segment ⟨m, _, _, .recording _⟩ => if m = n then 1 else 0
  | _ => 0

/-- The requests that a task of a segment may make before it checks again. -/
def requestsLeft (setup : Setup α) (n : Nat) : Holder α ι → Nat
  | .segment ⟨m, _, _, .connecting attempt⟩ | .segment ⟨m, _, _, .backingOff attempt _⟩ =>
    if m = n then setup.scanRetry.maxRetries - attempt + 1 else 0
  | .segment ⟨m, _, _, .fetching attempt⟩ =>
    if m = n then setup.scanRetry.maxRetries - attempt else 0
  | _ => 0

/-- One for a controlling thread that is past the check of a segment and has not submitted
it. -/
def passed : Holder α ι → Nat
  | .control (.beginning ..) | .control (.handing ..) => 1
  | _ => 0

/-- The holder is a task of a segment, or past the check before its submission. -/
def HasTaken (n : Nat) : Holder α ι → Prop
  | .segment task => task.segment = n
  | .control (.beginning m _) | .control (.handing m _) => m = n
  | _ => False

/-- Whoever has taken a segment has taken one of a kind. -/
def TakesOnly (allowed : Nat → Prop) (holder : Holder α ι) : Prop :=
  ∀ n, holder.HasTaken n → allowed n

/-- The holder is no pipe that has ended with another result. -/
def EndsWith (result : Except CopyError Unit) : Holder α ι → Prop
  | .control c => ∀ other, c.result? = some other → other = result
  | _ => True

theorem fetching_le_bearing (n : Nat) (holder : Holder α ι) :
    holder.fetching n ≤ holder.bearing n := by
  cases holder with
  | segment task =>
    obtain ⟨segment, key, pages, phase⟩ := task
    cases phase <;> simp [fetching, bearing]
  | _ => exact Nat.le_refl 0

theorem bearing_le_ofSegment (n : Nat) (holder : Holder α ι) :
    holder.bearing n ≤ holder.ofSegment n := by
  cases holder with
  | segment task =>
    obtain ⟨segment, key, pages, phase⟩ := task
    cases phase <;> simp [bearing, ofSegment]
  | _ => exact Nat.zero_le _

theorem requestsLeft_le (setup : Setup α) (n : Nat) (holder : Holder α ι) :
    holder.requestsLeft setup n ≤ (setup.scanRetry.maxRetries + 1) * holder.fetching n := by
  cases holder with
  | segment task =>
    obtain ⟨segment, key, pages, phase⟩ := task
    by_cases h : segment = n
    · cases phase <;> simp only [requestsLeft, fetching, if_pos h] <;> omega
    · cases phase <;> simp only [requestsLeft, fetching, if_neg h] <;> omega
  | _ => exact Nat.zero_le _

theorem fetching_of_bearing {n : Nat} {holder : Holder α ι} (h : holder.bearing n = 0) :
    holder.fetching n = 0 := Nat.le_zero.1 (h ▸ holder.fetching_le_bearing n)

theorem requestsLeft_of_fetching (setup : Setup α) {n : Nat} {holder : Holder α ι}
    (h : holder.fetching n = 0) : holder.requestsLeft setup n = 0 := by
  have hle := holder.requestsLeft_le setup n
  rw [h, Nat.mul_zero] at hle
  exact Nat.le_zero.1 hle

theorem requestsLeft_of_bearing {setup : Setup α} {n : Nat} {holder : Holder α ι}
    (h : holder.bearing n = 0) : holder.requestsLeft setup n = 0 :=
  requestsLeft_of_fetching setup (fetching_of_bearing h)

theorem passed_le_controls (holder : Holder α ι) : holder.passed ≤ holder.controls := by
  cases holder with
  | control c => cases c <;> exact Nat.le_of_ble_eq_true rfl
  | _ => exact Nat.zero_le _

section AfterHandover

variable (n segment : Nat) (key : Option ι) (pages : Nat) (phase : SegmentPhase α ι)
variable (nextKey : Option ι) (result : Except CopyError Unit)

theorem ofSegment_advance :
    ofSegment n (.segment (SegmentTask.advance ⟨segment, key, pages, phase⟩ nextKey)) =
      if segment = n then 1 else 0 := by
  cases nextKey <;> rfl

theorem bearing_advance :
    bearing n (.segment (SegmentTask.advance ⟨segment, key, pages, phase⟩ nextKey)) = 0 := by
  cases nextKey <;> rfl

theorem ofSegment_afterHandover :
    ofSegment n (.segment
        (SegmentTask.afterHandover ⟨segment, key, pages, phase⟩ nextKey result)) =
      if segment = n then 1 else 0 := by
  cases result with
  | ok => exact ofSegment_advance ..
  | error => rfl

/-- A task that goes on after a page checks before it does anything else. -/
theorem bearing_afterHandover :
    bearing n (.segment
      (SegmentTask.afterHandover ⟨segment, key, pages, phase⟩ nextKey result)) = 0 := by
  cases result with
  | ok => exact bearing_advance ..
  | error => rfl

end AfterHandover

end Holder

theorem RetryConfig.lt_of_again [Quantity α] {config : RetryConfig α} {attempt : Nat}
    {e : CopyError} {delay : Except Duration.Fault Nat}
    (h : config.onFailure attempt e = .again delay) : attempt < config.maxRetries := by
  unfold onFailure at h
  split at h
  · rename_i hretry
    exact hretry.2
  · cases h

theorem State.not_isStopping {s : State α ι} (hint : s.interrupted = false)
    (hfailed : s.scanTracker.hasFailed = false) : ¬ s.IsStopping := by
  rw [IsStopping, hint, hfailed]
  exact fun h => h.elim Bool.false_ne_true Bool.false_ne_true

variable [Quantity α] {setup : Setup α} {start s t : State α ι} {history : List (Exchange α ι)}

namespace Turn

open Holder

variable {before after : Multiset (Holder α ι)} {exchanges : List (Exchange α ι)}

/-- No turn makes a segment twice. -/
theorem ofSegment_le (n : Nat) (h : Turn setup s before exchanges t after) :
    total (ofSegment n) after ≤ total (ofSegment n) before := by
  cases h with
  | control h =>
    rw [total_singleton, total_singleton]
    cases h <;> simp [ofSegment]
  | segment h =>
    rw [total_singleton, total_singleton]
    cases h with
    | skip => exact (ofSegment_advance ..).le
    | takenOutside => exact (ofSegment_afterHandover ..).le
    | _ => exact Nat.le_refl _
  | submitSegment =>
    simp only [total_add, total_singleton, ofSegment, List.count_cons, beq_iff_eq]
    exact Nat.le_refl _
  | rejectSegment => exact List.count_le_count_cons
  | takeBack =>
    rw [total_add, total_singleton, total_singleton, total_singleton, ofSegment_afterHandover]
    exact Nat.le_add_right _ _
  | handOver => exact Nat.le_refl _
  | _ => simp [ofSegment]

section Interrupted

variable (hint : s.interrupted = true)

include hint

/-- After an interrupt a page comes only to a task that is past its check, which has its
page then. -/
theorem pages_le (n : Nat) (h : Turn setup s before exchanges t after) :
    exchanges.countP (Exchange.bringsPage n) + total (fetching n) after ≤
      total (fetching n) before := by
  cases h with
  | control h => simp [fetching]
  | segment h =>
    rw [total_singleton, total_singleton]
    cases h with
    | proceed hgo =>
      rw [hint] at hgo
      cases hgo
    | skip => simp [fetching_of_bearing, bearing_advance]
    | takenOutside => simp [fetching_of_bearing, bearing_afterHandover, Exchange.bringsPage]
    | fetch page =>
      simp [fetching, Exchange.page, Exchange.bringsPage, SegmentTask.request,
        List.countP_singleton]
    | _ => simp [fetching, Exchange.page, Exchange.bringsPage]
  | chunk h => cases h <;> simp [fetching, Exchange.batch, Exchange.bringsPage]
  | takeBack => simp [fetching_of_bearing, bearing_afterHandover]
  | _ => simp [fetching]

/-- After an interrupt a page is handed over only by a task that is past its check, which
has nothing to hand over then. -/
theorem handovers_le (n : Nat) (h : Turn setup s before exchanges t after) :
    t.shared.journal.countP (Entry.handsOver n) + total (bearing n) after ≤
      s.shared.journal.countP (Entry.handsOver n) + total (bearing n) before := by
  cases h with
  | control h => cases h <;> simp [bearing, Entry.handsOver]
  | segment h =>
    rw [total_singleton, total_singleton]
    cases h with
    | proceed hgo =>
      rw [hint] at hgo
      cases hgo
    | skip hempty => simp [bearing_advance, Entry.handsOver, hempty]
    | takenOutside => simp [bearing_afterHandover]
    | _ => simp [bearing, Entry.handsOver]
  | delivery h => cases h <;> simp [bearing, Entry.handsOver]
  | chunk h => cases h <;> simp [bearing, Entry.handsOver]
  | takeBack => simp [bearing_afterHandover]
  | handOver hitems => simp [bearing, Entry.handsOver, List.countP_cons, hitems]
  | _ => simp [bearing]

/-- After an interrupt a request is made only by a task that may make one, and its retries
are used up one by one. -/
theorem requests_le (n : Nat) (h : Turn setup s before exchanges t after) :
    t.shared.journal.countP (Entry.asksFor n) + total (requestsLeft setup n) after ≤
      s.shared.journal.countP (Entry.asksFor n) + total (requestsLeft setup n) before := by
  cases h with
  | control h => cases h <;> simp [requestsLeft, Entry.asksFor]
  | segment h =>
    rw [total_singleton, total_singleton]
    cases h with
    | proceed hgo =>
      rw [hint] at hgo
      cases hgo
    | skip => simp [requestsLeft_of_bearing, bearing_advance, Entry.asksFor]
    | takenOutside => simp [requestsLeft_of_bearing, bearing_afterHandover]
    | @send segment key pages attempt _ hslots =>
      simp only [State.shared_log, List.countP_cons, Entry.asksFor, SegmentTask.request,
        beq_iff_eq, requestsLeft]
      split <;> exact Nat.le_of_eq (by simp [Nat.add_assoc, Nat.add_comm])
    | @backOff segment key pages attempt e delay hagain =>
      have hlt := RetryConfig.lt_of_again hagain
      simp only [requestsLeft]
      split <;> simp; omega
    | _ => simp [requestsLeft]
  | delivery h => cases h <;> simp [requestsLeft, Entry.asksFor]
  | chunk h => cases h <;> simp [requestsLeft, Entry.asksFor]
  | takeBack => simp [requestsLeft_of_bearing, bearing_afterHandover]
  | handOver hitems => simp [requestsLeft, Entry.asksFor]
  | _ => simp [requestsLeft]

/-- After an interrupt a pipe ends with it. -/
theorem endsWith (h : Turn setup s before exchanges t after)
    (hbefore : ∀ holder ∈ before, holder.EndsWith (.error (Control.interruption setup))) :
    ∀ holder ∈ after, holder.EndsWith (.error (Control.interruption setup)) := by
  intro holder hmem
  cases h with
  | control h =>
    obtain rfl := Multiset.mem_singleton.1 hmem
    have hbefore := hbefore _ (Multiset.mem_singleton_self _)
    cases h with
    | conclude hgo =>
      rw [hint] at hgo
      cases hgo
    | interrupt => exact fun other hother => (Option.some.inj hother).symm
    | closeRead | joinRead | closeWrite | joinWrite => exact hbefore
    | _ => exact fun other hother => by cases hother
  | release =>
    obtain rfl := Multiset.mem_singleton.1 hmem
    have hbefore := hbefore _ (Multiset.mem_singleton_self _)
    exact hbefore
  | submitSegment =>
    rcases Multiset.mem_add.1 hmem with hmem | hmem
    · obtain rfl := Multiset.mem_singleton.1 hmem
      exact fun other hother => by cases hother
    · obtain rfl := Multiset.mem_singleton.1 hmem
      trivial
  | rejectSegment =>
    obtain rfl := Multiset.mem_singleton.1 hmem
    exact fun other hother => by cases hother
  | handOver | submitChunk =>
    rcases Multiset.mem_add.1 hmem with hmem | hmem
    · obtain rfl := Multiset.mem_singleton.1 hmem
      trivial
    · obtain rfl := Multiset.mem_singleton.1 hmem
      trivial
  | segment | delivery | takeBack | chunk | rejectChunk =>
    obtain rfl := Multiset.mem_singleton.1 hmem
    trivial
  | _ => exact absurd hmem (Multiset.notMem_zero _)

end Interrupted

section Stopping

variable (hstop : s.IsStopping)

include hstop

/-- No segment is submitted any more but the one that is past its check, to be taken or to be
lost. -/
theorem submissions_le (h : Turn setup s before exchanges t after) :
    total segmentTasks after - total segmentTasks before + t.shared.missingReaders +
        total passed after ≤ s.shared.missingReaders + total passed before := by
  cases h with
  | control h =>
    cases h with
    | next hgo hunfailed => exact absurd hstop (State.not_isStopping hgo hunfailed)
    | _ => simp [passed, segmentTasks]
  | submitSegment =>
    simp only [total_add, total_singleton, segmentTasks, passed]
    omega
  | rejectSegment hrefused =>
    have hlost := Pool.unstarted_submit_le hrefused
    simp only [total_singleton, segmentTasks, passed, State.shared_missingReaders]
    omega
  | segment h => simp [passed, segmentTasks, h.places.1]
  | delivery h => simp [passed, segmentTasks, h.places.1]
  | chunk h => simp [passed, segmentTasks, h.places.1]
  | _ => simp [passed, segmentTasks]

theorem takesOnly {allowed : Nat → Prop} (h : Turn setup s before exchanges t after)
    (hbefore : ∀ holder ∈ before, holder.TakesOnly allowed) :
    ∀ holder ∈ after, holder.TakesOnly allowed := by
  intro holder hmem n hn
  cases h with
  | control h =>
    obtain rfl := Multiset.mem_singleton.1 hmem
    have hbefore := hbefore _ (Multiset.mem_singleton_self _)
    cases h with
    | next hgo hunfailed => exact absurd hstop (State.not_isStopping hgo hunfailed)
    | register => exact hbefore n hn
    | _ => exact hn.elim
  | @segment task _ _ next h =>
    obtain rfl := Multiset.mem_singleton.1 hmem
    have hsame : next.segment = task.segment := by
      cases h with
      | @skip _ _ _ page => cases page.nextKey <;> rfl
      | @takenOutside _ _ _ nextKey _ result => cases result <;> cases nextKey <;> rfl
      | _ => rfl
    exact hbefore _ (Multiset.mem_singleton_self _) n (hsame.symm.trans hn)
  | submitSegment =>
    have hbefore := hbefore _ (Multiset.mem_singleton_self _)
    rcases Multiset.mem_add.1 hmem with hmem | hmem
    · obtain rfl := Multiset.mem_singleton.1 hmem
      exact hn.elim
    · obtain rfl := Multiset.mem_singleton.1 hmem
      exact hbefore n hn
  | handOver =>
    have hbefore := hbefore _ (Multiset.mem_singleton_self _)
    rcases Multiset.mem_add.1 hmem with hmem | hmem
    · obtain rfl := Multiset.mem_singleton.1 hmem
      exact hbefore n hn
    · obtain rfl := Multiset.mem_singleton.1 hmem
      exact hn.elim
  | @takeBack segment key pages nextKey number result =>
    obtain rfl := Multiset.mem_singleton.1 hmem
    have hbefore := hbefore _ (Multiset.mem_add.2 (.inl (Multiset.mem_singleton_self _)))
    have hsame : (SegmentTask.afterHandover (⟨segment, key, pages, .checking⟩ : SegmentTask α ι)
        nextKey result).segment = segment := by
      cases result <;> cases nextKey <;> rfl
    exact hbefore n (hsame.symm.trans hn)
  | submitChunk =>
    rcases Multiset.mem_add.1 hmem with hmem | hmem
    · obtain rfl := Multiset.mem_singleton.1 hmem
      exact hn.elim
    · obtain rfl := Multiset.mem_singleton.1 hmem
      exact hn.elim
  | rejectSegment | delivery | chunk | rejectChunk | release =>
    obtain rfl := Multiset.mem_singleton.1 hmem
    exact hn.elim
  | _ => exact absurd hmem (Multiset.notMem_zero _)

end Stopping
end Turn

namespace SegmentTask

omit [Quantity α] in
theorem control_notMem_holders (task : SegmentTask α ι) (c : Control α ι) :
    .control c ∉ task.holders := by
  obtain ⟨segment, key, pages, phase⟩ := task
  cases phase with
  | delivering nextKey delivery =>
    obtain ⟨number, phase⟩ := delivery
    cases phase <;> simp [holders, Delivery.holders]
  | _ => simp [holders]

end SegmentTask

namespace State

omit [Quantity α] in
/-- The controlling thread among the holders has the result of the pipe, if there is one. -/
theorem result?_of_mem {c : Control α ι} (h : .control c ∈ s.population) :
    c.result? = s.control.result? := by
  rw [population, Multiset.mem_add, Multiset.mem_add] at h
  rcases h with (h | h) | h
  · cases hcontrol : s.control with
    | running task left =>
      rw [hcontrol, Control.holders, Multiset.mem_add] at h
      rcases h with h | h
      · obtain rfl := Holder.control.inj (Multiset.mem_singleton.1 h)
        rfl
      · exact absurd h (task.control_notMem_holders c)
    | _ =>
      rw [hcontrol] at h
      obtain rfl := Holder.control.inj (Multiset.mem_singleton.1 h)
      rfl
  · obtain ⟨task, -, hmem⟩ := Multiset.mem_bind.1 h
    exact absurd hmem (task.control_notMem_holders c)
  · obtain ⟨task, -, hmem⟩ := Multiset.mem_map.1 h
    cases hmem

end State

section Interrupted

variable {answer : Answer α ι}

theorem Delivery.interrupted_of_step {delivery next : Delivery α ι} (hint : s.interrupted = true)
    (h : delivery.step setup s answer = some (t, next)) : t.interrupted = true := by
  rcases rule_of_step h with hrule | ⟨_, _, _, _, _, _, _, rfl, _⟩ | ⟨_, _, _, _, _, rfl, _⟩ |
    ⟨_, _, _, _, _, hstep, _⟩
  · exact (Turn.delivery hrule).interrupted_of_interrupted hint
  · exact hint
  · exact hint
  · exact (Turn.chunk (ChunkTask.rule_of_step hstep)).interrupted_of_interrupted hint

theorem SegmentTask.interrupted_of_step {task next : SegmentTask α ι}
    (hpaced : setup.outsideConsumer = false) (hint : s.interrupted = true)
    (h : task.step setup s answer = some (t, next)) : t.interrupted = true := by
  rcases rule_of_step hpaced h with hrule | ⟨_, _, _, _, _, _, rfl, _⟩ |
    ⟨_, _, _, _, _, _, _, rfl, _⟩ | ⟨_, _, _, _, _, _, _, hstep, _⟩
  · exact (Turn.segment hrule).interrupted_of_interrupted hint
  · exact hint
  · exact hint
  · exact Delivery.interrupted_of_step hint hstep

theorem State.interrupted_of_step {move : Move α ι} (hpaced : setup.outsideConsumer = false)
    (hpiping : s.control.isPiping = true) (h : s.step setup move = some t)
    (hint : s.interrupted = true) : t.interrupted = true := by
  cases rule_of_step h with
  | control h =>
    rcases Control.rule_of_step hpaced hpiping h with ⟨-, _, _, _, _, hrule, rfl⟩ |
      ⟨_, _, _, _, _, _, rfl⟩ | ⟨_, _, _, _, rfl⟩ | ⟨_, _, _, _, _, hstep, rfl⟩
    · have hnext := (Turn.control hrule).interrupted_of_interrupted hint
      exact hnext
    · exact hint
    · exact hint
    · have hnext := SegmentTask.interrupted_of_step hpaced hint hstep
      exact hnext
  | reader h =>
    cases rule_of_readerStep h with
    | advance _ hstep =>
      have hnext := SegmentTask.interrupted_of_step hpaced hint hstep
      exact hnext
    | retire | idle => exact hint
  | writer h =>
    cases rule_of_writerStep h with
    | advance _ hstep =>
      have hnext := (Turn.chunk (ChunkTask.rule_of_step hstep)).interrupted_of_interrupted hint
      exact hnext
    | retire | idle => exact hint
  | interrupt => rfl
  | _ => exact hint

end Interrupted

namespace Run

open Holder

/-- A task of a segment, or its submission, is there once. -/
theorem ofSegment_le_one (hpaced : setup.outsideConsumer = false) (hfresh : start.IsFresh setup)
    (hrun : Run setup (start.piping setup) history s) (n : Nat) :
    total (ofSegment n) s.population ≤ 1 := by
  refine hrun.invariant (P := fun _ _ holders => total (ofSegment n) holders ≤ 1) hpaced hfresh
    ?_ ?_
  · rw [total_singleton]
    exact List.nodup_iff_count_le_one.1 (setup.scan.part.nodup_ownedSegments _) n
  · intro history s t before after rest exchanges _ _ h hs
    rw [total_add] at hs ⊢
    exact (Nat.add_le_add_right (h.ofSegment_le n) _).trans hs

section From

variable {later : List (Exchange α ι)}

/-- The interrupt stays raised, whatever the pools do with refused tasks. -/
theorem interrupted_from (hpaced : setup.outsideConsumer = false)
    (hpiping : s.control.isPiping = true) (hint : s.interrupted = true)
    (hlater : Run setup s later t) : t.interrupted = true := by
  induction hlater with
  | start => exact hint
  | step _ run h ih =>
    exact State.interrupted_of_step hpaced (run.isPiping_from hpaced hpiping) h ih
  | release _ h ih =>
    rw [State.releasing, h]
    exact ih

variable (hpaced : setup.outsideConsumer = false) (hreliable : s.IsReliable)
variable (hpiping : s.control.isPiping = true)

include hpaced hreliable hpiping

theorem hasFailed_scan_from (hfailed : s.scanTracker.hasFailed = true)
    (hlater : Run setup s later t) : t.scanTracker.hasFailed = true :=
  hlater.invariant_from (P := fun _ shared _ => shared.scanTracker.hasFailed = true) hpaced
    hreliable hpiping hfailed fun _ _ h hu => h.hasFailed_scan hu

theorem hasFailed_write_from (hfailed : s.writeTracker.hasFailed = true)
    (hlater : Run setup s later t) : t.writeTracker.hasFailed = true :=
  hlater.invariant_from (P := fun _ shared _ => shared.writeTracker.hasFailed = true) hpaced
    hreliable hpiping hfailed fun _ _ h hu => h.hasFailed_write hu

theorem isStopping_from (hstop : s.IsStopping) (hlater : Run setup s later t) : t.IsStopping :=
  hstop.imp (hlater.interrupted_from hpaced hpiping)
    (hlater.hasFailed_scan_from hpaced hreliable hpiping)

/-- What every turn takes from a weight of the holders, and adds to a count, is no more than
there was. -/
theorem count_add_total_le {P : State α ι → Prop} (count : List (Exchange α ι) → Shared α ι → Nat)
    (weight : Holder α ι → Nat) (hP : ∀ {history u}, Run setup s history u → P u)
    (hturn : ∀ {history u v before after exchanges}, P u →
      Turn setup u before exchanges v after →
        count (exchanges ++ history) v.shared + total weight after ≤
          count history u.shared + total weight before)
    (hlater : Run setup s later t) :
    count later t.shared + total weight t.population ≤
      count [] s.shared + total weight s.population := by
  refine hlater.invariant_from
    (P := fun history shared holders => count history shared + total weight holders ≤
      count [] s.shared + total weight s.population) hpaced hreliable hpiping le_rfl ?_
  intro history u v before after rest exchanges run _ h hu
  have hlocal : count (exchanges ++ history) v.shared + total weight after ≤
      count history u.shared + total weight before := hturn (hP run) h
  rw [total_add] at hu ⊢
  omega

/-- A property of single holders that every turn hands on holds of all holders from then
on. -/
theorem forall_holders_from {P : State α ι → Prop} {Q : Holder α ι → Prop}
    (hstart : ∀ holder ∈ s.population, Q holder)
    (hP : ∀ {history u}, Run setup s history u → P u)
    (hturn : ∀ {u v : State α ι} {before after exchanges}, P u →
      Turn setup u before exchanges v after → (∀ holder ∈ before, Q holder) →
        ∀ holder ∈ after, Q holder)
    (hlater : Run setup s later t) : ∀ holder ∈ t.population, Q holder := by
  refine hlater.invariant_from (P := fun _ _ holders => ∀ holder ∈ holders, Q holder) hpaced
    hreliable hpiping hstart ?_
  intro history u v before after rest exchanges run _ h hu holder hmem
  rcases Multiset.mem_add.1 hmem with hmem | hmem
  · exact hturn (hP run) h
      (fun other hother => hu other (Multiset.mem_add.2 (.inl hother))) holder hmem
  · exact hu holder (Multiset.mem_add.2 (.inr hmem))

section Interrupted

variable (hint : s.interrupted = true)

include hint

theorem pages_le (hlater : Run setup s later t) (n : Nat) :
    later.countP (Exchange.bringsPage n) ≤ total (fetching n) s.population := by
  have hle := hlater.count_add_total_le hpaced hreliable hpiping
    (fun history _ => history.countP (Exchange.bringsPage n)) (fetching n)
    (interrupted_from hpaced hpiping hint) ?_
  · rw [List.countP_nil, Nat.zero_add] at hle
    exact (Nat.le_add_right _ _).trans hle
  · intro history u v before after exchanges hu h
    have hlocal := h.pages_le hu n
    rw [List.countP_append]
    omega

theorem handovers_le (hlater : Run setup s later t) (n : Nat) :
    t.handovers n ≤ s.handovers n + total (bearing n) s.population :=
  (Nat.le_add_right _ _).trans (hlater.count_add_total_le hpaced hreliable hpiping
    (fun _ shared => shared.journal.countP (Entry.handsOver n)) (bearing n)
    (interrupted_from hpaced hpiping hint) fun hu h => h.handovers_le hu n)

theorem requests_le (hlater : Run setup s later t) (n : Nat) :
    t.requests n ≤ s.requests n + total (requestsLeft setup n) s.population :=
  (Nat.le_add_right _ _).trans (hlater.count_add_total_le hpaced hreliable hpiping
    (fun _ shared => shared.journal.countP (Entry.asksFor n)) (requestsLeft setup n)
    (interrupted_from hpaced hpiping hint) fun hu h => h.requests_le hu n)

/-- No page is asked for where no task is past its check. -/
theorem requests_le_of_fetching (hlater : Run setup s later t) {n : Nat}
    (hnone : total (fetching n) s.population = 0) : t.requests n ≤ s.requests n := by
  have hleft : total (requestsLeft setup n) s.population = 0 := by
    refine Multiset.sum_eq_zero fun x hx => ?_
    obtain ⟨holder, hmem, rfl⟩ := Multiset.mem_map.1 hx
    have hle := le_total_of_mem (fetching n) hmem
    rw [hnone] at hle
    exact requestsLeft_of_fetching setup (Nat.le_zero.1 hle)
  have hle := hlater.requests_le hpaced hreliable hpiping hint n
  rwa [hleft, Nat.add_zero] at hle

/-- A pipe that is interrupted before its last look ends with the interrupt, whatever both
sides have recorded. -/
theorem result_eq_interruption (hnone : s.control.result? = none) (hlater : Run setup s later t)
    {result : Except CopyError Unit} (hresult : t.control.result? = some result) :
    result = .error (Control.interruption setup) := by
  refine hlater.forall_holders_from hpaced hreliable hpiping
    (Q := EndsWith (.error (Control.interruption setup))) ?_
    (interrupted_from hpaced hpiping hint) (fun hu h => h.endsWith hu)
    _ (mem_population_of_result? hresult) result hresult
  intro holder hmem
  cases holder with
  | control c =>
    intro other hother
    rw [State.result?_of_mem hmem, hnone] at hother
    cases hother
  | _ => trivial

end Interrupted

section Stopping

variable (hstop : s.IsStopping)

include hstop

/-- No segment is submitted any more but the one that is past its check. -/
theorem submissions_le (hlater : Run setup s later t) :
    t.readPool.submitted ≤ s.readPool.submitted + total passed s.population := by
  have hinvariant := hlater.invariant_submitted
    (P := fun _ shared holders read _ => read + shared.missingReaders + total passed holders ≤
      s.readPool.submitted + s.readPool.unstarted + total passed s.population)
    hpaced hreliable hpiping le_rfl ?_
  · obtain ⟨read, -, lost, -, hle, hreads, -⟩ := hinvariant
    rw [State.shared_missingReaders, hreads.unstarted] at hle
    rw [hreads.submitted]
    omega
  · intro history u v before after rest exchanges read write run _ h hu
    have hlocal := h.submissions_le (run.isStopping_from hpaced hreliable hpiping hstop)
    rw [total_add] at hu ⊢
    omega

/-- Every segment that is begun, submitted or read from then on was taken before. -/
theorem exists_hasTaken (hlater : Run setup s later t) {holder : Holder α ι}
    (hmem : holder ∈ t.population) {n : Nat} (hn : holder.HasTaken n) :
    ∃ earlier ∈ s.population, earlier.HasTaken n :=
  hlater.forall_holders_from hpaced hreliable hpiping
    (Q := TakesOnly fun n => ∃ earlier ∈ s.population, earlier.HasTaken n)
    (fun earlier hearlier _ hn => ⟨earlier, hearlier, hn⟩)
    (isStopping_from hpaced hreliable hpiping hstop) (fun hu h => h.takesOnly hu) _ hmem _ hn

end Stopping
end From
end Run
end TableCopy
