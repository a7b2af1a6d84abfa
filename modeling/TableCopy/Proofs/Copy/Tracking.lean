import TableCopy.Proofs.Pipeline.Run
import TableCopy.Proofs.Tracker.Calls

/-!
# What the trackers count

The tracker of a side counts the registered tasks of that side that have not
completed, wherever they are. A waiter is therefore answered when none is left, and
from then on none comes to life again: the result of a pipe is about all its tasks.
-/

namespace TableCopy

variable {α ι : Type}

namespace Holder

/-- One for the controlling thread. -/
def controls : Holder α ι → Nat
  | .control _ => 1
  | _ => 0

/-- Segments that a holder has to report to the scan tracker. -/
def scanPending : Holder α ι → Nat
  | .control (.handing ..) | .control (.refused ..) => 1
  | .segment ⟨_, _, _, .finished⟩ => 0
  | .segment _ => 1
  | _ => 0

/-- Chunks that a holder has to report to the write tracker. -/
def writePending : Holder α ι → Nat
  | .delivery ⟨_, .submitting ..⟩ | .delivery ⟨_, .refused ..⟩ => 1
  | .chunk ⟨_, _, .finished⟩ => 0
  | .chunk _ => 1
  | _ => 0

/-- One for a segment whose page is being delivered. -/
def delivering : Holder α ι → Nat
  | .segment ⟨_, _, _, .delivering ..⟩ => 1
  | _ => 0

/-- One for a delivery. -/
def deliveries : Holder α ι → Nat
  | .delivery _ => 1
  | _ => 0

theorem delivering_le_scanPending (holder : Holder α ι) :
    holder.delivering ≤ holder.scanPending := by
  rcases holder with c | ⟨segment, key, pages, phase⟩ | d | task
  · exact Nat.zero_le _
  · cases phase <;> simp [delivering, scanPending]
  · exact Nat.zero_le _
  · exact Nat.zero_le _

theorem scanPending_afterHandover (task : SegmentTask α ι) (nextKey : Option ι)
    (result : Except CopyError Unit) :
    scanPending (.segment (task.afterHandover nextKey result)) = 1 := by
  cases result <;> cases nextKey <;> rfl

theorem delivering_afterHandover (task : SegmentTask α ι) (nextKey : Option ι)
    (result : Except CopyError Unit) :
    delivering (.segment (task.afterHandover nextKey result)) = 0 := by
  cases result <;> cases nextKey <;> rfl

end Holder

variable [Quantity α] {setup : Setup α} {start s t : State α ι} {history : List (Exchange α ι)}

namespace Turn

open Holder

variable {before after : Multiset (Holder α ι)} {exchanges : List (Exchange α ι)}

theorem controls_eq (h : Turn setup s before exchanges t after) :
    total controls after = total controls before := by
  cases h <;> simp [controls]

/-- A delivery comes and goes with the page of its segment. -/
theorem deliveries_eq (h : Turn setup s before exchanges t after) :
    total deliveries after + total delivering before =
      total delivering after + total deliveries before := by
  cases h with
  | segment h =>
    rw [total_singleton, total_singleton, total_singleton, total_singleton]
    cases h with
    | skip => exact (delivering_afterHandover _ _ (.ok ())).symm
    | takenOutside => exact (delivering_afterHandover _ _ _).symm
    | _ => rfl
  | retireSegment h =>
    obtain ⟨segment, key, pages, rfl⟩ := SegmentTask.exists_of_isFinished h
    rfl
  | takeBack =>
    rw [total_add, total_add, total_singleton, total_singleton, total_singleton,
      total_singleton, total_singleton, total_singleton, delivering_afterHandover]
    rfl
  | _ => simp [delivering, deliveries]

/-- A turn moves the scan tracker as it moves the segments that are to be reported. -/
theorem scanPending_eq (h : Turn setup s before exchanges t after)
    (hpending : total scanPending before ≤ s.scanTracker.pending) :
    t.shared.scanTracker.pending + total scanPending before =
      s.scanTracker.pending + total scanPending after := by
  cases h with
  | control h =>
    rw [total_singleton, total_singleton] at *
    cases h with
    | report => exact Nat.sub_add_cancel hpending
    | _ => rfl
  | segment h =>
    rw [total_singleton, total_singleton] at *
    cases h with
    | skip => exact congrArg _ (scanPending_afterHandover _ _ (.ok ())).symm
    | takenOutside => exact congrArg _ (scanPending_afterHandover _ _ _).symm
    | complete => exact Nat.sub_add_cancel hpending
    | _ => rfl
  | delivery h =>
    rw [total_singleton, total_singleton]
    cases h <;> rfl
  | chunk h =>
    rw [total_singleton, total_singleton]
    cases h <;> rfl
  | retireSegment h =>
    obtain ⟨segment, key, pages, rfl⟩ := SegmentTask.exists_of_isFinished h
    rfl
  | takeBack =>
    rw [total_add, total_singleton, total_singleton, total_singleton, scanPending_afterHandover]
    rfl
  | _ => simp [scanPending]

/-- A turn moves the write tracker as it moves the chunks that are to be reported. -/
theorem writePending_eq (h : Turn setup s before exchanges t after)
    (hpending : total writePending before ≤ s.writeTracker.pending) :
    t.shared.writeTracker.pending + total writePending before =
      s.writeTracker.pending + total writePending after := by
  cases h with
  | control h =>
    rw [total_singleton, total_singleton]
    cases h <;> rfl
  | segment h =>
    rw [total_singleton, total_singleton]
    cases h <;> rfl
  | delivery h =>
    rw [total_singleton, total_singleton] at *
    cases h with
    | report => exact Nat.sub_add_cancel hpending
    | _ => rfl
  | chunk h =>
    rw [total_singleton, total_singleton] at *
    cases h with
    | complete => exact Nat.sub_add_cancel hpending
    | _ => rfl
  | retireChunk h =>
    obtain ⟨segment, pending, rfl⟩ := ChunkTask.exists_of_isFinished h
    rfl
  | _ => simp [writePending]

end Turn

namespace Run

open Holder

variable (hpaced : setup.outsideConsumer = false) (hfresh : start.IsFresh setup)

include hpaced hfresh

/-- There is one controlling thread. -/
theorem total_controls (hrun : Run setup (start.piping setup) history s) :
    total controls s.population = 1 := by
  refine hrun.invariant (P := fun _ _ holders => total controls holders = 1) hpaced hfresh rfl ?_
  intro history s t before after rest exchanges _ _ h hs
  rw [total_add] at hs ⊢
  rw [h.controls_eq, hs]

theorem control_unique (hrun : Run setup (start.piping setup) history s) {c c' : Control α ι}
    (h : .control c ∈ s.population) (h' : .control c' ∈ s.population) : c' = c := by
  obtain ⟨rest, hrest⟩ := Multiset.exists_cons_of_mem h
  have hone := hrun.total_controls hpaced hfresh
  rw [hrest, total_cons] at hone
  rw [hrest] at h'
  rcases Multiset.mem_cons.1 h' with heq | hmem
  · exact Holder.control.inj heq
  · have hle : 1 ≤ total controls rest := le_total_of_mem controls hmem
    have hfirst : controls (.control c) = 1 := rfl
    omega

/-- As many deliveries are under way as segments wait for one. -/
theorem total_deliveries (hrun : Run setup (start.piping setup) history s) :
    total deliveries s.population = total delivering s.population := by
  refine hrun.invariant
    (P := fun _ _ holders => total deliveries holders = total delivering holders)
    hpaced hfresh rfl ?_
  intro history s t before after rest exchanges _ _ h hs
  have hlocal := h.deliveries_eq
  rw [total_add, total_add] at hs ⊢
  omega

/-- A count that turns move together with a weight of the holders counts that weight. -/
theorem count_eq_total (count : Shared α ι → Nat) (weight : Holder α ι → Nat)
    (hstart : count start.shared = weight (.control (.submitting setup.scan.segments)))
    (hturn : ∀ {s t : State α ι} {before after exchanges}, Turn setup s before exchanges t after →
      total weight before ≤ count s.shared →
        count t.shared + total weight before = count s.shared + total weight after)
    (hrun : Run setup (start.piping setup) history s) :
    count s.shared = total weight s.population := by
  refine hrun.invariant (P := fun _ shared holders => count shared = total weight holders)
    hpaced hfresh ?_ ?_
  · rw [total_singleton, hstart]
  · intro history s t before after rest exchanges _ _ h hs
    rw [total_add] at hs ⊢
    have hlocal := hturn h (by omega)
    omega

/-- The scan tracker counts the segments that are registered and not reported. -/
theorem scanPending_eq (hrun : Run setup (start.piping setup) history s) :
    s.scanTracker.pending = total scanPending s.population := by
  refine hrun.count_eq_total hpaced hfresh (fun shared => shared.scanTracker.pending)
    scanPending ?_ Turn.scanPending_eq
  rw [State.shared_scanTracker, hfresh.scanTracker]
  rfl

/-- The write tracker counts the chunks that are registered and not reported. -/
theorem writePending_eq (hrun : Run setup (start.piping setup) history s) :
    s.writeTracker.pending = total writePending s.population := by
  refine hrun.count_eq_total hpaced hfresh (fun shared => shared.writeTracker.pending)
    writePending ?_ Turn.writePending_eq
  rw [State.shared_writeTracker, hfresh.writeTracker]
  rfl

end Run

/-! ## Waiting -/

namespace Control

/-- What the controlling thread has learned of the segments. -/
def scanned? : Control α ι → Option (Except CopyError Unit)
  | finishing scanned | awaitingWrite scanned | concluding scanned _ => some scanned
  | control => control.result?

/-- What the controlling thread has learned of the chunks. -/
def written? : Control α ι → Option (Except CopyError Unit)
  | concluding _ written => some written
  | control => control.result?

/-- What the controlling thread has learned of a side is final. -/
structure IsSettled (shared : Shared α ι) (control : Control α ι) : Prop where
  scanned : ∀ result, control.scanned? = some result →
    shared.scanTracker.pending = 0 ∧ (result = .ok () → shared.scanTracker.hasFailed = false)
  written : ∀ result, control.written? = some result →
    shared.writeTracker.pending = 0 ∧ (result = .ok () → shared.writeTracker.hasFailed = false)

omit [Quantity α] in
/-- How a pipe has ended stands for what was learned of both sides. -/
theorem learned_of_result? {control : Control α ι} {result : Except CopyError Unit}
    (h : control.result? = some result) :
    control.scanned? = some result ∧ control.written? = some result := by
  cases control <;> first | exact ⟨h, h⟩ | cases h

theorem firstFailure_eq_ok {first second : Except CopyError Unit}
    (h : firstFailure first second = .ok ()) : first = .ok () ∧ second = .ok () := by
  cases first with
  | error => cases h
  | ok => exact ⟨rfl, h⟩

/-- What the controlling thread has learned is what the trackers answer, and a pipe has
ended with the first failure among the answers unless it found itself interrupted. -/
def HasLearned (setup : Setup α) (shared : Shared α ι) : Control α ι → Prop
  | finishing scanned | awaitingWrite scanned => shared.scanTracker.wait? = some scanned
  | concluding scanned written =>
    shared.scanTracker.wait? = some scanned ∧ shared.writeTracker.wait? = some written
  | control => ∀ result, control.result? = some result → ∃ scanned written,
    shared.scanTracker.wait? = some scanned ∧ shared.writeTracker.wait? = some written ∧
      (result = firstFailure scanned written ∨
        shared.interrupted = true ∧ result = .error (interruption setup))

omit [Quantity α] in
theorem HasLearned.of_none {shared : Shared α ι} {control : Control α ι}
    (h : control.scanned? = none) : control.HasLearned setup shared := by
  cases control <;> first | (intro result hresult; cases hresult; done) | cases h

omit [Quantity α] in
/-- A pipe that has ended learned of both sides. -/
theorem HasLearned.of_result? {shared : Shared α ι} {control : Control α ι}
    {result : Except CopyError Unit} (h : control.HasLearned setup shared)
    (hresult : control.result? = some result) : ∃ scanned written,
      shared.scanTracker.wait? = some scanned ∧ shared.writeTracker.wait? = some written ∧
        (result = firstFailure scanned written ∨
          shared.interrupted = true ∧ result = .error (interruption setup)) := by
  cases control <;> first | exact h result hresult | cases hresult

omit [Quantity α] in
/-- What was learned is final. -/
theorem HasLearned.isSettled {shared : Shared α ι} {control : Control α ι}
    (h : control.HasLearned setup shared) : control.IsSettled shared := by
  cases control with
  | finishing | awaitingWrite =>
    refine ⟨fun result hresult => ?_, fun result hresult => by cases hresult⟩
    obtain rfl := Option.some.inj hresult
    exact Tracker.of_wait?_eq_some h
  | concluding =>
    constructor
    · intro result hresult
      obtain rfl := Option.some.inj hresult
      exact Tracker.of_wait?_eq_some h.1
    · intro result hresult
      obtain rfl := Option.some.inj hresult
      exact Tracker.of_wait?_eq_some h.2
  | _ =>
    constructor
    · intro result hresult
      obtain ⟨scanned, written, hscan, hwrite, hended⟩ := h result hresult
      obtain ⟨hpending, hclear⟩ := Tracker.of_wait?_eq_some hscan
      refine ⟨hpending, fun hok => hclear ?_⟩
      rcases hended with rfl | ⟨-, rfl⟩
      · exact (firstFailure_eq_ok hok).1
      · cases hok
    · intro result hresult
      obtain ⟨scanned, written, hscan, hwrite, hended⟩ := h result hresult
      obtain ⟨hpending, hclear⟩ := Tracker.of_wait?_eq_some hwrite
      refine ⟨hpending, fun hok => hclear ?_⟩
      rcases hended with rfl | ⟨-, rfl⟩
      · exact (firstFailure_eq_ok hok).2
      · cases hok

omit [Quantity α] in
/-- What the controlling thread learns, it learns from the trackers. -/
theorem Rule.hasLearned {c c' : Control α ι} (h : Rule setup s c t c')
    (hlearned : c.HasLearned setup s.shared) : c'.HasLearned setup t.shared := by
  cases h with
  | scanned hwait => exact hwait
  | written hwait => exact ⟨hlearned, hwait⟩
  | interrupt hint =>
    intro result hresult
    exact ⟨_, _, hlearned.1, hlearned.2, .inr ⟨hint, (Option.some.inj hresult).symm⟩⟩
  | conclude =>
    intro result hresult
    exact ⟨_, _, hlearned.1, hlearned.2, .inl (Option.some.inj hresult).symm⟩
  | finish | closeRead | joinRead | closeWrite | joinWrite => exact hlearned
  | _ => exact .of_none rfl

end Control

namespace Turn

open Holder

variable {before after : Multiset (Holder α ι)} {exchanges : List (Exchange α ι)}

/-- A turn of holders that report no segment leaves the scan tracker alone. -/
theorem scanTracker_eq (h : Turn setup s before exchanges t after)
    (habsent : total controls before = 0) (hscan : total scanPending before = 0) :
    t.scanTracker = s.scanTracker := by
  cases h with
  | control h =>
    rw [total_singleton] at habsent
    cases habsent
  | segment h =>
    rw [total_singleton] at hscan
    cases h with
    | complete => cases hscan
    | _ => rfl
  | delivery h => cases h <;> rfl
  | chunk h => cases h <;> rfl
  | _ => rfl

/-- A turn of holders that report no chunk, and deliver none, leaves the write tracker
alone. -/
theorem writeTracker_eq (h : Turn setup s before exchanges t after)
    (hwrite : total writePending before = 0) (hdelivery : total deliveries before = 0) :
    t.writeTracker = s.writeTracker := by
  cases h with
  | control h => cases h <;> rfl
  | segment h => cases h <;> rfl
  | delivery h =>
    rw [total_singleton] at hdelivery
    cases hdelivery
  | chunk h =>
    rw [total_singleton] at hwrite
    cases h with
    | complete => cases hwrite
    | _ => rfl
  | _ => rfl

/-- An interrupt is never taken back. -/
theorem interrupted_of_interrupted (h : Turn setup s before exchanges t after)
    (hint : s.shared.interrupted = true) : t.shared.interrupted = true := by
  cases h with
  | control h => cases h <;> exact hint
  | segment h => cases h <;> exact hint
  | delivery h => cases h <;> exact hint
  | chunk h => cases h <;> exact hint
  | interrupt => rfl
  | _ => exact hint

/-- A turn of other holders does not change what the trackers have answered. -/
theorem hasLearned_of_absent {c : Control α ι} (h : Turn setup s before exchanges t after)
    (habsent : total controls before = 0)
    (hscan : total scanPending before ≤ s.scanTracker.pending)
    (hwrite : total writePending before ≤ s.writeTracker.pending)
    (hdelivery : total deliveries before ≤ s.scanTracker.pending)
    (hlearned : c.HasLearned setup s.shared) : c.HasLearned setup t.shared := by
  have hscanned : ∀ {scanned}, s.scanTracker.wait? = some scanned →
      t.scanTracker = s.scanTracker := by
    intro scanned hwait
    have hpending := (Tracker.of_wait?_eq_some hwait).1
    exact h.scanTracker_eq habsent (by omega)
  have hwritten : ∀ {scanned written}, s.scanTracker.wait? = some scanned →
      s.writeTracker.wait? = some written → t.writeTracker = s.writeTracker := by
    intro scanned written hscanWait hwriteWait
    have hscanPending := (Tracker.of_wait?_eq_some hscanWait).1
    have hwritePending := (Tracker.of_wait?_eq_some hwriteWait).1
    exact h.writeTracker_eq (by omega) (by omega)
  cases c with
  | finishing | awaitingWrite =>
    exact (congrArg Tracker.wait? (hscanned hlearned)).trans hlearned
  | concluding =>
    exact ⟨(congrArg Tracker.wait? (hscanned hlearned.1)).trans hlearned.1,
      (congrArg Tracker.wait? (hwritten hlearned.1 hlearned.2)).trans hlearned.2⟩
  | _ =>
    intro result hresult
    obtain ⟨scanned, written, hscanWait, hwriteWait, hended⟩ := hlearned result hresult
    exact ⟨scanned, written, (congrArg Tracker.wait? (hscanned hscanWait)).trans hscanWait,
      (congrArg Tracker.wait? (hwritten hscanWait hwriteWait)).trans hwriteWait,
      hended.imp_right (And.imp_left h.interrupted_of_interrupted)⟩

/-- A turn of the controlling thread learns only what the trackers answer. -/
theorem hasLearned (h : Turn setup s before exchanges t after)
    (hlearned : ∀ c, .control c ∈ before → c.HasLearned setup s.shared) :
    ∀ c, .control c ∈ after → c.HasLearned setup t.shared := by
  intro c hmem
  cases h with
  | control h =>
    obtain rfl := Holder.control.inj (Multiset.mem_singleton.1 hmem)
    exact h.hasLearned (hlearned _ (Multiset.mem_singleton_self _))
  | submitSegment =>
    rcases Multiset.mem_add.1 hmem with hmem | hmem
    · obtain rfl := Holder.control.inj (Multiset.mem_singleton.1 hmem)
      exact .of_none rfl
    · cases Multiset.mem_singleton.1 hmem
  | rejectSegment =>
    obtain rfl := Holder.control.inj (Multiset.mem_singleton.1 hmem)
    exact .of_none rfl
  | release =>
    obtain rfl := Holder.control.inj (Multiset.mem_singleton.1 hmem)
    have hreturned := hlearned _ (Multiset.mem_singleton_self _)
    exact hreturned
  | segment h | delivery h | chunk h | takeBack | rejectChunk =>
    cases Multiset.mem_singleton.1 hmem
  | handOver | submitChunk =>
    rcases Multiset.mem_add.1 hmem with hmem | hmem <;> cases Multiset.mem_singleton.1 hmem
  | _ => cases Multiset.notMem_zero _ hmem

end Turn

namespace Run

open Holder

variable (hpaced : setup.outsideConsumer = false) (hfresh : start.IsFresh setup)

include hpaced hfresh

/-- What the controlling thread has learned stays what the trackers answer. -/
theorem hasLearned (hrun : Run setup (start.piping setup) history s) :
    ∀ c, .control c ∈ s.population → c.HasLearned setup s.shared := by
  refine hrun.invariant
    (P := fun _ shared holders => ∀ c, .control c ∈ holders → c.HasLearned setup shared)
    hpaced hfresh ?_ ?_
  · intro c hmem
    obtain rfl := Holder.control.inj (Multiset.mem_singleton.1 hmem)
    exact .of_none rfl
  · intro history s t before after rest exchanges run hpop h hs c hmem
    rcases Multiset.mem_add.1 hmem with hafter | hrest
    · exact h.hasLearned (fun c hc => hs c (Multiset.mem_add.2 (.inl hc))) c hafter
    · have hparts : ∀ weight : Holder α ι → Nat,
          total weight before + total weight rest = total weight s.population := by
        intro weight
        rw [hpop, total_add]
      have hone := run.total_controls hpaced hfresh
      have hscan := run.scanPending_eq hpaced hfresh
      have hwrite := run.writePending_eq hpaced hfresh
      have hdeliveries := run.total_deliveries hpaced hfresh
      have hdelivering := total_le_total delivering_le_scanPending s.population
      have hother : 1 ≤ total controls rest := le_total_of_mem controls hrest
      have hcontrols := hparts controls
      have hscanParts := hparts scanPending
      have hwriteParts := hparts writePending
      have hdeliveryParts := hparts deliveries
      exact h.hasLearned_of_absent (by omega) (by omega) (by omega) (by omega)
        (hs c (Multiset.mem_add.2 (.inr hrest)))

/-- What the controlling thread has learned of a side stays true of its tracker. -/
theorem isSettled (hrun : Run setup (start.piping setup) history s) :
    ∀ c, .control c ∈ s.population → c.IsSettled s.shared :=
  fun c hmem => (hrun.hasLearned hpaced hfresh c hmem).isSettled

end Run
end TableCopy
