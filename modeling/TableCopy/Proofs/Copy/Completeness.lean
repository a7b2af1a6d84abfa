import TableCopy.Proofs.Copy.Counters
import TableCopy.Proofs.Copy.Failure
import TableCopy.Proofs.Copy.Tables

/-!
# A successful copy is complete

Of the pages of its segments, a copy has read all but those that a holder has still to
read, unless a segment has failed or an interrupt has stopped it. A pipe that returns a
success has no holder left and saw neither. So it has read every page, and the
destination has acknowledged each item of them once.
-/

namespace TableCopy

variable {α ι : Type}

namespace Holder

variable {setup : Setup α} {source : PageRequest ι → Page α ι}

theorem unread_advance (segment : Nat) (key : Option ι) (pages : Nat) (phase : SegmentPhase α ι)
    (nextKey : Option ι) :
    unread setup source (.segment (SegmentTask.advance ⟨segment, key, pages, phase⟩ nextKey)) =
      itemsAfter source (setup.request segment key) nextKey := by
  cases nextKey <;> rfl

theorem isChained_advance {segment : Nat} {key : Option ι} {pages : Nat}
    {phase : SegmentPhase α ι} {nextKey : Option ι}
    (h : ∀ key, nextKey = some key → HasChain setup source segment (some key)) :
    IsChained setup source
      (.segment (SegmentTask.advance ⟨segment, key, pages, phase⟩ nextKey)) := by
  cases nextKey with
  | none => trivial
  | some key => exact h key rfl

theorem isChained_afterHandover {segment : Nat} {key : Option ι} {pages : Nat}
    {phase : SegmentPhase α ι} {nextKey : Option ι} (result : Except CopyError Unit)
    (h : ∀ key, nextKey = some key → HasChain setup source segment (some key)) :
    IsChained setup source
      (.segment (SegmentTask.afterHandover ⟨segment, key, pages, phase⟩ nextKey result)) := by
  cases result with
  | ok => exact isChained_advance h
  | error => trivial

/-- The holder is a pipe that has ended well. -/
def IsSuccess : Holder α ι → Prop
  | .control c => c.result? = some (.ok ())
  | _ => False

end Holder

/-- A copy that does not end well any more: a segment has failed, or the controlling thread
has found the interrupt raised before the end. -/
def Stopped (shared : Shared α ι) (holders : Multiset (Holder α ι)) : Prop :=
  ScanFailed shared holders ∨
    (shared.interrupted = true ∧ ∀ holder ∈ holders, ¬holder.IsSuccess)

/-- What stops a copy in a turn that leads from some holders to others: a segment fails, or
the controlling thread takes part and finds the interrupt raised. -/
def Stops (before : Multiset (Holder α ι)) (shared : Shared α ι) (after : Multiset (Holder α ι)) :
    Prop :=
  ScanFailed shared after ∨
    (shared.interrupted = true ∧ Holder.total Holder.controls before = 1 ∧
      ∀ holder ∈ after, ¬holder.IsSuccess)

variable [Quantity α] {setup : Setup α} {source : PageRequest ι → Page α ι}
variable {start s t : State α ι} {history : List (Exchange α ι)}

namespace Turn

open Holder

variable {before after : Multiset (Holder α ι)} {exchanges : List (Exchange α ι)}

/-- Whoever reads on after a turn has the rest of a chain before him. -/
theorem isChained (h : Turn setup s before exchanges t after)
    (hfrom : ∀ x ∈ exchanges, x.IsFrom source)
    (hchained : ∀ holder ∈ before, holder.IsChained setup source) :
    ∀ holder ∈ after, holder.IsChained setup source := by
  intro holder hmem
  cases h with
  | control h =>
    obtain rfl := Multiset.mem_singleton.1 hmem
    have hbefore := hchained _ (Multiset.mem_singleton_self _)
    cases h with
    | next => exact List.forall_mem_cons.1 hbefore
    | register | report => exact hbefore
    | _ => trivial
  | segment h =>
    obtain rfl := Multiset.mem_singleton.1 hmem
    have hbefore := hchained _ (Multiset.mem_singleton_self _)
    cases h with
    | begin | proceed | send | backOff | retry | charge | await | charged => exact hbefore
    | fetch page =>
      obtain ⟨pages, hpages⟩ := hbefore
      obtain rfl := hfrom _ (List.mem_singleton_self _)
      intro key hkey
      exact hpages.exists_after hkey
    | skip => exact isChained_advance hbefore
    | takenOutside result => exact isChained_afterHandover result hbefore
    | _ => trivial
  | submitSegment =>
    obtain ⟨hfirst, hleft⟩ := hchained _ (Multiset.mem_singleton_self _)
    rcases Multiset.mem_add.1 hmem with hmem | hmem
    · obtain rfl := Multiset.mem_singleton.1 hmem
      exact hleft
    · obtain rfl := Multiset.mem_singleton.1 hmem
      exact hfirst
  | rejectSegment =>
    obtain rfl := Multiset.mem_singleton.1 hmem
    exact (hchained _ (Multiset.mem_singleton_self _)).2
  | handOver =>
    have hbefore := hchained _ (Multiset.mem_singleton_self _)
    rcases Multiset.mem_add.1 hmem with hmem | hmem
    · obtain rfl := Multiset.mem_singleton.1 hmem
      exact hbefore
    · obtain rfl := Multiset.mem_singleton.1 hmem
      trivial
  | takeBack =>
    obtain rfl := Multiset.mem_singleton.1 hmem
    have hbefore := hchained _ (Multiset.mem_add.2 (.inl (Multiset.mem_singleton_self _)))
    exact isChained_afterHandover _ hbefore
  | delivery | chunk | rejectChunk | release =>
    obtain rfl := Multiset.mem_singleton.1 hmem
    trivial
  | submitChunk =>
    rcases Multiset.mem_add.1 hmem with hmem | hmem <;>
    · obtain rfl := Multiset.mem_singleton.1 hmem
      trivial
  | _ => exact absurd hmem (Multiset.notMem_zero _)

/-- A turn reads the items that it leaves to be read no more, unless a segment fails or
the controlling thread finds itself interrupted and submits no further segment. -/
theorem unread_eq (h : Turn setup s before exchanges t after)
    (hfrom : ∀ x ∈ exchanges, x.IsFrom source)
    (hchained : ∀ holder ∈ before, holder.IsChained setup source) :
    tally Entry.itemsRead t.shared.journal + total (unread setup source) after =
        tally Entry.itemsRead s.shared.journal + total (unread setup source) before ∨
      Stops before t.shared after := by
  cases h with
  | control h =>
    rw [total_singleton, total_singleton]
    cases h with
    | stop hstop =>
      rcases hstop with hint | hfailed
      · refine .inr (.inr ⟨hint, rfl, ?_⟩)
        intro holder hmem hsuccess
        obtain rfl := Multiset.mem_singleton.1 hmem
        cases hsuccess
      · exact .inr (.inl (.inl hfailed))
    | next => exact .inl (by rw [unread, unread, tally_cons])
    | _ => exact .inl (by simp [unread])
  | segment h =>
    rw [total_singleton, total_singleton]
    have hbefore := hchained _ (Multiset.mem_singleton_self _)
    cases h with
    | interrupt | giveUp => exact .inr (.inl (scanFailed_singleton trivial))
    | crash | faultyDelay | crashOutside =>
      exact .inr (.inl (scanFailed_singleton (fun hok => by cases hok)))
    | fetch page =>
      obtain ⟨pages, hpages⟩ := hbefore
      obtain rfl := hfrom _ (List.mem_singleton_self _)
      refine .inl (congrArg _ ?_)
      exact (itemsFrom_eq_add hpages).symm
    | skip hempty =>
      refine .inl ?_
      rw [unread_advance, State.shared_countPage, tally_cons, unread, Entry.itemsRead, hempty]
      simp
    | takenOutside result =>
      cases result with
      | ok => exact .inl (congrArg _ (unread_advance _ _ _ _ _))
      | error => exact .inr (.inl (scanFailed_singleton trivial))
    | _ => exact .inl (by simp [unread])
  | delivery h => cases h <;> exact .inl (by simp [unread])
  | chunk h => cases h <;> exact .inl (by simp [unread])
  | submitSegment =>
    refine .inl (congrArg _ ?_)
    simp only [total_add, total_singleton, unread]
    rw [add_comm]
  | rejectSegment => exact .inr (.inl (scanFailed_singleton trivial))
  | retireSegment h =>
    obtain ⟨segment, key, pages, rfl⟩ := SegmentTask.exists_of_isFinished h
    exact .inl rfl
  | handOver =>
    refine .inl ?_
    simp only [total_add, total_singleton, State.shared_countPage, tally_cons, unread,
      Entry.itemsRead]
    abel
  | @takeBack segment key pages nextKey number result =>
    cases result with
    | ok =>
      refine .inl (congrArg _ ?_)
      rw [total_add, total_singleton, total_singleton, total_singleton,
        SegmentTask.afterHandover, unread_advance]
      exact (add_zero _).symm
    | error => exact .inr (.inl (scanFailed_singleton trivial))
  | retireChunk => exact .inl (by simp [unread])
  | _ => exact .inl (by simp [unread])

/-- A pipe that is interrupted ends no longer well. -/
theorem not_isSuccess (h : Turn setup s before exchanges t after)
    (hint : s.shared.interrupted = true) (hbefore : ∀ holder ∈ before, ¬holder.IsSuccess) :
    ∀ holder ∈ after, ¬holder.IsSuccess := by
  intro holder hmem hsuccess
  cases h with
  | control h =>
    obtain rfl := Multiset.mem_singleton.1 hmem
    have hbefore := hbefore _ (Multiset.mem_singleton_self _)
    cases h with
    | interrupt => cases hsuccess
    | conclude h =>
      rw [State.shared_interrupted, h] at hint
      cases hint
    | closeRead | joinRead | closeWrite | joinWrite => exact hbefore hsuccess
    | _ => cases hsuccess
  | release =>
    obtain rfl := Multiset.mem_singleton.1 hmem
    exact hbefore _ (Multiset.mem_singleton_self _) hsuccess
  | segment | delivery | chunk | rejectSegment | takeBack | rejectChunk =>
    obtain rfl := Multiset.mem_singleton.1 hmem
    cases hsuccess
  | submitSegment | handOver | submitChunk =>
    rcases Multiset.mem_add.1 hmem with hmem | hmem <;>
    · obtain rfl := Multiset.mem_singleton.1 hmem
      cases hsuccess
  | _ => exact absurd hmem (Multiset.notMem_zero _)

/-- A copy that is stopped stays so. -/
theorem stopped {rest : Multiset (Holder α ι)} (h : Turn setup s before exchanges t after)
    (hstopped : Stopped s.shared (before + rest)) : Stopped t.shared (after + rest) := by
  rcases hstopped with hfailed | ⟨hint, hsuccess⟩
  · exact .inl (scanFailed_add.2 ((scanFailed_add.1 hfailed).imp_left h.scanFailed))
  · refine .inr ⟨h.interrupted_of_interrupted hint, ?_⟩
    intro holder hmem
    rcases Multiset.mem_add.1 hmem with hmem | hmem
    · exact h.not_isSuccess hint (fun x hx => hsuccess x (Multiset.mem_add.2 (.inl hx))) _ hmem
    · exact hsuccess holder (Multiset.mem_add.2 (.inr hmem))

end Turn

/-- A step makes a pipe end well only by its last look at the interrupt. -/
theorem State.result?_of_step {move : Move α ι} (hpaced : setup.outsideConsumer = false)
    (hpiping : s.control.isPiping = true) (h : s.step setup move = some t)
    (hok : t.control.result? = some (.ok ())) :
    s.control.result? = some (.ok ()) ∨
      (s.control = .concluding (.ok ()) (.ok ()) ∧ s.interrupted = false ∧
        t = { s with control := .returned (.ok ()) } ∧ s.exchanged setup move = []) := by
  rcases controlStep_or_control_eq hpaced h with ⟨answer, rfl, hstep⟩ | hcontrol
  · rcases Control.rule_of_step hpaced hpiping hstep with ⟨-, c, u, c', hcontrol, hrule, rfl⟩ |
      ⟨segment, left, -, pool, placement, -, rfl⟩ | ⟨task, left, -, -, rfl⟩ |
      ⟨task, left, u, next, -, -, rfl⟩
    · rw [exchanged, hrule.call? hpaced hcontrol]
      cases hrule with
      | conclude hint =>
        obtain ⟨rfl, rfl⟩ := Control.firstFailure_eq_ok (Option.some.inj hok)
        exact .inr ⟨hcontrol, hint, rfl, rfl⟩
      | closeRead | joinRead | closeWrite | joinWrite =>
        rw [hcontrol]
        exact .inl hok
      | _ => cases hok
    · cases placement <;> cases hok
    · cases hok
    · cases hok
  · exact .inl (hcontrol ▸ hok)

namespace Run

open Holder

variable (hpaced : setup.outsideConsumer = false) (hfresh : start.IsFresh setup)

include hpaced hfresh

/-- A turn that stops a copy stops it, whoever else is there. -/
theorem stopped_of_stops {before rest after : Multiset (Holder α ι)}
    (hrun : Run setup (start.piping setup) history s) (hpop : s.population = before + rest)
    (hstops : Stops before t.shared after) : Stopped t.shared (after + rest) := by
  rcases hstops with hfailed | ⟨hint, hone, hafter⟩
  · exact .inl (scanFailed_add.2 (.inl hfailed))
  · refine .inr ⟨hint, fun holder hmem => ?_⟩
    rcases Multiset.mem_add.1 hmem with hmem | hmem
    · exact hafter holder hmem
    · -- There is no second controlling thread that could have ended well.
      intro hsuccess
      have hcontrols := hrun.total_controls hpaced hfresh
      rw [hpop, total_add, hone] at hcontrols
      cases holder with
      | control =>
        have hle : 1 ≤ total controls rest := le_total_of_mem controls hmem
        omega
      | _ => cases hsuccess

theorem not_stopped_of_ok (hrun : Run setup (start.piping setup) history s)
    (hok : s.control.result? = some (.ok ())) : ¬Stopped s.shared s.population := by
  rintro (hfailed | ⟨-, hsuccess⟩)
  · exact ((hrun.settled_of_result? hpaced hfresh hok).2 rfl).1 hfailed
  · exact hsuccess _ (mem_population_of_result? hok) hok

section Reading

variable (hchain : ∀ segment ∈ setup.scan.segments, HasChain setup source segment none)

include hchain

theorem isChained (hrun : Run setup (start.piping setup) history s)
    (hfrom : ∀ x ∈ history, x.IsFrom source) :
    ∀ holder ∈ s.population, holder.IsChained setup source :=
  hrun.forall_holders hpaced hfresh hchain Turn.isChained hfrom

/-- The items of the pages read and those still to be read are the items of the owned
segments, unless the copy is stopped. -/
theorem itemsRead_add_unread (hrun : Run setup (start.piping setup) history s)
    (hfrom : ∀ x ∈ history, x.IsFrom source) :
    Stopped s.shared s.population ∨
      tally Entry.itemsRead s.journal + total (unread setup source) s.population =
        tally (fun segment => itemsFrom source (setup.request segment none))
          setup.scan.segments := by
  refine hrun.invariant (P := fun history shared holders => (∀ x ∈ history, x.IsFrom source) →
    Stopped shared holders ∨
      tally Entry.itemsRead shared.journal + total (unread setup source) holders =
        tally (fun segment => itemsFrom source (setup.request segment none))
          setup.scan.segments) hpaced hfresh ?_ ?_ hfrom
  · intro _
    refine .inr ?_
    rw [State.shared_journal, hfresh.journal, tally_nil, total_singleton, zero_add, unread]
  · intro history s t before after rest exchanges run hpop h hs hfrom
    have hfrom := List.forall_mem_append.1 hfrom
    rcases hs hfrom.2 with hstopped | hread
    · exact .inl (h.stopped hstopped)
    · have hchained := run.isChained hpaced hfresh hchain hfrom.2
      rw [hpop] at hchained
      rcases h.unread_eq hfrom.1 (fun x hx => hchained x (Multiset.mem_add.2 (.inl hx))) with
        hlocal | hstops
      · refine .inr ?_
        rw [total_add, ← add_assoc] at hread ⊢
        rw [hlocal, hread]
      · exact .inl (run.stopped_of_stops hpaced hfresh hpop hstops)

end Reading

/-- When a pipe has ended, a weight of the work that is left is zero. -/
theorem total_eq_zero_of_result? {M : Type} [AddCommMonoid M] {weight : Holder α ι → M}
    {result : Except CopyError Unit} (hrun : Run setup (start.piping setup) history s)
    (hresult : s.control.result? = some result)
    (hweight : ∀ holder : Holder α ι, holder.scanPending = 0 → holder.writePending = 0 →
      holder.deliveries = 0 → (∀ c, holder = .control c → c.result? ≠ none) → weight holder = 0) :
    total weight s.population = 0 := by
  apply Multiset.sum_eq_zero
  intro x hx
  obtain ⟨holder, hmem, rfl⟩ := Multiset.mem_map.1 hx
  obtain ⟨hscan, hwrite, hdelivery⟩ :=
    hrun.pending_eq_zero_of_result? hpaced hfresh hresult hmem
  refine hweight holder hscan hwrite hdelivery ?_
  rintro c rfl hc
  rw [hrun.control_unique hpaced hfresh (mem_population_of_result? hresult) hmem, hresult] at hc
  cases hc

omit hfresh in
/-- A pipe that has ended well looked at the interrupt last, and it was not raised. -/
theorem exists_lastLook (hrun : Run setup (start.piping setup) history s)
    (hok : s.control.result? = some (.ok ())) :
    ∃ earlier later u, history = later ++ earlier ∧ Run setup (start.piping setup) earlier u ∧
      u.control = .concluding (.ok ()) (.ok ()) ∧ u.interrupted = false ∧
      Run setup ({ u with control := .returned (.ok ()) } : State α ι) later s := by
  induction hrun with
  | start => cases hok
  | step move run h ih =>
    rcases State.result?_of_step hpaced (run.isPiping hpaced) h hok with
      hbefore | ⟨hcontrol, hint, rfl, hsilent⟩
    · obtain ⟨earlier, later, u, rfl, hearlier, hcontrol, hint, hlater⟩ := ih hbefore
      rw [← List.append_assoc]
      exact ⟨_, _, u, rfl, hearlier, hcontrol, hint, hlater.step move h⟩
    · rw [hsilent]
      exact ⟨_, [], _, rfl, run, hcontrol, hint, .start⟩
  | @release history u result run h ih =>
    have hnext : u.releasing.control = .closingRead result := by rw [State.releasing, h]
    rw [hnext] at hok
    have hbefore : u.control.result? = some (.ok ()) := by
      rw [h]
      exact hok
    obtain ⟨earlier, later, v, rfl, hearlier, hcontrol, hint, hlater⟩ := ih hbefore
    exact ⟨earlier, later, v, rfl, hearlier, hcontrol, hint, hlater.release h⟩

/-- A pipe that has ended holds no item back. -/
theorem itemsHeld_eq_zero {result : Except CopyError Unit}
    (hrun : Run setup (start.piping setup) history s)
    (hresult : s.control.result? = some result) : s.itemsHeld = 0 := by
  apply hrun.total_eq_zero_of_result? hpaced hfresh hresult
  rintro (c | task | d | ⟨segment, pending, phase⟩) hscan hwrite hdelivery -
  · rfl
  · rfl
  · cases hdelivery
  · cases phase <;> first | rfl | cases hwrite

/-- A pipe that has ended leaves nothing to be read. -/
theorem unread_eq_zero {result : Except CopyError Unit}
    (hrun : Run setup (start.piping setup) history s)
    (hresult : s.control.result? = some result) :
    total (unread setup source) s.population = 0 := by
  apply hrun.total_eq_zero_of_result? hpaced hfresh hresult
  rintro (c | ⟨segment, key, pages, phase⟩ | d | task) hscan hwrite hdelivery hcontrol
  · cases c <;> first | rfl | exact absurd rfl (hcontrol _ rfl)
  · cases phase <;> first | rfl | cases hscan
  · rfl
  · rfl

/-- A pipe that has ended well has read all pages of its segments. -/
theorem itemsRead_eq_of_ok {pages : Nat → List (Page α ι)}
    (hrun : Run setup (start.piping setup) history s)
    (hchain : ∀ segment ∈ setup.scan.segments,
      PageChain source (setup.request segment none) (pages segment))
    (hfrom : ∀ x ∈ history, x.IsFrom source) (hok : s.control.result? = some (.ok ())) :
    s.itemsRead =
      tally (fun segment => tally Page.contents (pages segment)) setup.scan.segments := by
  have hexists : ∀ segment ∈ setup.scan.segments, HasChain setup source segment none :=
    fun segment hmem => ⟨_, hchain segment hmem⟩
  rcases hrun.itemsRead_add_unread hpaced hfresh hexists hfrom with hstopped | hread
  · exact absurd hstopped (hrun.not_stopped_of_ok hpaced hfresh hok)
  · rw [hrun.unread_eq_zero hpaced hfresh hok, add_zero] at hread
    rw [State.itemsRead, hread, tally, tally]
    refine congrArg List.sum (List.map_congr_left ?_)
    intro segment hmem
    exact itemsFrom_eq (hchain segment hmem)

variable [DecidableEq ι]

/-- A pipe that has ended has counted all that is acknowledged. -/
theorem acknowledged_eq_itemsWritten {result : Except CopyError Unit}
    (hrun : Run setup (start.piping setup) history s)
    (hresult : s.control.result? = some result) :
    tally Exchange.acknowledged history = s.itemsWritten := by
  rw [hrun.acknowledged_eq hpaced hfresh, hrun.total_eq_zero_of_result? hpaced hfresh hresult,
    add_zero]
  rintro (c | task | d | ⟨segment, pending, phase⟩) hscan hwrite hdelivery -
  · rfl
  · rfl
  · rfl
  · cases phase <;> first | rfl | cases hwrite

/-- A pipe that has ended well has written all that it has read. -/
theorem itemsWritten_eq_of_ok (hrun : Run setup (start.piping setup) history s)
    (hfaithful : ∀ x ∈ history, x.IsFaithful) (hok : s.control.result? = some (.ok ())) :
    s.itemsWritten = s.itemsRead := by
  have hdropped : s.itemsDropped = 0 := by
    by_contra hdropped
    obtain ⟨e, he⟩ := hrun.result_eq_error_of_dropped hpaced hfresh hok hdropped
    cases he
  rw [hrun.itemsRead_eq hpaced hfresh hfaithful, hrun.itemsHeld_eq_zero hpaced hfresh hok,
    hdropped, add_zero, add_zero]

end Run

namespace Run

/-- When a pipe has ended well, the destination has acknowledged exactly the items on
the pages of the owned segments, each as often as it is there; at its last look the
interrupt was not raised; and both counters are their number. -/
theorem complete_of_ok [DecidableEq ι] {pages : Nat → List (Page α ι)}
    (hpaced : setup.outsideConsumer = false) (hfresh : start.IsFresh setup)
    (hrun : Run setup (start.piping setup) history s)
    (hchain : ∀ segment ∈ setup.scan.segments,
      PageChain source (setup.request segment none) (pages segment))
    (hfrom : ∀ x ∈ history, x.IsFrom source) (hfaithful : ∀ x ∈ history, x.IsFaithful)
    (hok : s.control.result? = some (.ok ())) :
    tally Exchange.acknowledged history =
        tally (fun segment => tally Page.contents (pages segment)) setup.scan.segments ∧
      (∃ earlier later u, history = later ++ earlier ∧
        Run setup (start.piping setup) earlier u ∧ u.control = .concluding (.ok ()) (.ok ()) ∧
        u.interrupted = false ∧
        Run setup ({ u with control := .returned (.ok ()) } : State α ι) later s) ∧
      ((tally Exchange.acknowledged history).card < 2 ^ 64 →
        s.metrics.itemsRead.toNat = (tally Exchange.acknowledged history).card ∧
        s.metrics.itemsWritten.toNat = (tally Exchange.acknowledged history).card) := by
  have hwritten := hrun.itemsWritten_eq_of_ok hpaced hfresh hfaithful hok
  have hacknowledged : tally Exchange.acknowledged history = s.itemsRead := by
    rw [hrun.acknowledged_eq_itemsWritten hpaced hfresh hok, hwritten]
  refine ⟨?_, hrun.exists_lastLook hpaced hok, ?_⟩
  · rw [hacknowledged, hrun.itemsRead_eq_of_ok hpaced hfresh hchain hfrom hok]
  · rw [hacknowledged]
    intro hfew
    obtain ⟨hread, hwritten', -⟩ := hrun.counters_exact hpaced hfresh hfaithful hfew
    rw [hwritten] at hwritten'
    exact ⟨hread, hwritten'⟩

/-- A small copy into a destination that takes two items at a time is complete. -/
theorem complete_of_ok_slowly : ∃ history,
    Run smallSetup (smallStart.piping smallSetup) history (smallEnd slowDestination) ∧
      (smallEnd slowDestination).control.result? = some (.ok ()) ∧
      tally Exchange.acknowledged history = {1, 2, 3, 2} ∧
      (smallEnd slowDestination).metrics.itemsWritten.toNat = 4 := by
  obtain ⟨history, hrun, hfrom, hfaithful⟩ := World.exists_run_ofTables smallSetup smallSource
    (smallStart.piping smallSetup) 100 slowDestination_faithful
  have hok : (smallEnd slowDestination).control.result? = some (.ok ()) := by decide +kernel
  obtain ⟨hacknowledged, -, hcount⟩ := Run.complete_of_ok rfl (State.isFresh_initial _ _) hrun
    (fun _ _ => pageChain_smallPages rfl) hfrom hfaithful hok
  have hitems : tally Exchange.acknowledged history = {1, 2, 3, 2} :=
    hacknowledged.trans (by decide)
  rw [hitems] at hcount
  exact ⟨history, hrun, hok, hitems, (hcount (by decide)).2⟩

end Run
end TableCopy
