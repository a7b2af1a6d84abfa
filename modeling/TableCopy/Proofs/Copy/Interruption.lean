import TableCopy.Proofs.Copy.Stopping
import TableCopy.Proofs.Copy.Tables
import TableCopy.Proofs.Copy.Threads
import TableCopy.Proofs.Interrupt

/-!
# An interrupt stops a copy

Once the interrupt is raised, a copy reads on to the end of the pages that are under way,
submits no further segment, gives up the chunks that have not started, and ends with the
interrupt. The flag of an interrupt stays raised for all its handles.
-/

namespace TableCopy

variable {α ι : Type}

/-! ## Chunks that have not started -/

/-- Whether an entry notes a batch. -/
def Entry.isSent : Entry α ι → Bool
  | sent .. => true
  | _ => false

/-- How many batches were sent. -/
def State.sends (s : State α ι) : Nat := s.journal.countP Entry.isSent

variable [Quantity α] {setup : Setup α} {s t : State α ι}

/-- The chunk task that acts on a thread has not started, or has given up with a failure,
and its next step sends nothing. -/
structure State.WritesNothing (setup : Setup α) (s : State α ι) (actor : Actor) (segment : Nat)
    (pending : List ι) (failure : CopyError) : Prop where
  acting : s.acting? actor = some (.chunk ⟨segment, pending, .ready⟩) ∨
    s.acting? actor = some (.chunk ⟨segment, pending, .ending (.returned (.error failure))⟩)
  sends : ∀ answer v, s.step setup (.act actor answer) = some v → v.sends = s.sends

section Chunk

variable {actor : Actor} {segment : Nat} {pending : List ι}

/-- A chunk task that starts after an interrupt gives up without sending anything. -/
theorem ChunkTask.Rule.gives_up {exchanges : List (Exchange α ι)} {next : ChunkTask α ι}
    (hint : s.interrupted = true) (h : Rule setup s ⟨segment, pending, .ready⟩ exchanges t next) :
    next = ⟨segment, pending, .ending (.returned (.error
        (interruption setup ⟨segment, pending, .ready⟩)))⟩ ∧ t = s.drop pending := by
  cases h with
  | interrupt => exact ⟨rfl, rfl⟩
  | start hgo =>
    rw [hint] at hgo
    cases hgo

namespace State

/-- A step of the thread of a chunk that has not started, or has given up, sends nothing. -/
theorem sends_of_step {failure : CopyError} (hpaced : setup.outsideConsumer = false)
    (hpiping : s.control.isPiping = true) (hint : s.interrupted = true)
    (hacting : s.acting? actor = some (.chunk ⟨segment, pending, .ready⟩) ∨
      s.acting? actor = some (.chunk ⟨segment, pending, .ending (.returned (.error failure))⟩))
    {answer : Answer α ι} (h : s.step setup (.act actor answer) = some t) :
    t.sends = s.sends := by
  rcases hacting with hacting | hacting
  · rcases chunk_leadsOn hpaced hpiping h hacting with ⟨hother, -⟩ |
      ⟨_, -, hfinished | ⟨u, next, hstep, hleaves, -⟩⟩
    · exact absurd rfl (hother answer)
    · cases hfinished
    · obtain ⟨-, rfl⟩ := (ChunkTask.rule_of_step hstep).gives_up hint
      rw [sends, ← shared_journal, hleaves.shared]
      exact List.countP_cons_of_neg Bool.false_ne_true
  · rcases chunk_leadsOn hpaced hpiping h hacting with ⟨hother, -⟩ |
      ⟨_, -, hfinished | ⟨u, next, hstep, hleaves, -⟩⟩
    · exact absurd rfl (hother answer)
    · cases hfinished
    · have hrule := ChunkTask.rule_of_step hstep
      rw [sends, ← shared_journal, hleaves.shared]
      cases hrule with
      | complete => rfl

end State

/-- From an interrupt on, a chunk task that has not started starts only to give up: it sends
nothing, and its failure is recorded as an interrupt. -/
theorem LoggedRun.gives_up {log : List (Side × Tracker.Call)} {history : List (Exchange α ι)}
    (hpaced : setup.outsideConsumer = false) (hpiping : s.control.isPiping = true)
    (hint : s.interrupted = true)
    (hready : s.acting? actor = some (.chunk ⟨segment, pending, .ready⟩))
    (hrun : LoggedRun setup s log history t) :
    let failure := ChunkTask.interruption setup ⟨segment, pending, .ready⟩
    t.WritesNothing setup actor segment pending failure ∨
      (.destination, .complete (.error failure)) ∈ log := by
  intro failure
  have hacting : (t.acting? actor = some (.chunk ⟨segment, pending, .ready⟩) ∨
      t.acting? actor = some (.chunk ⟨segment, pending, .ending (.returned (.error failure))⟩)) ∨
        (.destination, .complete (.error failure)) ∈ log := by
    induction hrun with
    | start => exact .inl (.inl hready)
    | @step log history u v move run h ih =>
      have hmiddle := run.run.isPiping_from hpaced hpiping
      have hraised := run.run.interrupted_from hpaced hpiping hint
      rcases ih with (hacting | hacting) | hmem
      · rcases State.chunk_leadsOn hpaced hmiddle h hacting with ⟨-, hkept⟩ |
          ⟨answer, -, hfinished | ⟨w, next, hstep, -, hnext⟩⟩
        · exact .inl (.inl hkept)
        · cases hfinished
        · obtain ⟨rfl, -⟩ := (ChunkTask.rule_of_step hstep).gives_up hraised
          exact .inl (.inr hnext)
      · rcases State.chunk_leadsOn hpaced hmiddle h hacting with ⟨-, hkept⟩ |
          ⟨answer, rfl, hfinished | -⟩
        · exact .inl (.inr hkept)
        · cases hfinished
        · refine .inr (List.mem_append_left _ ?_)
          rw [State.reported, hacting]
          exact List.mem_singleton_self _
      · exact .inr (List.mem_append_right _ hmem)
    | release run h ih =>
      rcases ih with (hacting | hacting) | hmem
      · exact .inl (.inl ((State.tasks_releasing h).2 _ hacting))
      · exact .inl (.inr ((State.tasks_releasing h).2 _ hacting))
      · exact .inr hmem
  refine hacting.imp_left fun hacting => ⟨hacting, fun answer v h => ?_⟩
  exact State.sends_of_step hpaced (hrun.run.isPiping_from hpaced hpiping)
    (hrun.run.interrupted_from hpaced hpiping hint) hacting h

end Chunk

/-! ## The whole copy -/

open Holder in
/-- A pipe in which the interrupt has been raised, whenever that was, and whatever follows in
whatever order. For each segment there is one task at most, and it reads and hands over a
further page only if it was past its check; if it was not, it does not even ask for one. No
segment is submitted but one that was past its check. A chunk task that has not started
sends nothing and fails with the interrupt. A pipe that had not made its last look returns
the interrupt, whatever the trackers hold. And the flag stays raised, for all handles of its
group and their clones. -/
theorem Run.stops_at_interrupt {start : State α ι} {history : List (Exchange α ι)}
    (hpaced : setup.outsideConsumer = false) (hfresh : start.IsFresh setup)
    (hrun : Run setup (start.piping setup) history s) (hint : s.interrupted = true) :
    (∀ later t, Run setup s later t →
      (∀ n, later.countP (Exchange.bringsPage n) ≤ total (fetching n) s.population ∧
        t.handovers n ≤ s.handovers n + total (bearing n) s.population ∧
        total (fetching n) s.population ≤ total (bearing n) s.population ∧
        total (bearing n) s.population ≤ 1 ∧
        (total (fetching n) s.population = 0 → t.requests n ≤ s.requests n)) ∧
      (t.readPool.submitted ≤ s.readPool.submitted + total passed s.population ∧
        total passed s.population ≤ 1 ∧
        ∀ task, .segment task ∈ t.population →
          ∃ holder ∈ s.population, holder.HasTaken task.segment) ∧
      (∀ actor segment pending,
        t.acting? actor = some (.chunk ⟨segment, pending, .ready⟩) →
          ∀ log rest u, LoggedRun setup t log rest u →
            u.WritesNothing setup actor segment pending
                (ChunkTask.interruption setup ⟨segment, pending, .ready⟩) ∨
              (.destination, .complete (.error
                (ChunkTask.interruption setup ⟨segment, pending, .ready⟩))) ∈ log) ∧
      (s.control.result? = none →
        (∀ result, t.control.result? = some result →
          result = .error (Control.interruption setup)) ∧
        ∀ scanned written, t.control = .concluding scanned written →
          ∃ u, t.step setup (.act .control .none) = some u ∧
            u.control.result? = some (.error (Control.interruption setup))) ∧
      t.interrupted = true) ∧
    ∀ (interrupts : Interrupts) (handle group : Nat) (actions : List Interrupts.Action),
      interrupts.groups[handle]? = some group →
        let raised := actions.foldl Interrupts.apply (interrupts.apply (.trigger handle))
        ∀ other, raised.groups[other]? = some group →
          raised.isTriggered other = true ∧
            (raised.apply (.clone other)).groups = raised.groups ++ [group] := by
  have hreliable := hrun.isReliable hpaced hfresh
  have hpiping := hrun.isPiping hpaced
  refine ⟨fun later t hlater => ⟨fun n => ?_, ?_, ?_, ?_, ?_⟩, ?_⟩
  · have hbearing := total_le_total (bearing_le_ofSegment n) s.population
    have hfetching := total_le_total (fetching_le_bearing n) s.population
    exact ⟨hlater.pages_le hpaced hreliable hpiping hint n,
      hlater.handovers_le hpaced hreliable hpiping hint n, hfetching,
      hbearing.trans (hrun.ofSegment_le_one hpaced hfresh n),
      hlater.requests_le_of_fetching hpaced hreliable hpiping hint⟩
  · have hpassed := total_le_total passed_le_controls s.population
    rw [hrun.total_controls hpaced hfresh] at hpassed
    exact ⟨hlater.submissions_le hpaced hreliable hpiping (.inl hint), hpassed,
      fun task hmem => hlater.exists_hasTaken hpaced hreliable hpiping (.inl hint) hmem rfl⟩
  · intro actor segment pending hready log rest u hthen
    exact hthen.gives_up hpaced (hlater.isPiping_from hpaced hpiping)
      (hlater.interrupted_from hpaced hpiping hint) hready
  · intro hnone
    refine ⟨fun result => hlater.result_eq_interruption hpaced hreliable hpiping hint hnone, ?_⟩
    intro scanned written hcontrol
    have hraised := hlater.interrupted_from hpaced hpiping hint
    refine ⟨{ t with control := .returned (.error (Control.interruption setup)) }, ?_, rfl⟩
    simp only [State.step, State.controlStep, hcontrol, hraised, if_true]
    rfl
  · exact hlater.interrupted_from hpaced hpiping hint
  · intro interrupts handle group actions hgroup raised other hother
    exact ⟨Interrupts.isTriggered_of_trigger hgroup actions hother,
      Interrupts.groups_clone hother⟩

/-- The small copy with the interrupt raised while the second page of its first segment is
on its way. -/
def interruptedMiddle : State Rat Nat :=
  ((World.ofTables smallSource slowDestination).settle smallSetup 16 ()
    (smallStart.piping smallSetup)).2.raise

def interruptedEnd : State Rat Nat :=
  ((World.ofTables smallSource slowDestination).settle smallSetup 100 () interruptedMiddle).2

/-- The page on its way is handed over, and no other; the second segment is not submitted;
the chunk of the first page is given up; and the pipe returns the interrupt. -/
theorem Run.stops_at_interrupt_within_page : ∃ later log,
    LoggedRun smallSetup interruptedMiddle log later interruptedEnd ∧
      later.countP (Exchange.bringsPage 0) ≤ 1 ∧
      interruptedEnd.handovers 0 ≤ interruptedMiddle.handovers 0 + 1 ∧
      interruptedEnd.requests 1 = 0 ∧
      interruptedEnd.readPool.submitted ≤ interruptedMiddle.readPool.submitted ∧
      (Side.destination, .complete (.error
        (.interrupted "dropped 3 items bound for 'archive'"))) ∈ log ∧
      ∃ result, interruptedEnd.control.result? = some result ∧
        result = .error (.interrupted "scan of 'orders' interrupted") := by
  obtain ⟨before, history, hbefore⟩ :=
    (World.ofTables smallSource slowDestination).exists_loggedRun_settle smallSetup 16 ()
      (smallStart.piping smallSetup)
  obtain ⟨log, later, hlater⟩ :=
    (World.ofTables smallSource slowDestination).exists_loggedRun_settle smallSetup 100 ()
      interruptedMiddle
  have hmiddle : Run smallSetup (smallStart.piping smallSetup) history interruptedMiddle :=
    hbefore.run.step .interrupt rfl
  obtain ⟨hstops, -⟩ := stops_at_interrupt rfl (State.isFresh_initial _ _) hmiddle rfl
  obtain ⟨hread, ⟨hsubmitted, -, -⟩, -, hended, -⟩ := hstops later interruptedEnd hlater.run
  obtain ⟨-, -, hchunks, -, -⟩ := hstops [] interruptedMiddle .start
  obtain ⟨hpages, hhandovers, -, hone, -⟩ := hread 0
  obtain ⟨-, -, -, -, hrequests⟩ := hread 1
  have hpassed : Holder.total Holder.passed interruptedMiddle.population = 0 := by decide +kernel
  have hfetching : Holder.total (Holder.fetching 1) interruptedMiddle.population = 0 := by
    decide +kernel
  have hfirst : interruptedMiddle.requests 1 = 0 := by decide +kernel
  rw [hfirst] at hrequests
  rw [hpassed] at hsubmitted
  have hready : interruptedMiddle.acting? (.writer 0) = some (.chunk ⟨0, [1, 2, 3], .ready⟩) := rfl
  have hgone : (interruptedEnd.acting? (.writer 0)).isNone = true := by decide +kernel
  refine ⟨later, log, hlater, hpages.trans (hread 0).2.2.1 |>.trans hone,
    hhandovers.trans (Nat.add_le_add_left hone _), Nat.le_zero.1 (hrequests hfetching), hsubmitted,
    ?_, ?_⟩
  · rcases hchunks (.writer 0) 0 [1, 2, 3] hready log later interruptedEnd hlater with
      ⟨hacting | hacting, -⟩ | hmem
    · rw [hacting] at hgone
      cases hgone
    · rw [hacting] at hgone
      cases hgone
    · exact hmem
  · have hreturned : interruptedEnd.control.result?.isSome = true := by decide +kernel
    obtain ⟨result, hresult⟩ := Option.isSome_iff_exists.1 hreturned
    exact ⟨result, hresult, (hended (by decide +kernel)).1 result hresult⟩

end TableCopy
