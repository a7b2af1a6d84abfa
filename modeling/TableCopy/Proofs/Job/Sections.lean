import Mathlib.Algebra.Order.BigOperators.Group.Finset
import TableCopy.Proofs.Copy.Completeness
import TableCopy.Proofs.Job.Course
import TableCopy.Proofs.Plan.Section

/-!
# Cooperating jobs

Jobs that differ in their section alone, one for each section, copy a table once: what
each has written is what its segments hold, and the sections share the segments out.
With more sections than segments no job comes to its pipe.
-/

namespace TableCopy

variable {α ι : Type} [Quantity α]

namespace JobRequest

/-- The same request for section `i` of `n`. -/
def forSection (request : JobRequest α) (n i : Nat) : JobRequest α :=
  { request with config := { request.config with sectionIndex := i, totalSections := n } }

/-- The request for the first page of a segment. -/
def firstPage (request : JobRequest α) (source : TableCapacity) (segments : SegmentPlan)
    (segment : Nat) : PageRequest ι where
  table := source.table
  segment
  totalSegments := segments.totalSegments.toNat
  consistentRead := request.config.consistentScan
  limit := request.operational.scanPageLimit
  startKey := none

end JobRequest

/-- Counts that are kept as words add up to the sum of the counts, as words. -/
theorem sum_toNat_ofNat_mod (jobs : Finset Nat) (count : Nat → Nat) :
    (∑ i ∈ jobs, (UInt64.ofNat (count i)).toNat) % 2 ^ 64 = (∑ i ∈ jobs, count i) % 2 ^ 64 := by
  simp only [UInt64.toNat_ofNat']
  exact (Finset.sum_nat_mod jobs _ count).symm

/-- Counts whose sum fits into a word are kept as they are. -/
theorem sum_toNat_ofNat {jobs : Finset Nat} {count : Nat → Nat}
    (h : ∑ i ∈ jobs, count i < 2 ^ 64) :
    ∑ i ∈ jobs, (UInt64.ofNat (count i)).toNat = ∑ i ∈ jobs, count i := by
  apply Finset.sum_congr rfl
  intro i hi
  have hle : count i ≤ ∑ i ∈ jobs, count i := Finset.single_le_sum (fun _ _ => Nat.zero_le _) hi
  exact UInt64.toNat_ofNat_of_lt' (hle.trans_lt h)

/-- The items on the pages of all segments of a plan. -/
def SegmentPlan.items (segments : SegmentPlan) (pages : Nat → List (Page α ι)) : Multiset ι :=
  tally (fun segment => tally Page.contents (pages segment))
    (List.range segments.totalSegments.toNat)

/-- The exchanges of a job with the two tables: those of its pipe, if it came to one. -/
def Course.HasHistory (course : Course α) (history : List (Exchange α ι)) : Prop :=
  match course.ending with
  | none => history = []
  | some ending => ∃ delegation, ∃ start s : State α ι, .pipe delegation ∈ course.calls ∧
      start.IsFresh delegation.setup ∧
      Run delegation.setup (start.piping delegation.setup) history s ∧ s.ending? = some ending

/-- The number of segments that a report says were owned. -/
def JobReport.ownedSegments (report : JobReport α) : Nat :=
  report.plan.elim 0 fun plan => plan.ownedSegments.length

theorem CopyError.eq_ok_of_addContext {context : String} {result : Except CopyError Unit}
    (h : addContext context result = .ok ()) : result = .ok () := by
  cases result with
  | ok => rfl
  | error => cases h

omit [Quantity α] in
/-- The ending of a copy tells its result and its counters. -/
theorem State.of_ending?_eq_some {s : State α ι} {ending : Ending} (h : s.ending? = some ending) :
    s.control.result? = some ending.result ∧ ending.metrics = s.metrics := by
  unfold ending? at h
  split at h
  · rename_i hcontrol
    obtain rfl := Option.some.inj h
    rw [hcontrol]
    exact ⟨rfl, rfl⟩
  · cases h

namespace Course

variable {request : JobRequest α} {backend : Backend α} {source destination : TableCapacity}
variable {plan : JobPlan α} {course : Course α} {history : List (Exchange α ι)}
variable {scanner : PageRequest ι → Page α ι} {pages : Nat → List (Page α ι)}

theorem HasStopped.history_eq_nil (h : course.HasStopped) (hhistory : course.HasHistory history) :
    history = [] := by
  rw [HasHistory, h.ending] at hhistory
  exact hhistory

theorem HasDelegated.exists_run (h : course.HasDelegated request backend source destination plan)
    (hhistory : course.HasHistory history) :
    ∃ start s : State α ι, start.IsFresh (request.delegation plan).setup ∧
      Run (request.delegation plan).setup (start.piping (request.delegation plan).setup)
        history s ∧
      s.ending? = some (backend.pipe (request.delegation plan)) := by
  rw [HasHistory, h.ending] at hhistory
  obtain ⟨delegation, start, s, hmem, hfresh, hrun, hending⟩ := hhistory
  obtain rfl := (h.calls delegation).1 hmem
  exact ⟨start, s, hfresh, hrun, hending⟩

/-- A completed job has written what is on the pages of the segments in its plan. -/
theorem HasDelegated.written_of_ok [DecidableEq ι]
    (h : course.HasDelegated request backend source destination plan)
    (hhistory : course.HasHistory history)
    (hchain : ∀ segment < plan.pacing.segments.totalSegments.toNat,
      PageChain scanner (request.firstPage source plan.pacing.segments segment) (pages segment))
    (hfrom : ∀ x ∈ history, x.IsFrom scanner) (hfaithful : ∀ x ∈ history, x.IsFaithful)
    (hok : course.outcome = .returned (.ok ())) :
    tally Exchange.acknowledged history =
        tally (fun segment => tally Page.contents (pages segment)) plan.ownedSegments ∧
      (backend.pipe (request.delegation plan)).metrics.itemsWritten =
        UInt64.ofNat (tally Exchange.acknowledged history).card := by
  obtain ⟨start, s, hfresh, hrun, hending⟩ := h.exists_run hhistory
  obtain ⟨hresult, hmetrics⟩ := State.of_ending?_eq_some hending
  rw [h.outcome] at hok
  rw [CopyError.eq_ok_of_addContext (Outcome.returned.inj hok)] at hresult
  have htable : plan.sourceTable = source.table := (request.part_of_plan h.planned).2.2
  have hchains : ∀ segment ∈ (request.delegation plan).setup.scan.segments,
      PageChain scanner ((request.delegation plan).setup.request segment none)
        (pages segment) := by
    intro segment hmem
    have hpages := hchain segment (Section.lt_of_mem_ownedSegments hmem)
    rw [JobRequest.firstPage, ← htable] at hpages
    exact hpages
  have hacknowledged := hrun.acknowledged_eq_itemsWritten rfl hfresh hresult
  refine ⟨?_, ?_⟩
  · rw [hacknowledged, hrun.itemsWritten_eq_of_ok rfl hfresh hfaithful hresult,
      hrun.itemsRead_eq_of_ok rfl hfresh hchains hfrom hresult]
    rfl
  · rw [hmetrics, hacknowledged, hrun.metrics_itemsWritten rfl hfresh hfaithful]

end Course

namespace JobRequest

variable {request : JobRequest α} {backend : Backend α} {source : TableCapacity}
variable {segments : SegmentPlan} {history : List (Exchange α ι)} {report : JobReport α}
variable {scanner : PageRequest ι → Page α ι} {pages : Nat → List (Page α ι)} {n i : Nat}

/-- A completed job for a section has written what is on the pages of its segments. -/
theorem written_of_completed [DecidableEq ι] {jobId : String} {elapsed : Nat}
    (hsource : backend.describe .source request.config.source.table = .ok source)
    (hsegments : request.segments source = .ok segments)
    (hchain : ∀ segment < segments.totalSegments.toNat,
      PageChain scanner (request.firstPage source segments segment) (pages segment))
    (hhistory : ((request.forSection n i).run backend).HasHistory history)
    (hfrom : ∀ x ∈ history, x.IsFrom scanner) (hfaithful : ∀ x ∈ history, x.IsFaithful)
    (hreport : ((request.forSection n i).run backend).report? jobId elapsed = some report)
    (hstate : report.state = .completed) :
    tally Exchange.acknowledged history =
        tally (fun segment => tally Page.contents (pages segment))
          (Section.ownedSegments ⟨i, n⟩ segments.totalSegments.toNat) ∧
      report.ownedSegments =
        (Section.ownedSegments ⟨i, n⟩ segments.totalSegments.toNat).length ∧
      report.metrics.itemsWritten = UInt64.ofNat (tally Exchange.acknowledged history).card := by
  have hok := Course.outcome_of_completed hreport hstate
  rcases (request.forSection n i).run_cases backend with hstopped |
    ⟨source', destination, plan, hdelegated⟩
  · exact absurd hok hstopped.outcome
  · obtain rfl : source = source' :=
      Except.ok.inj (hsource.symm.trans hdelegated.describedSource)
    obtain rfl : segments = plan.pacing.segments :=
      Except.ok.inj (hsegments.symm.trans
        ((request.forSection n i).segments_of_pacing hdelegated.paced))
    obtain ⟨hpart, -⟩ := (request.forSection n i).part_of_plan hdelegated.planned
    obtain ⟨-, -, -, hpart⟩ := Section.ofRequest_eq_ok_iff.1 hpart
    have hpart : plan.part = ⟨i, n⟩ := hpart
    have howned : plan.ownedSegments =
        Section.ownedSegments ⟨i, n⟩ plan.pacing.segments.totalSegments.toNat := by
      rw [JobPlan.ownedSegments, hpart]
    obtain ⟨hwritten, hcount⟩ := hdelegated.written_of_ok hhistory hchain hfrom hfaithful hok
    rw [Course.report?, hok] at hreport
    obtain rfl := Option.some.inj hreport
    refine ⟨?_, ?_, ?_⟩
    · rw [hwritten, howned]
    · rw [JobReport.ownedSegments, Course.reportOf, hdelegated.shown, ← howned]
      rfl
    · rw [Course.reportOf, hdelegated.ending, ← hcount]
      rfl

/-- With more sections than segments, a job does not come to its pipe, and it fails with
the status for that, unless it has failed before. -/
theorem fails_of_excess
    (hsource : backend.describe .source request.config.source.table = .ok source)
    (hsegments : request.segments source = .ok segments)
    (hhistory : ((request.forSection n i).run backend).HasHistory history)
    (hexcess : segments.totalSegments.toNat < n) :
    history = [] ∧
      (∀ delegation, .pipe delegation ∉ ((request.forSection n i).run backend).calls) ∧
      ∀ contexts destination jobId elapsed, request.check = .ok contexts →
        backend.connect contexts.1 contexts.2 = .returned (.ok ()) →
        backend.describe .destination request.config.destination.table = .ok destination →
        ∃ report, ((request.forSection n i).run backend).report? jobId elapsed = some report ∧
          report.exitCode = 3 ∧ report.state = .failed := by
  have hstopped : ((request.forSection n i).run backend).HasStopped := by
    rcases (request.forSection n i).run_cases backend with hstopped |
      ⟨source', destination, plan, hdelegated⟩
    · exact hstopped
    · obtain rfl : source = source' :=
        Except.ok.inj (hsource.symm.trans hdelegated.describedSource)
      obtain rfl : segments = plan.pacing.segments :=
        Except.ok.inj (hsegments.symm.trans
          ((request.forSection n i).segments_of_pacing hdelegated.paced))
      obtain ⟨hpart, -⟩ := (request.forSection n i).part_of_plan hdelegated.planned
      obtain ⟨-, -, hle, -⟩ := Section.ofRequest_eq_ok_iff.1 hpart
      exact absurd (Int.ofNat_le.1 hle) (Nat.not_le.2 hexcess)
  refine ⟨hstopped.history_eq_nil hhistory, hstopped.calls, ?_⟩
  intro contexts destination jobId elapsed hcheck hconnect hdestination
  have houtcome := (request.forSection n i).run_of_sectionOutOfRange backend hcheck hconnect
    hsource hdestination hsegments (Int.ofNat_lt.2 hexcess)
  exact ⟨_, Course.report?_of_failed houtcome, rfl, rfl⟩

section Cooperation

variable [DecidableEq ι] (request : JobRequest α) (backend : Nat → Backend α)
variable {histories : Nat → List (Exchange α ι)}

/-- `n` jobs, one for each section, over the same capacities and the same source, into
destinations that leave none but items of a batch unprocessed. If all of them complete,
they have written the items of all segments, each once; they owned as many segments as
there are; and their counters add up to the number of items. With more sections than
segments each of them writes nothing and fails with status 3, unless it has failed
before. -/
theorem sections_copy_once (hpos : 1 ≤ n)
    (hsource : ∀ i < n, (backend i).describe .source request.config.source.table = .ok source)
    (hsegments : request.segments source = .ok segments)
    (hchain : ∀ segment < segments.totalSegments.toNat,
      PageChain scanner (request.firstPage source segments segment) (pages segment))
    (hhistory : ∀ i < n, ((request.forSection n i).run (backend i)).HasHistory (histories i))
    (hfrom : ∀ i < n, ∀ x ∈ histories i, x.IsFrom scanner)
    (hfaithful : ∀ i < n, ∀ x ∈ histories i, x.IsFaithful) :
    (∀ reports : Nat → JobReport α,
      (∀ i < n, (reports i).state = .completed ∧ ∃ jobId elapsed,
        ((request.forSection n i).run (backend i)).report? jobId elapsed = some (reports i)) →
      ∑ i ∈ Finset.range n, tally Exchange.acknowledged (histories i) =
          segments.items pages ∧
        ∑ i ∈ Finset.range n, (reports i).ownedSegments = segments.totalSegments.toNat ∧
        (∑ i ∈ Finset.range n, (reports i).metrics.itemsWritten.toNat) % 2 ^ 64 =
          (segments.items pages).card % 2 ^ 64 ∧
        ((segments.items pages).card < 2 ^ 64 →
          ∑ i ∈ Finset.range n, (reports i).metrics.itemsWritten.toNat =
            (segments.items pages).card)) ∧
      (segments.totalSegments.toNat < n → ∀ i < n, histories i = [] ∧
        (∀ delegation, .pipe delegation ∉ ((request.forSection n i).run (backend i)).calls) ∧
        ∀ contexts destination jobId elapsed, request.check = .ok contexts →
          (backend i).connect contexts.1 contexts.2 = .returned (.ok ()) →
          (backend i).describe .destination request.config.destination.table = .ok destination →
          ∃ report, ((request.forSection n i).run (backend i)).report? jobId elapsed = some report ∧
            report.exitCode = 3 ∧ report.state = .failed) := by
  refine ⟨?_, fun hexcess i hi => fails_of_excess (hsource i hi) hsegments (hhistory i hi) hexcess⟩
  intro reports hreports
  have hjobs : ∀ i ∈ Finset.range n,
      tally Exchange.acknowledged (histories i) =
          tally (fun segment => tally Page.contents (pages segment))
            (Section.ownedSegments ⟨i, n⟩ segments.totalSegments.toNat) ∧
        (reports i).ownedSegments =
          (Section.ownedSegments ⟨i, n⟩ segments.totalSegments.toNat).length ∧
        (reports i).metrics.itemsWritten =
          UInt64.ofNat (tally Exchange.acknowledged (histories i)).card := by
    intro i hi
    have hi := Finset.mem_range.1 hi
    obtain ⟨hstate, jobId, elapsed, hreport⟩ := hreports i hi
    exact written_of_completed (hsource i hi) hsegments hchain (hhistory i hi) (hfrom i hi)
      (hfaithful i hi) hreport hstate
  have hitems : ∑ i ∈ Finset.range n, tally Exchange.acknowledged (histories i) =
      segments.items pages := by
    rw [Finset.sum_congr rfl fun i hi => (hjobs i hi).1, Section.sum_tally_ownedSegments hpos,
      SegmentPlan.items]
  have howned : ∑ i ∈ Finset.range n, (reports i).ownedSegments =
      segments.totalSegments.toNat := by
    rw [Finset.sum_congr rfl fun i hi => (hjobs i hi).2.1, Section.sum_length_ownedSegments hpos]
  have hcount : ∑ i ∈ Finset.range n, (tally Exchange.acknowledged (histories i)).card =
      (segments.items pages).card := by
    rw [← hitems, Multiset.card_sum]
  have hwords : ∑ i ∈ Finset.range n, (reports i).metrics.itemsWritten.toNat =
      ∑ i ∈ Finset.range n,
        (UInt64.ofNat (tally Exchange.acknowledged (histories i)).card).toNat := by
    apply Finset.sum_congr rfl
    intro i hi
    rw [(hjobs i hi).2.2]
  rw [hwords]
  refine ⟨hitems, howned, ?_, ?_⟩
  · rw [sum_toNat_ofNat_mod, hcount]
  · intro hfew
    rw [← hcount] at hfew ⊢
    exact sum_toNat_ofNat hfew

end Cooperation

end JobRequest

/-! ## Jobs in a world -/

section World

variable {σ : Type} {request : JobRequest α} {backend : Backend α} {world : World σ α ι}
variable {start : Delegation α → State α ι} {outside : σ} {fuel : Nat} {P : Exchange α ι → Prop}

/-- A job whose pipe runs in a world stops before its pipe, or its pipe comes to the end of a
run whose exchanges are answered by the world. -/
theorem JobRequest.exists_run_of_world (hanswers : ∀ setup, world.Answers setup P)
    (hpipe : ∀ delegation, backend.pipe delegation =
      World.endingOf (world.runJob delegation.setup fuel outside (start delegation)).2)
    (hended : ∀ delegation, .pipe delegation ∈ (request.run backend).calls →
      (world.runJob delegation.setup fuel outside (start delegation)).2.ending?.isSome = true) :
    (request.run backend).ending = none ∨ ∃ delegation ending history s,
      .pipe delegation ∈ (request.run backend).calls ∧
      (request.run backend).ending = some ending ∧
      Run delegation.setup ((start delegation).piping delegation.setup) history s ∧
      s.ending? = some ending ∧ ∀ x ∈ history, P x := by
  rcases request.run_cases backend with hstopped | ⟨source, destination, plan, hdelegated⟩
  · exact .inl hstopped.ending
  · have hmem := (hdelegated.calls _).2 rfl
    obtain ⟨ending, hending⟩ := Option.isSome_iff_exists.1 (hended _ hmem)
    obtain ⟨history, hrun, hanswered⟩ := World.exists_run_runJob
      (hanswers (request.delegation plan).setup) fuel outside (start (request.delegation plan))
    have hsame : backend.pipe (request.delegation plan) = ending :=
      (hpipe _).trans (World.endingOf_eq hending)
    exact .inr ⟨_, _, history, _, hmem, hdelegated.ending.trans (congrArg some hsame), hrun,
      hending, hanswered⟩

/-- The exchanges of a job whose pipe runs in a world are answered by the world, as long as
the pipe comes to its end. -/
theorem JobRequest.exists_hasHistory_of_world
    (hfresh : ∀ delegation, (start delegation).IsFresh delegation.setup)
    (hanswers : ∀ setup, world.Answers setup P)
    (hpipe : ∀ delegation, backend.pipe delegation =
      World.endingOf (world.runJob delegation.setup fuel outside (start delegation)).2)
    (hended : ∀ delegation, .pipe delegation ∈ (request.run backend).calls →
      (world.runJob delegation.setup fuel outside (start delegation)).2.ending?.isSome = true) :
    ∃ history : List (Exchange α ι), (request.run backend).HasHistory history ∧
      ∀ x ∈ history, P x := by
  rcases exists_run_of_world hanswers hpipe hended with hnone |
    ⟨delegation, ending, history, s, hmem, hsome, hrun, hending, hanswered⟩
  · refine ⟨[], ?_, List.forall_mem_nil _⟩
    rw [Course.HasHistory, hnone]
  · refine ⟨history, ?_, hanswered⟩
    rw [Course.HasHistory, hsome]
    exact ⟨delegation, _, s, hmem, hfresh delegation, hrun, hending⟩

end World

section Tables

variable (source : PageRequest ι → Page α ι) (destination : List ι → Outcome (BatchOutcome α ι))

/-- What the pipe of a job between two tables leaves. -/
def pipedBetween (fuel : Nat) (delegation : Delegation α) : State α ι :=
  ((World.ofTables source destination).runJob delegation.setup fuel ()
    (.initial delegation.setup delegation.readPool delegation.writePool)).2

/-- Two tables without provisioned capacity. -/
def Backend.ofTables (fuel : Nat) : Backend α where
  connect _ _ := .returned (.ok ())
  describe _ table := .ok { table }
  pipe delegation := World.endingOf (pipedBetween source destination fuel delegation)

variable {source destination}

/-- The exchanges of a job between two tables are answered by the tables. -/
theorem JobRequest.exists_hasHistory_ofTables (request : JobRequest α) (fuel : Nat)
    {P : Exchange α ι → Prop}
    (hanswers : ∀ setup, (World.ofTables source destination).Answers setup P)
    (hended : ∀ delegation,
      .pipe delegation ∈ (request.run (.ofTables source destination fuel)).calls →
        (pipedBetween source destination fuel delegation).ending?.isSome = true) :
    ∃ history, (request.run (.ofTables source destination fuel)).HasHistory history ∧
      ∀ x ∈ history, P x :=
  exists_hasHistory_of_world (fun _ => State.isFresh_initial _ _) hanswers (fun _ => rfl) hended

theorem JobRequest.exists_hasHistory (request : JobRequest α) (source : PageRequest ι → Page α ι)
    (fuel : Nat) (hfaithful : IsFaithfulDestination destination)
    (hended : ∀ delegation,
      .pipe delegation ∈ (request.run (.ofTables source destination fuel)).calls →
        (pipedBetween source destination fuel delegation).ending?.isSome = true) :
    ∃ history, (request.run (.ofTables source destination fuel)).HasHistory history ∧
      (∀ x ∈ history, x.IsFrom source) ∧ ∀ x ∈ history, x.IsFaithful := by
  obtain ⟨history, hhistory, hanswers⟩ := request.exists_hasHistory_ofTables fuel
    (fun setup => World.answers_ofTables setup source hfaithful) hended
  exact ⟨history, hhistory, fun x hx => (hanswers x hx).1, fun x hx => (hanswers x hx).2⟩

end Tables

/-! ## A small table in two sections -/

namespace JobRequest

def smallRequest : JobRequest Rat where
  config := { CopyConfig.defaults with
    source := { table := "orders" }
    destination := { table := "archive" } }
  operational := .defaults 1

def smallBackend : Backend Rat := .ofTables smallSource slowDestination 2000

/-- The two jobs for a small table of ten segments write each of its items once. -/
theorem sections_copy_once_pair : ∃ histories : Nat → List (Exchange Rat Nat),
    (∀ i < 2, ((smallRequest.forSection 2 i).run smallBackend).HasHistory (histories i)) ∧
      ∑ i ∈ Finset.range 2, tally Exchange.acknowledged (histories i) =
        {1, 2, 3, 2, 2, 3, 4, 5, 6, 7, 8, 9} := by
  have hended : ∀ i < 2, ∀ delegation,
      .pipe delegation ∈ ((smallRequest.forSection 2 i).run smallBackend).calls →
        (pipedBetween smallSource slowDestination 2000 delegation).ending?.isSome = true := by
    have hall : ∀ i < 2, (((smallRequest.forSection 2 i).run smallBackend).calls.all fun call =>
        match call with
        | .pipe delegation =>
          (pipedBetween smallSource slowDestination 2000 delegation).ending?.isSome
        | _ => true) = true := by decide +kernel
    intro i hi delegation hmem
    exact List.all_eq_true.1 (hall i hi) _ hmem
  choose! histories hhistory hfrom hfaithful using fun i hi =>
    (smallRequest.forSection 2 i).exists_hasHistory smallSource 2000 slowDestination_faithful
      (hended i hi)
  have hstates : ∀ i < 2, (((smallRequest.forSection 2 i).run smallBackend).report? "job" 0).map
      JobReport.state = some .completed := by decide +kernel
  have hreports : ∀ i < 2,
      (((smallRequest.forSection 2 i).run smallBackend).reportOf (.ok ()) "job" 0).state =
        .completed ∧
      ∃ jobId elapsed, ((smallRequest.forSection 2 i).run smallBackend).report? jobId elapsed =
        some (((smallRequest.forSection 2 i).run smallBackend).reportOf (.ok ()) "job" 0) := by
    intro i hi
    obtain ⟨report, hreport, hstate⟩ := Option.map_eq_some_iff.1 (hstates i hi)
    refine ⟨rfl, "job", 0, ?_⟩
    rw [Course.report?, Course.outcome_of_completed hreport hstate]
  have hsegments : smallRequest.segments { table := "orders" } = .ok .fallback := rfl
  have hcopied := sections_copy_once smallRequest (fun _ => smallBackend) (by decide)
    (fun _ _ => rfl) hsegments (fun _ _ => pageChain_smallPages rfl) hhistory hfrom hfaithful
  refine ⟨histories, hhistory, ?_⟩
  rw [(hcopied.1 _ hreports).1]
  decide +kernel

end JobRequest
end TableCopy
