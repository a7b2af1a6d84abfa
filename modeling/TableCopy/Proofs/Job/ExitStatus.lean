import TableCopy.Proofs.Job.Check
import TableCopy.Proofs.Job.Service

/-!
# What the exit status of a job tells

A job asks its questions in a fixed order and stops at the first fault. Each phase before
the pipe has an exit status of its own, and the errors of a copy that runs leave the common
one, so that the exit status tells which phase has failed. Only a job whose clients or
pools cannot be made has none.
-/

namespace TableCopy

variable {α ι : Type} [Quantity α]

namespace JobRequest

variable (request : JobRequest α) (backend : Backend α)

/-- The request is accepted, and its clients can be made. -/
def IsConnectable : Prop :=
  ∃ contexts, request.check = .ok contexts ∧
    backend.connect contexts.1 contexts.2 = .returned (.ok ())

/-- Both tables can be described. -/
def IsDescribable : Prop :=
  (∃ source, backend.describe .source request.config.source.table = .ok source) ∧
    ∃ destination, backend.describe .destination request.config.destination.table = .ok destination

/-- The section exists among the segments that are planned for the source. -/
def HasSection : Prop :=
  ∃ source segments, backend.describe .source request.config.source.table = .ok source ∧
    request.segments source = .ok segments ∧ 0 ≤ request.config.sectionIndex ∧
    request.config.sectionIndex < request.config.totalSections ∧
    request.config.totalSections ≤ segments.totalSegments.toNat

open Classical in
/-- The exit status of a job that makes calls: that of the first phase that finds a fault,
and else that of the pipe. A job whose clients or pools cannot be made has none. -/
noncomputable def exitStatus? (calls : List (JobCall α)) : Option Nat :=
  if request.config.LacksProfile .source then some 99
  else if request.config.LacksProfile .destination then some 98
  else if request.IsInvalid then some 2
  else if ¬request.IsConnectable backend then none
  else if ¬request.IsDescribable backend then some 1
  else if ¬request.HasSection backend then some 3
  else if PoolSpec.mostPlaces < request.config.maxWriteThreads then none
  else if ∃ delegation, .pipe delegation ∈ calls ∧ (backend.pipe delegation).result = .ok () then
    some 0
  else some 1

variable {request backend}

theorem IsConnectable.isAccepted (h : request.IsConnectable backend) : request.IsAccepted := by
  obtain ⟨contexts, hcheck, -⟩ := h
  exact request.isAccepted_of_check hcheck

theorem IsDescribed.isConnectable {contexts : ClientContext × ClientContext}
    {source destination : TableCapacity}
    (h : request.IsDescribed backend contexts source destination) :
    request.IsConnectable backend := ⟨contexts, h.checked, h.connected⟩

theorem IsDescribed.isDescribable {contexts : ClientContext × ClientContext}
    {source destination : TableCapacity}
    (h : request.IsDescribed backend contexts source destination) :
    request.IsDescribable backend := ⟨⟨source, h.source⟩, destination, h.destination⟩

/-- A plan is made for the section if it exists, and else the job fails for its section. -/
theorem plan_cases {contexts : ClientContext × ClientContext} {source destination : TableCapacity}
    {pacing : Pacing α} (h : request.IsDescribed backend contexts source destination)
    (hpacing : request.pacing source destination = .ok pacing) :
    (request.HasSection backend ∧ ∃ plan, request.plan source destination pacing = .ok plan ∧
      (plan.isFeasible = true ↔ request.config.maxWriteThreads ≤ PoolSpec.mostPlaces)) ∨
    (¬request.HasSection backend ∧ ∃ e, request.plan source destination pacing = .error e ∧
      e.exitCode = 3) := by
  have hsegments := request.segments_of_pacing hpacing
  by_cases hserved : 0 ≤ request.config.sectionIndex ∧
      request.config.sectionIndex < request.config.totalSections ∧
      request.config.totalSections ≤ pacing.segments.totalSegments.toNat
  · refine .inl ⟨⟨source, pacing.segments, h.source, hsegments, hserved⟩, ?_⟩
    have hsegmentsFit : pacing.segments.totalSegments.toNat ≤ PoolSpec.mostPlaces :=
      Nat.le_trans (Nat.le_of_lt pacing.segments.totalSegments.toNat_lt) (by decide)
    rw [JobRequest.plan, Section.ofRequest, if_pos hserved]
    refine ⟨_, rfl, ?_⟩
    rw [JobPlan.isFeasible, Bool.and_eq_true, PoolSpec.isFeasible_ofLimit_iff,
      PoolSpec.isFeasible_ofLimit_iff]
    exact and_iff_right hsegmentsFit
  · refine .inr ⟨?_, ?_⟩
    · rintro ⟨source', segments, hsource', hsegments', hserved'⟩
      obtain rfl := Except.ok.inj (h.source.symm.trans hsource')
      obtain rfl := Except.ok.inj (hsegments.symm.trans hsegments')
      exact hserved hserved'
    · rw [JobRequest.plan, Section.ofRequest, if_neg hserved]
      exact ⟨_, rfl, rfl⟩

end JobRequest

/-- Adding a context to a result does not change its exit status. -/
theorem exitStatus_addContext (context : String) (result : Except CopyError Unit) :
    exitStatus (CopyError.addContext context result) = exitStatus result := by
  cases result with
  | error e => exact CopyError.exitCode_withContext context e
  | ok => rfl

namespace Course.Rule

variable {request : JobRequest α} {backend : Backend α} {course : Course α}

/-- What a job asks is asked in order, each question once, and only after a check that found
no fault. -/
theorem calls_cases (h : Course.Rule request backend course) :
    course.calls = [] ∨ ∃ contexts, request.check = .ok contexts ∧
      (course.calls <+: request.questions contexts ∨
        ∃ delegation, course.calls = request.questions contexts ++ [.pipe delegation]) := by
  cases h with
  | reject => exact .inl rfl
  | unconnected hcheck | sourceUnknown hcheck =>
    exact .inr ⟨_, hcheck, .inl (List.take_prefix _ _)⟩
  | destinationUnknown hcheck => exact .inr ⟨_, hcheck, .inl (List.prefix_refl _)⟩
  | unserved h | infeasible h => exact .inr ⟨_, h.checked, .inl (List.prefix_refl _)⟩
  | delegate h => exact .inr ⟨_, h.checked, .inr ⟨_, rfl⟩⟩

/-- The clients are asked for exactly if the request is accepted. -/
theorem connect_mem_iff (h : Course.Rule request backend course) :
    (∃ source destination, .connect source destination ∈ course.calls) ↔ request.IsAccepted := by
  cases h with
  | reject h =>
    rw [request.isAccepted_iff, h]
    simp
  | unconnected hcheck | sourceUnknown hcheck | destinationUnknown hcheck =>
    exact iff_of_true ⟨_, _, List.mem_cons_self⟩ (request.isAccepted_of_check hcheck)
  | unserved h | infeasible h | delegate h =>
    exact iff_of_true ⟨_, _, List.mem_cons_self⟩ (request.isAccepted_of_check h.checked)

/-- The outcome of a job that came to its pipe is what the pipe ended with, in context. -/
theorem outcome_of_pipe (h : Course.Rule request backend course) {delegation : Delegation α}
    (hmem : .pipe delegation ∈ course.calls) : ∃ plan, course.plan = some plan ∧
      delegation = request.delegation plan ∧ course.outcome =
        .returned (CopyError.addContext plan.context (backend.pipe delegation).result) := by
  cases h with
  | @delegate contexts source destination pacing plan =>
    obtain rfl : delegation = request.delegation plan := by
      simpa [JobRequest.questions] using hmem
    exact ⟨plan, rfl, rfl, rfl⟩
  | _ => simp [JobRequest.questions] at hmem

end Course.Rule

/-- The phase that decides how a job ends: it found a fault, or it was the pipe, and nothing
was wrong in the phases before it. -/
inductive Course.Decision (request : JobRequest α) (backend : Backend α) (course : Course α) : Prop
  | checking {e} (hfault : request.check = .error e) (houtcome : course.outcome = .failed e)
      (hpipe : ∀ delegation, .pipe delegation ∉ course.calls)
  | connecting {reason} (haccepted : request.IsAccepted) (hfault : ¬request.IsConnectable backend)
      (houtcome : course.outcome = .crashed reason)
      (hpipe : ∀ delegation, .pipe delegation ∉ course.calls)
  | describing {side table e} (hconnectable : request.IsConnectable backend)
      (hfault : ¬request.IsDescribable backend) (herror : backend.describe side table = .error e)
      (houtcome : course.outcome = .failed e)
      (hpipe : ∀ delegation, .pipe delegation ∉ course.calls)
  | planning {e} (hconnectable : request.IsConnectable backend)
      (hdescribable : request.IsDescribable backend) (hfault : ¬request.HasSection backend)
      (hcode : e.exitCode = 3) (houtcome : course.outcome = .failed e)
      (hpipe : ∀ delegation, .pipe delegation ∉ course.calls)
  | pooling {reason} (hconnectable : request.IsConnectable backend)
      (hdescribable : request.IsDescribable backend) (hsection : request.HasSection backend)
      (hfault : PoolSpec.mostPlaces < request.config.maxWriteThreads)
      (houtcome : course.outcome = .crashed reason)
      (hpipe : ∀ delegation, .pipe delegation ∉ course.calls)
  | piping {delegation context} (hconnectable : request.IsConnectable backend)
      (hdescribable : request.IsDescribable backend) (hsection : request.HasSection backend)
      (hfits : request.config.maxWriteThreads ≤ PoolSpec.mostPlaces)
      (houtcome : course.outcome =
        .returned (CopyError.addContext context (backend.pipe delegation).result))
      (hpipe : ∀ other, .pipe other ∈ course.calls ↔ other = delegation)

namespace Course

variable {request : JobRequest α} {backend : Backend α} {course : Course α}

/-- Where making the clients does not fail by an error, one of the phases decides. -/
theorem Rule.decision (h : Course.Rule request backend course)
    (hconnect : ∀ source destination e, backend.connect source destination ≠ .failed e) :
    course.Decision request backend := by
  cases h with
  | reject h => exact .checking h rfl fun _ => List.not_mem_nil
  | @unconnected contexts outcome hcheck h hfailed =>
    rcases outcome with (e | ⟨⟩) | reason
    · exact absurd h (hconnect _ _ e)
    · exact absurd rfl hfailed
    · refine .connecting (request.isAccepted_of_check hcheck) ?_ rfl
        (by simp [JobRequest.questions])
      rintro ⟨contexts', hcheck', hconnected⟩
      obtain rfl := Except.ok.inj (hcheck.symm.trans hcheck')
      rw [h] at hconnected
      cases hconnected
  | sourceUnknown hcheck hconnected h =>
    refine .describing ⟨_, hcheck, hconnected⟩ ?_ h rfl (by simp [JobRequest.questions])
    rintro ⟨⟨source, hsource⟩, -⟩
    rw [h] at hsource
    cases hsource
  | destinationUnknown hcheck hconnected _ h =>
    refine .describing ⟨_, hcheck, hconnected⟩ ?_ h rfl (by simp [JobRequest.questions])
    rintro ⟨-, destination, hdestination⟩
    rw [h] at hdestination
    cases hdestination
  | unserved h hpacing hplan =>
    rcases JobRequest.plan_cases h hpacing with ⟨-, plan, hok, -⟩ | ⟨hmissing, e, herror, hcode⟩
    · rw [hplan] at hok
      cases hok
    · obtain rfl := Except.error.inj (hplan.symm.trans herror)
      exact .planning h.isConnectable h.isDescribable hmissing hcode rfl
        (by simp [JobRequest.questions])
  | infeasible h hpacing hplan hinfeasible =>
    rcases JobRequest.plan_cases h hpacing with ⟨hsection, plan, hok, hfeasible⟩ | ⟨-, e, herror, -⟩
    · obtain rfl := Except.ok.inj (hplan.symm.trans hok)
      have hexcess : ¬request.config.maxWriteThreads ≤ PoolSpec.mostPlaces := by
        rw [← hfeasible, hinfeasible]
        decide
      exact .pooling h.isConnectable h.isDescribable hsection (Nat.lt_of_not_le hexcess) rfl
        (by simp [JobRequest.questions])
    · rw [hplan] at herror
      cases herror
  | delegate h hpacing hplan hfeasible =>
    rcases JobRequest.plan_cases h hpacing with ⟨hsection, plan, hok, hiff⟩ | ⟨-, e, herror, -⟩
    · obtain rfl := Except.ok.inj (hplan.symm.trans hok)
      exact .piping h.isConnectable h.isDescribable hsection (hiff.1 hfeasible) rfl
        (by simp [JobRequest.questions])
    · rw [hplan] at herror
      cases herror

/-- The pipe is asked exactly if nothing is wrong before it and both pools can be made. -/
theorem Decision.pipe_mem_iff (h : course.Decision request backend) :
    (∃ delegation, .pipe delegation ∈ course.calls) ↔
      request.IsConnectable backend ∧ request.IsDescribable backend ∧ request.HasSection backend ∧
        request.config.maxWriteThreads ≤ PoolSpec.mostPlaces := by
  cases h with
  | checking hfault _ hpipe =>
    refine iff_of_false (fun ⟨delegation, hmem⟩ => hpipe delegation hmem) ?_
    rintro ⟨⟨contexts, hok, -⟩, -⟩
    rw [hfault] at hok
    cases hok
  | connecting _ hfault _ hpipe =>
    exact iff_of_false (fun ⟨delegation, hmem⟩ => hpipe delegation hmem) fun h => hfault h.1
  | describing _ hfault _ _ hpipe =>
    exact iff_of_false (fun ⟨delegation, hmem⟩ => hpipe delegation hmem) fun h => hfault h.2.1
  | planning _ _ hfault _ _ hpipe =>
    exact iff_of_false (fun ⟨delegation, hmem⟩ => hpipe delegation hmem) fun h => hfault h.2.2.1
  | pooling _ _ _ hfault _ hpipe =>
    exact iff_of_false (fun ⟨delegation, hmem⟩ => hpipe delegation hmem) fun h =>
      Nat.not_le_of_lt hfault h.2.2.2
  | @piping delegation _ hconnectable hdescribable hsection hfits _ hpipe =>
    exact iff_of_true ⟨delegation, (hpipe delegation).2 rfl⟩
      ⟨hconnectable, hdescribable, hsection, hfits⟩

/-- The phase that decides is told by the exit status. -/
theorem Decision.exitCode_eq (h : course.Decision request backend)
    (hdescribe : ∀ side table e, backend.describe side table = .error e → e.exitCode = 1)
    (hpipe : ∀ delegation, .pipe delegation ∈ course.calls → ∀ e,
      (backend.pipe delegation).result = .error e → e.exitCode = 1)
    (jobId : String) (elapsed : Nat) :
    (course.report? jobId elapsed).map JobReport.exitCode =
      request.exitStatus? backend course.calls := by
  have hfailed : ∀ {e}, course.outcome = .failed e →
      (course.report? jobId elapsed).map JobReport.exitCode = some e.exitCode := by
    intro e houtcome
    rw [report?_of_failed houtcome]
    rfl
  have hcrashed : ∀ {reason}, course.outcome = .crashed reason →
      (course.report? jobId elapsed).map JobReport.exitCode = none := by
    intro reason houtcome
    rw [report?, houtcome, Option.map_none]
  unfold JobRequest.exitStatus?
  cases h with
  | checking hfault houtcome _ =>
    rw [hfailed houtcome]
    rcases request.check_cases with ⟨e, herror, hcode, hlacks⟩ |
      ⟨e, herror, hcode, hsource, hlacks⟩ | ⟨e, herror, hcode, hsource, hdestination, hinvalid⟩ |
      ⟨contexts, hok, -⟩
    · obtain rfl := Except.error.inj (hfault.symm.trans herror)
      rw [if_pos hlacks, hcode]
    · obtain rfl := Except.error.inj (hfault.symm.trans herror)
      rw [if_neg hsource, if_pos hlacks, hcode]
    · obtain rfl := Except.error.inj (hfault.symm.trans herror)
      rw [if_neg hsource, if_neg hdestination, if_pos hinvalid, hcode]
    · rw [hfault] at hok
      cases hok
  | connecting haccepted hfault houtcome _ =>
    rw [hcrashed houtcome, if_neg haccepted.sourceProfile, if_neg haccepted.destinationProfile,
      if_neg haccepted.valid, if_pos hfault]
  | describing hconnectable hfault herror houtcome _ =>
    have haccepted := hconnectable.isAccepted
    rw [hfailed houtcome, if_neg haccepted.sourceProfile, if_neg haccepted.destinationProfile,
      if_neg haccepted.valid, if_neg (not_not_intro hconnectable), if_pos hfault,
      hdescribe _ _ _ herror]
  | planning hconnectable hdescribable hfault hcode houtcome _ =>
    have haccepted := hconnectable.isAccepted
    rw [hfailed houtcome, if_neg haccepted.sourceProfile, if_neg haccepted.destinationProfile,
      if_neg haccepted.valid, if_neg (not_not_intro hconnectable),
      if_neg (not_not_intro hdescribable), if_pos hfault, hcode]
  | pooling hconnectable hdescribable hsection hfault houtcome _ =>
    have haccepted := hconnectable.isAccepted
    rw [hcrashed houtcome, if_neg haccepted.sourceProfile, if_neg haccepted.destinationProfile,
      if_neg haccepted.valid, if_neg (not_not_intro hconnectable),
      if_neg (not_not_intro hdescribable), if_neg (not_not_intro hsection), if_pos hfault]
  | @piping delegation context hconnectable hdescribable hsection hfits houtcome hmem =>
    have haccepted := hconnectable.isAccepted
    have hstatus : (course.report? jobId elapsed).map JobReport.exitCode =
        some (exitStatus (backend.pipe delegation).result) := by
      rw [report?, houtcome, ← exitStatus_addContext context]
      rfl
    rw [hstatus, if_neg haccepted.sourceProfile, if_neg haccepted.destinationProfile,
      if_neg haccepted.valid, if_neg (not_not_intro hconnectable),
      if_neg (not_not_intro hdescribable), if_neg (not_not_intro hsection),
      if_neg (Nat.not_lt_of_le hfits)]
    cases hresult : (backend.pipe delegation).result with
    | ok => exact (if_pos ⟨delegation, (hmem delegation).2 rfl, hresult⟩).symm
    | error e =>
      rw [if_neg, exitStatus, hpipe delegation ((hmem delegation).2 rfl) e hresult]
      rintro ⟨other, hother, hok⟩
      obtain rfl := (hmem other).1 hother
      rw [hresult] at hok
      cases hok

/-- The error of a pipe whose requests fail as requests do leaves the common status. -/
theorem HasDelegated.exitCode_of_pipe {source destination : TableCapacity} {plan : JobPlan α}
    {history : List (Exchange α ι)} {e : CopyError}
    (h : course.HasDelegated request backend source destination plan)
    (hhistory : course.HasHistory history) (hfails : ∀ x ∈ history, x.FailsByRequest)
    (hresult : (backend.pipe (request.delegation plan)).result = .error e) : e.exitCode = 1 := by
  obtain ⟨start, s, hfresh, hrun, hending⟩ := h.exists_run hhistory
  obtain ⟨hcontrol, -⟩ := State.of_ending?_eq_some hending
  rw [hresult] at hcontrol
  exact hrun.exitCode_of_result? rfl hfresh hfails hcontrol

end Course

namespace JobRequest

/-- Over the service, the exit status of a job tells which phase has failed: a missing
profile of the source, one of the destination, the parameters, a table that is not
described, the section, or the pipe; and there is none if clients or pools cannot be made.
The clients are asked for exactly if the request is accepted, and each table at most once,
the source first. The pipe is asked exactly if the section exists and nothing is wrong
besides; the context of its error does not change the status. Segments and rates are
always planned. -/
theorem exitCode_tells_phase (request : JobRequest α) {backend : Backend α}
    {history : List (Exchange α ι)} (hservice : backend.IsService)
    (hhistory : (request.run backend).HasHistory history)
    (hfails : ∀ x ∈ history, x.FailsByRequest) (jobId : String) (elapsed : Nat) :
    ((request.run backend).report? jobId elapsed).map JobReport.exitCode =
        request.exitStatus? backend (request.run backend).calls ∧
      ((∃ source destination, .connect source destination ∈ (request.run backend).calls) ↔
        request.IsAccepted) ∧
      ((request.run backend).calls = [] ∨ ∃ contexts, request.check = .ok contexts ∧
        ((request.run backend).calls <+: request.questions contexts ∨ ∃ delegation,
          (request.run backend).calls = request.questions contexts ++ [.pipe delegation])) ∧
      ((∃ delegation, .pipe delegation ∈ (request.run backend).calls) ↔
        request.IsConnectable backend ∧ request.IsDescribable backend ∧
          request.HasSection backend ∧ request.config.maxWriteThreads ≤ PoolSpec.mostPlaces) ∧
      (∀ delegation, .pipe delegation ∈ (request.run backend).calls → ∃ plan,
        (request.run backend).plan = some plan ∧ delegation = request.delegation plan ∧
        (request.run backend).outcome =
          .returned (CopyError.addContext plan.context (backend.pipe delegation).result) ∧
        exitStatus (CopyError.addContext plan.context (backend.pipe delegation).result) =
          exitStatus (backend.pipe delegation).result) ∧
      ∀ source destination, ∃ pacing, request.pacing source destination = .ok pacing := by
  have hrule := request.rule_of_run backend
  have hdecision := hrule.decision hservice.connect
  have hdescribe : ∀ side table e, backend.describe side table = .error e → e.exitCode = 1 := by
    intro side table e he
    obtain ⟨m, rfl⟩ := hservice.describe side table e he
    rfl
  have hpipe : ∀ delegation, .pipe delegation ∈ (request.run backend).calls → ∀ e,
      (backend.pipe delegation).result = .error e → e.exitCode = 1 := by
    intro delegation hmem e hresult
    rcases request.run_cases backend with hstopped | ⟨source, destination, plan, hdelegated⟩
    · exact absurd hmem (hstopped.calls delegation)
    · obtain rfl := (hdelegated.calls delegation).1 hmem
      exact hdelegated.exitCode_of_pipe hhistory hfails hresult
  refine ⟨hdecision.exitCode_eq hdescribe hpipe jobId elapsed, hrule.connect_mem_iff,
    hrule.calls_cases, hdecision.pipe_mem_iff, ?_, ?_⟩
  · intro delegation hmem
    obtain ⟨plan, hplan, hdelegation, houtcome⟩ := hrule.outcome_of_pipe hmem
    exact ⟨plan, hplan, hdelegation, houtcome, exitStatus_addContext _ _⟩
  · intro source destination
    obtain ⟨segments, hsegments⟩ := request.exists_segments_eq_ok source
    obtain ⟨pacing, hpacing, -⟩ := request.exists_pacing_eq_ok hsegments destination
    exact ⟨pacing, hpacing⟩

/-- The destination denies every batch. -/
def deniedDestination (_ : List Nat) : Outcome (BatchOutcome Rat Nat) :=
  .returned (.error (RequestFailure.toError (.service (some "AccessDeniedException"))
    "batch write archive" "service error: AccessDeniedException"))

def deniedBackend : Backend Rat := .ofTables smallSource deniedDestination 2000

/-- The pipe of a small job whose batches are denied comes to its end, and its requests fail
as requests do. -/
theorem exists_denied_hasHistory : ∃ history : List (Exchange Rat Nat),
    (smallRequest.run deniedBackend).HasHistory history ∧ ∀ x ∈ history, x.FailsByRequest := by
  have hended : ∀ delegation, .pipe delegation ∈ (smallRequest.run deniedBackend).calls →
      (pipedBetween smallSource deniedDestination 2000 delegation).ending?.isSome = true := by
    have hall : ((smallRequest.run deniedBackend).calls.all fun call =>
        match call with
        | .pipe delegation =>
          (pipedBetween smallSource deniedDestination 2000 delegation).ending?.isSome
        | _ => true) = true := by decide +kernel
    intro delegation hmem
    exact List.all_eq_true.1 hall _ hmem
  refine smallRequest.exists_hasHistory_ofTables 2000 ?_ hended
  intro setup outside call e he
  cases call with
  | batch items =>
    obtain rfl := Option.some.inj he
    exact .failed _ _ _
  | _ => cases he

/-- A service that describes its tables and denies everything else. -/
def closedService : Transport where
  send _ request :=
    match request with
    | .describeTable _ => .answered 200 "\x7b\"Table\":\x7b\x7d\x7d"
    | _ => .answered 400 "\x7b\"__type\":\"AccessDeniedException\"\x7d"

def closedBackend : Backend Float := closedService.backend 2000 1 false

def orderRequest : JobRequest Float where
  config := { CopyConfig.defaults with
    source := { table := "orders" }
    destination := { table := "archive" } }
  operational := .defaults 1

/-- A small job whose batches are denied fails with the common status, and so does a job over a
service that denies its scans. -/
theorem exitCode_tells_phase_of_denied :
    (deniedBackend.IsService ∧
      ∃ history : List (Exchange Rat Nat), (smallRequest.run deniedBackend).HasHistory history ∧
        (∀ x ∈ history, x.FailsByRequest) ∧
        ((smallRequest.run deniedBackend).report? "job" 0).map JobReport.exitCode = some 1 ∧
        smallRequest.exitStatus? deniedBackend (smallRequest.run deniedBackend).calls = some 1) ∧
    closedBackend.IsService ∧
      ∃ history : List (Exchange Float Item), (orderRequest.run closedBackend).HasHistory history ∧
        (∀ x ∈ history, x.FailsByRequest) ∧
        ((orderRequest.run closedBackend).report? "job" 0).map JobReport.exitCode = some 1 ∧
        orderRequest.exitStatus? closedBackend (orderRequest.run closedBackend).calls = some 1 ∧
        orderRequest.HasSection closedBackend := by
  constructor
  · have hservice : deniedBackend.IsService := Backend.isService_ofTables _ _ _
    obtain ⟨history, hhistory, hfails⟩ := exists_denied_hasHistory
    have htold := exitCode_tells_phase smallRequest hservice hhistory hfails "job" 0
    have hstatus : ((smallRequest.run deniedBackend).report? "job" 0).map JobReport.exitCode =
        some 1 := by decide +kernel
    exact ⟨hservice, history, hhistory, hfails, hstatus, htold.1.symm.trans hstatus⟩
  · have hservice : closedBackend.IsService := closedService.isService_backend _ _ _
    have hended : ((orderRequest.run closedBackend).calls.all fun call =>
        match call with
        | .pipe delegation => (closedService.world.runJob delegation.setup 2000 ()
            (Transport.start delegation 1 false)).2.ending?.isSome
        | _ => true) = true := by decide +kernel
    obtain ⟨history, hhistory, hfails⟩ := closedService.exists_hasHistory
      fun delegation hmem => List.all_eq_true.1 hended _ hmem
    have htold := exitCode_tells_phase orderRequest hservice hhistory hfails "job" 0
    have hstatus : ((orderRequest.run closedBackend).report? "job" 0).map JobReport.exitCode =
        some 1 := by decide +kernel
    have hpiped : (orderRequest.run closedBackend).ending.isSome = true := by decide +kernel
    obtain ⟨-, -, hsection, -⟩ := htold.2.2.2.1.1 ((orderRequest.ending_isSome_iff _).1 hpiped)
    exact ⟨hservice, history, hhistory, hfails, hstatus, htold.1.symm.trans hstatus, hsection⟩

/-- A small request for more write threads than a pool has places. -/
def crowdedRequest : JobRequest Rat :=
  { smallRequest with config := { smallRequest.config with maxWriteThreads := 2 ^ 60 } }

/-- Nothing is wrong with a request but the number of its write threads, and the job does not
come to its pipe and has no exit status. -/
theorem crowded_has_no_status : smallBackend.IsService ∧
    crowdedRequest.IsConnectable smallBackend ∧ crowdedRequest.IsDescribable smallBackend ∧
    crowdedRequest.HasSection smallBackend ∧
    (∀ delegation, .pipe delegation ∉ (crowdedRequest.run smallBackend).calls) ∧
    ∀ jobId elapsed, (crowdedRequest.run smallBackend).report? jobId elapsed = none := by
  have hchecked : crowdedRequest.check.isOk = true := by decide +kernel
  have hconnectable : crowdedRequest.IsConnectable smallBackend := by
    cases hcheck : crowdedRequest.check with
    | ok contexts => exact ⟨contexts, hcheck, rfl⟩
    | error e =>
      rw [hcheck] at hchecked
      cases hchecked
  have hdescribable : crowdedRequest.IsDescribable smallBackend := ⟨⟨_, rfl⟩, _, rfl⟩
  have hsection : crowdedRequest.HasSection smallBackend :=
    ⟨_, .fallback, rfl, rfl, by decide, by decide, by decide⟩
  have hservice : smallBackend.IsService := Backend.isService_ofTables _ _ _
  have hdecision := (crowdedRequest.rule_of_run smallBackend).decision hservice.connect
  have hexcess : PoolSpec.mostPlaces < crowdedRequest.config.maxWriteThreads := by decide
  have hunpiped : ∀ delegation, .pipe delegation ∉ (crowdedRequest.run smallBackend).calls := by
    intro delegation hmem
    exact Nat.not_le_of_lt hexcess (hdecision.pipe_mem_iff.1 ⟨delegation, hmem⟩).2.2.2
  refine ⟨hservice, hconnectable, hdescribable, hsection, hunpiped, fun jobId elapsed => ?_⟩
  cases hdecision with
  | checking hfault =>
    obtain ⟨contexts, hcheck, -⟩ := hconnectable
    rw [hfault] at hcheck
    cases hcheck
  | connecting _ hfault => exact absurd hconnectable hfault
  | describing _ hfault => exact absurd hdescribable hfault
  | planning _ _ hfault => exact absurd hsection hfault
  | pooling _ _ _ _ houtcome => rw [Course.report?, houtcome]
  | piping _ _ _ hfits => exact absurd hfits (Nat.not_le_of_lt hexcess)

end JobRequest
end TableCopy
