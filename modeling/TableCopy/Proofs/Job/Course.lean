import TableCopy.Job.Run

/-!
# What a job comes to

A job either stops before its pipe, and then it has not succeeded, or it hands its plan
to the pipe, and then its outcome is that of the pipe. Planning stops a job only for a
section that does not exist.
-/

namespace TableCopy

variable {α : Type} [Quantity α]

namespace JobRequest

variable (request : JobRequest α)

omit [Quantity α] in
/-- The number of segments is never a reason to stop. -/
theorem exists_segments_eq_ok (source : TableCapacity) :
    ∃ segments, request.segments source = .ok segments := by
  unfold segments SegmentPlan.ofCapacity
  split <;> exact ⟨_, rfl⟩

/-- A rate is never a reason to stop. -/
theorem exists_rate_eq_ok (table : TableCapacity) (direction : Direction) :
    ∃ rate, request.rate table direction = .ok rate := by
  unfold rate ThroughputBudget.rate
  split
  · exact ⟨_, rfl⟩
  · split <;> exact ⟨_, rfl⟩

theorem exists_pacing_eq_ok {source : TableCapacity} {segments : SegmentPlan}
    (h : request.segments source = .ok segments) (destination : TableCapacity) :
    ∃ pacing, request.pacing source destination = .ok pacing ∧ pacing.segments = segments := by
  obtain ⟨read, hread⟩ := request.exists_rate_eq_ok source .read
  obtain ⟨write, hwrite⟩ := request.exists_rate_eq_ok destination .write
  refine ⟨⟨segments, read, write⟩, ?_, rfl⟩
  rw [pacing, h, hread, hwrite]

theorem segments_of_pacing {source destination : TableCapacity} {pacing : Pacing α}
    (h : request.pacing source destination = .ok pacing) :
    request.segments source = .ok pacing.segments := by
  obtain ⟨segments, hsegments⟩ := request.exists_segments_eq_ok source
  obtain ⟨pacing', hpacing, rfl⟩ := request.exists_pacing_eq_ok hsegments destination
  rw [hpacing] at h
  obtain rfl := Except.ok.inj h
  exact hsegments

omit [Quantity α] in
/-- A plan is for the requested section, which exists. -/
theorem part_of_plan {source destination : TableCapacity} {pacing : Pacing α} {plan : JobPlan α}
    (h : request.plan source destination pacing = .ok plan) :
    Section.ofRequest request.config.sectionIndex request.config.totalSections
        pacing.segments.totalSegments.toNat = .ok plan.part ∧
      plan.pacing = pacing ∧ plan.sourceTable = source.table := by
  unfold JobRequest.plan at h
  split at h
  · cases h
  · rename_i hpart
    obtain rfl := Except.ok.inj h
    exact ⟨hpart, rfl, rfl⟩

omit [Quantity α] in
/-- Both pools of a plan are made for a limit and the preferred size of the core. -/
theorem pools_of_plan {source destination : TableCapacity} {pacing : Pacing α} {plan : JobPlan α}
    (h : request.plan source destination pacing = .ok plan) :
    ∀ spec ∈ [plan.readPool, plan.writePool], ∃ limit, spec =
      PoolSpec.ofLimit limit request.operational.corePoolSize request.operational.keepAlive := by
  unfold JobRequest.plan at h
  split at h
  · cases h
  · obtain rfl := Except.ok.inj h
    simp only [List.mem_cons, List.not_mem_nil, or_false]
    rintro spec (rfl | rfl)
    · exact ⟨_, rfl⟩
    · exact ⟨_, rfl⟩

end JobRequest

/-- A job that did not come to its pipe. -/
structure Course.HasStopped (course : Course α) : Prop where
  calls : ∀ delegation, .pipe delegation ∉ course.calls
  ending : course.ending = none
  outcome : course.outcome ≠ .returned (.ok ())

/-- A job that handed a plan to its pipe. -/
structure Course.HasDelegated (course : Course α) (request : JobRequest α) (backend : Backend α)
    (source destination : TableCapacity) (plan : JobPlan α) : Prop where
  describedSource : backend.describe .source request.config.source.table = .ok source
  describedDestination :
    backend.describe .destination request.config.destination.table = .ok destination
  paced : request.pacing source destination = .ok plan.pacing
  planned : request.plan source destination plan.pacing = .ok plan
  shown : course.plan = some plan
  calls : ∀ delegation, .pipe delegation ∈ course.calls ↔ delegation = request.delegation plan
  ending : course.ending = some (backend.pipe (request.delegation plan))
  outcome : course.outcome =
    .returned (CopyError.addContext plan.context (backend.pipe (request.delegation plan)).result)

/-- An accepted request whose clients can be made and whose tables are both described. -/
structure JobRequest.IsDescribed (request : JobRequest α) (backend : Backend α)
    (contexts : ClientContext × ClientContext) (source destination : TableCapacity) : Prop where
  checked : request.check = .ok contexts
  connected : backend.connect contexts.1 contexts.2 = .returned (.ok ())
  source : backend.describe .source request.config.source.table = .ok source
  destination : backend.describe .destination request.config.destination.table = .ok destination

/-- The questions that a job asks before its pipe. -/
def JobRequest.questions (request : JobRequest α) (contexts : ClientContext × ClientContext) :
    List (JobCall α) :=
  [.connect contexts.1 contexts.2, .describe .source request.config.source.table,
    .describe .destination request.config.destination.table]

/-- Every course that a job can take, with what leads to it. -/
inductive Course.Rule (request : JobRequest α) (backend : Backend α) : Course α → Prop
  | reject {e} (h : request.check = .error e) : Rule request backend { outcome := .failed e }
  | unconnected {contexts outcome} (hcheck : request.check = .ok contexts)
      (h : backend.connect contexts.1 contexts.2 = outcome)
      (hfailed : outcome ≠ .returned (.ok ())) :
    Rule request backend { calls := (request.questions contexts).take 1, outcome }
  | sourceUnknown {contexts e} (hcheck : request.check = .ok contexts)
      (hconnect : backend.connect contexts.1 contexts.2 = .returned (.ok ()))
      (h : backend.describe .source request.config.source.table = .error e) :
    Rule request backend {
      calls := (request.questions contexts).take 2
      reached := .planning
      outcome := .failed e }
  | destinationUnknown {contexts source e} (hcheck : request.check = .ok contexts)
      (hconnect : backend.connect contexts.1 contexts.2 = .returned (.ok ()))
      (hsource : backend.describe .source request.config.source.table = .ok source)
      (h : backend.describe .destination request.config.destination.table = .error e) :
    Rule request backend {
      calls := request.questions contexts
      reached := .planning
      outcome := .failed e }
  /-- The section does not exist. -/
  | unserved {contexts source destination pacing e}
      (h : request.IsDescribed backend contexts source destination)
      (hpacing : request.pacing source destination = .ok pacing)
      (hplan : request.plan source destination pacing = .error e) :
    Rule request backend {
      calls := request.questions contexts
      reached := .poolBuilding
      outcome := .failed e }
  | infeasible {contexts source destination pacing plan}
      (h : request.IsDescribed backend contexts source destination)
      (hpacing : request.pacing source destination = .ok pacing)
      (hplan : request.plan source destination pacing = .ok plan)
      (hinfeasible : plan.isFeasible = false) :
    Rule request backend {
      calls := request.questions contexts
      reached := .poolBuilding
      plan := some plan
      outcome := .crashed (some PoolSpec.excess) }
  | delegate {contexts source destination pacing plan}
      (h : request.IsDescribed backend contexts source destination)
      (hpacing : request.pacing source destination = .ok pacing)
      (hplan : request.plan source destination pacing = .ok plan)
      (hfeasible : plan.isFeasible = true) :
    Rule request backend {
      calls := request.questions contexts ++ [.pipe (request.delegation plan)]
      reached := .delegating
      plan := some plan
      ending := some (backend.pipe (request.delegation plan))
      outcome := .returned
        (CopyError.addContext plan.context (backend.pipe (request.delegation plan)).result) }

namespace JobRequest

variable (request : JobRequest α) (backend : Backend α)

theorem rule_of_runDescribed {contexts : ClientContext × ClientContext}
    {source destination : TableCapacity}
    (h : request.IsDescribed backend contexts source destination) :
    Course.Rule request backend
      (request.runDescribed backend (request.questions contexts) source destination) := by
  obtain ⟨segments, hsegments⟩ := request.exists_segments_eq_ok source
  obtain ⟨pacing, hpacing, -⟩ := request.exists_pacing_eq_ok hsegments destination
  simp only [runDescribed, hpacing]
  split
  · rename_i hplan
    exact .unserved h hpacing hplan
  · rename_i hplan
    split
    · rename_i hfeasible
      exact .delegate h hpacing hplan hfeasible
    · rename_i hinfeasible
      exact .infeasible h hpacing hplan (Bool.eq_false_iff.2 hinfeasible)

/-- A job takes one of the courses of the rules. -/
theorem rule_of_run : Course.Rule request backend (request.run backend) := by
  cases hcheck : request.check with
  | error e =>
    simp only [run, hcheck]
    exact .reject hcheck
  | ok contexts =>
    by_cases hconnect : backend.connect contexts.1 contexts.2 = .returned (.ok ())
    · cases hsource : backend.describe .source request.config.source.table with
      | error e =>
        simp only [run, hcheck, hconnect, runConnected, hsource]
        exact .sourceUnknown hcheck hconnect hsource
      | ok source =>
        cases hdestination : backend.describe .destination request.config.destination.table with
        | error e =>
          simp only [run, hcheck, hconnect, runConnected, hsource, hdestination]
          exact .destinationUnknown hcheck hconnect hsource hdestination
        | ok destination =>
          simp only [run, hcheck, hconnect, runConnected, hsource, hdestination]
          exact request.rule_of_runDescribed backend ⟨hcheck, hconnect, hsource, hdestination⟩
    · have hstopped : request.run backend = {
          calls := (request.questions contexts).take 1
          outcome := backend.connect contexts.1 contexts.2 } := by
        simp only [run, hcheck]
        rcases houtcome : backend.connect contexts.1 contexts.2 with (e | ⟨⟩) | reason
        · rfl
        · exact absurd houtcome hconnect
        · rfl
      rw [hstopped]
      exact .unconnected hcheck rfl hconnect

/-- A job stops before its pipe, or hands its plan to it. -/
theorem run_cases : (request.run backend).HasStopped ∨ ∃ source destination plan,
    (request.run backend).HasDelegated request backend source destination plan := by
  have hrule := request.rule_of_run backend
  generalize request.run backend = course at hrule ⊢
  cases hrule with
  | reject => exact .inl ⟨fun _ => List.not_mem_nil, rfl, fun h => by cases h⟩
  | unconnected _ _ hfailed => exact .inl ⟨by simp [questions], rfl, hfailed⟩
  | sourceUnknown | destinationUnknown | unserved | infeasible =>
    exact .inl ⟨by simp [questions], rfl, fun h => by cases h⟩
  | @delegate contexts source destination pacing plan h hpacing hplan =>
    obtain ⟨-, rfl, -⟩ := request.part_of_plan hplan
    refine .inr ⟨source, destination, plan, h.source, h.destination, hpacing, hplan, rfl, ?_, rfl,
      rfl⟩
    intro delegation
    simp [questions]

/-- A pipe has ended exactly if it was asked. -/
theorem ending_isSome_iff : (request.run backend).ending.isSome = true ↔
    ∃ delegation, .pipe delegation ∈ (request.run backend).calls := by
  rcases request.run_cases backend with hstopped | ⟨source, destination, plan, hdelegated⟩
  · rw [hstopped.ending]
    exact iff_of_false Bool.false_ne_true fun ⟨delegation, hmem⟩ => hstopped.calls delegation hmem
  · rw [hdelegated.ending]
    exact iff_of_true rfl ⟨_, (hdelegated.calls _).2 rfl⟩

/-- A job for a section that does not exist fails with the status for that. -/
theorem run_of_sectionOutOfRange {contexts : ClientContext × ClientContext}
    {source destination : TableCapacity} {segments : SegmentPlan}
    (hcheck : request.check = .ok contexts)
    (hconnect : backend.connect contexts.1 contexts.2 = .returned (.ok ()))
    (hsource : backend.describe .source request.config.source.table = .ok source)
    (hdestination :
      backend.describe .destination request.config.destination.table = .ok destination)
    (hsegments : request.segments source = .ok segments)
    (h : segments.totalSegments.toNat < request.config.totalSections) :
    (request.run backend).outcome = .failed (.sectionOutOfRange request.config.sectionIndex
      request.config.totalSections segments.totalSegments.toNat) := by
  obtain ⟨pacing, hpacing, rfl⟩ := request.exists_pacing_eq_ok hsegments destination
  have hpart : Section.ofRequest request.config.sectionIndex request.config.totalSections
      pacing.segments.totalSegments.toNat =
        .error (.sectionOutOfRange request.config.sectionIndex request.config.totalSections
          pacing.segments.totalSegments.toNat) := by
    apply if_neg
    rintro ⟨-, -, hle⟩
    omega
  have hplan : request.plan source destination pacing =
      .error (.sectionOutOfRange request.config.sectionIndex request.config.totalSections
        pacing.segments.totalSegments.toNat) := by
    rw [JobRequest.plan, hpart]
  simp only [run, hcheck, hconnect, runConnected, hsource, hdestination, runDescribed, hpacing,
    hplan]

end JobRequest

namespace Course

variable {course : Course α} {report : JobReport α} {jobId : String} {elapsed : Nat}

omit [Quantity α] in
/-- A job that is reported as completed has succeeded. -/
theorem outcome_of_completed (h : course.report? jobId elapsed = some report)
    (hstate : report.state = .completed) : course.outcome = .returned (.ok ()) := by
  unfold report? at h
  split at h
  · rename_i result houtcome
    obtain rfl := Option.some.inj h
    cases result with
    | ok => exact houtcome
    | error => cases hstate
  · cases h

omit [Quantity α] in
theorem report?_of_failed {e : CopyError} (h : course.outcome = .failed e) :
    course.report? jobId elapsed = some (course.reportOf (.error e) jobId elapsed) := by
  rw [report?, h, Outcome.failed]

end Course
end TableCopy
