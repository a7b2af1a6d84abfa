import TableCopy.Proofs.Job.Course
import TableCopy.Service.Transport

/-!
# A fixed rate makes the ratios irrelevant

Two requests that differ in nothing but their ratios are compared phase by phase. With a fixed
rate, no phase can tell them apart: neither the check of the parameters, which then asks for no
ratio, nor the budgets, which then are no shares of a capacity. So the two jobs take the same
course over every backend, and ask it the same questions.
-/

namespace TableCopy

variable {α : Type}

namespace CopyConfig

/-- Two copies that agree in everything but their ratios. -/
structure SameButRatios (config config' : CopyConfig α) : Prop where
  source : config'.source = config.source
  destination : config'.destination = config.destination
  rate : config'.rate = config.rate
  maxWriteThreads : config'.maxWriteThreads = config.maxWriteThreads
  consistentScan : config'.consistentScan = config.consistentScan
  crossAccount : config'.crossAccount = config.crossAccount
  sectionIndex : config'.sectionIndex = config.sectionIndex
  totalSections : config'.totalSections = config.totalSections

/-- The same copy with other ratios. -/
def withRatios (config : CopyConfig α) (readRatio writeRatio : α) : CopyConfig α :=
  { config with readRatio, writeRatio }

variable {config config' : CopyConfig α} {rate : α}

theorem SameButRatios.eq_withRatios (h : config.SameButRatios config') :
    config' = config.withRatios config'.readRatio config'.writeRatio := by
  obtain ⟨hsource, hdestination, hrate, hthreads, hscan, hcross, hindex, hsections⟩ := h
  cases config
  cases config'
  simp only at hsource hdestination hrate hthreads hscan hcross hindex hsections
  subst hsource hdestination hrate hthreads hscan hcross hindex hsections
  rfl

/-- The ratios of a copy with a fixed rate are not checked. -/
theorem validate_withRatios [Quantity α] (hrate : config.rate = some rate)
    (readRatio writeRatio : α) :
    (config.withRatios readRatio writeRatio).validate = config.validate := by
  have hbudget : (config.withRatios readRatio writeRatio).checkBudget = config.checkBudget := by
    simp only [checkBudget, withRatios, hrate]
  rw [validate, hbudget, validate, withRatios]

end CopyConfig

namespace JobRequest

/-- The same request with other ratios. -/
def withRatios (request : JobRequest α) (readRatio writeRatio : α) : JobRequest α :=
  { request with config := request.config.withRatios readRatio writeRatio }

variable [Quantity α] {request request' : JobRequest α} {rate : α}

/-! ## One phase after the other -/

theorem check_withRatios (hrate : request.config.rate = some rate) (readRatio writeRatio : α) :
    (request.withRatios readRatio writeRatio).check = request.check := by
  have hvalidate : (request.withRatios readRatio writeRatio).config.validate =
      request.config.validate := CopyConfig.validate_withRatios hrate readRatio writeRatio
  rw [check, hvalidate]
  rfl

/-- A fixed rate is the rate of both sides, whatever their tables report. -/
theorem rate_of_fixed (hrate : request.config.rate = some rate) (table : TableCapacity)
    (direction : Direction) : request.rate table direction = .ok (some rate) := by
  rw [JobRequest.rate, budget_of_rate hrate]
  rfl

theorem pacing_of_fixed (hrate : request.config.rate = some rate)
    (source destination : TableCapacity) :
    ∃ segments, request.segments source = .ok segments ∧
      request.pacing source destination = .ok ⟨segments, some rate, some rate⟩ := by
  obtain ⟨segments, hsegments⟩ := request.exists_segments_eq_ok source
  refine ⟨segments, hsegments, ?_⟩
  rw [pacing, hsegments, rate_of_fixed hrate, rate_of_fixed hrate]

theorem pacing_withRatios (hrate : request.config.rate = some rate) (readRatio writeRatio : α)
    (source destination : TableCapacity) :
    (request.withRatios readRatio writeRatio).pacing source destination =
      request.pacing source destination := by
  obtain ⟨segments, hsegments, hpacing⟩ := pacing_of_fixed hrate source destination
  have hrate' : (request.withRatios readRatio writeRatio).config.rate = some rate := hrate
  obtain ⟨segments', hsegments', hpacing'⟩ := pacing_of_fixed hrate' source destination
  -- The segments are counted without a look at the budget.
  obtain rfl := Except.ok.inj (hsegments.symm.trans hsegments')
  exact hpacing'.trans hpacing.symm

theorem runDescribed_withRatios (hrate : request.config.rate = some rate)
    (readRatio writeRatio : α) (backend : Backend α) (calls : List (JobCall α))
    (source destination : TableCapacity) :
    (request.withRatios readRatio writeRatio).runDescribed backend calls source destination =
      request.runDescribed backend calls source destination := by
  rw [runDescribed, pacing_withRatios hrate, runDescribed]
  rfl

theorem runConnected_withRatios (hrate : request.config.rate = some rate)
    (readRatio writeRatio : α) (backend : Backend α) (calls : List (JobCall α)) :
    (request.withRatios readRatio writeRatio).runConnected backend calls =
      request.runConnected backend calls := by
  simp only [runConnected, runDescribed_withRatios hrate]
  rfl

/-- A job with a fixed rate takes the same course with any other ratios. -/
theorem run_withRatios (hrate : request.config.rate = some rate) (readRatio writeRatio : α)
    (backend : Backend α) :
    (request.withRatios readRatio writeRatio).run backend = request.run backend := by
  simp only [run, check_withRatios hrate, runConnected_withRatios hrate]

/-- Whatever a job with a fixed rate plans and hands to its pipe has that rate on both sides. -/
theorem run_of_fixed (hrate : request.config.rate = some rate) (backend : Backend α) :
    (∀ plan, (request.run backend).plan = some plan →
      plan.pacing.read = some rate ∧ plan.pacing.write = some rate) ∧
    ∀ delegation, .pipe delegation ∈ (request.run backend).calls →
      delegation.scan.throughput = some rate ∧ delegation.write.throughput = some rate := by
  have hplanned {source destination pacing plan}
      (hpacing : request.pacing source destination = .ok pacing)
      (hplan : request.plan source destination pacing = .ok plan) :
      plan.pacing.read = some rate ∧ plan.pacing.write = some rate := by
    obtain ⟨-, rfl, -⟩ := request.part_of_plan hplan
    obtain ⟨segments, -, hfixed⟩ := pacing_of_fixed hrate source destination
    rw [Except.ok.inj (hpacing.symm.trans hfixed)]
    exact ⟨rfl, rfl⟩
  have hrule := request.rule_of_run backend
  generalize request.run backend = course at hrule ⊢
  cases hrule with
  | reject => exact ⟨by simp, by simp⟩
  | unconnected | sourceUnknown | destinationUnknown | unserved =>
    exact ⟨by simp, by simp [questions]⟩
  | infeasible _ hpacing hplan =>
    refine ⟨?_, by simp [questions]⟩
    intro plan hshown
    rw [← Option.some.inj hshown]
    exact hplanned hpacing hplan
  | @delegate contexts source destination pacing plan _ hpacing hplan =>
    have hrates := hplanned hpacing hplan
    constructor
    · intro shown hshown
      rw [← Option.some.inj hshown]
      exact hrates
    · intro delegation hcall
      have hdelegated : delegation = request.delegation plan := by simpa [questions] using hcall
      rw [hdelegated]
      exact hrates

/-! ## The two jobs -/

/-- Two requests with the same constants whose copies agree in everything but their ratios. -/
structure SameButRatios (request request' : JobRequest α) : Prop where
  config : request.config.SameButRatios request'.config
  operational : request'.operational = request.operational
  planning : request'.planning = request.planning

omit [Quantity α] in
theorem SameButRatios.eq_withRatios (h : request.SameButRatios request') :
    request' = request.withRatios request'.config.readRatio request'.config.writeRatio := by
  obtain ⟨hconfig, hoperational, hplanning⟩ := h
  rw [withRatios, ← hconfig.eq_withRatios, ← hoperational, ← hplanning]

/-- With a fixed rate, no part of a job depends on the ratios: not the contexts of its clients,
the checks, the pacing, the plan or what is delegated, and over every backend not its course,
which is to say its questions, its plan, its outcome and its report. Both sides run at the fixed
rate whatever the tables report. -/
theorem ratios_irrelevant (h : request.SameButRatios request')
    (hrate : request.config.rate = some rate) :
    ClientContext.resolve request'.config request'.operational =
      ClientContext.resolve request.config request.operational ∧
    request'.config.validate = request.config.validate ∧
    request'.check = request.check ∧
    (∀ source destination,
      request'.pacing source destination = request.pacing source destination ∧
      ∃ segments, request.pacing source destination = .ok ⟨segments, some rate, some rate⟩) ∧
    (∀ source destination pacing,
      request'.plan source destination pacing = request.plan source destination pacing) ∧
    (∀ plan, request'.delegation plan = request.delegation plan) ∧
    (∀ transport : Transport,
      transport.forCopy request'.config = transport.forCopy request.config) ∧
    ∀ backend,
      request'.run backend = request.run backend ∧
      (∀ jobId elapsed, (request'.run backend).report? jobId elapsed =
        (request.run backend).report? jobId elapsed) ∧
      (∀ plan, (request.run backend).plan = some plan →
        plan.pacing.read = some rate ∧ plan.pacing.write = some rate) ∧
      ∀ delegation, .pipe delegation ∈ (request.run backend).calls →
        delegation.scan.throughput = some rate ∧ delegation.write.throughput = some rate := by
  rw [h.eq_withRatios]
  generalize request'.config.readRatio = readRatio, request'.config.writeRatio = writeRatio
  refine ⟨rfl, CopyConfig.validate_withRatios hrate _ _, check_withRatios hrate _ _, ?_,
    fun _ _ _ => rfl, fun _ => rfl, fun _ => rfl, ?_⟩
  · intro source destination
    obtain ⟨segments, -, hpacing⟩ := pacing_of_fixed hrate source destination
    exact ⟨pacing_withRatios hrate _ _ source destination, segments, hpacing⟩
  · intro backend
    have hrun := run_withRatios hrate readRatio writeRatio backend
    refine ⟨hrun, ?_, run_of_fixed hrate backend⟩
    intro jobId elapsed
    rw [hrun]

/-- A request for a copy at a fixed rate of 75 units per second. -/
def steadyRequest (readRatio writeRatio : Float) : JobRequest Float where
  config := {
    (CopyConfig.defaults : CopyConfig Float) with
    source := { table := "orders" }
    destination := { table := "orders-copy" }
    readRatio
    writeRatio
    rate := some 75 }
  operational := .defaults 1

/-- Ratios that are undefined or infinite are as good as any. -/
theorem ratios_irrelevant_undefined :
    (steadyRequest (0 / 0) (1 / 0)).check = (steadyRequest 0.5 0.5).check ∧
      ∀ backend, (steadyRequest (0 / 0) (1 / 0)).run backend =
        (steadyRequest 0.5 0.5).run backend := by
  have hsame : (steadyRequest 0.5 0.5).SameButRatios (steadyRequest (0 / 0) (1 / 0)) :=
    ⟨⟨rfl, rfl, rfl, rfl, rfl, rfl, rfl, rfl⟩, rfl, rfl⟩
  obtain ⟨-, -, hcheck, -, -, -, -, hrun⟩ := ratios_irrelevant hsame rfl
  exact ⟨hcheck, fun backend => (hrun backend).1⟩

end JobRequest
end TableCopy
