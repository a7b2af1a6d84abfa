import TableCopy.Job.Plan

/-!
# What is checked of a request

A request is checked before any table is asked for: the profile of the source, that of the
destination, and then the parameters and the operational constants. Each of the three has
an exit status of its own.
-/

namespace TableCopy

variable {α : Type}

/-- The error of a rejected parameter. -/
def CopyError.IsRejection (e : CopyError) : Prop := ∃ message, e = .invalidParameter message

/-- Whatever is wrong with a result is a rejected parameter. -/
def CopyError.OnlyRejects {β : Type} (result : Except CopyError β) : Prop :=
  ∀ e, result = .error e → e.IsRejection

theorem CopyError.IsRejection.exitCode_eq {e : CopyError} (h : e.IsRejection) :
    e.exitCode = 2 := by
  obtain ⟨message, rfl⟩ := h
  rfl

namespace CopyError.OnlyRejects

variable {β γ : Type} {result : Except CopyError β}

theorem ok (value : β) : OnlyRejects (.ok value) := nofun

theorem error {e : CopyError} (h : e.IsRejection) : OnlyRejects (.error e : Except CopyError β) :=
  fun _ heq => Except.error.inj heq ▸ h

theorem invalidParameter (message : String) :
    OnlyRejects (.error (.invalidParameter message) : Except CopyError β) :=
  error ⟨message, rfl⟩

theorem bind (hresult : OnlyRejects result) {next : β → Except CopyError γ}
    (hnext : ∀ value, OnlyRejects (next value)) : OnlyRejects (result >>= next) := by
  cases result with
  | error e => exact error (hresult e rfl)
  | ok value => exact hnext value

theorem map (hresult : OnlyRejects result) (f : β → γ) : OnlyRejects (result.map f) := by
  cases result with
  | error e => exact error (hresult e rfl)
  | ok value => exact ok _

end CopyError.OnlyRejects

/-- The named profile of a table is absent or blank. -/
def TableEndpoint.LacksProfile (table : TableEndpoint) : Prop :=
  ∀ name, table.profile = some name → Text.trim name = ""

/-- Each side has to have its own named profile, and a side lacks it. -/
def CopyConfig.LacksProfile (config : CopyConfig α) (side : Side) : Prop :=
  config.crossAccount = true ∧ (config.table side).LacksProfile

namespace ClientContext

/-- A required profile is there unless the table lacks it. -/
theorem requiredProfile_cases (side : Side) (table : TableEndpoint) :
    (table.LacksProfile ∧ ∃ m, requiredProfile side table = .error (.configuration side m)) ∨
      (¬table.LacksProfile ∧ ∃ credentials, requiredProfile side table = .ok credentials) := by
  unfold requiredProfile TableEndpoint.LacksProfile
  cases hprofile : table.profile with
  | none => exact .inl ⟨nofun, _, rfl⟩
  | some name =>
    by_cases hblank : Text.trim name = ""
    · refine .inl ⟨?_, ?_⟩
      · intro other hother
        rw [← Option.some.inj hother]
        exact hblank
      · rw [Option.map_some, Option.filter_some_neg (by simp [hblank])]
        exact ⟨_, rfl⟩
    · refine .inr ⟨fun h => hblank (h name rfl), ?_⟩
      rw [Option.map_some, Option.filter_some_pos (by simp [hblank])]
      exact ⟨_, rfl⟩

/-- The contexts are resolved unless a side lacks its profile; the source comes first. -/
theorem resolve_cases (config : CopyConfig α) (operational : OperationalConfig) :
    (config.LacksProfile .source ∧
      ∃ m, resolve config operational = .error (.configuration .source m)) ∨
    (¬config.LacksProfile .source ∧ config.LacksProfile .destination ∧
      ∃ m, resolve config operational = .error (.configuration .destination m)) ∨
    (¬config.LacksProfile .source ∧ ¬config.LacksProfile .destination ∧
      ∃ contexts, resolve config operational = .ok contexts) := by
  cases hcross : config.crossAccount with
  | false =>
    have hhas : ∀ side, ¬config.LacksProfile side := by
      intro side h
      rw [h.1] at hcross
      cases hcross
    refine .inr (.inr ⟨hhas _, hhas _, ?_⟩)
    simp only [resolve, hcross]
    exact ⟨_, rfl⟩
  | true =>
    rcases requiredProfile_cases .source config.source with ⟨hsource, m, herror⟩ |
      ⟨hsource, source, hok⟩
    · refine .inl ⟨⟨hcross, hsource⟩, m, ?_⟩
      simp only [resolve, hcross, herror]
      rfl
    · have hhas : ¬config.LacksProfile .source := fun h => hsource h.2
      rcases requiredProfile_cases .destination config.destination with ⟨hdestination, m, herror⟩ |
        ⟨hdestination, destination, hok'⟩
      · refine .inr (.inl ⟨hhas, ⟨hcross, hdestination⟩, m, ?_⟩)
        simp only [resolve, hcross, hok, herror]
        rfl
      · refine .inr (.inr ⟨hhas, fun h => hdestination h.2, ?_⟩)
        simp only [resolve, hcross, hok, hok']
        exact ⟨_, rfl⟩

end ClientContext

section Parameters

variable [Quantity α]

theorem CopyConfig.onlyRejects_checkRatio (name : String) (ratio : α) :
    CopyError.OnlyRejects (checkRatio name ratio) := by
  unfold checkRatio
  split
  · exact .ok ()
  · exact .invalidParameter _

theorem CopyConfig.onlyRejects_checkBudget (config : CopyConfig α) :
    CopyError.OnlyRejects config.checkBudget := by
  unfold checkBudget
  split
  · split
    · exact .ok ()
    · exact .invalidParameter _
  · exact (onlyRejects_checkRatio _ _).bind fun _ => onlyRejects_checkRatio _ _

theorem CopyConfig.onlyRejects_validate (config : CopyConfig α) :
    CopyError.OnlyRejects config.validate := by
  unfold validate
  split
  · exact .invalidParameter _
  · split
    · exact .invalidParameter _
    · split
      · next e hbudget => exact .error (config.onlyRejects_checkBudget e hbudget)
      · split
        · exact .invalidParameter _
        · exact .ok ()

theorem OperationalConfig.onlyRejects_validate (config : OperationalConfig) :
    CopyError.OnlyRejects config.validate := by
  unfold validate
  split
  · exact .invalidParameter _
  · split
    · exact .invalidParameter _
    · split
      · exact .invalidParameter _
      · exact .ok ()

end Parameters

namespace JobRequest

variable [Quantity α] (request : JobRequest α)

/-- The parameters or the operational constants are rejected. -/
def IsInvalid : Prop := request.config.validate ≠ .ok () ∨ request.operational.validate ≠ .ok ()

omit [Quantity α] in
/-- Batches have the size that the operational constants ask for, once they are checked. -/
theorem chunkSize_of_validate (h : request.operational.validate = .ok ()) (plan : JobPlan α) :
    (request.delegation plan).write.chunkSize = request.operational.batchWriteSize := by
  obtain ⟨-, -, hpos, hle⟩ := request.operational.validate_eq_ok_iff.1 h
  change max 1 (min request.operational.batchWriteSize 25) = _
  omega

/-- Nothing is wrong with a request on its own. -/
structure IsAccepted : Prop where
  sourceProfile : ¬request.config.LacksProfile .source
  destinationProfile : ¬request.config.LacksProfile .destination
  valid : ¬request.IsInvalid

/-- The check of a request: the profiles come first, and the parameters last. -/
theorem check_cases :
    (∃ e, request.check = .error e ∧ e.exitCode = 99 ∧ request.config.LacksProfile .source) ∨
    (∃ e, request.check = .error e ∧ e.exitCode = 98 ∧ ¬request.config.LacksProfile .source ∧
      request.config.LacksProfile .destination) ∨
    (∃ e, request.check = .error e ∧ e.exitCode = 2 ∧ ¬request.config.LacksProfile .source ∧
      ¬request.config.LacksProfile .destination ∧ request.IsInvalid) ∨
    (∃ contexts, request.check = .ok contexts ∧ request.IsAccepted) := by
  rcases ClientContext.resolve_cases request.config request.operational with
    ⟨hlacks, m, herror⟩ | ⟨hhas, hlacks, m, herror⟩ | ⟨hsource, hdestination, contexts, hok⟩
  · exact .inl ⟨_, by rw [check, herror], rfl, hlacks⟩
  · exact .inr (.inl ⟨_, by rw [check, herror], rfl, hhas, hlacks⟩)
  · refine .inr (.inr ?_)
    cases hconfig : request.config.validate with
    | error e =>
      refine .inl ⟨e, by rw [check, hok, hconfig],
        (CopyConfig.onlyRejects_validate _ e hconfig).exitCode_eq, hsource, hdestination, .inl ?_⟩
      rw [hconfig]
      nofun
    | ok =>
      cases hoperational : request.operational.validate with
      | error e =>
        refine .inl ⟨e, by rw [check, hok, hconfig, hoperational],
          (OperationalConfig.onlyRejects_validate _ e hoperational).exitCode_eq, hsource,
          hdestination, .inr ?_⟩
        rw [hoperational]
        nofun
      | ok =>
        refine .inr ⟨contexts, by rw [check, hok, hconfig, hoperational], hsource, hdestination, ?_⟩
        rintro (h | h)
        · exact h hconfig
        · exact h hoperational

/-- The check of a request finds no fault exactly if there is none. -/
theorem isAccepted_iff : request.IsAccepted ↔ ∃ contexts, request.check = .ok contexts := by
  rcases request.check_cases with ⟨e, herror, -, hlacks⟩ | ⟨e, herror, -, -, hlacks⟩ |
    ⟨e, herror, -, -, -, hinvalid⟩ | ⟨contexts, hok, haccepted⟩
  · rw [herror]
    exact iff_of_false (fun h => h.sourceProfile hlacks) (by simp)
  · rw [herror]
    exact iff_of_false (fun h => h.destinationProfile hlacks) (by simp)
  · rw [herror]
    exact iff_of_false (fun h => h.valid hinvalid) (by simp)
  · exact iff_of_true haccepted ⟨contexts, hok⟩

theorem isAccepted_of_check {contexts : ClientContext × ClientContext}
    (h : request.check = .ok contexts) : request.IsAccepted :=
  request.isAccepted_iff.2 ⟨contexts, h⟩

end JobRequest
end TableCopy
