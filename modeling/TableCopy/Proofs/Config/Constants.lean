import TableCopy.Config.Environment
import TableCopy.Proofs.Job.Check
import TableCopy.Proofs.Job.Course
import TableCopy.Service.Transport

/-!
# Which constants are accepted

A variable can hold any text, and a constant takes whatever can stand for a whole number: truth
values and words for them, whole numbers, and numbers that are rounded and brought into range. So
extreme values reach the checks in several ways. What cannot be read and what the checks refuse is
a rejected parameter. What is accepted can be worked with, but for two constants that are checked
on one side only or not at all: a client may have more connections than it can be made for, and a
page may have a limit that the service does not take.
-/

namespace TableCopy

/-- A result of two parts in a row comes from a result of each. -/
theorem CopyError.bind_eq_ok_iff {β γ : Type} {result : Except CopyError β}
    {next : β → Except CopyError γ} {last : γ} :
    (result >>= next) = .ok last ↔ ∃ value, result = .ok value ∧ next value = .ok last := by
  cases result with
  | error e => exact ⟨nofun, fun ⟨_, h, _⟩ => nomatch h⟩
  | ok value => exact ⟨fun h => ⟨value, rfl, h⟩, fun ⟨_, h, hlast⟩ => Except.ok.inj h ▸ hlast⟩

namespace Override

open CopyError

variable {name : String} {low high n : Int} {given : Override}

/-- A whole number that is given is a signed 64-bit word. -/
def Fits : Override → Prop
  | .whole n => Word.isSigned 64 n = true
  | _ => True

theorem fits_ofText (value : String) : (ofText value).Fits := by
  unfold ofText
  split
  · trivial
  · trivial
  · split
    · next n hread =>
      simp only [Reading.signedWord?, Option.bind_eq_bind, Option.bind_eq_some_iff,
        Option.ite_none_right_eq_some] at hread
      obtain ⟨_, -, hword, heq⟩ := hread
      obtain rfl := Option.some.inj heq
      exact hword
    · split <;> trivial

theorem switch?_bounds {text : String} (h : switch? text = some n) : 0 ≤ n ∧ n ≤ 1 := by
  unfold switch? at h
  split at h
  all_goals cases h
  all_goals decide

/-- A number is brought between its bounds, also when it is infinite or undefined. -/
theorem roundBetween_bounds (hlow : low ≤ 0) (hhigh : 0 ≤ high) (x : Float) :
    low ≤ roundBetween low high x ∧ roundBetween low high x ≤ high := by
  unfold roundBetween
  split
  · exact ⟨Int.le_max_left .., Int.max_le.2 ⟨Int.le_trans hlow hhigh, Int.min_le_left ..⟩⟩
  · split
    · exact ⟨Int.le_trans hlow hhigh, Int.le_refl _⟩
    · split
      · exact ⟨Int.le_refl _, Int.le_trans hlow hhigh⟩
      · exact ⟨hlow, hhigh⟩

theorem onlyRejects_whole? : OnlyRejects (given.whole? name low high) := by
  cases given with
  | truth | whole | number => exact .ok _
  | group | sequence => exact .invalidParameter _
  | text value =>
    rw [whole?]
    split
    · exact .ok _
    · exact .invalidParameter _

theorem whole?_le (hfits : given.Fits) (hlow : low ≤ 0) (hhigh : Word.signedEnd 64 ≤ high)
    (h : given.whole? name low high = .ok n) : n ≤ high := by
  have hone : (1 : Int) ≤ Word.signedEnd 64 := by decide
  cases given with
  | truth value =>
    obtain rfl := Except.ok.inj h
    cases value <;> simp <;> omega
  | whole value =>
    obtain rfl := Except.ok.inj h
    have := (Word.isSigned_iff.1 hfits).2
    omega
  | number x =>
    obtain rfl := Except.ok.inj h
    exact (roundBetween_bounds hlow (by omega) x).2
  | text value =>
    rw [whole?] at h
    split at h
    · next hswitch =>
      obtain rfl := Except.ok.inj h
      have := (switch?_bounds hswitch).2
      omega
    · cases h
  | group | sequence => cases h

theorem onlyRejects_natural? : OnlyRejects (given.natural? name) := by
  unfold natural?
  split
  · next e h => exact .error (onlyRejects_whole? e h)
  · split
    · exact .invalidParameter _
    · exact .ok _

theorem natural?_le {n : Nat} (hfits : given.Fits) (h : given.natural? name = .ok n) :
    n ≤ Word.greatest 64 := by
  unfold natural? at h
  split at h
  · cases h
  · next value hvalue =>
    have hle := whole?_le hfits (Int.le_refl _) (by decide) hvalue
    split at h
    · cases h
    · obtain rfl := Except.ok.inj h
      omega

theorem onlyRejects_signed? : OnlyRejects (given.signed? name) := by
  unfold signed?
  split
  · next e h => exact .error (onlyRejects_whole? e h)
  · split
    · exact .ok _
    · exact .invalidParameter _

theorem isSigned_of_signed? (h : given.signed? name = .ok n) : Word.isSigned 32 n = true := by
  unfold signed? at h
  split at h
  · cases h
  · split at h
    · next hword =>
      obtain rfl := Except.ok.inj h
      exact hword
    · cases h

end Override

namespace Environment

open CopyError

variable {environment : List (String × String)} {name : String}

theorem fits_of_entry? {value found : String} {given : Override}
    (h : entry? name value = some (found, given)) : given.Fits := by
  unfold entry? at h
  split at h
  · dsimp only at h
    split at h
    · cases h
      exact Override.fits_ofText value
    · split at h
      · next mark _ _ _ =>
        cases h
        split <;> trivial
      · cases h
        exact Override.fits_ofText value
  · cases h

theorem fits_of_override? {given : Override} (h : override? environment name = some given) :
    given.Fits := by
  obtain ⟨⟨variable', value⟩, -, hentry⟩ := List.exists_of_findSome?_eq_some h
  dsimp only at hentry
  split at hentry
  · next found given' hfound =>
    obtain ⟨-, heq⟩ := Option.ite_none_right_eq_some.1 hentry
    obtain rfl := Option.some.inj heq
    exact fits_of_entry? hfound
  · cases hentry

theorem onlyRejects_natural (default : Nat) :
    OnlyRejects (natural environment name default) := by
  unfold natural
  split
  · exact Override.onlyRejects_natural?
  · exact .ok _

theorem onlyRejects_signed : OnlyRejects (signed environment name) := by
  unfold signed
  split
  · exact Override.onlyRejects_signed?.map some
  · exact .ok _

theorem natural_le {default n : Nat} (h : natural environment name default = .ok n) :
    n ≤ max default (Word.greatest 64) := by
  unfold natural at h
  split at h
  · next given hgiven =>
    exact Nat.le_trans (Override.natural?_le (fits_of_override? hgiven) h) (Nat.le_max_right ..)
  · obtain rfl := Except.ok.inj h
    exact Nat.le_max_left ..

theorem isSigned_of_signed {limit : Int} (h : signed environment name = .ok (some limit)) :
    Word.isSigned 32 limit = true := by
  unfold signed at h
  split at h
  · next given _ =>
    cases hgiven : given.signed? name with
    | error e =>
      rw [hgiven] at h
      cases h
    | ok n =>
      rw [hgiven] at h
      cases h
      exact Override.isSigned_of_signed? hgiven
  · cases h

end Environment

namespace OperationalConfig

open CopyError

variable {processors : Nat} {environment : List (String × String)} {config : OperationalConfig}

/-- The bounds that are checked. -/
structure IsChecked (config : OperationalConfig) : Prop where
  connections : 1 ≤ config.maxConnections
  core : 1 ≤ config.corePoolSize
  batch : 1 ≤ config.batchWriteSize
  batch_le : config.batchWriteSize ≤ maxBatchSize

/-- Everything that the constants are for can work with them: both clients can be made and have
a slot, the pools have a core, and the service takes the batches and the pages. -/
structure IsWorkable (config : OperationalConfig) : Prop extends config.IsChecked where
  clients : config.maxConnections ≤ Connections.mostSlots
  pages : ∀ limit, config.scanPageLimit = some limit → 1 ≤ limit

theorem isChecked_iff : config.IsChecked ↔ config.validate = .ok () := by
  rw [validate_eq_ok_iff]
  exact ⟨fun h => ⟨h.connections, h.core, h.batch, h.batch_le⟩,
    fun ⟨connections, core, batch, batch_le⟩ => ⟨connections, core, batch, batch_le⟩⟩

theorem onlyRejects_override (defaults : OperationalConfig)
    (environment : List (String × String)) : OnlyRejects (defaults.override environment) :=
  (Environment.onlyRejects_natural _).bind fun _ =>
    (Environment.onlyRejects_natural _).bind fun _ =>
      (Environment.onlyRejects_natural _).bind fun _ =>
        (Environment.onlyRejects_natural _).bind fun _ =>
          Environment.onlyRejects_signed.bind fun _ => .ok _

/-- Each constant is read on its own. -/
theorem override_eq_ok_iff {defaults : OperationalConfig} :
    defaults.override environment = .ok config ↔
      Environment.natural environment "max_connections" defaults.maxConnections =
          .ok config.maxConnections ∧
        Environment.natural environment "executor_core_pool_size" defaults.corePoolSize =
          .ok config.corePoolSize ∧
        Environment.natural environment "executor_keep_alive_ms" defaults.keepAliveMillis =
          .ok config.keepAliveMillis ∧
        Environment.natural environment "batch_write_size" defaults.batchWriteSize =
          .ok config.batchWriteSize ∧
        Environment.signed environment "scan_page_limit" = .ok config.scanPageLimit := by
  simp only [override, bind_eq_ok_iff]
  constructor
  · rintro ⟨_, hconnections, _, hcore, _, hkeep, _, hbatch, _, hlimit, hlast⟩
    obtain rfl := Except.ok.inj hlast
    exact ⟨hconnections, hcore, hkeep, hbatch, hlimit⟩
  · rintro ⟨hconnections, hcore, hkeep, hbatch, hlimit⟩
    exact ⟨_, hconnections, _, hcore, _, hkeep, _, hbatch, _, hlimit, rfl⟩

theorem load_eq_ok_iff : load processors environment = .ok config ↔
    (defaults processors).override environment = .ok config ∧ config.IsChecked := by
  rw [isChecked_iff]
  constructor
  · intro h
    refine ⟨?_, validate_of_load h⟩
    unfold load at h
    split at h
    · cases h
    · next hread =>
      split at h
      · cases h
      · cases h
        exact hread
  · rintro ⟨hread, hvalid⟩
    rw [load, hread]
    dsimp only
    rw [hvalid]

theorem onlyRejects_load (processors : Nat) (environment : List (String × String)) :
    OnlyRejects (load processors environment) := by
  unfold load
  split
  · next e hread => exact .error (onlyRejects_override _ _ e hread)
  · next config _ =>
    split
    · next e hvalid => exact .error (onlyRejects_validate config e hvalid)
    · exact .ok _

/-- Checked constants can be worked with unless there are too many connections or a page has a
limit below one. -/
theorem IsChecked.isWorkable_iff (h : config.IsChecked) : config.IsWorkable ↔
    config.maxConnections ≤ Connections.mostSlots ∧
      ∀ limit, config.scanPageLimit = some limit → 1 ≤ limit :=
  ⟨fun hworkable => ⟨hworkable.clients, hworkable.pages⟩,
    fun ⟨clients, pages⟩ => ⟨h, clients, pages⟩⟩

end OperationalConfig

/-- The core of a pool keeps to the preferred size. -/
theorem PoolSpec.ofLimit_core_le {core : Nat} (h : 1 ≤ core) (limit keepAlive : Nat) :
    (ofLimit limit core keepAlive).corePoolSize ≤ core :=
  Nat.max_le.2 ⟨Nat.min_le_left .., h⟩

namespace JobRequest

/-- A job uses its constants as they are: they are the limit of its pages, the size of its
batches, and what the core of its pools does not exceed, and it gets to the tables exactly if its
clients can be made for its connections. -/
structure HeedsConstants (request : JobRequest Float) : Prop where
  pages : ∀ plan (task : SegmentTask Float Item),
    (task.request (request.delegation plan).setup).limit = request.operational.scanPageLimit
  batches : ∀ plan,
    (request.delegation plan).write.chunkSize = request.operational.batchWriteSize
  pools : ∀ source destination pacing plan,
    request.plan source destination pacing = .ok plan →
      ∀ spec ∈ [plan.readPool, plan.writePool],
        1 ≤ spec.corePoolSize ∧ spec.corePoolSize ≤ request.operational.corePoolSize
  clients : ∀ contexts, request.check = .ok contexts →
    ∀ (transport : Transport) (fuel : Nat) (interrupted : Bool),
      let backend := transport.backend fuel request.operational.maxConnections interrupted
      request.run backend =
        if request.operational.maxConnections ≤ Connections.mostSlots then
          request.runConnected backend [.connect contexts.1 contexts.2]
        else
          { calls := [.connect contexts.1 contexts.2]
            outcome := .crashed (some Connections.excess) }

theorem heedsConstants_of_isChecked {request : JobRequest Float}
    (h : request.operational.IsChecked) : request.HeedsConstants where
  pages _ _ := rfl
  batches plan := request.chunkSize_of_validate (OperationalConfig.isChecked_iff.1 h) plan
  pools source destination pacing plan hplan spec hspec := by
    obtain ⟨limit, rfl⟩ := request.pools_of_plan hplan spec hspec
    exact ⟨PoolSpec.ofLimit_core_pos .., PoolSpec.ofLimit_core_le h.core ..⟩
  clients contexts hcheck transport fuel interrupted := by
    intro backend
    rw [run, hcheck]
    by_cases hle : request.operational.maxConnections ≤ Connections.mostSlots
    · simp [backend, Transport.backend, Connections.isFeasible, hle]
    · simp [backend, Transport.backend, Connections.isFeasible, hle]

end JobRequest

namespace OperationalConfig

/-- What is loaded is what can be read of the environment and passes the checks, and whatever is
wrong with an environment is a rejected parameter. A job uses the constants that are loaded as
they are. They are workable unless they have more connections than a client can be made for, or a
limit of the pages below one, and both are words that the environment asks for. -/
theorem load_accepts_checked (processors : Nat) (environment : List (String × String)) :
    (∀ config, load processors environment = .ok config ↔
      (defaults processors).override environment = .ok config ∧ config.IsChecked) ∧
    (∀ e, load processors environment = .error e → e.IsRejection) ∧
    ∀ config, load processors environment = .ok config →
      config.IsChecked ∧
      (∀ request : JobRequest Float, request.operational = config → request.HeedsConstants) ∧
      (config.IsWorkable ↔ config.maxConnections ≤ Connections.mostSlots ∧
        ∀ limit, config.scanPageLimit = some limit → 1 ≤ limit) ∧
      (Connections.mostSlots < config.maxConnections → config.maxConnections ≤ Word.greatest 64 ∧
        Environment.override? environment "max_connections" ≠ none) ∧
      ∀ limit, config.scanPageLimit = some limit → Word.isSigned 32 limit = true ∧
        Environment.override? environment "scan_page_limit" ≠ none := by
  refine ⟨fun config => load_eq_ok_iff, onlyRejects_load processors environment, ?_⟩
  intro config hload
  obtain ⟨hread, hchecked⟩ := load_eq_ok_iff.1 hload
  obtain ⟨hconnections, -, -, -, hlimit⟩ := override_eq_ok_iff.1 hread
  have hdefault : (defaults processors).maxConnections ≤ Connections.mostSlots := by
    change 200 ≤ Connections.mostSlots
    decide
  have hmost : Connections.mostSlots ≤ Word.greatest 64 := by decide
  refine ⟨hchecked, ?_, hchecked.isWorkable_iff, ?_, ?_⟩
  · rintro request rfl
    exact JobRequest.heedsConstants_of_isChecked hchecked
  · intro hpast
    have hle := Environment.natural_le hconnections
    refine ⟨by omega, fun hnone => ?_⟩
    rw [Environment.natural, hnone] at hconnections
    have := Except.ok.inj hconnections
    omega
  · intro limit hsome
    rw [hsome] at hlimit
    refine ⟨Environment.isSigned_of_signed hlimit, fun hnone => ?_⟩
    rw [Environment.signed, hnone] at hlimit
    cases hlimit

/-- Constants that an environment gives for the connections and the pages, and can be worked
with. -/
theorem load_accepts_checked_of_limits :
    ∃ config, load 4 [("COPY__MAX_CONNECTIONS", "64"), ("copy__scan_page_limit", "100")] =
      .ok config ∧ config.maxConnections = 64 ∧ config.IsWorkable := by
  have hload : load 4 [("COPY__MAX_CONNECTIONS", "64"), ("copy__scan_page_limit", "100")] =
      .ok { defaults 4 with maxConnections := 64, scanPageLimit := some 100 } := rfl
  obtain ⟨-, -, hworkable, -⟩ := (load_accepts_checked 4 _).2.2 _ hload
  refine ⟨_, hload, rfl, hworkable.2 ⟨by decide, ?_⟩⟩
  intro limit hlimit
  obtain rfl := Option.some.inj hlimit
  decide

/-- A limit of no items for a page and connections beyond what a client can be made for are both
accepted. -/
theorem load_accepts_unworkable :
    (∃ config, load 4 [("COPY__SCAN_PAGE_LIMIT", "0")] = .ok config ∧
      config.scanPageLimit = some 0 ∧ ¬config.IsWorkable) ∧
    ∃ config, load 4 [("COPY__MAX_CONNECTIONS", "2305843009213693952")] = .ok config ∧
      config.maxConnections = Connections.mostSlots + 1 ∧ ¬config.IsWorkable := by
  constructor
  · refine ⟨{ defaults 4 with scanPageLimit := some 0 }, rfl, rfl, fun h => ?_⟩
    exact absurd (h.pages 0 rfl) (by decide)
  · refine ⟨{ defaults 4 with maxConnections := 2305843009213693952 }, rfl, rfl, fun h => ?_⟩
    exact absurd h.clients (by decide)

end OperationalConfig
end TableCopy
