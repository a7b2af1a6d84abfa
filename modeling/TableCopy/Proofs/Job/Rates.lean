import Mathlib.Algebra.Order.Field.Basic
import Mathlib.Data.UInt
import Mathlib.Tactic.Linarith
import TableCopy.Plan.Description
import TableCopy.Proofs.Job.Course
import TableCopy.Proofs.Number.Exact
import TableCopy.Proofs.Pacing.Limiter
import TableCopy.Service.Exchange

/-!
# The rates of a job

Units pass two filters on their way from the description of a table to the plan of a job, a ratio
or a fixed rate scales or replaces them, and a limiter refuses rates on its own. Of all this one
case is left in which a side runs without a limit: no rate is set, and the table has no units to
take a share of. Where the arithmetic matters the quantities are exact.
-/

namespace TableCopy

/-! ## What a description says -/

namespace TableDescription

/-- The units that a table reports for a direction; none without a throughput block. -/
def reported (table : TableDescription) : Direction → Option Int
  | .read => table.readCapacityUnits
  | .write => table.writeCapacityUnits

/-- The units that a table reports fit a word. -/
def HasWords (table : TableDescription) : Prop :=
  ∀ direction, ∀ units ∈ table.reported direction, units < Word.count 64

/-- A table without units to take a share of: it is billed by request, or it reports no units, or
none that are positive. -/
def IsUnprovisioned (table : TableDescription) (direction : Direction) : Prop :=
  table.billingMode = some "PAY_PER_REQUEST" ∨ table.reported direction = none ∨
    ∃ units, table.reported direction = some units ∧ units ≤ 0

end TableDescription

theorem Json.int?_lt {value : Json} {n : Int} (h : value.int? = some n) : n < Word.count 64 := by
  unfold int? at h
  split at h
  · split at h
    · have hrange := (Option.filter_eq_some_iff.1 h).2
      simp only [Bool.and_eq_true, decide_eq_true_eq] at hrange
      exact hrange.2
    · cases h
  · cases h

/-- A member that was read is there. -/
theorem Json.exists_of_field? {β : Type} {name : String} {read : Json → Option β} {value : Json}
    {x : β} (h : Answer.field? name read value = some (some x)) :
    ∃ member, value.get? name = some member ∧ read member = some x := by
  unfold Answer.field? Json.optional at h
  split at h
  · cases h
  · cases h
  · rename_i member _ hmember
    obtain ⟨y, hread, hy⟩ := Option.map_eq_some_iff.1 h
    obtain rfl := Option.some.inj hy
    exact ⟨member, hmember, hread⟩

namespace TableDescription

variable {answer : Json} {d : TableDescription}

/-- The name of the units of a direction in a throughput block. -/
def unitsName : Direction → String
  | .read => "ReadCapacityUnits"
  | .write => "WriteCapacityUnits"

/-- The units that a table reports are those of its throughput block. -/
theorem exists_throughput (h : Answer.description? answer = some (some d)) : ∃ table throughput,
    answer.get? "Table" = some table ∧
      Answer.field? "ProvisionedThroughput" some table = some throughput ∧
      ∀ direction, throughput.elim (some none)
        (Answer.field? (unitsName direction) Json.int?) = some (d.reported direction) := by
  obtain ⟨table, htable, hread⟩ := Json.exists_of_field? h
  simp only [Option.bind_eq_bind, Option.bind_eq_some_iff] at hread
  obtain ⟨_, -, _, -, throughput, hthroughput, read, hread, write, hwrite, _, -, hd⟩ := hread
  obtain rfl := Option.some.inj hd
  refine ⟨table, throughput, htable, hthroughput, ?_⟩
  intro direction
  cases direction with
  | read => exact hread
  | write => exact hwrite

/-- The units of every table that was described fit a word. -/
theorem hasWords_of_read (h : Answer.description? answer = some (some d)) : d.HasWords := by
  obtain ⟨table, throughput, -, -, hreported⟩ := exists_throughput h
  intro direction units hunits
  have hfield := hreported direction
  rw [Option.mem_def.1 hunits] at hfield
  cases throughput with
  | none => simp at hfield
  | some block =>
    obtain ⟨member, -, hmember⟩ := Json.exists_of_field? hfield
    exact Json.int?_lt hmember

/-- A table without a throughput block has no units to share in either direction. -/
theorem isUnprovisioned_of_read (h : Answer.description? answer = some (some d)) {table : Json}
    (htable : answer.get? "Table" = some table)
    (hblock : table.get? "ProvisionedThroughput" = none) (direction : Direction) :
    d.IsUnprovisioned direction := by
  obtain ⟨other, throughput, hother, hthroughput, hreported⟩ := exists_throughput h
  obtain rfl := Option.some.inj (htable.symm.trans hother)
  rw [Answer.field?, hblock] at hthroughput
  obtain rfl := Option.some.inj hthroughput
  exact .inr (.inl (Option.some.inj (hreported direction)).symm)

end TableDescription

/-- A positive number that fits a word is the same as a word. -/
theorem Word.toNat_ofNat_toNat {n : Int} (hpos : 0 < n) (hword : n < count 64) :
    ((UInt64.ofNat n.toNat).toNat : Int) = n := by
  rw [UInt64.toNat_ofNat', Nat.mod_eq_of_lt, Int.toNat_of_nonneg hpos.le]
  exact (Int.toNat_lt hpos.le).2 hword

namespace TableCapacity

variable {table : TableDescription} {direction : Direction}

theorem units_ofDescription (name : String) (table : TableDescription) (direction : Direction) :
    (ofDescription name table).units direction =
      (table.provisioned (table.reported direction)).filter fun units => 0 < units := by
  cases direction <;> rfl

/-- The capacity of a table has the units that it reports, unless there are none to share. -/
theorem units_cases (name : String) (hwords : table.HasWords) (direction : Direction) :
    (table.IsUnprovisioned direction ∧ (ofDescription name table).units direction = none) ∨
      ¬table.IsUnprovisioned direction ∧ ∃ units : UInt64,
        (ofDescription name table).units direction = some units ∧ 0 < units.toNat ∧
          table.reported direction = some (units.toNat : Int) := by
  rw [units_ofDescription, TableDescription.provisioned]
  cases hreported : table.reported direction with
  | none => exact .inl ⟨.inr (.inl hreported), rfl⟩
  | some units =>
    by_cases hdemand : table.billingMode = some "PAY_PER_REQUEST"
    · exact .inl ⟨.inl hdemand, by simp [TableDescription.isOnDemand, hdemand]⟩
    by_cases hpos : 0 < units
    · have hword := Word.toNat_ofNat_toNat hpos (hwords direction units hreported)
      have hunits : 0 < (UInt64.ofNat units.toNat).toNat := by
        rwa [← Int.natCast_pos, hword]
      refine .inr ⟨?_, UInt64.ofNat units.toNat, ?_, hunits, by rw [hword]⟩
      · rintro (h | h | ⟨other, h, hle⟩)
        · exact hdemand h
        · simp [hreported] at h
        · rw [hreported] at h
          obtain rfl := Option.some.inj h
          exact absurd hpos (not_lt.2 hle)
      · have hnonzero : 0 < UInt64.ofNat units.toNat := UInt64.lt_iff_toNat_lt.2 hunits
        simp [TableDescription.isOnDemand, hdemand, hpos, hnonzero]
    · exact .inl ⟨.inr (.inr ⟨units, hreported, not_lt.1 hpos⟩), by simp [hpos]⟩

end TableCapacity

/-! ## What is checked of a budget -/

namespace CopyConfig

variable {α : Type} [Quantity α]

/-- The fraction of the capacity of one direction. -/
def ratio (config : CopyConfig α) : Direction → α
  | .read => config.readRatio
  | .write => config.writeRatio

/-- A fixed rate that is a positive number, or two ratios that are fractions. -/
def HasBudget (config : CopyConfig α) : Prop :=
  match config.rate with
  | some rate => ∃ q, Quantity.positive? rate = some q
  | none => ∀ direction, ∃ q, Quantity.positive? (config.ratio direction) = some q ∧ q ≤ 1

theorem checkRatio_eq_ok_iff {name : String} {ratio : α} :
    checkRatio name ratio = .ok () ↔ ∃ q, Quantity.positive? ratio = some q ∧ q ≤ 1 := by
  unfold checkRatio isRatio
  cases Quantity.positive? ratio with
  | none => simp
  | some q => by_cases hle : q ≤ 1 <;> simp [hle]

theorem checkBudget_eq_ok_iff {config : CopyConfig α} :
    config.checkBudget = .ok () ↔ config.HasBudget := by
  unfold checkBudget HasBudget
  cases config.rate with
  | some rate => cases hpositive : Quantity.positive? rate <;> simp [hpositive]
  | none =>
    constructor
    · intro h
      cases hread : checkRatio "read throughput ratio" config.readRatio with
      | error e => simp [hread, bind, Except.bind] at h
      | ok =>
        rw [hread] at h
        intro direction
        cases direction with
        | read => exact checkRatio_eq_ok_iff.1 hread
        | write => exact checkRatio_eq_ok_iff.1 h
    · intro h
      have hread : checkRatio "read throughput ratio" config.readRatio = .ok () :=
        checkRatio_eq_ok_iff.2 (h .read)
      rw [hread]
      exact checkRatio_eq_ok_iff.2 (h .write)

/-- The parameters of a copy are accepted exactly if both tables are named, the budget is one,
and there is a thread to write with. -/
theorem validate_eq_ok_iff {config : CopyConfig α} :
    config.validate = .ok () ↔ config.source.table ≠ "" ∧ config.destination.table ≠ "" ∧
      config.HasBudget ∧ config.maxWriteThreads ≠ 0 := by
  rw [← checkBudget_eq_ok_iff, validate]
  by_cases hsource : config.source.table = ""
  · simp [hsource]
  by_cases hdestination : config.destination.table = ""
  · simp [hsource, hdestination]
  cases hbudget : config.checkBudget with
  | error e => simp [hsource, hdestination]
  | ok => by_cases hthreads : config.maxWriteThreads = 0 <;> simp [hsource, hdestination, hthreads]

end CopyConfig

/-! ## What a plan decides -/

namespace JobRequest

variable {α : Type} [Quantity α] (request : JobRequest α)

/-- The rate of a side is the fixed rate, if one is set, and else a share of the units. -/
theorem rate_eq (table : TableCapacity) (direction : Direction) :
    request.rate table direction = .ok (match request.config.rate with
      | some rate => some rate
      | none => (table.units direction).map fun units =>
        Quantity.mul (Quantity.ofNat units.toNat) (request.config.ratio direction)) := by
  unfold rate CopyConfig.budget
  cases request.config.rate with
  | some rate => rfl
  | none =>
    cases direction with
    | read =>
      cases hunits : table.units .read <;> simp only [ThroughputBudget.rate, hunits] <;> rfl
    | write =>
      cases hunits : table.units .write <;> simp only [ThroughputBudget.rate, hunits] <;> rfl

omit [Quantity α] in
theorem segments_of_units_eq_none {source : TableCapacity} (h : source.units .read = none) :
    request.segments source = .ok .fallback := by
  rw [segments, SegmentPlan.ofCapacity, h]
  rfl

omit [Quantity α] in
theorem exists_segments_of_units {source : TableCapacity} {units : UInt64}
    (h : source.units .read = some units) :
    ∃ total, request.segments source = .ok ⟨total, .capacity⟩ := by
  rw [segments, SegmentPlan.ofCapacity, h]
  exact ⟨_, rfl⟩

end JobRequest

/-! ## Exact rates -/

namespace Pace

/-- The limit of a rate. It refills at least every thousand seconds, at a time that is a duration,
and may be spent one second ahead. -/
structure IsLimit (pace : Pace Rat) (rate : Rat) : Prop where
  rate_eq : pace.rate = max rate (1 / 1000)
  burst_eq : pace.burst = Quantity.ceilUpTo (Word.greatest 32) pace.rate
  burst_pos : 1 ≤ pace.burst
  burst_le : pace.burst ≤ Word.greatest 32
  period_eq : ∃ period, Duration.ofQuantity (1 / pace.rate) = .ok period ∧
    pace.period = max period 1

/-- The time in which the limit of a rate refills is never too long for a duration. -/
theorem exists_period {rate : Rat} (hrate : 1 / 1000 ≤ rate) :
    ∃ period, Duration.ofQuantity (1 / rate) = .ok period := by
  have hpos : 0 < rate := lt_of_lt_of_le (by norm_num) hrate
  have hle : 1 / rate ≤ 1000 := by
    rw [div_le_iff₀ hpos]
    linarith
  exact ⟨_, Duration.ofQuantity_eq_ok (one_div_nonneg.2 hpos.le) (hle.trans_lt (by decide))⟩

/-- Every positive rate has its limit. -/
theorem exists_isLimit {rate : Rat} (hpos : 0 < rate) :
    ∃ pace, ofRate (some rate) = some pace ∧ pace.IsLimit rate := by
  obtain ⟨period, hperiod⟩ := exists_period (le_max_right rate (1 / 1000))
  have hburst : 1 ≤ Quantity.ceilUpTo (Word.greatest 32) (max rate (1 / 1000)) :=
    Quantity.ceilUpTo_pos (by decide) (lt_max_of_lt_left hpos)
  have hpositive : (some rate).filter (fun r => (Quantity.positive? r).isSome) = some rate := by
    refine Option.filter_some_pos ?_
    rw [Quantity.positive?_eq_some_iff.2 ⟨rfl, hpos⟩, Option.isSome_some]
  have hrate : Quantity.greatest rate (Quantity.ofRat (1 / 1000)) = max rate (1 / 1000) :=
    Quantity.greatest_eq_max _ _
  -- A burst of at least one permit is never raised to one.
  have hvalue : ((Quantity.value? (max rate (1 / 1000))).elim 1 fun q =>
      max (Quantity.ceilUpTo (Word.greatest 32) q) 1) =
        Quantity.ceilUpTo (Word.greatest 32) (max rate (1 / 1000)) := max_eq_left hburst
  refine ⟨⟨max rate (1 / 1000), Quantity.ceilUpTo (Word.greatest 32) (max rate (1 / 1000)),
    max period 1⟩, ?_, rfl, rfl, hburst, Quantity.ceilUpTo_le _ _, _, hperiod, rfl⟩
  rw [ofRate, hpositive]
  simp only [hrate, hvalue, Quantity.one_div, hperiod]

end Pace

/-! ## Both sides of a job -/

variable {α : Type} [Quantity α]

namespace CopyConfig

/-- A rate of a side with its exact value: the fixed rate, which is finite, or the units of the
side's own table times its own ratio, where the value of the product is not rounded. -/
structure IsRate (config : CopyConfig α) (table : TableDescription) (direction : Direction)
    (rate : α) (value : Rat) : Prop where
  pos : 0 < value
  fixed : ∀ r, config.rate = some r → rate = r ∧ Quantity.value? r = some value
  share : config.rate = none → ∃ (units : Nat) (ratio : Rat),
    table.reported direction = some (units : Int) ∧
      Quantity.value? (config.ratio direction) = some ratio ∧
      rate = Quantity.mul (Quantity.ofNat units) (config.ratio direction) ∧
      value = units * ratio ∧ value ≤ units
  /-- A limiter is made for it. -/
  limit : ∃ pace, (Pacer.ofRate (some value)).pace = some pace ∧ pace.IsLimit value

/-- What becomes of a side of a copy: it runs without a limit only if no rate is set and its table
has no units to share. -/
structure Paces (config : CopyConfig α) (table : TableDescription) (direction : Direction)
    (rate : Option α) : Prop where
  eq_none_iff : rate = none ↔ config.rate = none ∧ table.IsUnprovisioned direction
  isRate : ∀ r, rate = some r → ∃ value, config.IsRate table direction r value

variable {config : CopyConfig α} {table : TableDescription} {direction : Direction}

theorem HasBudget.exists_fixed (h : config.HasBudget) {rate : α} (hrate : config.rate = some rate) :
    ∃ q, Quantity.value? rate = some q ∧ 0 < q := by
  rw [HasBudget, hrate] at h
  obtain ⟨q, hq⟩ := h
  exact ⟨q, Quantity.positive?_eq_some_iff.1 hq⟩

theorem HasBudget.exists_ratio (h : config.HasBudget) (hrate : config.rate = none)
    (direction : Direction) :
    ∃ q, Quantity.value? (config.ratio direction) = some q ∧ 0 < q ∧ q ≤ 1 := by
  rw [HasBudget, hrate] at h
  obtain ⟨q, hq, hle⟩ := h direction
  obtain ⟨hvalue, hpos⟩ := Quantity.positive?_eq_some_iff.1 hq
  exact ⟨q, hvalue, hpos, hle⟩

theorem isRate_of_fixed {rate : α} {q : Rat} (hrate : config.rate = some rate)
    (hvalue : Quantity.value? rate = some q) (hpos : 0 < q) :
    config.IsRate table direction rate q where
  pos := hpos
  fixed other hother := by
    obtain rfl := Option.some.inj (hrate.symm.trans hother)
    exact ⟨rfl, hvalue⟩
  share hnone := by simp [hrate] at hnone
  limit := Pace.exists_isLimit hpos

theorem isRate_of_ratio {units : Nat} {q : Rat} (hrate : config.rate = none)
    (hreported : table.reported direction = some (units : Int)) (hunits : 0 < units)
    (hvalue : Quantity.value? (config.ratio direction) = some q) (hpos : 0 < q) (hle : q ≤ 1) :
    config.IsRate table direction
      (Quantity.mul (Quantity.ofNat units) (config.ratio direction)) (units * q) := by
  have hcast : (0 : Rat) < units := Nat.cast_pos.2 hunits
  have hshare : 0 < units * q := mul_pos hcast hpos
  refine ⟨hshare, by simp [hrate], fun _ => ?_, Pace.exists_isLimit hshare⟩
  exact ⟨units, q, hreported, hvalue, rfl, rfl, mul_le_of_le_one_right hcast.le hle⟩

theorem paces_some {rate : α} {value : Rat} (hrate : config.IsRate table direction rate value)
    (hprovided : ¬(config.rate = none ∧ table.IsUnprovisioned direction)) :
    config.Paces table direction (some rate) := by
  refine ⟨iff_of_false (Option.some_ne_none rate) hprovided, ?_⟩
  intro other hother
  obtain rfl := Option.some.inj hother
  exact ⟨value, hrate⟩

end CopyConfig

namespace JobRequest

variable (request : JobRequest α) {table : TableDescription}

/-- A side is planned with a rate that paces it. -/
theorem exists_paces (hbudget : request.config.HasBudget) (name : String)
    (hwords : table.HasWords) (direction : Direction) :
    ∃ rate, request.rate (.ofDescription name table) direction = .ok rate ∧
      request.config.Paces table direction rate := by
  refine ⟨_, request.rate_eq _ direction, ?_⟩
  cases hrate : request.config.rate with
  | some fixed =>
    obtain ⟨q, hvalue, hpos⟩ := hbudget.exists_fixed hrate
    exact CopyConfig.paces_some (CopyConfig.isRate_of_fixed hrate hvalue hpos) (by simp [hrate])
  | none =>
    rcases TableCapacity.units_cases name hwords direction with
      ⟨htable, hunits⟩ | ⟨htable, units, hunits, hpositive, hreported⟩
    · rw [hunits]
      exact ⟨iff_of_true rfl ⟨hrate, htable⟩, nofun⟩
    · rw [hunits]
      obtain ⟨q, hvalue, hpos, hle⟩ := hbudget.exists_ratio hrate direction
      exact CopyConfig.paces_some
        (CopyConfig.isRate_of_ratio hrate hreported hpositive hvalue hpos hle) fun h => htable h.2

omit [Quantity α] in
/-- The segments of a table are numbered without its capacity only if it has no read units. -/
theorem exists_segments (name : String) (hwords : table.HasWords) :
    ∃ segments, request.segments (.ofDescription name table) = .ok segments ∧
      (segments = .fallback ↔ table.IsUnprovisioned .read) ∧
      (segments.source = .fallback ↔ table.IsUnprovisioned .read) := by
  rcases TableCapacity.units_cases name hwords .read with
    ⟨htable, hunits⟩ | ⟨htable, units, hunits, -⟩
  · have hsegments := request.segments_of_units_eq_none hunits
    exact ⟨_, hsegments, iff_of_true rfl htable, iff_of_true rfl htable⟩
  · obtain ⟨total, hsegments⟩ := request.exists_segments_of_units hunits
    exact ⟨_, hsegments, iff_of_false (by simp [SegmentPlan.fallback]) htable,
      iff_of_false (by simp) htable⟩

/-- No side of a job that was accepted runs without a limit unless its table has no units to share,
and nothing else but that decides between the two ways to number the segments. Whatever the two
tables report, the job is paced: each side has the fixed rate, if one is set, or else a share of
its own table's units, which is positive and not more than all of them, and a limiter is made for
it. -/
theorem paces_both_sides {source destination : TableDescription}
    (hvalid : request.config.validate = .ok ()) (hsource : source.HasWords)
    (hdestination : destination.HasWords) (sourceName destinationName : String) :
    ∃ pacing, request.pacing (.ofDescription sourceName source)
        (.ofDescription destinationName destination) = .ok pacing ∧
      request.config.Paces source .read pacing.read ∧
      request.config.Paces destination .write pacing.write ∧
      (pacing.segments = .fallback ↔ source.IsUnprovisioned .read) ∧
      (pacing.segments.source = .fallback ↔ source.IsUnprovisioned .read) := by
  obtain ⟨-, -, hbudget, -⟩ := CopyConfig.validate_eq_ok_iff.1 hvalid
  obtain ⟨read, hread, hreads⟩ := request.exists_paces hbudget sourceName hsource .read
  obtain ⟨write, hwrite, hwrites⟩ :=
    request.exists_paces hbudget destinationName hdestination .write
  obtain ⟨segments, hsegments, hfallback, horigin⟩ := request.exists_segments sourceName hsource
  refine ⟨⟨segments, read, write⟩, ?_, hreads, hwrites, hfallback, horigin⟩
  rw [pacing, hsegments, hread, hwrite]

/-- A quarter of the units of a table is asked for. -/
def quarterRequest : JobRequest Rat where
  config := { CopyConfig.defaults with
    source := { table := "orders" }
    destination := { table := "archive" }
    readRatio := 1 / 4 }
  operational := .defaults 1

def ordersTable : TableDescription where
  readCapacityUnits := some 100
  writeCapacityUnits := some 40

/-- The description of that table. -/
def ordersAnswer : Json :=
  .object [("Table", .object [("ProvisionedThroughput",
    .object [("ReadCapacityUnits", .number "100"), ("WriteCapacityUnits", .number "40")])])]

/-- A table without a throughput block. -/
def archiveAnswer : Json := .object [("Table", .object [("TableName", .string "archive")])]

/-- A table with a hundred read units is read at a quarter of them, and one without a throughput
block is written without a limit. -/
theorem paces_both_sides_of_quarter : ∃ source destination pacing,
    Answer.description? ordersAnswer = some (some source) ∧
    Answer.description? archiveAnswer = some (some destination) ∧
    quarterRequest.pacing (.ofDescription "orders" source)
      (.ofDescription "archive" destination) = .ok pacing ∧
    pacing.read = some 25 ∧ pacing.write = none ∧ pacing.segments.source ≠ .fallback := by
  have hvalid : quarterRequest.config.validate = .ok () := by decide +kernel
  have horders : Answer.description? ordersAnswer = some (some ordersTable) := by decide +kernel
  have harchive : Answer.description? archiveAnswer = some (some {}) := by decide +kernel
  obtain ⟨pacing, hpacing, hread, hwrite, -, hsegments⟩ := quarterRequest.paces_both_sides hvalid
    (TableDescription.hasWords_of_read horders) (TableDescription.hasWords_of_read harchive)
    "orders" "archive"
  have hprovided : ¬ordersTable.IsUnprovisioned .read := by
    simp [TableDescription.IsUnprovisioned, TableDescription.reported, ordersTable]
  have harchived := TableDescription.isUnprovisioned_of_read harchive rfl rfl .write
  refine ⟨_, _, pacing, horders, harchive, hpacing, ?_, hwrite.eq_none_iff.2 ⟨rfl, harchived⟩,
    mt hsegments.1 hprovided⟩
  cases hrate : pacing.read with
  | none => exact absurd (hread.eq_none_iff.1 hrate).2 hprovided
  | some rate =>
    obtain ⟨value, hvalue⟩ := hread.isRate rate hrate
    obtain ⟨units, ratio, hreported, -, hshare, -⟩ := hvalue.share rfl
    obtain rfl : 100 = units := Int.ofNat_inj.1 (Option.some.inj hreported)
    rw [hshare]
    decide +kernel

end JobRequest

end TableCopy
