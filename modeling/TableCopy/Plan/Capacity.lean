import TableCopy.Config.Copy

/-!
# Capacity planning

A table's provisioned capacity and size decide how many segments its scan is
split into and at which rates the two sides may run. Capacities are 64-bit
words and segment counts 32-bit words, as the service reports and takes them.
-/

namespace TableCopy

/-- What one job knows of a table. Absent units mean a table without fixed
capacity, which is distinct from zero units. -/
structure TableCapacity where
  table : String
  readUnits : Option UInt64 := none
  writeUnits : Option UInt64 := none
  sizeBytes : Option UInt64 := none
  deriving DecidableEq, Repr

/-- The units of a direction, when the table has any. -/
def TableCapacity.units (capacity : TableCapacity) (direction : Direction) : Option UInt64 :=
  (match direction with
  | .read => capacity.readUnits
  | .write => capacity.writeUnits).filter fun units => 0 < units

structure PlanningConfig where
  /-- Read units that one segment is expected to consume. -/
  readUnitsPerSegment : UInt64 := 100
  /-- Bytes that one segment is expected to cover; two gigabytes by default. -/
  bytesPerSegment : UInt64 := 2147483648
  /-- Most segments that are planned from a capacity. -/
  maxSegments : UInt32 := 256
  deriving DecidableEq, Repr, Inhabited

/-- How a segment count was found. -/
inductive SegmentSource
  | capacity
  | fallback
  deriving DecidableEq, Repr

/-- The number of parallel partitions of a whole table. -/
structure SegmentPlan where
  totalSegments : UInt32
  source : SegmentSource
  deriving DecidableEq, Repr

/-- The plan for a table of unknown read capacity. -/
def SegmentPlan.fallback : SegmentPlan := ⟨10, .fallback⟩

/-- Quotient of two words, rounded up. -/
def divCeil (a b : UInt64) : UInt64 :=
  if a % b = 0 then a / b else a / b + 1

/-- Derive the segment count: one segment for each portion of the read units and
for each portion of the bytes, whichever asks for more, at least one and at most
the configured number. -/
def SegmentPlan.ofCapacity (capacity : TableCapacity) (config : PlanningConfig) :
    Except CopyError SegmentPlan :=
  match capacity.units .read with
  | none => .error (.missingCapacity capacity.table .read)
  | some units =>
    let forUnits := divCeil units (max config.readUnitsPerSegment 1)
    let forSize :=
      match capacity.sizeBytes with
      | some bytes => divCeil bytes (max config.bytesPerSegment 1)
      | none => 0
    let most := (max config.maxSegments 1).toUInt64
    .ok ⟨(min (max (max forUnits forSize) 1) most).toUInt32, .capacity⟩

/-- How much of a table's capacity a job may consume. -/
inductive ThroughputBudget (α : Type)
  /-- A fraction of the provisioned units. -/
  | ratio (fraction : α)
  /-- Units per second, whatever the table provides. -/
  | fixed (rate : α)

variable {α : Type}

/-- The budget of one direction: the fixed rate if there is one, else the ratio of
that direction. -/
def CopyConfig.budget (config : CopyConfig α) (direction : Direction) : ThroughputBudget α :=
  match config.rate, direction with
  | some rate, _ => .fixed rate
  | none, .read => .ratio config.readRatio
  | none, .write => .ratio config.writeRatio

/-- The rate of one direction. A ratio scales the units of the table, and fails
when the table has none. -/
def ThroughputBudget.rate [Quantity α] (budget : ThroughputBudget α) (capacity : TableCapacity)
    (direction : Direction) : Except CopyError α :=
  match budget with
  | .fixed rate => .ok rate
  | .ratio fraction =>
    match capacity.units direction with
    | some units => .ok (Quantity.mul (Quantity.ofNat units.toNat) fraction)
    | none => .error (.missingCapacity capacity.table direction)

theorem budget_of_rate {config : CopyConfig α} {rate : α} (h : config.rate = some rate)
    (direction : Direction) : config.budget direction = .fixed rate := by
  simp [CopyConfig.budget, h]

end TableCopy
