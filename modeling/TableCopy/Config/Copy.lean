import TableCopy.Error
import TableCopy.Number.Quantity

/-!
# Parameters of one copy

The two tables, how much of their capacity may be consumed, and which section
of the segment space this process takes. `validate` checks names, ratios, rate
and thread count; profiles and sections are checked in phases of their own.
-/

namespace TableCopy

/-- One table and how to reach it. -/
structure TableEndpoint where
  endpoint : Option String := none
  table : String := ""
  profile : Option String := none
  deriving DecidableEq, Repr, Inhabited

structure CopyConfig (α : Type) where
  source : TableEndpoint
  destination : TableEndpoint
  /-- Fraction of the source read capacity to consume. -/
  readRatio : α
  /-- Fraction of the destination write capacity to consume. -/
  writeRatio : α
  /-- Fixed rate for both sides; the ratios do not matter when it is set. -/
  rate : Option α
  maxWriteThreads : Nat
  consistentScan : Bool
  /-- Each side takes its credentials from its own named profile. -/
  crossAccount : Bool
  sectionIndex : Int
  totalSections : Int

/-- The table of one side. -/
def CopyConfig.table {α : Type} (config : CopyConfig α) : Side → TableEndpoint
  | .source => config.source
  | .destination => config.destination

namespace CopyConfig

variable {α : Type} [Quantity α]

/-- Half of the capacity of both tables, in one process. -/
def defaults : CopyConfig α where
  source := {}
  destination := {}
  readRatio := Quantity.ofRat (1 / 2)
  writeRatio := Quantity.ofRat (1 / 2)
  rate := none
  maxWriteThreads := 64
  consistentScan := false
  crossAccount := false
  sectionIndex := 0
  totalSections := 1

instance : Inhabited (CopyConfig α) := ⟨defaults⟩

/-- Whether a quantity is a fraction of a capacity: above zero, at most one. -/
def isRatio (x : α) : Bool :=
  match Quantity.positive? x with
  | some q => q ≤ 1
  | none => false

def checkRatio (name : String) (ratio : α) : Except CopyError Unit :=
  if isRatio ratio then .ok ()
  else .error (.invalidParameter
    (name ++ " must be within (0, 1], got " ++ Quantity.text ratio))

/-- A fixed rate must be positive; without one both ratios must be fractions. -/
def checkBudget (config : CopyConfig α) : Except CopyError Unit :=
  match config.rate with
  | some rate =>
    if (Quantity.positive? rate).isSome then .ok ()
    else .error (.invalidParameter
      ("throughput rate must be positive, got " ++ Quantity.text rate))
  | none => do
    checkRatio "read throughput ratio" config.readRatio
    checkRatio "write throughput ratio" config.writeRatio

/-- Check the parameters; the first fault decides the error. -/
def validate (config : CopyConfig α) : Except CopyError Unit :=
  if config.source.table = "" then
    .error (.invalidParameter "source table name is required")
  else if config.destination.table = "" then
    .error (.invalidParameter "destination table name is required")
  else
    match config.checkBudget with
    | .error e => .error e
    | .ok () =>
      if config.maxWriteThreads = 0 then
        .error (.invalidParameter "max write threads must be at least 1")
      else .ok ()

end CopyConfig
end TableCopy
