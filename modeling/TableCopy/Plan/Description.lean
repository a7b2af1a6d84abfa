import TableCopy.Plan.Capacity

/-!
# Capacity from a table description

A pay-per-request table reports zero provisioned units; both that and a missing
throughput block mean that the units are absent.
-/

namespace TableCopy

/-- What the service reports of a table. -/
structure TableDescription where
  /-- The billing mode, when the description has a summary that names one. -/
  billingMode : Option String := none
  readCapacityUnits : Option Int := none
  writeCapacityUnits : Option Int := none
  sizeBytes : Option Int := none
  deriving DecidableEq, Repr

def TableDescription.isOnDemand (d : TableDescription) : Bool :=
  d.billingMode = some "PAY_PER_REQUEST"

/-- Reported units, kept if they are positive and the table is not billed by request. -/
def TableDescription.provisioned (d : TableDescription) (units : Option Int) : Option UInt64 :=
  (units.filter fun u => 0 < u && !d.isOnDemand).map fun u => UInt64.ofNat u.toNat

/-- The capacity snapshot of a described table. -/
def TableCapacity.ofDescription (table : String) (d : TableDescription) : TableCapacity where
  table := table
  readUnits := d.provisioned d.readCapacityUnits
  writeUnits := d.provisioned d.writeCapacityUnits
  sizeBytes := (d.sizeBytes.filter fun bytes => 0 ≤ bytes).map fun bytes =>
    UInt64.ofNat bytes.toNat

end TableCopy
