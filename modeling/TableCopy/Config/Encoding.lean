import TableCopy.Config.Copy
import TableCopy.Config.Operational
import TableCopy.Json.Record
import TableCopy.Plan.Section

/-!
# Configurations and plans as JSON

Writers take the way in which numbers with a fraction are written as a
parameter. Readers accept every record that the writers produce.
-/

namespace TableCopy

namespace TableEndpoint

def toJson (t : TableEndpoint) : Json :=
  .object [("endpoint", .ofOption .string t.endpoint), ("table", .string t.table),
    ("profile", .ofOption .string t.profile)]

def ofJson? (value : Json) : Option TableEndpoint := do
  let [endpoint, table, profile] ← value.fields? ["endpoint", "table", "profile"] | none
  return {
    endpoint := ← Json.optional Json.string? endpoint
    table := ← Json.required Json.string? table
    profile := ← Json.optional Json.string? profile }

end TableEndpoint

namespace CopyConfig

def toJson (number : Float → Json) (c : CopyConfig Float) : Json :=
  .object [
    ("source", c.source.toJson),
    ("destination", c.destination.toJson),
    ("read_throughput_ratio", number c.readRatio),
    ("write_throughput_ratio", number c.writeRatio),
    ("throughput_rate", .ofOption number c.rate),
    ("max_write_threads", .ofNat c.maxWriteThreads),
    ("consistent_scan", .bool c.consistentScan),
    ("cross_account", .bool c.crossAccount),
    ("section", .ofInt c.sectionIndex),
    ("total_sections", .ofInt c.totalSections)]

def ofJson? (value : Json) : Option (CopyConfig Float) := do
  let [source, destination, readRatio, writeRatio, rate, threads, consistent, cross, index,
      sections] ← value.fields? ["source", "destination", "read_throughput_ratio",
      "write_throughput_ratio", "throughput_rate", "max_write_threads", "consistent_scan",
      "cross_account", "section", "total_sections"] | none
  return {
    source := ← Json.required TableEndpoint.ofJson? source
    destination := ← Json.required TableEndpoint.ofJson? destination
    readRatio := ← Json.required Json.float? readRatio
    writeRatio := ← Json.required Json.float? writeRatio
    rate := ← Json.optional Json.float? rate
    maxWriteThreads := ← Json.required (Json.word? 64) threads
    consistentScan := ← Json.required Json.bool? consistent
    crossAccount := ← Json.required Json.bool? cross
    sectionIndex := ← Json.required (Json.signedWord? 64) index
    totalSections := ← Json.required (Json.signedWord? 64) sections }

end CopyConfig

namespace OperationalConfig

def toJson (c : OperationalConfig) : Json :=
  .object [
    ("max_connections", .ofNat c.maxConnections),
    ("executor_core_pool_size", .ofNat c.corePoolSize),
    ("executor_keep_alive_ms", .ofNat c.keepAliveMillis),
    ("batch_write_size", .ofNat c.batchWriteSize),
    ("scan_page_limit", .ofOption .ofInt c.scanPageLimit)]

def ofJson? (value : Json) : Option OperationalConfig := do
  let [connections, core, keepAlive, batch, limit] ← value.fields? ["max_connections",
    "executor_core_pool_size", "executor_keep_alive_ms", "batch_write_size",
    "scan_page_limit"] | none
  return {
    maxConnections := ← Json.required (Json.word? 64) connections
    corePoolSize := ← Json.required (Json.word? 64) core
    keepAliveMillis := ← Json.required (Json.word? 64) keepAlive
    batchWriteSize := ← Json.required (Json.word? 64) batch
    scanPageLimit := ← Json.optional (Json.signedWord? 32) limit }

end OperationalConfig

namespace PlanningConfig

def toJson (c : PlanningConfig) : Json :=
  .object [
    ("read_units_per_segment", .ofNat c.readUnitsPerSegment.toNat),
    ("bytes_per_segment", .ofNat c.bytesPerSegment.toNat),
    ("max_segments", .ofNat c.maxSegments.toNat)]

def ofJson? (value : Json) : Option PlanningConfig := do
  let [units, bytes, most] ← value.fields?
    ["read_units_per_segment", "bytes_per_segment", "max_segments"] | none
  return {
    readUnitsPerSegment := UInt64.ofNat (← Json.required (Json.word? 64) units)
    bytesPerSegment := UInt64.ofNat (← Json.required (Json.word? 64) bytes)
    maxSegments := UInt32.ofNat (← Json.required (Json.word? 32) most) }

end PlanningConfig

namespace TableCapacity

def toJson (c : TableCapacity) : Json :=
  .object [
    ("table", .string c.table),
    ("read_units", .ofOption (fun u => .ofNat u.toNat) c.readUnits),
    ("write_units", .ofOption (fun u => .ofNat u.toNat) c.writeUnits),
    ("size_bytes", .ofOption (fun u => .ofNat u.toNat) c.sizeBytes)]

def ofJson? (value : Json) : Option TableCapacity := do
  let [table, readUnits, writeUnits, sizeBytes] ← value.fields?
    ["table", "read_units", "write_units", "size_bytes"] | none
  return {
    table := ← Json.required Json.string? table
    readUnits := (← Json.optional (Json.word? 64) readUnits).map UInt64.ofNat
    writeUnits := (← Json.optional (Json.word? 64) writeUnits).map UInt64.ofNat
    sizeBytes := (← Json.optional (Json.word? 64) sizeBytes).map UInt64.ofNat }

end TableCapacity

namespace SegmentSource

def name : SegmentSource → String
  | .capacity => "Capacity"
  | .fallback => "Fallback"

def toJson (s : SegmentSource) : Json := .string s.name

def ofJson? (value : Json) : Option SegmentSource :=
  match value.variant? with
  | some "Capacity" => some .capacity
  | some "Fallback" => some .fallback
  | _ => none

end SegmentSource

namespace SegmentPlan

def toJson (p : SegmentPlan) : Json :=
  .object [("total_segments", .ofNat p.totalSegments.toNat), ("source", p.source.toJson)]

def ofJson? (value : Json) : Option SegmentPlan := do
  let [total, source] ← value.fields? ["total_segments", "source"] | none
  return {
    totalSegments := UInt32.ofNat (← Json.required (Json.word? 32) total)
    source := ← Json.required SegmentSource.ofJson? source }

end SegmentPlan

namespace Section

def toJson (s : Section) : Json :=
  .object [("index", .ofNat s.index), ("total_sections", .ofNat s.totalSections)]

def ofJson? (value : Json) : Option Section := do
  let [index, sections] ← value.fields? ["index", "total_sections"] | none
  return {
    index := ← Json.required (Json.word? 32) index
    totalSections := ← Json.required (Json.word? 32) sections }

end Section

namespace ThroughputBudget

def toJson (number : Float → Json) : ThroughputBudget Float → Json
  | .ratio fraction => .object [("Ratio", number fraction)]
  | .fixed rate => .object [("Fixed", number rate)]

def ofJson? : Json → Option (ThroughputBudget Float)
  | .object [("Ratio", value)] => value.float?.map .ratio
  | .object [("Fixed", value)] => value.float?.map .fixed
  | _ => none

end ThroughputBudget

end TableCopy
