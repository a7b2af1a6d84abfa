import TableCopy.Client.Failure
import TableCopy.Json.Parser
import TableCopy.Json.Record
import TableCopy.Pipeline.Job
import TableCopy.Plan.Description
import TableCopy.Service.Attribute
import TableCopy.Text.Blank

/-!
# Requests and answers of the service

Three operations are used: describing a table, scanning a page of a segment, and
writing a batch. A request is a JSON object, and so is an answer. A request about
one table has to name it. An answer with another status than success carries the
code of an error behind a `#`.
-/

namespace TableCopy

inductive ServiceRequest
  | describeTable (table : String)
  | scan (request : PageRequest Item)
  | batchWrite (table : String) (items : List Item)

namespace ServiceRequest

def operation : ServiceRequest → String
  | describeTable _ => "DescribeTable"
  | scan _ => "Scan"
  | batchWrite .. => "BatchWriteItem"

/-- Whether a request names its table. The tables of a batch are not looked at. -/
def namesTable : ServiceRequest → Bool
  | describeTable table => Text.trim table != ""
  | scan request => Text.trim request.table != ""
  | batchWrite .. => true

/-- A segment number as the signed 32-bit word that the service takes. -/
def signedWord (n : Nat) : Json := .ofInt (Word.wrapSigned 32 n)

def body : ServiceRequest → Json
  | describeTable table => .object [("TableName", .string table)]
  | scan r =>
    .object ([
      ("TableName", .string r.table),
      ("Segment", signedWord r.segment),
      ("TotalSegments", signedWord r.totalSegments),
      ("ConsistentRead", .bool r.consistentRead),
      ("ReturnConsumedCapacity", .string "TOTAL")]
      ++ (r.limit.map fun limit => ("Limit", Json.ofInt limit)).toList
      ++ (r.startKey.map fun key => ("ExclusiveStartKey", Item.toJson key)).toList)
  | batchWrite table items =>
    .object [
      ("RequestItems", .object [(table, .array (items.map fun item =>
        .object [("PutRequest", .object [("Item", Item.toJson item)])]))]),
      ("ReturnConsumedCapacity", .string "TOTAL")]

end ServiceRequest

/-- What comes back for a request. -/
inductive Reply
  | answered (status : Nat) (body : String)
  /-- The request or its answer got lost. -/
  | lost
  deriving DecidableEq, Repr

namespace Reply

/-- The code of an error: what follows the `#` of its type, or all of it. -/
def errorCode? (body : String) : Option String :=
  match ((Json.parse? body).bind (Json.get? "__type")).bind Json.string? with
  | none => none
  | some name =>
    match name.toList.dropWhile (· ≠ '#') with
    | _ :: code => some (String.ofList code)
    | [] => some name

/-- The object of a successful answer, or how the request failed. -/
def content : Reply → Except RequestFailure Json
  | lost => .error .dispatch
  | answered status body =>
    if 200 ≤ status ∧ status < 300 then
      match Json.parse? (if body = "" then "\x7b\x7d" else body) with
      | some (.object members) => .ok (.object members)
      | _ => .error .response
    else .error (.service (errorCode? body))

/-- Read a successful answer. -/
def read {β : Type} (reply : Reply) (reader : Json → Option β) : Except RequestFailure β :=
  match reply.content with
  | .error failure => .error failure
  | .ok value =>
    match reader value with
    | some result => .ok result
    | none => .error .response

end Reply

namespace Answer

/-- A member that may be missing, read if it is there. -/
def field? {β : Type} (name : String) (read : Json → Option β) (value : Json) :
    Option (Option β) :=
  Json.optional read (value.get? name)

/-- The description of a table, if the answer has one. -/
def description? (answer : Json) : Option (Option TableDescription) :=
  field? "Table" (fun table => do
    let summary ← field? "BillingModeSummary" some table
    let mode ← (summary.elim (some none) (field? "BillingMode" Json.string?))
    let throughput ← field? "ProvisionedThroughput" some table
    let read ← (throughput.elim (some none) (field? "ReadCapacityUnits" Json.int?))
    let write ← (throughput.elim (some none) (field? "WriteCapacityUnits" Json.int?))
    let size ← field? "TableSizeBytes" Json.int? table
    return {
      billingMode := mode
      readCapacityUnits := read
      writeCapacityUnits := write
      sizeBytes := size }) answer

/-- The units of a consumed capacity. -/
def units? (capacity : Json) : Option (Option Float) :=
  field? "CapacityUnits" Json.float? capacity

/-- A page. An empty key means that there is no further page. -/
def page? (answer : Json) : Option (Page Float Item) := do
  let items ← field? "Items" (Attribute.listOf? Item.ofJson?) answer
  let key ← field? "LastEvaluatedKey" Item.ofJson? answer
  let capacity ← field? "ConsumedCapacity" units? answer
  return {
    items := items.getD []
    nextKey := key.filter fun key => !key.isEmpty
    capacity := (capacity.getD none).getD 0 }

/-- The item of an unprocessed request, if it is a put request. -/
def unprocessed? (request : Json) : Option (Option Item) :=
  match field? "PutRequest" (fun put => (put.get? "Item").bind Item.ofJson?) request with
  | some item => some item
  | none => none

/-- The outcome of a batch for one table; consumed capacities are summed in order. -/
def batch? (table : String) (answer : Json) : Option (BatchOutcome Float Item) := do
  let unprocessed ← field? "UnprocessedItems"
    (field? table (Attribute.listOf? unprocessed?)) answer
  let capacities ← field? "ConsumedCapacity" (Attribute.listOf? units?) answer
  return {
    unprocessed := ((unprocessed.getD none).getD []).filterMap id
    capacity := (capacities.getD []).foldl (fun sum units => sum + units.getD 0) 0 }

end Answer
end TableCopy
