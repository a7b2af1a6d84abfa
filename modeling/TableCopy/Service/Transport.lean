import TableCopy.Client.Context
import TableCopy.Job.Perform
import TableCopy.Service.Exchange

/-!
# Talking to the service

A transport answers the requests of either side. Over it stand the three
operations of a copy, the world of a pipeline and the backend of a job. A request
that cannot be built is not sent.
-/

namespace TableCopy

structure Transport where
  send : Side → ServiceRequest → Reply
  /-- The region that the requests of a side are made for, if one is set. -/
  region : Side → Option String := fun _ => none

namespace Transport

/-- A transport on which every request gets lost. -/
def unreachable : Transport := { send := fun _ _ => .lost }

/-- The transport with the regions that the endpoints of a copy name. -/
def forCopy {α : Type} (transport : Transport) (config : CopyConfig α) : Transport :=
  { transport with
    region := fun side =>
      (ClientContext.ofEndpoint side (config.table side) .defaultChain 0).region }

/-- Whether a request of a side can be built: it names its table, and the region
may stand in the name of a host. -/
def builds (transport : Transport) (side : Side) (request : ServiceRequest) : Bool :=
  request.namesTable && (transport.region side).all Endpoint.isRegion

/-- Send a request and read the answer. -/
def call {β : Type} (transport : Transport) (side : Side) (request : ServiceRequest)
    (reader : Json → Option β) : Except RequestFailure β :=
  if transport.builds side request then (transport.send side request).read reader
  else .error .construction

/-- The capacity of a table. Whatever goes wrong is a fault of the metadata. -/
def describeTable (transport : Transport) (side : Side) (table : String) :
    Except CopyError TableCapacity :=
  match transport.call side (.describeTable table) Answer.description? with
  | .error failure =>
    .error (.metadata ("describe table '" ++ table ++ "': " ++ failure.cause))
  | .ok none => .error (.metadata ("table '" ++ table ++ "' has no description"))
  | .ok (some description) => .ok (.ofDescription table description)

def scanPage (transport : Transport) (request : PageRequest Item) :
    Except CopyError (Page Float Item) :=
  (transport.call .source (.scan request) Answer.page?).mapError fun failure =>
    failure.toError ("scan " ++ request.table ++ " segment " ++ toString request.segment)
      failure.cause

def writeBatch (transport : Transport) (table : String) (items : List Item) :
    Except CopyError (BatchOutcome Float Item) :=
  (transport.call .destination (.batchWrite table items) (Answer.batch? table)).mapError
    fun failure => failure.toError ("batch write " ++ table) failure.cause

/-- The world of a pipeline between the two sides. -/
def world (transport : Transport) : World Unit Float Item where
  scan _ request := ((), ⟨.returned (transport.scanPage request), false⟩)
  write _ table items := ((), ⟨.returned (transport.writeBatch table items), false⟩)
  consume _ _ _ := ((), ⟨.returned (.ok ()), false⟩)
  finish _ := ((), ⟨.returned (.ok ()), false⟩)
  holds _ := false

/-- The state before a copy, with the connection slots of both clients. -/
def start (delegation : Delegation Float) (maxConnections : Nat) (interrupted : Bool) :
    State Float Item :=
  { State.initial delegation.setup delegation.readPool delegation.writePool with
    interrupted
    readSlots := .ofLimit maxConnections
    writeSlots := .ofLimit maxConnections }

/-- The backend of a job whose two clients use this transport. Making the clients
crashes if they cannot have as many slots as asked for. -/
def backend (transport : Transport) (fuel maxConnections : Nat) (interrupted : Bool) :
    Backend Float where
  connect _ _ :=
    if Connections.isFeasible maxConnections then .returned (.ok ())
    else .crashed (some Connections.excess)
  describe := transport.describeTable
  pipe delegation :=
    World.endingOf (transport.world.runJob delegation.setup fuel ()
      (start delegation maxConnections interrupted)).2

end Transport
end TableCopy
