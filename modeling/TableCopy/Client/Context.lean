import TableCopy.Client.Endpoint
import TableCopy.Config.Copy
import TableCopy.Config.Operational

/-!
# Client contexts

Everything needed to build the client of one side. Nothing is contacted here:
a missing profile fails before any client exists, the source side first.
-/

namespace TableCopy

/-- Where the credentials of a client come from. -/
inductive Credentials
  /-- The environment, shared configuration or the machine's own role. -/
  | defaultChain
  | profile (name : String)
  deriving DecidableEq, Repr

structure ClientContext where
  side : Side
  endpoint : Option String
  region : Option String
  credentials : Credentials
  maxConnections : Nat
  deriving DecidableEq, Repr

namespace ClientContext

/-- The context of one side. A blank endpoint counts as none. -/
def ofEndpoint (side : Side) (table : TableEndpoint) (credentials : Credentials)
    (maxConnections : Nat) : ClientContext :=
  let endpoint := (table.endpoint.filter fun e => Text.trim e != "").map Endpoint.normalize
  { side
    endpoint
    region := endpoint.bind Endpoint.region?
    credentials
    maxConnections }

/-- The named profile that a side must have when each side uses its own. -/
def requiredProfile (side : Side) (table : TableEndpoint) : Except CopyError Credentials :=
  match (table.profile.map Text.trim).filter fun name => name != "" with
  | some name => .ok (.profile name)
  | none =>
    .error (.configuration side ("cross-account mode requires a " ++ side.name ++ " profile"))

/-- The contexts of the source and the destination. -/
def resolve {α : Type} (config : CopyConfig α) (operational : OperationalConfig) :
    Except CopyError (ClientContext × ClientContext) := do
  let (source, destination) ←
    if config.crossAccount then do
      let source ← requiredProfile .source config.source
      let destination ← requiredProfile .destination config.destination
      pure (source, destination)
    else pure (.defaultChain, .defaultChain)
  return (ofEndpoint .source config.source source operational.maxConnections,
    ofEndpoint .destination config.destination destination operational.maxConnections)

end ClientContext
end TableCopy
