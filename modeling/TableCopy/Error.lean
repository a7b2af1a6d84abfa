/-!
# Errors of a copy

Each cause of failure is a constructor. A cause decides three things: the text
shown to the operator, the exit status of the process, and whether a request
that met it may be sent again. Context is added in front of a message and never
changes the cause; the two causes made of numbers and names take none.
-/

namespace TableCopy

/-- The two tables of a copy. -/
inductive Side
  | source
  | destination
  deriving DecidableEq, Repr

def Side.name : Side → String
  | .source => "source"
  | .destination => "destination"

/-- What a rate is consumed for. -/
inductive Direction
  | read
  | write
  deriving DecidableEq, Repr

def Direction.name : Direction → String
  | .read => "read"
  | .write => "write"

inductive CopyError
  /-- The credentials of one side cannot be resolved. -/
  | configuration (side : Side) (message : String)
  | invalidParameter (message : String)
  /-- A table reports no provisioned capacity for a direction. -/
  | missingCapacity (table : String) (direction : Direction)
  /-- A section that the segment count cannot serve. -/
  | sectionOutOfRange (index totalSections : Int) (totalSegments : Nat)
  | metadata (message : String)
  | throttled (message : String)
  | communication (message : String)
  | execution (message : String)
  | interrupted (message : String)
  | unexpected (message : String)
  deriving DecidableEq, Repr

namespace CopyError

/-- Whether the request that failed may be sent again. -/
def isRetryable : CopyError → Bool
  | throttled _ | communication _ => true
  | _ => false

/-- Whether planning goes on with a default instead of failing. -/
def isRecoverable : CopyError → Bool
  | missingCapacity .. => true
  | _ => false

/-- The exit status of a process that ends with this error. -/
def exitCode : CopyError → Nat
  | configuration .source _ => 99
  | configuration .destination _ => 98
  | invalidParameter _ => 2
  | sectionOutOfRange .. => 3
  | _ => 1

/-- The text shown for an error. -/
def message : CopyError → String
  | configuration side m => "Configuration error (" ++ side.name ++ "): " ++ m
  | invalidParameter m => "Invalid parameter: " ++ m
  | missingCapacity table direction =>
    "Missing capacity: table '" ++ table ++ "' has no provisioned " ++ direction.name ++
      " capacity"
  | sectionOutOfRange index sections segments =>
    "Section out of range: section " ++ toString index ++ " of " ++ toString sections ++
      " cannot be served by " ++ toString segments ++ " segments"
  | metadata m => "Metadata error: " ++ m
  | throttled m => "Throttled: " ++ m
  | communication m => "Communication error: " ++ m
  | execution m => "Execution error: " ++ m
  | interrupted m => "Interrupted: " ++ m
  | unexpected m => "Unexpected error: " ++ m

/-- Put a context in front of the message of an error. -/
def withContext (context : String) : CopyError → CopyError
  | configuration side m => configuration side (context ++ ": " ++ m)
  | invalidParameter m => invalidParameter (context ++ ": " ++ m)
  | metadata m => metadata (context ++ ": " ++ m)
  | throttled m => throttled (context ++ ": " ++ m)
  | communication m => communication (context ++ ": " ++ m)
  | execution m => execution (context ++ ": " ++ m)
  | interrupted m => interrupted (context ++ ": " ++ m)
  | unexpected m => unexpected (context ++ ": " ++ m)
  | missingCapacity table direction => missingCapacity table direction
  | sectionOutOfRange index sections segments => sectionOutOfRange index sections segments

@[simp] theorem exitCode_withContext (context : String) (e : CopyError) :
    (e.withContext context).exitCode = e.exitCode := by
  cases e with
  | configuration side m => cases side <;> rfl
  | _ => rfl

@[simp] theorem isRetryable_withContext (context : String) (e : CopyError) :
    (e.withContext context).isRetryable = e.isRetryable := by
  cases e <;> rfl

@[simp] theorem isRecoverable_withContext (context : String) (e : CopyError) :
    (e.withContext context).isRecoverable = e.isRecoverable := by
  cases e <;> rfl

/-- Add a context to a failed result. -/
def addContext {β : Type} (context : String) (result : Except CopyError β) :
    Except CopyError β :=
  result.mapError (withContext context)

/-- Add a context that is computed only for a failed result. -/
def addContextWith {m : Type → Type} [Monad m] {β : Type} (context : m String)
    (result : Except CopyError β) : m (Except CopyError β) :=
  match result with
  | .ok value => pure (.ok value)
  | .error e => do return .error (e.withContext (← context))

end CopyError
end TableCopy
