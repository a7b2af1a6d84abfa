import TableCopy.Config.Copy
import TableCopy.Duration

/-!
# Retrying a request

A request that fails with a retryable error is sent again after a delay, as often
as the policy allows. Delays grow by a factor from an initial delay up to a
greatest one; a jitter taken from the golden ratio spreads the attempts without
randomness. `onFailure` is the decision after one failed attempt, and `run` applies
it to a whole sequence of outcomes.
-/

namespace TableCopy

structure RetryConfig (α : Type) where
  maxRetries : Nat
  /-- Nanoseconds before the first retry. -/
  initialDelay : Nat
  /-- Nanoseconds at which the growth stops. -/
  maxDelay : Nat
  multiplier : α
  /-- Greatest fraction of a delay that is added to it. -/
  jitter : α

namespace RetryConfig

variable {α : Type} [Quantity α]

def defaults : RetryConfig α where
  maxRetries := 3
  initialDelay := Duration.ofMillis 100
  maxDelay := Duration.ofSeconds 30
  multiplier := Quantity.ofNat 2
  jitter := Quantity.ofRat (1 / 10)

def noRetry : RetryConfig α := { defaults with maxRetries := 0 }

def forBatchWrite : RetryConfig α where
  maxRetries := 10
  initialDelay := Duration.ofMillis 50
  maxDelay := Duration.ofSeconds 10
  multiplier := Quantity.ofNat 2
  jitter := Quantity.ofRat (1 / 4)

def forScan : RetryConfig α where
  maxRetries := 5
  initialDelay := Duration.ofMillis 100
  maxDelay := Duration.ofSeconds 10
  multiplier := Quantity.ofNat 2
  jitter := Quantity.ofRat (3 / 20)

/-- The growing part of the delay, capped by the greatest delay. Attempts are
counted in a signed 32-bit word. -/
def cappedDelay (config : RetryConfig α) (attempt : Nat) : α :=
  let growth := Quantity.power config.multiplier (Word.wrapSigned 32 attempt)
  Quantity.least (Quantity.mul (Duration.seconds config.initialDelay) growth)
    (Duration.seconds config.maxDelay)

/-- The part of the jitter range used by an attempt: the multiples of the golden
ratio, without their whole parts. -/
def jitterPoint (attempt : Nat) : α :=
  Quantity.fraction
    (Quantity.mul (Quantity.ofNat attempt) (Quantity.ofRat (618033988749895 / 1000000000000000)))

/-- Nanoseconds to wait after a failed attempt, counted from zero. -/
def delay (config : RetryConfig α) (attempt : Nat) : Except Duration.Fault Nat :=
  let capped := config.cappedDelay attempt
  let added :=
    if Quantity.isPositive config.jitter then
      Quantity.mul (Quantity.mul capped config.jitter) (jitterPoint attempt)
    else Quantity.ofNat 0
  Duration.ofQuantity (Quantity.add capped added)

/-- What to do after a failed attempt. -/
inductive Verdict
  | giveUp
  | again (delay : Except Duration.Fault Nat)

/-- An attempt is repeated if its error is retryable and retries are left. -/
def onFailure (config : RetryConfig α) (attempt : Nat) (e : CopyError) : Verdict :=
  if e.isRetryable ∧ attempt < config.maxRetries then .again (config.delay attempt)
  else .giveUp

/-- What a loop of attempts does. -/
inductive Step
  | call (attempt : Nat)
  /-- Sleep for so many nanoseconds. -/
  | sleep (delay : Nat)
  /-- Leave the loop after its last round without a result. -/
  | leave
  deriving DecidableEq, Repr

/-- How a sequence of attempts went. -/
structure Run (β : Type) where
  /-- What was done, in order. -/
  steps : List Step
  /-- The last outcome, or the fault of a delay that cannot be represented. -/
  result : Except Duration.Fault (Except CopyError β)

/-- The number of calls of a run. -/
def Run.calls {β : Type} (run : Run β) : Nat :=
  run.steps.countP fun
    | .call _ => true
    | _ => false

/-- The delays slept in a run, in order. -/
def Run.delays {β : Type} (run : Run β) : List Nat :=
  run.steps.filterMap fun
    | .sleep delay => some delay
    | _ => none

/-- The error of a loop that ends without a result and has met no error. -/
def inconclusive (operation : String) : CopyError :=
  .unexpected (operation ++ ": retry loop exited without result")

/-- The rounds of the loop from number `attempt` on, of which `left` are left, with the
outcomes of all attempts given and the error that the round before has met. -/
def runFrom {β : Type} (config : RetryConfig α) (outcome : Nat → Except CopyError β)
    (operation : String) : (left attempt : Nat) → (last : Option CopyError) → Run β
  | 0, _, last => ⟨[.leave], .ok (.error (last.getD (inconclusive operation)))⟩
  | left + 1, attempt, _ =>
    match outcome attempt with
    | .ok value => ⟨[.call attempt], .ok (.ok value)⟩
    | .error e =>
      match config.onFailure attempt e with
      | .giveUp => ⟨[.call attempt], .ok (.error e)⟩
      | .again (.error fault) => ⟨[.call attempt], .error fault⟩
      | .again (.ok delay) =>
        let rest := runFrom config outcome operation left (attempt + 1) (some e)
        ⟨.call attempt :: .sleep delay :: rest.steps, rest.result⟩

/-- Attempt until an outcome is final. There is a round for the first attempt and one for
each retry that is allowed. -/
def run {β : Type} (config : RetryConfig α) (outcome : Nat → Except CopyError β)
    (operation : String := "operation") : Run β :=
  config.runFrom outcome operation (config.maxRetries + 1) 0 none

/-- The times of the calls of a run that starts at `start`. -/
def callTimes (start : Nat) : List Nat → List Nat
  | [] => [start]
  | delay :: delays => start :: callTimes (Duration.wakeTime start delay) delays

theorem onFailure_of_fatal (config : RetryConfig α) (attempt : Nat) {e : CopyError}
    (h : e.isRetryable = false) : config.onFailure attempt e = .giveUp := by
  simp [onFailure, h]

end RetryConfig
end TableCopy
