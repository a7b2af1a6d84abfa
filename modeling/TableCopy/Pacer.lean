import TableCopy.Duration

/-!
# Pacing

A pace is a rate of capacity units with a burst of one second's worth of them.
The limiter keeps one time, the theoretical arrival of the next permit: permits
are granted while that time is no further ahead than the burst allows, and each
grant moves it on by one period per permit. Amounts above the burst are charged
in steps of at most the burst.
-/

namespace TableCopy

structure Pace (α : Type) where
  rate : α
  /-- Permits that may be spent at once. -/
  burst : Nat
  /-- Nanoseconds in which one permit is refilled. -/
  period : Nat

namespace Pace

variable {α : Type} [Quantity α]

/-- The pace of a rate. Rates that are not positive numbers are not paced, and
rates below a thousandth are raised to it, which keeps the period in range. -/
def ofRate (rate : Option α) : Option (Pace α) :=
  match rate.filter fun r => (Quantity.positive? r).isSome with
  | none => none
  | some r =>
    let rate := Quantity.greatest r (Quantity.ofRat (1 / 1000))
    let burst :=
      (Quantity.value? rate).elim 1 fun q => max (Quantity.ceilUpTo (Word.greatest 32) q) 1
    let period :=
      match Duration.ofQuantity (Quantity.div (Quantity.ofNat 1) rate) with
      | .ok period => max period 1
      | .error _ => 1
    some ⟨rate, burst, period⟩

end Pace

/-- Permits charged for a consumed capacity: the units rounded up, and one for a
capacity that is not a positive number. -/
def permitsFor {α : Type} [Quantity α] (capacity : α) : Nat :=
  match Quantity.positive? capacity with
  | some q => Quantity.ceilUpTo (Word.greatest 64) q
  | none => 1

/-- The theoretical arrival time of the next permit; unset before the first use. -/
structure Limiter where
  arrival : Option Nat := none
  deriving DecidableEq, Repr

/-- The answer of a limiter to a request for permits. -/
inductive Grant
  | granted (next : Limiter)
  /-- Not before a later time. -/
  | notBefore (time : Nat)
  /-- More permits than the burst can ever hold. -/
  | insufficient
  deriving DecidableEq, Repr

namespace Limiter

variable {α : Type}

/-- Ask for `permits` at time `now`. A limiter not used before counts from now. -/
def request (limiter : Limiter) (pace : Pace α) (now permits : Nat) : Grant :=
  if pace.burst < permits then .insufficient
  else
    let arrival := limiter.arrival.getD (now + pace.period)
    let earliest := arrival + pace.period * (permits - 1) - pace.period * pace.burst
    if now < earliest then .notBefore earliest
    else .granted ⟨some (max arrival now + pace.period * permits)⟩

end Limiter

/-- A pace, if there is one, with its limiter. -/
structure Pacer (α : Type) where
  pace : Option (Pace α)
  limiter : Limiter := {}

/-- What became of a step of charging permits. -/
inductive Charge (α : Type)
  /-- Some permits were granted; so many remain. -/
  | granted (pacer : Pacer α) (remaining : Nat)
  /-- Not before a later time. -/
  | notBefore (time : Nat)

namespace Pacer

variable {α : Type} [Quantity α]

def ofRate (rate : Option α) : Pacer α := { pace := Pace.ofRate rate }

/-- Permits to be charged for a consumed capacity; none without a pace. -/
def permits (pacer : Pacer α) (capacity : α) : Nat :=
  if pacer.pace.isSome then permitsFor capacity else 0

/-- Charge one step of the remaining permits, at most the burst. -/
def charge (pacer : Pacer α) (now remaining : Nat) : Charge α :=
  match pacer.pace with
  | none => .granted pacer 0
  | some pace =>
    let step := min remaining pace.burst
    match pacer.limiter.request pace now step with
    | .granted next => .granted { pacer with limiter := next } (remaining - step)
    | .notBefore time => .notBefore time
    | .insufficient => .granted pacer 0

/-- Charge permits without letting time pass, as long as steps are granted. Gives
the permits that remain. -/
def chargeNow (pacer : Pacer α) (now : Nat) : (fuel remaining : Nat) → Pacer α × Nat
  | 0, remaining => (pacer, remaining)
  | fuel + 1, remaining =>
    if remaining = 0 then (pacer, 0)
    else
      match pacer.charge now remaining with
      | .granted next remaining => next.chargeNow now fuel remaining
      | .notBefore _ => (pacer, remaining)

/-- Charge permits and wait wherever a step has to. Gives the time of the last step. -/
def chargeWaiting (pacer : Pacer α) : (fuel now remaining : Nat) → Pacer α × Nat
  | 0, now, _ => (pacer, now)
  | fuel + 1, now, remaining =>
    if remaining = 0 then (pacer, now)
    else
      match pacer.charge now remaining with
      | .granted next remaining => next.chargeWaiting fuel now remaining
      | .notBefore time => pacer.chargeWaiting fuel time remaining

/-- The number of steps in which permits are charged. -/
def stepCount (pacer : Pacer α) (permits : Nat) : Nat :=
  match pacer.pace with
  | some pace => permits / pace.burst + 1
  | none => 1

/-- Charge a capacity without letting time pass, and tell whether all of it was
granted. Steps granted before the one that would have to wait stay charged. -/
def tryAcquire (pacer : Pacer α) (now : Nat) (capacity : α) : Pacer α × Bool :=
  let permits := pacer.permits capacity
  let (next, remaining) := pacer.chargeNow now (pacer.stepCount permits) permits
  (next, remaining = 0)

/-- Charge a capacity, and tell when all of it is granted. Every step waits at most
once. -/
def acquire (pacer : Pacer α) (now : Nat) (capacity : α) : Pacer α × Nat :=
  let permits := pacer.permits capacity
  pacer.chargeWaiting (2 * pacer.stepCount permits) now permits

end Pacer
end TableCopy
