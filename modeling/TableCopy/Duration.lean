import TableCopy.Number.Quantity
import TableCopy.Number.Word

/-!
# Durations

A duration is a whole number of nanoseconds. Seconds given as a quantity become
a duration by rounding to the nearest nanosecond, a half to the even side; a
quantity that is negative or not below `2 ^ 64` seconds has no duration. Clocks
wake sleepers at whole milliseconds.
-/

namespace TableCopy

namespace Duration

def perMilli : Nat := 1000000

def perSecond : Nat := 1000000000

def ofMillis (ms : Nat) : Nat := ms * perMilli

def ofSeconds (s : Nat) : Nat := s * perSecond

def wholeSeconds (d : Nat) : Nat := d / perSecond

def subsecond (d : Nat) : Nat := d % perSecond

/-- Why a quantity of seconds is no duration. -/
inductive Fault
  | negative
  | notRepresentable
  deriving DecidableEq, Repr

def Fault.message : Fault → String
  | .negative => "cannot convert float seconds to Duration: value is negative"
  | .notRepresentable => "cannot convert float seconds to Duration: value is either too big or NaN"

variable {α : Type} [Quantity α]

/-- A duration as a quantity of seconds. Whole seconds and the rest are taken
apart first, so that only the rest is divided. -/
def seconds (d : Nat) : α :=
  Quantity.add (Quantity.ofNat (wholeSeconds d))
    (Quantity.div (Quantity.ofNat (subsecond d)) (Quantity.ofNat perSecond))

/-- The duration of an exact number of seconds, to the nearest nanosecond. -/
def nearest (q : Rat) : Nat :=
  Binary64.roundHalfEven (q.num.toNat * perSecond) q.den

/-- The duration of a quantity of seconds. -/
def ofQuantity (x : α) : Except Fault Nat :=
  if Quantity.isNegative x then .error .negative
  else
    match Quantity.value? x with
    | some q => if q < Word.count 64 then .ok (nearest q) else .error .notRepresentable
    | none => .error .notRepresentable

/-- The first whole millisecond not before a point in time. -/
def ceilMilli (d : Nat) : Nat := (d + perMilli - 1) / perMilli * perMilli

/-- The longest sleep: thirty years of 365 days. -/
def longestSleep : Nat := ofSeconds (30 * 365 * 24 * 60 * 60)

/-- When a sleeper wakes that falls asleep at `now`. A longer delay than the
longest sleep is cut to it. -/
def wakeTime (now delay : Nat) : Nat := ceilMilli (now + min delay longestSleep)

theorem wholeSeconds_add_subsecond (d : Nat) :
    wholeSeconds d * perSecond + subsecond d = d := by
  unfold wholeSeconds subsecond perSecond
  omega

end Duration
end TableCopy
