import TableCopy.Number.Shortest

/-!
# Quantities

Capacities, rates, ratios and factors are quantities. A copy computes with
doubles; the same rules also make sense over the exact rationals, where no
step rounds. `Quantity` lists what the rules need of either: a nearest
quantity to every rational, an exact value for the finite ones, arithmetic,
order and text. All else is derived from the exact value.
-/

namespace TableCopy

class Quantity (α : Type) where
  /-- The quantity nearest to a rational number. -/
  ofRat : Rat → α
  /-- The exact value of a finite quantity. -/
  value? : α → Option Rat
  add : α → α → α
  mul : α → α → α
  div : α → α → α
  /-- Strict order. An undefined quantity is neither below nor above any. -/
  lt : α → α → Bool
  /-- The text of the quantity inside a message. -/
  text : α → String

instance : Quantity Float where
  ofRat := Binary64.ofRat
  value? := Binary64.value?
  add := Float.add
  mul := Float.mul
  div := Float.div
  lt x y := decide (x < y)
  text := Binary64.messageLayout.text

/-- The exact reading: every quantity is finite and no operation rounds. -/
instance : Quantity Rat where
  ofRat q := q
  value? q := some q
  add := (· + ·)
  mul := (· * ·)
  div := (· / ·)
  lt x y := decide (x < y)
  text q := if q.den = 1 then toString q.num else toString q.num ++ "/" ++ toString q.den

namespace Quantity

variable {α : Type} [Quantity α]

def ofNat (n : Nat) : α := ofRat (n : Rat)

/-- The exact value of a quantity that is finite and greater than zero. -/
def positive? (x : α) : Option Rat :=
  (value? x).filter fun q => 0 < q

/-- Whether a quantity is greater than zero, infinity included. -/
def isPositive (x : α) : Bool := lt (ofNat 0 : α) x

/-- Whether a quantity is less than zero, infinity included. -/
def isNegative (x : α) : Bool := lt x (ofNat 0 : α)

/-- An undefined quantity is not finite and on neither side of zero. -/
def isUndefined (x : α) : Bool := (value? x).isNone && !isPositive x && !isNegative x

/-- The lesser of two quantities; an undefined one gives way to the other. -/
def least (x y : α) : α :=
  if isUndefined x then y
  else if isUndefined y then x
  else if lt y x then y else x

/-- The greater of two quantities. -/
def greatest (x y : α) : α := if lt x y then y else x

/-- Powers with a whole exponent, by repeated squaring: `base` runs through the
squares and `result` collects those that the exponent asks for. -/
def squarings (result base : α) (exponent : Nat) : α :=
  let collected := if exponent % 2 = 1 then mul result base else result
  if exponent / 2 = 0 then collected
  else squarings collected (mul base base) (exponent / 2)
termination_by exponent

/-- `base` raised to a signed exponent; a negative one takes the reciprocal of the
positive power. -/
def power (base : α) (exponent : Int) : α :=
  let raised := squarings (ofNat 1) base exponent.natAbs
  if exponent < 0 then div (ofNat 1) raised else raised

/-- What remains of a nonnegative finite quantity after its whole part. -/
def fraction (x : α) : α :=
  match value? x with
  | some q => ofRat (q - (q.floor : Rat))
  | none => x

/-- The least whole number not below a positive rational, at most `limit`. -/
def ceilUpTo (limit : Nat) (q : Rat) : Nat := min q.ceil.toNat limit

/-- The whole number nearest to a positive rational, a half going up, at most
`limit`. -/
def roundUpTo (limit : Nat) (q : Rat) : Nat := min (q + 1 / 2).floor.toNat limit

theorem positive?_eq_some_iff {x : α} {q : Rat} :
    positive? x = some q ↔ value? x = some q ∧ 0 < q := by
  simp [positive?, Option.filter_eq_some_iff]

theorem ceilUpTo_le (limit : Nat) (q : Rat) : ceilUpTo limit q ≤ limit := Nat.min_le_right ..

theorem roundUpTo_le (limit : Nat) (q : Rat) : roundUpTo limit q ≤ limit := Nat.min_le_right ..

end Quantity
end TableCopy
