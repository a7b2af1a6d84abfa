/-!
# Exact values of double-precision numbers

A finite double is a signed whole significand times a power of two. `value?`
reads that value off the bits, and `nearest` goes back: it takes any ratio of
naturals to the double closest to it, a half going to the even neighbour.
-/

namespace TableCopy
namespace Binary64

/-- A finite double taken apart: its value is `significand * 2 ^ exponent`,
negated when `negative` holds. -/
structure Parts where
  negative : Bool
  significand : Nat
  exponent : Int
  deriving DecidableEq, Repr

/-- The exponent shared by the subnormal numbers. -/
def leastExponent : Int := -1074

/-- The leading bit of a significand. The stored fraction lies below it. -/
def leadingBit : Nat := 1 <<< 52

/-- The bit that marks a negative double. -/
def signBit : Nat := 1 <<< 63

/-- The parts of a finite double; infinities and the undefined value have none. -/
def parts? (x : Float) : Option Parts :=
  let bits : Nat := x.toBits.toNat
  let negative : Bool := signBit ≤ bits
  let field : Nat := bits / leadingBit % 2048
  let fraction : Nat := bits % leadingBit
  if field = 2047 then none
  else if field = 0 then some ⟨negative, fraction, leastExponent⟩
  else some ⟨negative, fraction + leadingBit, (field : Int) - 1075⟩

/-- The exact value of finite parts. -/
def Parts.value (p : Parts) : Rat :=
  let magnitude : Rat :=
    if 0 ≤ p.exponent then ((p.significand <<< p.exponent.toNat : Nat) : Rat)
    else mkRat p.significand (1 <<< (-p.exponent).toNat)
  if p.negative then -magnitude else magnitude

/-- The exact value of a finite double. -/
def value? (x : Float) : Option Rat :=
  (parts? x).map Parts.value

/-- Whole quotient of two naturals rounded to nearest, a half to the even side. -/
def roundHalfEven (num den : Nat) : Nat :=
  let whole := num / den
  let twice := 2 * (num % den)
  if twice < den then whole
  else if den < twice then whole + 1
  else whole + whole % 2

/-- The exponent at which a positive ratio is cut off so that its significand
has 53 bits, or fewer for a subnormal result. -/
def cutExponent (num den : Nat) : Int :=
  let estimate : Int := (num.log2 : Int) - den.log2
  let reached : Bool :=
    if 0 ≤ estimate then den <<< estimate.toNat ≤ num
    else den ≤ num <<< (-estimate).toNat
  let magnitude := if reached then estimate else estimate - 1
  max (magnitude - 52) leastExponent

/-- The bits of the double nearest to a nonnegative ratio. Ratios past the
greatest finite double give infinity. -/
def magnitudeBits (num den : Nat) : Nat :=
  if num = 0 then 0
  else
    let cut := cutExponent num den
    let significand :=
      if 0 ≤ cut then roundHalfEven num (den <<< cut.toNat)
      else roundHalfEven (num <<< (-cut).toNat) den
    min ((cut - leastExponent).toNat * leadingBit + significand) (2047 * leadingBit)

/-- The double nearest to a signed ratio of naturals. -/
def nearest (negative : Bool) (num den : Nat) : Float :=
  let bits := magnitudeBits num den
  Float.ofBits (UInt64.ofNat (if negative then bits + signBit else bits))

/-- The double nearest to a rational number. -/
def ofRat (q : Rat) : Float :=
  nearest (q.num < 0) q.num.natAbs q.den

theorem roundHalfEven_one (n : Nat) : roundHalfEven n 1 = n := by
  simp [roundHalfEven, Nat.mod_one]

end Binary64
end TableCopy
