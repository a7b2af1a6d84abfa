import TableCopy.Number.Binary64

/-!
# Shortest decimal text of a double

`shortest` finds the fewest decimal digits that read back as the given double,
and among those the closest. How the digits are laid out, and which of two equally
close decimals is taken, is a `Layout`: messages never use an exponent, data does
outside a range of magnitudes.
-/

namespace TableCopy
namespace Binary64

/-- A decimal number `digits * 10 ^ exponent`. -/
structure Decimal where
  digits : Nat
  exponent : Int
  deriving DecidableEq, Repr

/-- The numbers that read back as one positive double, over a common
denominator: all between `low` and `high`, with the ends when `closed`. -/
structure Neighbourhood where
  low : Nat
  value : Nat
  high : Nat
  den : Nat
  closed : Bool
  deriving DecidableEq, Repr

/-- The reading neighbourhood of `significand * 2 ^ exponent`. It reaches half
way to each neighbour; the lower one is twice as close at a power of two. -/
def neighbourhood (significand : Nat) (exponent : Int) : Neighbourhood :=
  let below := if significand = leadingBit && leastExponent < exponent then 1 else 2
  let quarter := exponent - 2
  let scale := 1 <<< quarter.toNat
  { low := (4 * significand - below) * scale
    value := 4 * significand * scale
    high := (4 * significand + 2) * scale
    den := 1 <<< (-quarter).toNat
    closed := significand % 2 = 0 }

/-- Whether a ratio lies in the neighbourhood. -/
def Neighbourhood.contains (n : Neighbourhood) (num den : Nat) : Bool :=
  let point := num * n.den
  if n.closed then n.low * den ≤ point && point ≤ n.high * den
  else n.low * den < point && point < n.high * den

/-- The least `k`, from `count` on, at which `num * 10 ^ k` reaches `den`, with
`num` already scaled by the powers passed over. -/
def scaleToReach (num den : Nat) : (fuel count : Nat) → Nat
  | 0, count => count
  | fuel + 1, count => if den ≤ num then count else scaleToReach (num * 10) den fuel (count + 1)

/-- The position of the leading decimal digit of a positive ratio: the greatest
`p` with `10 ^ p ≤ num / den`. No double is as small as `10 ^ -330`. -/
def leadingPosition (num den : Nat) : Int :=
  if den ≤ num then (toString (num / den)).length - 1
  else -(scaleToReach num den 330 0 : Int)

/-- Which of two equally close decimals is taken. -/
inductive Tie
  /-- The one whose last digit is even. -/
  | toEven
  /-- The greater one. -/
  | up
  deriving DecidableEq, Repr

/-- Whether a value half way above `floor` is written as `floor`. -/
def Tie.isDown : Tie → (floor : Nat) → Bool
  | toEven, floor => floor % 2 = 0
  | up, _ => false

/-- The decimals with `count` digits next to a positive ratio whose leading digit
stands at `position`, the nearer one first. -/
def candidates (tie : Tie) (n : Neighbourhood) (position : Int) (count : Nat) : List Decimal :=
  let grid := position - count + 1
  let up := Nat.pow 10 (-grid).toNat
  let down := n.den * Nat.pow 10 grid.toNat
  let floor := n.value * up / down
  let twice := 2 * (n.value * up % down)
  let first := if twice < down || (twice = down && tie.isDown floor) then floor else floor + 1
  let second := if first = floor then floor + 1 else floor
  [⟨first, grid⟩, ⟨second, grid⟩]

/-- Whether a decimal reads back as the double of the neighbourhood. -/
def Neighbourhood.reads (n : Neighbourhood) (d : Decimal) : Bool :=
  n.contains (d.digits * Nat.pow 10 d.exponent.toNat) (Nat.pow 10 (-d.exponent).toNat)

/-- The first digit count, from `count` on, at which a decimal reads back. -/
def searchDigits (tie : Tie) (n : Neighbourhood) (position : Int) :
    (fuel count : Nat) → Option Decimal
  | 0, _ => none
  | fuel + 1, count =>
    ((candidates tie n position count).find? n.reads).orElse fun _ =>
      searchDigits tie n position fuel (count + 1)

/-- Move trailing zeros from the digits to the exponent. -/
def Decimal.trim (d : Decimal) : (fuel : Nat) → Decimal
  | 0 => d
  | fuel + 1 =>
    if d.digits % 10 = 0 && d.digits ≠ 0 then
      Decimal.trim ⟨d.digits / 10, d.exponent + 1⟩ fuel
    else d

/-- The shortest decimal that reads back as `significand * 2 ^ exponent`, and the
closest of that length. Seventeen digits always suffice. -/
def shortest (tie : Tie) (significand : Nat) (exponent : Int) : Decimal :=
  if significand = 0 then ⟨0, 0⟩
  else
    let n := neighbourhood significand exponent
    let position := leadingPosition n.value n.den
    ((searchDigits tie n position 17 1).getD ⟨significand, exponent⟩).trim 20

/-- How the digits of a number are written out. -/
structure Layout where
  tie : Tie
  /-- Whether a number whose point stands after this many leading digits is
  written without an exponent. -/
  positional : Int → Bool
  /-- What follows the digits of a whole number. -/
  wholeEnd : String
  /-- What stands in front of a positive exponent. -/
  exponentSign : String
  undefined : String
  infinite : String

/-- Numbers inside messages: never an exponent, whole numbers without a point, and
the greater of two equally close decimals. -/
def messageLayout : Layout := ⟨.up, fun _ => true, "", "", "NaN", "inf"⟩

/-- Numbers inside data: positional up to sixteen leading digits and five leading
zeros, a signed exponent otherwise, a point in every positional number, and the
even one of two equally close decimals. -/
def dataLayout : Layout :=
  ⟨.toEven, fun point => -5 < point && point ≤ 16, ".0", "+", "null", "null"⟩

/-- The characters of a decimal under a layout. -/
def Layout.write (layout : Layout) (d : Decimal) : String :=
  let digits := toString d.digits
  let count := digits.length
  let point : Int := count + d.exponent
  if layout.positional point then
    if 0 ≤ d.exponent then digits ++ "".pushn '0' d.exponent.toNat ++ layout.wholeEnd
    else if 0 < point then
      String.ofList (digits.toList.take point.toNat) ++ "." ++
        String.ofList (digits.toList.drop point.toNat)
    else "0." ++ "".pushn '0' (-point).toNat ++ digits
  else
    let tail := digits.toList.drop 1
    String.ofList (digits.toList.take 1) ++
      (if tail.isEmpty then "" else "." ++ String.ofList tail) ++ "e" ++
      (if 1 < point then layout.exponentSign else "") ++ toString (point - 1)

/-- The text of a double under a layout. -/
def Layout.text (layout : Layout) (x : Float) : String :=
  match parts? x with
  | some p =>
    let digits := layout.write (shortest layout.tie p.significand p.exponent)
    if p.negative then "-" ++ digits else digits
  | none =>
    if x == x then (if x < 0 then "-" ++ layout.infinite else layout.infinite)
    else layout.undefined

end Binary64
end TableCopy
