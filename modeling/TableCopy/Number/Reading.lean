import TableCopy.Number.Binary64
import TableCopy.Number.Word

/-!
# Reading numbers from text

Whole numbers are an optional sign and digits. A double is an optional sign
followed by a decimal with an optional point and exponent, or by the name of an
infinite or undefined value in any case. Nothing may stand around a number.
-/

namespace TableCopy
namespace Reading

/-- The value of a run of decimal digits, most significant first. -/
def digitsValue (digits : List Char) : Nat :=
  digits.foldl (fun n c => 10 * n + (c.toNat - '0'.toNat)) 0

/-- A nonempty run of decimal digits. -/
def natural? (text : List Char) : Option Nat :=
  if !text.isEmpty && text.all Char.isDigit then some (digitsValue text) else none

/-- Split off an optional sign; true for a minus. -/
def sign : List Char → Bool × List Char
  | '-' :: rest => (true, rest)
  | '+' :: rest => (false, rest)
  | text => (false, text)

/-- A signed whole number. -/
def integer? (text : List Char) : Option Int :=
  let (negative, rest) := sign text
  (natural? rest).map fun n => if negative then -(n : Int) else n

/-- A whole number of a word of the given width: no minus sign, and in range. -/
def word? (bits : Nat) (text : List Char) : Option Nat :=
  match text with
  | '-' :: _ => none
  | _ => do
    let n ← natural? (sign text).2
    if n < Word.count bits then some n else none

/-- A signed whole number of a word of the given width. -/
def signedWord? (bits : Nat) (text : List Char) : Option Int := do
  let n ← integer? text
  if Word.isSigned bits n then some n else none

/-- The double nearest to `digits * 10 ^ exponent`. Exponents far outside the
range of doubles are decided without computing the power. -/
def decimal (negative : Bool) (digits : Nat) (exponent : Int) : Float :=
  let position := (digits.log2 : Int) / 3 + exponent
  if digits = 0 || position < -500 then Binary64.nearest negative 0 1
  else if 500 < exponent then Binary64.nearest negative (1 <<< 1024) 1
  else if 0 ≤ exponent then Binary64.nearest negative (digits * Nat.pow 10 exponent.toNat) 1
  else Binary64.nearest negative digits (Nat.pow 10 (-exponent).toNat)

/-- The exponent part that may follow the digits of a decimal. -/
def exponent? : List Char → Option Int
  | [] => some 0
  | mark :: rest => if mark = 'e' || mark = 'E' then integer? rest else none

/-- An unsigned decimal: digits with an optional point, at least one digit, and
an optional exponent. Gives the digits as a whole number and the exponent. -/
def unsignedDecimal? (text : List Char) : Option (Nat × Int) :=
  let whole := text.takeWhile Char.isDigit
  let rest := text.dropWhile Char.isDigit
  let (fraction, rest) :=
    match rest with
    | '.' :: tail => (tail.takeWhile Char.isDigit, tail.dropWhile Char.isDigit)
    | _ => ([], rest)
  if whole.isEmpty && fraction.isEmpty then none
  else (exponent? rest).map fun e => (digitsValue (whole ++ fraction), e - fraction.length)

/-- A double written as text. -/
def float? (text : List Char) : Option Float :=
  let (negative, rest) := sign text
  let name := String.ofList (rest.map Char.toLower)
  if name = "inf" || name = "infinity" then some (Binary64.nearest negative (1 <<< 1024) 1)
  else if name = "nan" then some (Float.ofBits 0x7ff8000000000000)
  else (unsignedDecimal? rest).map fun (digits, exponent) => decimal negative digits exponent

end Reading
end TableCopy
