/-!
# Words

Whole numbers of a fixed width in bits. There are `count bits` words of a width;
signed words read the upper half of them as negative numbers.
-/

namespace TableCopy
namespace Word

/-- The number of words of a width, which is two to the power of it. -/
def count (bits : Nat) : Nat := Nat.pow 2 bits

/-- The greatest word of a width. -/
def greatest (bits : Nat) : Nat := count bits - 1

/-- Where the signed words of a width end: they run from its negative up to but not
including it. -/
def signedEnd (bits : Nat) : Nat := count (bits - 1)

/-- Whether a whole number is a signed word of a width. -/
def isSigned (bits : Nat) (n : Int) : Bool := -(signedEnd bits : Int) ≤ n && n < signedEnd bits

/-- The signed word with the same bits as a whole number that may be too great for
the width. -/
def wrapSigned (bits n : Nat) : Int := Int.bmod n (count bits)

theorem isSigned_iff {bits : Nat} {n : Int} :
    isSigned bits n ↔ -(signedEnd bits : Int) ≤ n ∧ n < signedEnd bits := by
  simp [isSigned]

end Word
end TableCopy
