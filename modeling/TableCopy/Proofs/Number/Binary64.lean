import Mathlib.Algebra.Order.Field.Basic
import Mathlib.Tactic.Linarith
import TableCopy.Number.Binary64
import TableCopy.Number.Word

/-!
# Doubles below `2 ^ 64`

Doubles of that size are far apart: between the greatest 64-bit word and `2 ^ 64` there
is none. The double of a natural number below `2 ^ 63` does not exceed that word either.
-/

namespace TableCopy
namespace Binary64

/-- The bits of a double that hold its exponent. -/
def exponentField (x : Float) : Nat := x.toBits.toNat / leadingBit % 2048

/-- The value of finite parts without their sign. -/
def Parts.magnitude (p : Parts) : Rat :=
  if 0 ≤ p.exponent then ((p.significand <<< p.exponent.toNat : Nat) : Rat)
  else mkRat p.significand (1 <<< (-p.exponent).toNat)

theorem Parts.value_eq (p : Parts) :
    p.value = if p.negative then -p.magnitude else p.magnitude := rfl

theorem Parts.magnitude_nonneg (p : Parts) : 0 ≤ p.magnitude := by
  unfold magnitude
  split
  · exact Nat.cast_nonneg _
  · exact Rat.mkRat_nonneg (Int.natCast_nonneg _) _

theorem Parts.value_le_magnitude (p : Parts) : p.value ≤ p.magnitude := by
  have hnonneg := p.magnitude_nonneg
  rw [value_eq]
  split <;> linarith

/-- A significand of 53 bits, with an exponent of eleven at most, stays below `2 ^ 64`. -/
theorem Parts.magnitude_le {p : Parts} (hsignificand : p.significand < 2 ^ 53)
    (hexponent : p.exponent ≤ 11) : p.magnitude ≤ Word.greatest 64 := by
  unfold magnitude
  split
  · rename_i hnonneg
    have hshift : p.significand <<< p.exponent.toNat ≤ (2 ^ 53 - 1) * 2 ^ 11 := by
      rw [Nat.shiftLeft_eq]
      exact Nat.mul_le_mul (by omega) (Nat.pow_le_pow_right (by decide) (by omega))
    exact Nat.cast_le.2 (hshift.trans (by decide))
  · have hone : (1 : Rat) ≤ (1 <<< (-p.exponent).toNat : Nat) := by
      rw [Nat.one_shiftLeft]
      exact_mod_cast Nat.one_le_two_pow
    have hle : mkRat p.significand (1 <<< (-p.exponent).toNat) ≤ p.significand := by
      rw [Rat.mkRat_eq_div]
      exact div_le_self (Nat.cast_nonneg _) hone
    refine hle.trans (Nat.cast_le.2 ?_)
    exact hsignificand.le.trans (by decide)

/-- A significand of 53 bits, with an exponent above eleven, reaches `2 ^ 64`. -/
theorem Parts.le_magnitude {p : Parts} (hsignificand : 2 ^ 52 ≤ p.significand)
    (hexponent : 12 ≤ p.exponent) : 2 ^ 64 ≤ p.magnitude := by
  unfold magnitude
  rw [if_pos (by omega)]
  have hshift : 2 ^ 52 * 2 ^ 12 ≤ p.significand <<< p.exponent.toNat := by
    rw [Nat.shiftLeft_eq]
    exact Nat.mul_le_mul hsignificand (Nat.pow_le_pow_right (by decide) (by omega))
  exact_mod_cast hshift

theorem leadingBit_eq : leadingBit = 2 ^ 52 := by
  rw [leadingBit, Nat.one_shiftLeft]

/-- Where the exponent field of a finite double lies, its parts lie. -/
theorem of_parts?_eq_some {x : Float} {p : Parts} (h : parts? x = some p) :
    p.significand < 2 ^ 53 ∧ (exponentField x ≤ 1086 → p.exponent ≤ 11) ∧
      (1087 ≤ exponentField x → 2 ^ 52 ≤ p.significand ∧ 12 ≤ p.exponent) := by
  have hfraction : x.toBits.toNat % leadingBit < 2 ^ 52 := by
    rw [leadingBit_eq]
    exact Nat.mod_lt _ (by decide)
  unfold parts? at h
  dsimp only at h
  rw [← exponentField] at h
  split at h
  · cases h
  · split at h
    · rename_i hzero
      obtain rfl := Option.some.inj h
      have hleast : leastExponent ≤ 11 := by decide
      refine ⟨hfraction.trans (by decide), fun _ => hleast, ?_⟩
      intro hlarge
      rw [hzero] at hlarge
      cases hlarge
    · obtain rfl := Option.some.inj h
      dsimp only
      rw [leadingBit_eq] at hfraction ⊢
      refine ⟨by omega, ?_, ?_⟩
      · intro hsmall
        omega
      · intro hlarge
        omega

/-- A double whose exponent field stays below that of `2 ^ 64` is no greater than the
greatest word. -/
theorem value_le_of_exponentField {x : Float} {q : Rat} (hvalue : value? x = some q)
    (hfield : exponentField x ≤ 1086) : q ≤ Word.greatest 64 := by
  obtain ⟨p, hparts, rfl⟩ := Option.map_eq_some_iff.1 hvalue
  obtain ⟨hsignificand, hsmall, -⟩ := of_parts?_eq_some hparts
  exact p.value_le_magnitude.trans (Parts.magnitude_le hsignificand (hsmall hfield))

/-- No double lies between the greatest word and `2 ^ 64`. -/
theorem value_le_of_lt {x : Float} {q : Rat} (hvalue : value? x = some q) (hlt : q < 2 ^ 64) :
    q ≤ Word.greatest 64 := by
  rcases Nat.lt_or_ge (exponentField x) 1087 with hsmall | hlarge
  · exact value_le_of_exponentField hvalue (Nat.le_of_lt_succ hsmall)
  · obtain ⟨p, hparts, rfl⟩ := Option.map_eq_some_iff.1 hvalue
    obtain ⟨-, -, hreaches⟩ := of_parts?_eq_some hparts
    obtain ⟨hsignificand, hexponent⟩ := hreaches hlarge
    have hmagnitude := Parts.le_magnitude hsignificand hexponent
    have hnonneg := p.magnitude_nonneg
    rw [Parts.value_eq] at hlt ⊢
    split at hlt
    · rename_i hnegative
      rw [if_pos hnegative]
      exact (neg_nonpos.2 hnonneg).trans (Nat.cast_nonneg _)
    · exact absurd hlt (not_lt.2 hmagnitude)

section Bits

open Float.Model (Format)
open Float.Model.UnpackedFloat

theorem log2_leading (m : BitVec 52) :
    (1#1 ++ m).toNat.log2 + 1 = Format.binary64.mantissaBits := by
  have hlt := m.isLt
  have hsum : (1#1 ++ m).toNat = 2 ^ 52 + m.toNat := by
    rw [BitVec.toNat_append, ← Nat.shiftLeft_add_eq_or_of_lt hlt]
    rfl
  have hlog : (1#1 ++ m).toNat.log2 = 52 := by
    rw [hsum, Nat.log2_eq_iff (by omega)]
    omega
  rw [hlog]
  rfl

theorem log2_subnormal (m : BitVec 52) (h : m ≠ 0#52) :
    m.toNat.log2 + 1 ≠ Format.binary64.mantissaBits := by
  have hne : m.toNat ≠ 0 := fun hzero => h (BitVec.eq_of_toNat_eq hzero)
  have hlog : m.toNat.log2 < 52 := (Nat.log2_lt hne).2 m.isLt
  change m.toNat.log2 + 1 ≠ 53
  omega

/-- Reading bits as a double and back keeps the exponent. -/
theorem unpackExponent_pack_unpack (b : BitVec Format.binary64.numBits) :
    unpackExponent (pack Format.binary64 (unpack Format.binary64 b)) = unpackExponent b := by
  by_cases hspecial : unpackExponent b = -1#11
  · have hunpacked : unpack Format.binary64 b = _ := if_pos hspecial
    rw [hunpacked]
    split
    · exact (unpackExponent_packComponents ..).trans hspecial.symm
    · exact (unpackExponent_packComponents ..).trans hspecial.symm
  · by_cases hzero : unpackExponent b = 0#11
    · by_cases hmantissa : unpackMantissa b = 0#52
      · have hunpacked : unpack Format.binary64 b = _ :=
          (if_neg hspecial).trans ((if_pos hzero).trans (dif_pos hmantissa))
        rw [hunpacked]
        exact (unpackExponent_packComponents ..).trans hzero.symm
      · have hunpacked : unpack Format.binary64 b = _ :=
          (if_neg hspecial).trans ((if_pos hzero).trans (dif_neg hmantissa))
        rw [hunpacked]
        have hlog := log2_subnormal _ hmantissa
        refine (congrArg unpackExponent ((if_neg ?_).trans (if_neg hlog))).trans
          ((unpackExponent_packComponents ..).trans hzero.symm)
        rw [hzero]
        decide
    · have hunpacked : unpack Format.binary64 b = _ := (if_neg hspecial).trans (if_neg hzero)
      rw [hunpacked]
      have hbiased : ((unpackExponent b).toNat - (Format.binary64.exponentBias + (52 : Nat)) +
          Format.binary64.exponentBias + (52 : Nat) : Int).toNat = (unpackExponent b).toNat := by
        omega
      refine (congrArg unpackExponent ((if_neg ?_).trans (if_pos (log2_leading _)))).trans
        ((unpackExponent_packComponents ..).trans ?_)
      · intro hlarge
        have hlt : (unpackExponent b).toNat < 2048 := (unpackExponent b).isLt
        have hge : 2048 ≤ (unpackExponent b).toNat + 1 := hbiased ▸ hlarge
        have hones : (-1#11).toNat = 2047 := by decide
        refine hspecial (BitVec.eq_of_toNat_eq ?_)
        rw [hones]
        omega
      · refine (congrArg (BitVec.ofNat 11) hbiased).trans ?_
        rw [BitVec.ofNat_toNat, BitVec.setWidth_eq]

/-- The exponent field of the double with given bits is that of the bits. -/
theorem exponentField_ofBits (bits : UInt64) :
    exponentField (Float.ofBits bits) = bits.toNat / leadingBit % 2048 := by
  have hfield : ∀ b : BitVec Format.binary64.numBits,
      (unpackExponent b).toNat = b.toNat / leadingBit % 2048 := by
    intro b
    rw [unpackExponent, BitVec.toNat_cast, BitVec.extractLsb_toNat, Nat.shiftRight_eq_div_pow,
      leadingBit_eq]
    rfl
  have hkept := congrArg BitVec.toNat (unpackExponent_pack_unpack bits.toBitVec)
  rw [hfield, hfield] at hkept
  exact hkept

end Bits

theorem roundHalfEven_le (num den : Nat) : roundHalfEven num den ≤ num / den + 1 := by
  unfold roundHalfEven
  dsimp only
  split
  · exact Nat.le_succ _
  · split
    · exact le_rfl
    · omega

theorem cutExponent_one {n : Nat} (h : n ≠ 0) : cutExponent n 1 = n.log2 - 52 := by
  have hone : Nat.log2 1 = 0 := by decide
  have hreached : (1 <<< ((n.log2 : Int) - (0 : Nat)).toNat : Nat) ≤ n := by
    rw [Nat.one_shiftLeft, Nat.cast_zero, sub_zero, Int.toNat_natCast]
    exact Nat.log2_self_le h
  have hestimate : (0 : Int) ≤ n.log2 - (0 : Nat) := by omega
  unfold cutExponent
  simp only [hone, hestimate, hreached, decide_true, if_true, leastExponent]
  omega

/-- Naturals below `2 ^ 63` need no exponent above ten. -/
theorem magnitudeBits_lt {n : Nat} (h : n < 2 ^ 63) : magnitudeBits n 1 < 1087 * 2 ^ 52 := by
  unfold magnitudeBits
  split
  · decide
  · rename_i hne
    have hlog : n.log2 < 63 := (Nat.log2_lt hne).2 h
    have hlt : n < 2 ^ (n.log2 + 1) := Nat.lt_log2_self
    dsimp only
    rw [cutExponent_one hne, leadingBit_eq, leastExponent]
    refine (Nat.min_le_left _ _).trans_lt ?_
    split
    · rename_i hcut
      have hsignificand := roundHalfEven_le n (1 <<< ((n.log2 : Int) - 52).toNat)
      have hquotient : n / (1 <<< ((n.log2 : Int) - 52).toNat) < 2 ^ 53 := by
        rw [Nat.one_shiftLeft]
        apply Nat.div_lt_of_lt_mul
        rw [← Nat.pow_add]
        exact hlt.trans_le (Nat.pow_le_pow_right (by decide) (by omega))
      omega
    · rename_i hcut
      rw [roundHalfEven_one, Nat.shiftLeft_eq]
      have hsignificand : n * 2 ^ (-((n.log2 : Int) - 52)).toNat ≤ 2 ^ 53 := by
        calc n * 2 ^ (-((n.log2 : Int) - 52)).toNat
            ≤ 2 ^ (n.log2 + 1) * 2 ^ (-((n.log2 : Int) - 52)).toNat :=
              Nat.mul_le_mul_right _ hlt.le
          _ = 2 ^ 53 := by
              rw [← Nat.pow_add]
              congr 1
              omega
      omega

/-- The double of a natural below `2 ^ 63` is no greater than the greatest word. -/
theorem value_ofRat_natCast_le {n : Nat} (h : n < 2 ^ 63) {q : Rat}
    (hvalue : value? (ofRat n) = some q) : q ≤ Word.greatest 64 := by
  refine value_le_of_exponentField hvalue ?_
  have hbits := magnitudeBits_lt h
  have hsign : decide ((n : Rat).num < 0) = false := by
    rw [Rat.num_natCast]
    simp
  rw [ofRat, nearest, hsign, if_neg Bool.false_ne_true, exponentField_ofBits, Rat.num_natCast,
    Int.natAbs_natCast, Rat.den_natCast, leadingBit_eq,
    UInt64.toNat_ofNat_of_lt' (hbits.trans (by decide))]
  omega

end Binary64
end TableCopy
