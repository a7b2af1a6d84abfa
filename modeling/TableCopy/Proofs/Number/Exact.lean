import Mathlib.Data.Rat.Floor
import Mathlib.Tactic.Linarith
import Mathlib.Tactic.Ring
import TableCopy.Duration

/-!
# Exact quantities

Over the rationals the operations on quantities are those of the field and its order. The one
step that rounds is the last: a duration is the whole number of nanoseconds nearest to a
quantity of seconds, so that it is off by half a nanosecond at most and keeps the order.
-/

namespace TableCopy

/-- Whole numbers less than a whole apart are in order. -/
theorem Nat.le_of_cast_le_add_half {a b : Nat} (h : (a : Rat) ≤ b + 1 / 2) : a ≤ b := by
  by_contra! hlt
  have hlt' : (b : Rat) + 1 ≤ a := by exact_mod_cast hlt
  linarith

namespace Quantity

theorem add_eq (x y : Rat) : add x y = x + y := rfl

theorem mul_eq (x y : Rat) : mul x y = x * y := rfl

theorem greatest_eq_max (x y : Rat) : greatest x y = max x y := by
  rw [greatest, max_def_lt]
  exact ite_congr (decide_eq_true_eq ..) (fun _ => rfl) fun _ => rfl

theorem isUndefined_eq_false (x : Rat) : isUndefined x = false := rfl

theorem least_eq_min (x y : Rat) : least x y = min x y := by
  rw [least, isUndefined_eq_false, isUndefined_eq_false, if_neg Bool.false_ne_true,
    if_neg Bool.false_ne_true, min_comm, min_def_lt]
  exact ite_congr (decide_eq_true_eq ..) (fun _ => rfl) fun _ => rfl

theorem one_div (x : Rat) : div (ofNat 1) x = 1 / x :=
  congrArg (· / x) Nat.cast_one

theorem isPositive_iff {x : Rat} : isPositive x = true ↔ 0 < x := decide_eq_true_iff

/-- Repeated squaring gives the power. -/
theorem squarings_eq (result base : Rat) (exponent : Nat) :
    squarings result base exponent = result * base ^ exponent := by
  induction exponent using Nat.strongRecOn generalizing result base with
  | ind exponent ih =>
    have hparts : base ^ exponent = base ^ (exponent % 2) * (base * base) ^ (exponent / 2) := by
      rw [← pow_two, ← pow_mul, ← pow_add, Nat.mod_add_div]
    have hcollected : (if exponent % 2 = 1 then mul result base else result) =
        result * base ^ (exponent % 2) := by
      obtain hodd | heven := Nat.mod_two_eq_zero_or_one exponent
      · rw [hodd, if_neg Nat.zero_ne_one, pow_zero, mul_one]
      · rw [heven, if_pos rfl, pow_one]
        rfl
    rw [squarings, hcollected]
    split
    · rename_i hzero
      rw [hparts, hzero, pow_zero, mul_one]
    · rename_i hpos
      rw [ih _ (by omega), hparts, mul_assoc]
      rfl

theorem power_natCast (base : Rat) (exponent : Nat) :
    power base (exponent : Int) = base ^ exponent := by
  have hone : (ofNat 1 : Rat) = 1 := Nat.cast_one
  rw [power, Int.natAbs_natCast, squarings_eq, if_neg (Int.not_lt.2 (Int.natCast_nonneg _)), hone,
    one_mul]

end Quantity

namespace Binary64

variable {num den num' den' : Nat}

/-- Rounding to a whole number is off by a half at most. -/
theorem roundHalfEven_bounds (num : Nat) (hden : 0 < den) :
    2 * num ≤ (2 * roundHalfEven num den + 1) * den ∧
      2 * roundHalfEven num den * den ≤ 2 * num + den := by
  have hsplit := Nat.div_add_mod num den
  have hlt := Nat.mod_lt num hden
  unfold roundHalfEven
  dsimp only
  generalize num / den = whole at hsplit ⊢
  generalize num % den = rest at hsplit hlt ⊢
  subst hsplit
  split
  · constructor <;> linarith
  · split
    · constructor <;> linarith
    · obtain heven | hodd := Nat.mod_two_eq_zero_or_one whole
      · rw [heven]
        constructor <;> linarith
      · rw [hodd]
        constructor <;> linarith

theorem roundHalfEven_near (num : Nat) (hden : 0 < den) :
    |(roundHalfEven num den : Rat) - num / den| ≤ 1 / 2 := by
  have hpos : (0 : Rat) < den := Nat.cast_pos.2 hden
  obtain ⟨hlow, hhigh⟩ := roundHalfEven_bounds num hden
  have hlow' : (2 * num : Rat) ≤ (2 * roundHalfEven num den + 1) * den := by exact_mod_cast hlow
  have hhigh' : (2 * roundHalfEven num den * den : Rat) ≤ 2 * num + den := by
    exact_mod_cast hhigh
  have hvalue : (num : Rat) = num / den * den := (div_mul_cancel₀ _ hpos.ne').symm
  rw [abs_le]
  constructor
  · refine le_of_mul_le_mul_right ?_ hpos
    linarith
  · refine le_of_mul_le_mul_right ?_ hpos
    linarith

/-- Half way between two whole numbers lies the even one. -/
theorem roundHalfEven_of_tie {n : Nat} (h : 2 * num = (2 * n + 1) * den) (hden : 0 < den) :
    roundHalfEven num den = n + n % 2 := by
  have hwhole : num / den = n := Nat.div_eq_of_lt_le (by linarith) (by linarith)
  have hrest : 2 * (num % den) = den := by
    have hsplit := Nat.div_add_mod num den
    rw [hwhole] at hsplit
    linarith
  simp only [roundHalfEven, hrest, hwhole, lt_irrefl, if_false]

theorem roundHalfEven_mono (hden : 0 < den) (hden' : 0 < den')
    (h : (num / den : Rat) ≤ num' / den') : roundHalfEven num den ≤ roundHalfEven num' den' := by
  by_contra! hlt
  have hlt' : (roundHalfEven num' den' : Rat) + 1 ≤ roundHalfEven num den := by exact_mod_cast hlt
  have hnear := abs_le.1 (roundHalfEven_near num hden)
  have hnear' := abs_le.1 (roundHalfEven_near num' hden')
  -- Both lie half way between the same two whole numbers.
  have htie : ∀ {a b : Nat}, 0 < b → (a / b : Rat) = roundHalfEven num' den' + 1 / 2 →
      2 * a = (2 * roundHalfEven num' den' + 1) * b := by
    intro a b hb hvalue
    have hpos : (b : Rat) ≠ 0 := (Nat.cast_pos.2 hb).ne'
    rw [div_eq_iff hpos] at hvalue
    have hdouble : (2 * a : Rat) = (2 * roundHalfEven num' den' + 1) * b := by linarith
    exact_mod_cast hdouble
  have hleft : (num / den : Rat) = roundHalfEven num' den' + 1 / 2 := by linarith
  have hright : (num' / den' : Rat) = roundHalfEven num' den' + 1 / 2 := by linarith
  have heven := roundHalfEven_of_tie (htie hden hleft) hden
  have heven' := roundHalfEven_of_tie (htie hden' hright) hden'
  omega

end Binary64

namespace Duration

theorem seconds_eq (d : Nat) : (seconds d : Rat) = d / perSecond := by
  have hne : (perSecond : Rat) ≠ 0 := by decide
  have hsplit : (d : Rat) = wholeSeconds d * perSecond + subsecond d := by
    exact_mod_cast (wholeSeconds_add_subsecond d).symm
  rw [hsplit, add_div, mul_div_cancel_right₀ _ hne]
  rfl

variable {p q : Rat}

theorem ofQuantity_eq_ok (hnonneg : 0 ≤ q) (hlt : q < Word.count 64) :
    ofQuantity q = .ok (nearest q) := by
  have hsign : Quantity.isNegative q = false := decide_eq_false (not_lt.2 hnonneg)
  rw [ofQuantity, hsign, if_neg Bool.false_ne_true]
  exact if_pos hlt

/-- The fraction that is rounded to a duration is the quantity in nanoseconds. -/
theorem num_mul_perSecond (hnonneg : 0 ≤ q) :
    ((q.num.toNat * perSecond : Nat) / q.den : Rat) = q * perSecond := by
  have hnum : ((q.num.toNat : Nat) : Rat) = q.num := by
    exact_mod_cast Int.toNat_of_nonneg (Rat.num_nonneg.2 hnonneg)
  rw [Nat.cast_mul, hnum, mul_div_right_comm, Rat.num_div_den]

theorem nearest_near (hnonneg : 0 ≤ q) : |(nearest q : Rat) - q * perSecond| ≤ 1 / 2 := by
  rw [← num_mul_perSecond hnonneg]
  exact Binary64.roundHalfEven_near _ q.den_pos

theorem nearest_mono (hnonneg : 0 ≤ p) (hle : p ≤ q) : nearest p ≤ nearest q := by
  refine Binary64.roundHalfEven_mono p.den_pos q.den_pos ?_
  rw [num_mul_perSecond hnonneg, num_mul_perSecond (hnonneg.trans hle)]
  exact mul_le_mul_of_nonneg_right hle (Nat.cast_nonneg _)

end Duration
end TableCopy
