import Mathlib.Algebra.Order.Field.Rat
import Mathlib.Algebra.Order.Ring.Cast
import Mathlib.Algebra.Order.Ring.Int
import TableCopy.Pacer

/-!
# What a limiter grants

From its start on, a limiter has at no time granted more permits than its burst and one
for each period since. It refuses no request within the burst, so that a pacer, which
asks for no more, is granted every permit that it charges.
-/

namespace TableCopy

variable {α : Type}

namespace Limiter

/-- So many permits were granted from a start until now. The pace allows them, and the
next arrival is at least one period behind the last of them. -/
structure Covers (pace : Pace α) (start now : Nat) (limiter : Limiter) (granted : Int) :
    Prop where
  start_le : start ≤ now
  granted_le : pace.period * granted ≤ (now - start : Int) + pace.period * pace.burst
  unused : limiter.arrival = none → granted = 0
  arrival_le : ∀ arrival, limiter.arrival = some arrival →
    (start : Int) + pace.period * (granted + 1) ≤ arrival

variable {pace : Pace α} {start now time permits : Nat} {limiter next : Limiter} {granted : Int}

theorem covers_new (pace : Pace α) (start : Nat) : Covers pace start start {} 0 where
  start_le := le_rfl
  granted_le := by
    rw [mul_zero, sub_self, zero_add]
    exact mul_nonneg (Int.natCast_nonneg _) (Int.natCast_nonneg _)
  unused _ := rfl
  arrival_le arrival h := by cases h

/-- As time passes, what was granted stays covered. -/
theorem Covers.later (h : Covers pace start now limiter granted) (hle : now ≤ time) :
    Covers pace start time limiter granted where
  start_le := h.start_le.trans hle
  granted_le := by
    have hgranted := h.granted_le
    omega
  unused := h.unused
  arrival_le := h.arrival_le

/-- No request within the burst is refused. -/
theorem request_ne_insufficient (h : permits ≤ pace.burst) :
    limiter.request pace now permits ≠ .insufficient := by
  rw [request, if_neg (Nat.not_lt.2 h)]
  dsimp only
  split <;> exact Grant.noConfusion

/-- The arrival from which a request counts is behind all permits granted before. -/
theorem Covers.le_getD (h : Covers pace start now limiter granted) :
    (start : Int) + pace.period * (granted + 1) ≤
      (limiter.arrival.getD (now + pace.period) : Nat) := by
  cases harrival : limiter.arrival with
  | none =>
    have hstart := h.start_le
    rw [h.unused harrival, zero_add, mul_one, Option.getD_none]
    omega
  | some arrival => exact h.arrival_le arrival harrival

/-- What a limiter grants is covered by its pace. -/
theorem Covers.request (h : Covers pace start now limiter granted)
    (hgrant : limiter.request pace now permits = .granted next) :
    Covers pace start now next (granted + permits) := by
  unfold Limiter.request at hgrant
  split at hgrant
  · cases hgrant
  · rename_i hburst
    dsimp only at hgrant
    split at hgrant
    · cases hgrant
    · rename_i hearly
      have harrival := h.le_getD
      have hstart := h.start_le
      obtain rfl := Grant.granted.inj hgrant
      have hpermits : pace.period * permits ≤ pace.period * (permits - 1) + pace.period := by
        cases permits with
        | zero => exact Nat.zero_le _
        | succ permits => exact (Nat.mul_succ pace.period permits).le
      have hsum : (pace.period : Int) * (granted + permits) =
          pace.period * granted + (pace.period * permits : Nat) := by
        rw [mul_add, Int.natCast_mul]
      rw [mul_add, mul_one] at harrival
      refine ⟨hstart, ?_, (fun hnone => by cases hnone), ?_⟩
      · rw [hsum, ← Int.natCast_mul]
        omega
      · intro arrival hsome
        obtain rfl := Option.some.inj hsome
        rw [mul_add, mul_one, hsum]
        omega

end Limiter

namespace Pacer

variable {pacer next : Pacer α} {pace : Pace α} {start now remaining left : Nat} {granted : Int}

/-- A pacer keeps its pace, and charges no more than what remains. -/
theorem of_charge_eq (h : pacer.charge now remaining = .granted next left) :
    next.pace = pacer.pace ∧ left ≤ remaining := by
  unfold charge at h
  split at h
  · obtain ⟨rfl, rfl⟩ := Charge.granted.inj h
    exact ⟨rfl, Nat.zero_le _⟩
  · dsimp only at h
    split at h
    · obtain ⟨rfl, rfl⟩ := Charge.granted.inj h
      exact ⟨rfl, Nat.sub_le _ _⟩
    · cases h
    · obtain ⟨rfl, rfl⟩ := Charge.granted.inj h
      exact ⟨rfl, Nat.zero_le _⟩

/-- Every permit that a pacer charges is granted by its limiter. -/
theorem covers_charge (hpace : pacer.pace = some pace)
    (hcovers : pacer.limiter.Covers pace start now granted)
    (h : pacer.charge now remaining = .granted next left) :
    next.limiter.Covers pace start now (granted + (remaining - left : Int)) := by
  unfold charge at h
  rw [hpace] at h
  dsimp only at h
  split at h
  · rename_i hgrant
    obtain ⟨rfl, rfl⟩ := Charge.granted.inj h
    have hstep : ((min remaining pace.burst : Nat) : Int) =
        remaining - (remaining - min remaining pace.burst : Nat) := by omega
    rw [← hstep]
    exact hcovers.request hgrant
  · cases h
  · rename_i hinsufficient
    exact absurd hinsufficient (Limiter.request_ne_insufficient (Nat.min_le_right _ _))

end Pacer

variable [Quantity α] {pace : Pace α}

theorem Pace.period_pos {rate : Option α} (h : ofRate rate = some pace) : 1 ≤ pace.period := by
  unfold ofRate at h
  split at h
  · cases h
  · obtain rfl := Option.some.inj h
    dsimp only
    split
    · exact Nat.le_max_right _ _
    · exact le_rfl

theorem Pacer.permits_le (pacer : Pacer α) (amount : α) :
    pacer.permits amount ≤ permitsFor amount := by
  unfold permits
  split
  · exact le_rfl
  · exact Nat.zero_le _

theorem Pacer.permits_eq {pacer : Pacer α} (h : pacer.pace = some pace) (amount : α) :
    pacer.permits amount = permitsFor amount :=
  if_pos (by rw [h, Option.isSome_some])

namespace Quantity

theorem ceilUpTo_pos {limit : Nat} {q : Rat} (hlimit : 1 ≤ limit) (hpos : 0 < q) :
    1 ≤ ceilUpTo limit q := by
  have hceil : 0 < q.ceil := Int.cast_pos.1 (hpos.trans_le Rat.le_ceil)
  exact le_min (Int.pos_iff_toNat_pos.1 hceil) hlimit

/-- The exact value of a quantity; zero for one that is not finite. -/
def exact (x : α) : Rat := (value? x).getD 0

/-- A quantity that does not exceed the most permits that are charged for any. -/
def IsChargeable (x : α) : Prop := exact x ≤ Word.greatest 64

/-- The permits for an amount are not less than the amount. -/
theorem exact_le_permitsFor {x : α} (h : IsChargeable x) : exact x ≤ permitsFor x := by
  unfold permitsFor
  split
  · rename_i q hq
    obtain ⟨hvalue, hpos⟩ := positive?_eq_some_iff.1 hq
    rw [IsChargeable, exact, hvalue, Option.getD_some] at h
    rw [exact, hvalue, Option.getD_some, ceilUpTo, Nat.cast_min]
    refine le_min ?_ h
    calc q ≤ (q.ceil : Rat) := Rat.le_ceil
      _ ≤ ((q.ceil.toNat : Int) : Rat) := Int.cast_le.2 (Int.self_le_toNat _)
      _ = (q.ceil.toNat : Rat) := Int.cast_natCast _
  · rename_i hnone
    have hle : exact x ≤ 0 := by
      by_contra hpos
      cases hvalue : value? x with
      | none => simp [exact, hvalue] at hpos
      | some q =>
        rw [exact, hvalue, Option.getD_some, not_le] at hpos
        rw [positive?_eq_some_iff.2 ⟨hvalue, hpos⟩] at hnone
        cases hnone
    exact hle.trans (Nat.cast_nonneg _)

end Quantity
end TableCopy
