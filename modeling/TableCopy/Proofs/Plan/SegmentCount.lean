import TableCopy.Plan.Capacity
import Mathlib.Algebra.Order.Floor.Div

/-!
# The segment count of a capacity

A plan has the least number of segments that covers the read units and the bytes of a table,
each segment its portion of both, unless that is more than the configured number. Everything
else about the count follows from this: it is clamped, and it is monotone in each of the five
numbers it is made of.

The count is computed on words. That this is the same is stated twice: as an equation on
numbers, and as the success of a computation that stops at the first step whose result does
not exist or does not fit.
-/

namespace TableCopy

/-! ## Demand -/

namespace TableCapacity

/-- Units to read a table with, none if it has no fixed capacity. -/
def unitsToRead (capacity : TableCapacity) : Nat := (capacity.readUnits.getD 0).toNat

/-- Bytes of a table, none if its size is not known. -/
def bytes (capacity : TableCapacity) : Nat := (capacity.sizeBytes.getD 0).toNat

end TableCapacity

namespace PlanningConfig

/-- Most segments that a plan may have. -/
def cap (config : PlanningConfig) : Nat := max 1 config.maxSegments.toNat

/-- Whether a number of segments, each with its portion, is enough for units and bytes. -/
def Covers (config : PlanningConfig) (units bytes segments : Nat) : Prop :=
  units ≤ segments * max 1 config.readUnitsPerSegment.toNat ∧
    bytes ≤ segments * max 1 config.bytesPerSegment.toNat

/-- The portions that units and bytes come to, whichever are more. -/
def demand (config : PlanningConfig) (units bytes : Nat) : Nat :=
  max (units ⌈/⌉ max 1 config.readUnitsPerSegment.toNat)
    (bytes ⌈/⌉ max 1 config.bytesPerSegment.toNat)

variable {config config' : PlanningConfig} {units units' bytes bytes' segments : Nat}

/-- The demand is the least number of segments that covers it. -/
theorem demand_le_iff : config.demand units bytes ≤ segments ↔
    config.Covers units bytes segments := by
  have hpos (portion : Nat) : 0 < max 1 portion := Nat.lt_of_lt_of_le Nat.one_pos (le_max_left ..)
  rw [demand, max_le_iff, ceilDiv_le_iff_le_mul (hpos _), ceilDiv_le_iff_le_mul (hpos _), Covers,
    Nat.mul_comm segments, Nat.mul_comm segments]

theorem covers_demand (config : PlanningConfig) (units bytes : Nat) :
    config.Covers units bytes (config.demand units bytes) :=
  demand_le_iff.1 le_rfl

/-- What has units is not covered without segments. -/
theorem demand_pos (hunits : 0 < units) : 1 ≤ config.demand units bytes := by
  by_contra hzero
  have hnone := (demand_le_iff.1 (Nat.not_lt.1 hzero)).1
  omega

/-- More units, more bytes and smaller portions make for more demand. -/
theorem demand_mono (hunits : units ≤ units') (hbytes : bytes ≤ bytes')
    (hportion : config'.readUnitsPerSegment ≤ config.readUnitsPerSegment)
    (hportion' : config'.bytesPerSegment ≤ config.bytesPerSegment) :
    config.demand units bytes ≤ config'.demand units' bytes' := by
  obtain ⟨hcovers, hcovers'⟩ := config'.covers_demand units' bytes'
  refine demand_le_iff.2 ⟨hunits.trans (hcovers.trans ?_), hbytes.trans (hcovers'.trans ?_)⟩
  · exact Nat.mul_le_mul_left _ (max_le_max_left 1 (UInt64.le_iff_toNat_le.1 hportion))
  · exact Nat.mul_le_mul_left _ (max_le_max_left 1 (UInt64.le_iff_toNat_le.1 hportion'))

/-- A count below the cap covers the demand, and one segment fewer does not. -/
theorem covers_of_min_ne_cap {total : Nat}
    (htotal : total = min config.cap (config.demand units bytes)) (hpos : 1 ≤ total)
    (hcap : total ≠ config.cap) :
    config.Covers units bytes total ∧ ¬ config.Covers units bytes (total - 1) := by
  have hdemand : total = config.demand units bytes := by omega
  rw [← demand_le_iff, ← demand_le_iff]
  omega

end PlanningConfig

/-! ## Words -/

/-- A quotient rounded up is the quotient, and one more if there is a rest. -/
theorem ceilDiv_eq_ite {a b : Nat} (hb : 0 < b) :
    a ⌈/⌉ b = if a % b = 0 then a / b else a / b + 1 := by
  have hsum : b * (a / b) + a % b = a := Nat.div_add_mod a b
  have hrest : a % b < b := Nat.mod_lt a hb
  rw [Nat.ceilDiv_eq_add_pred_div]
  split
  · rw [Nat.div_eq_iff hb, Nat.mul_comm]
    omega
  · rw [Nat.div_eq_iff hb, Nat.mul_comm, Nat.mul_add, Nat.mul_one]
    omega

/-- Rounding a quotient with a rest up gives no more than was divided. -/
theorem div_add_one_le {a b : Nat} (hrest : a % b ≠ 0) : a / b + 1 ≤ a := by
  rcases Nat.eq_zero_or_pos b with rfl | hb
  · rw [Nat.mod_zero] at hrest
    rw [Nat.div_zero]
    omega
  · have hsum : b * (a / b) + a % b = a := Nat.div_add_mod a b
    have hquotient : a / b ≤ b * (a / b) := Nat.le_mul_of_pos_left _ hb
    omega

theorem toNat_div_add_one_lt {a b : UInt64} (hrest : a % b ≠ 0) :
    (a / b).toNat + 1 < UInt64.size := by
  have hrest' : a.toNat % b.toNat ≠ 0 := by
    rw [← UInt64.toNat_mod]
    exact fun hzero => hrest (UInt64.toNat_inj.1 hzero)
  rw [UInt64.toNat_div]
  exact (div_add_one_le hrest').trans_lt a.toNat_lt

theorem toNat_divCeil {a b : UInt64} (hb : 0 < b.toNat) :
    (divCeil a b).toNat = a.toNat ⌈/⌉ b.toNat := by
  have hzero : a % b = 0 ↔ a.toNat % b.toNat = 0 := by
    rw [← UInt64.toNat_inj, UInt64.toNat_mod, UInt64.toNat_zero]
  rw [divCeil, ceilDiv_eq_ite hb]
  by_cases hrest : a % b = 0
  · rw [if_pos hrest, if_pos (hzero.1 hrest), UInt64.toNat_div]
  · have hfits : (a / b).toNat + 1 < UInt64.size := toNat_div_add_one_lt hrest
    rw [if_neg hrest, if_neg (mt hzero.2 hrest), UInt64.toNat_add, UInt64.toNat_one,
      Nat.mod_eq_of_lt hfits, UInt64.toNat_div]

theorem toNat_max_one_pos (a : UInt64) : 0 < (max a 1).toNat := by
  rw [UInt64.toNat_max]
  exact Nat.lt_of_lt_of_le Nat.one_pos (le_max_right ..)

/-- Portions that an amount comes to, none if it is not known. -/
def portions (amount : Option UInt64) (portion : UInt64) : UInt64 :=
  match amount with
  | some amount => divCeil amount (max portion 1)
  | none => 0

theorem toNat_portions (amount : Option UInt64) (portion : UInt64) :
    (portions amount portion).toNat = (amount.getD 0).toNat ⌈/⌉ max 1 portion.toNat := by
  cases amount with
  | none => exact (zero_ceilDiv (max 1 portion.toNat)).symm
  | some amount =>
    rw [portions, toNat_divCeil (toNat_max_one_pos portion), UInt64.toNat_max, UInt64.toNat_one,
      max_comm, Option.getD_some]

/-! ## Steps that may fail -/

/-- A quotient rounded up, unless there is none or it is no word. -/
def tryDivCeil (a b : UInt64) : Option UInt64 :=
  if b = 0 then none
  else if a % b = 0 then some (a / b)
  else if (a / b).toNat + 1 < UInt64.size then some (a / b + 1)
  else none

/-- The word nearest to one between two bounds, unless the bounds cross. -/
def tryClamp (a least most : UInt64) : Option UInt64 :=
  if least ≤ most then some (min (max a least) most) else none

/-- The narrow word of the same number, unless there is none. -/
def tryNarrow (a : UInt64) : Option UInt32 :=
  if a.toNat < UInt32.size then some a.toUInt32 else none

def tryPortions (amount : Option UInt64) (portion : UInt64) : Option UInt64 :=
  match amount with
  | some amount => tryDivCeil amount (max portion 1)
  | none => some 0

/-- The segment count of a table, unless a step on the way has no result. -/
def PlanningConfig.trySegments (config : PlanningConfig) (units size : Option UInt64) :
    Option UInt32 := do
  let forUnits ← tryPortions units config.readUnitsPerSegment
  let forSize ← tryPortions size config.bytesPerSegment
  let total ← tryClamp (max forUnits forSize) 1 (max config.maxSegments 1).toUInt64
  tryNarrow total

theorem tryDivCeil_eq {a b : UInt64} (hb : 0 < b.toNat) : tryDivCeil a b = some (divCeil a b) := by
  have hne : b ≠ 0 := by
    rintro rfl
    exact hb.ne rfl
  rw [tryDivCeil, divCeil, if_neg hne]
  split
  · rfl
  · rename_i hrest
    rw [if_pos (toNat_div_add_one_lt hrest)]

theorem tryPortions_eq (amount : Option UInt64) (portion : UInt64) :
    tryPortions amount portion = some (portions amount portion) := by
  cases amount with
  | none => rfl
  | some amount => exact tryDivCeil_eq (toNat_max_one_pos portion)

/-! ## Segment counts -/

/-- A table has units to read it with, or it reports none or zero of them. -/
theorem TableCapacity.units_read_cases (capacity : TableCapacity) :
    (capacity.units .read = none ∧
        (capacity.readUnits = none ∨ capacity.readUnits = some 0)) ∨
      ∃ units : UInt64, capacity.units .read = some units ∧ capacity.readUnits = some units ∧
        0 < units.toNat := by
  cases hread : capacity.readUnits with
  | none => exact .inl ⟨by rw [units, hread]; rfl, .inl rfl⟩
  | some units =>
    by_cases hpos : 0 < units
    · refine .inr ⟨units, ?_, rfl, UInt64.lt_iff_toNat_lt.1 hpos⟩
      exact Option.filter_eq_some_iff.2 ⟨hread, decide_eq_true hpos⟩
    · have hzero : units = 0 := UInt64.toNat_inj.1 (Nat.eq_zero_of_not_pos hpos)
      subst hzero
      exact .inl ⟨by rw [TableCapacity.units, hread]; rfl, .inr rfl⟩

namespace SegmentPlan

/-- The segment count of a table, on words. -/
def count (config : PlanningConfig) (units size : Option UInt64) : UInt64 :=
  min (max (max (portions units config.readUnitsPerSegment)
    (portions size config.bytesPerSegment)) 1) (max config.maxSegments 1).toUInt64

variable {capacity : TableCapacity} {config : PlanningConfig} {units : UInt64}

theorem ofCapacity_of_units (hunits : capacity.units .read = some units) :
    ofCapacity capacity config =
      .ok ⟨(count config (some units) capacity.sizeBytes).toUInt32, .capacity⟩ := by
  rw [ofCapacity, hunits]
  rfl

theorem toNat_cap (config : PlanningConfig) :
    (max config.maxSegments 1).toUInt64.toNat = config.cap := by
  rw [UInt32.toNat_toUInt64, UInt32.toNat_max, UInt32.toNat_one, max_comm, PlanningConfig.cap]

theorem toNat_count (config : PlanningConfig) (units size : Option UInt64) :
    (count config units size).toNat =
      min config.cap (max 1 (config.demand (units.getD 0).toNat (size.getD 0).toNat)) := by
  rw [count, UInt64.toNat_min, UInt64.toNat_max, UInt64.toNat_max, toNat_portions, toNat_portions,
    toNat_cap, UInt64.toNat_one, min_comm, max_comm _ 1, PlanningConfig.demand]

/-- The segment count is a narrow word. -/
theorem toNat_count_lt (config : PlanningConfig) (units size : Option UInt64) :
    (count config units size).toNat < UInt32.size := by
  rw [count, UInt64.toNat_min, UInt32.toNat_toUInt64]
  exact (min_le_right ..).trans_lt (max config.maxSegments 1).toNat_lt

/-- No step on the way to a segment count fails. -/
theorem trySegments_eq (config : PlanningConfig) (units size : Option UInt64) :
    config.trySegments units size = some (count config units size).toUInt32 := by
  have hbounds : 1 ≤ (max config.maxSegments 1).toUInt64 := by
    rw [UInt64.le_iff_toNat_le, toNat_cap]
    exact le_max_left ..
  rw [PlanningConfig.trySegments, tryPortions_eq, tryPortions_eq]
  simp only [Option.bind_eq_bind, Option.bind_some, tryClamp, if_pos hbounds]
  exact if_pos (toNat_count_lt config units size)

/-- The segment count of a plan is the demand of its table, between one and the cap. -/
theorem toNat_totalSegments (hunits : 0 < units.toNat) (size : Option UInt64) :
    (count config (some units) size).toUInt32.toNat =
      min config.cap (config.demand units.toNat (size.getD 0).toNat) := by
  have hdemand : 1 ≤ config.demand units.toNat (size.getD 0).toNat :=
    PlanningConfig.demand_pos hunits
  rw [UInt64.toNat_toUInt32, Nat.mod_eq_of_lt (toNat_count_lt ..), toNat_count, Option.getD_some,
    max_eq_right hdemand]

/-- How a plan comes from a capacity. -/
structure IsOf (plan : SegmentPlan) (capacity : TableCapacity) (config : PlanningConfig) :
    Prop where
  source_eq : plan.source = .capacity
  units_pos : 0 < capacity.unitsToRead
  computed : config.trySegments capacity.readUnits capacity.sizeBytes = some plan.totalSegments
  total_eq : plan.totalSegments.toNat =
    min config.cap (config.demand capacity.unitsToRead capacity.bytes)

theorem ofCapacity_cases (capacity : TableCapacity) (config : PlanningConfig) :
    (ofCapacity capacity config = .error (.missingCapacity capacity.table .read) ∧
        (capacity.readUnits = none ∨ capacity.readUnits = some 0)) ∨
      ∃ plan : SegmentPlan, ofCapacity capacity config = .ok plan ∧ plan.IsOf capacity config := by
  obtain ⟨hnone, hreported⟩ | ⟨units, hunits, hread, hpos⟩ := capacity.units_read_cases
  · refine .inl ⟨?_, hreported⟩
    rw [ofCapacity, hnone]
  · have hamount : capacity.unitsToRead = units.toNat := by
      rw [TableCapacity.unitsToRead, hread, Option.getD_some]
    refine .inr ⟨_, ofCapacity_of_units hunits, rfl, hamount.symm ▸ hpos, ?_, ?_⟩
    · rw [hread]
      exact trySegments_eq ..
    · rw [hamount]
      exact toNat_totalSegments hpos _

namespace IsOf

variable {plan plan' : SegmentPlan} {capacity' : TableCapacity} {config' : PlanningConfig}

theorem readUnits_ne (h : plan.IsOf capacity config) :
    ¬ (capacity.readUnits = none ∨ capacity.readUnits = some 0) := by
  have hpos := h.units_pos
  rintro (hnone | hzero)
  · rw [TableCapacity.unitsToRead, hnone] at hpos
    exact absurd hpos (by decide)
  · rw [TableCapacity.unitsToRead, hzero] at hpos
    exact absurd hpos (by decide)

theorem one_le (h : plan.IsOf capacity config) : 1 ≤ plan.totalSegments.toNat := by
  rw [h.total_eq]
  exact le_min (le_max_left ..) (PlanningConfig.demand_pos h.units_pos)

theorem le_cap (h : plan.IsOf capacity config) : plan.totalSegments.toNat ≤ config.cap := by
  rw [h.total_eq]
  exact min_le_left ..

theorem covers (h : plan.IsOf capacity config) (hcap : plan.totalSegments.toNat ≠ config.cap) :
    config.Covers capacity.unitsToRead capacity.bytes plan.totalSegments.toNat ∧
      ¬ config.Covers capacity.unitsToRead capacity.bytes (plan.totalSegments.toNat - 1) :=
  PlanningConfig.covers_of_min_ne_cap h.total_eq h.one_le hcap

theorem mono (h : plan.IsOf capacity config) (h' : plan'.IsOf capacity' config')
    (hunits : capacity.unitsToRead ≤ capacity'.unitsToRead)
    (hbytes : capacity.bytes ≤ capacity'.bytes)
    (hportion : config'.readUnitsPerSegment ≤ config.readUnitsPerSegment)
    (hportion' : config'.bytesPerSegment ≤ config.bytesPerSegment)
    (hmost : config.maxSegments ≤ config'.maxSegments) :
    plan.totalSegments ≤ plan'.totalSegments := by
  rw [UInt32.le_iff_toNat_le, h.total_eq, h'.total_eq]
  refine min_le_min ?_ (PlanningConfig.demand_mono hunits hbytes hportion hportion')
  exact max_le_max_left 1 (UInt32.le_iff_toNat_le.1 hmost)

end IsOf

/-- The segment count of a capacity is a clamped ceiling. It is missing exactly if the table
reports no units to read it with. Otherwise no step on the way to it fails, and it is the number
of portions that the units or the bytes come to, at most the cap. So it grows with units, bytes
and cap and falls with the portions, and below the cap it is the least that covers both. -/
theorem ofCapacity_clamped_ceiling (capacity : TableCapacity) (config : PlanningConfig) :
    ((∃ e, ofCapacity capacity config = .error e) ↔
      capacity.readUnits = none ∨ capacity.readUnits = some 0) ∧
    (∀ e, ofCapacity capacity config = .error e →
      e = .missingCapacity capacity.table .read) ∧
    ∀ plan, ofCapacity capacity config = .ok plan →
      plan.source = .capacity ∧
      config.trySegments capacity.readUnits capacity.sizeBytes = some plan.totalSegments ∧
      plan.totalSegments.toNat = min (max 1 config.maxSegments.toNat)
        (max (capacity.unitsToRead ⌈/⌉ max 1 config.readUnitsPerSegment.toNat)
          (capacity.bytes ⌈/⌉ max 1 config.bytesPerSegment.toNat)) ∧
      1 ≤ plan.totalSegments.toNat ∧ plan.totalSegments.toNat ≤ max 1 config.maxSegments.toNat ∧
      (plan.totalSegments.toNat ≠ max 1 config.maxSegments.toNat →
        config.Covers capacity.unitsToRead capacity.bytes plan.totalSegments.toNat ∧
        ¬ config.Covers capacity.unitsToRead capacity.bytes (plan.totalSegments.toNat - 1)) ∧
      ∀ capacity' config' plan', ofCapacity capacity' config' = .ok plan' →
        capacity.unitsToRead ≤ capacity'.unitsToRead → capacity.bytes ≤ capacity'.bytes →
        config'.readUnitsPerSegment ≤ config.readUnitsPerSegment →
        config'.bytesPerSegment ≤ config.bytesPerSegment →
        config.maxSegments ≤ config'.maxSegments →
        plan.totalSegments ≤ plan'.totalSegments := by
  have hplan {capacity config} {plan : SegmentPlan} (hok : ofCapacity capacity config = .ok plan) :
      plan.IsOf capacity config := by
    obtain ⟨herror, _⟩ | ⟨plan', hok', h⟩ := ofCapacity_cases capacity config
    · cases hok.symm.trans herror
    · cases hok.symm.trans hok'
      exact h
  refine ⟨?_, ?_, ?_⟩
  · obtain ⟨herror, hreported⟩ | ⟨plan, hok, h⟩ := ofCapacity_cases capacity config
    · exact ⟨fun _ => hreported, fun _ => ⟨_, herror⟩⟩
    · refine ⟨?_, fun hreported => (h.readUnits_ne hreported).elim⟩
      rintro ⟨e, herror⟩
      cases hok.symm.trans herror
  · intro e he
    obtain ⟨herror, _⟩ | ⟨plan, hok, _⟩ := ofCapacity_cases capacity config
    · cases he.symm.trans herror
      rfl
    · cases he.symm.trans hok
  · intro plan hok
    have h := hplan hok
    exact ⟨h.source_eq, h.computed, h.total_eq, h.one_le, h.le_cap, h.covers,
      fun _ _ _ hok' => h.mono (hplan hok')⟩

/-- The greatest number of units in portions of `2 ^ 33`, and in portions of nothing. -/
theorem ofCapacity_clamped_ceiling_greatest :
    ofCapacity ⟨"orders", some 18446744073709551615, none, none⟩ ⟨8589934592, 0, 4294967295⟩ =
        .ok ⟨2147483648, .capacity⟩ ∧
      PlanningConfig.Covers ⟨8589934592, 0, 4294967295⟩ 18446744073709551615 0 2147483648 ∧
      ¬ PlanningConfig.Covers ⟨8589934592, 0, 4294967295⟩ 18446744073709551615 0 2147483647 ∧
      ∀ plan, ofCapacity ⟨"orders", some 18446744073709551615, none, none⟩ ⟨0, 0, 4294967295⟩ =
        .ok plan → 2147483648 ≤ plan.totalSegments := by
  have hok : ofCapacity ⟨"orders", some 18446744073709551615, none, none⟩
      ⟨8589934592, 0, 4294967295⟩ = .ok ⟨2147483648, .capacity⟩ := by decide +kernel
  obtain ⟨-, -, hplan⟩ := ofCapacity_clamped_ceiling
    ⟨"orders", some 18446744073709551615, none, none⟩ ⟨8589934592, 0, 4294967295⟩
  obtain ⟨-, -, -, -, -, hcovers, hmono⟩ := hplan _ hok
  obtain ⟨hleast, hfewer⟩ := hcovers (by decide)
  refine ⟨hok, hleast, hfewer, ?_⟩
  intro plan hok'
  exact hmono _ _ plan hok' (by decide) (by decide) (by decide) (by decide) (by decide)

end SegmentPlan
end TableCopy
