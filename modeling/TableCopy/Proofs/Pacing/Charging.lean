import Mathlib.Algebra.Order.Floor.Div
import Mathlib.Logic.Relation
import TableCopy.Proofs.Pacing.Limiter

/-!
# How an amount is charged

An acquisition charges the permits of its amount in steps, each of which the limiter grants
or puts off, while other acquisitions use the same limiter in between. Whatever they do to it,
the steps are the same ones: the whole burst as long as more remains, and what is left in the
end. As long as no time passes, permits are granted until the burst is spent.
-/

namespace TableCopy

variable {α : Type}

namespace Limiter

/-- The permits that are spent at a time: those whose refill is not over. -/
def spent (pace : Pace α) (now : Nat) (limiter : Limiter) : Nat :=
  (limiter.arrival.getD (now + pace.period) - (now + pace.period)) ⌈/⌉ pace.period

/-- So many permits were granted at one time to a limiter that had none spent. -/
def Owes (pace : Pace α) (now : Nat) (limiter : Limiter) (permits : Nat) : Prop :=
  limiter.arrival.getD (now + pace.period) = now + pace.period * (permits + 1)

variable {pace : Pace α} {limiter next : Limiter} {now permits owed : Nat}

theorem owes_new (pace : Pace α) (now : Nat) : Owes pace now {} 0 := by
  rw [Owes, zero_add, mul_one]
  rfl

theorem Owes.spent_eq (h : Owes pace now limiter owed) (hperiod : 1 ≤ pace.period) :
    limiter.spent pace now = owed := by
  have hahead : now + pace.period * (owed + 1) - (now + pace.period) = pace.period • owed := by
    rw [Nat.add_sub_add_left, mul_add, mul_one, Nat.add_sub_cancel, smul_eq_mul]
  rw [spent, h, hahead, smul_ceilDiv hperiod]

/-- A request is refused only if it asks for more than the burst. -/
theorem request_eq_insufficient_iff :
    limiter.request pace now permits = .insufficient ↔ pace.burst < permits := by
  refine ⟨fun h => ?_, fun h => if_pos h⟩
  by_contra hle
  exact request_ne_insufficient (Nat.le_of_not_lt hle) h

/-- A request within the burst is granted if its last permit arrives no later than the burst
allows, and moves the next arrival on. -/
theorem request_eq_granted_iff (hburst : permits ≤ pace.burst) :
    limiter.request pace now permits = .granted next ↔
      limiter.arrival.getD (now + pace.period) + pace.period * (permits - 1) ≤
          now + pace.period * pace.burst ∧
        next = ⟨some (max (limiter.arrival.getD (now + pace.period)) now +
          pace.period * permits)⟩ := by
  rw [request, if_neg (Nat.not_lt.2 hburst)]
  dsimp only
  split
  · rename_i hearly
    exact iff_of_false Grant.noConfusion fun h => by omega
  · rename_i hearly
    exact ⟨fun h => ⟨by omega, (Grant.granted.inj h).symm⟩, fun h => congrArg _ h.2.symm⟩

/-- A request within the burst is granted at once if the permits that are spent leave room
for it. -/
theorem exists_granted_iff (hperiod : 1 ≤ pace.period) (hpos : 1 ≤ permits)
    (hburst : permits ≤ pace.burst) :
    (∃ next, limiter.request pace now permits = .granted next) ↔
      limiter.spent pace now + permits ≤ pace.burst := by
  have hlast : pace.period * permits = pace.period * (permits - 1) + pace.period := by
    rw [← Nat.mul_succ, Nat.succ_eq_add_one, Nat.sub_add_cancel hpos]
  have hroom : pace.period * (pace.burst - permits) + pace.period * permits =
      pace.period * pace.burst := by
    rw [← mul_add, Nat.sub_add_cancel hburst]
  simp only [request_eq_granted_iff hburst, exists_and_left, exists_eq, and_true]
  rw [← Nat.le_sub_iff_add_le hburst, spent, ceilDiv_le_iff_le_smul hperiod, smul_eq_mul]
  omega

/-- A limiter that owes permits owes those that it grants as well. -/
theorem Owes.request (h : Owes pace now limiter owed) (hburst : permits ≤ pace.burst)
    (hgrant : limiter.request pace now permits = .granted next) :
    Owes pace now next (owed + permits) := by
  obtain ⟨-, rfl⟩ := (request_eq_granted_iff hburst).1 hgrant
  have hahead : now ≤ now + pace.period * (owed + 1) := Nat.le_add_right _ _
  rw [Owes, Option.getD_some, h, Nat.max_eq_left hahead, add_assoc, ← mul_add,
    add_right_comm owed 1 permits]

theorem Owes.exists_granted (h : Owes pace now limiter owed) (hperiod : 1 ≤ pace.period)
    (hpos : 1 ≤ permits) (hroom : owed + permits ≤ pace.burst) :
    ∃ next, limiter.request pace now permits = .granted next ∧
      Owes pace now next (owed + permits) := by
  have hburst : permits ≤ pace.burst := (Nat.le_add_left _ _).trans hroom
  rw [← h.spent_eq hperiod] at hroom
  obtain ⟨next, hgrant⟩ := (exists_granted_iff hperiod hpos hburst).2 hroom
  exact ⟨next, hgrant, h.request hburst hgrant⟩

theorem Owes.exists_notBefore (h : Owes pace now limiter owed) (hperiod : 1 ≤ pace.period)
    (hpos : 1 ≤ permits) (hburst : permits ≤ pace.burst) (hfull : pace.burst < owed + permits) :
    ∃ time, limiter.request pace now permits = .notBefore time := by
  cases hrequest : limiter.request pace now permits with
  | granted next =>
    have hroom := (exists_granted_iff hperiod hpos hburst).1 ⟨next, hrequest⟩
    rw [h.spent_eq hperiod] at hroom
    omega
  | notBefore time => exact ⟨time, rfl⟩
  | insufficient => exact absurd hrequest (request_ne_insufficient hburst)

/-- A request that was put off is granted at the time that it was put off to. -/
theorem exists_granted_of_notBefore {time : Nat} (hpos : 1 ≤ permits)
    (hburst : permits ≤ pace.burst) (h : limiter.request pace now permits = .notBefore time) :
    ∃ next, limiter.request pace time permits = .granted next := by
  rw [request, if_neg (Nat.not_lt.2 hburst)] at h
  dsimp only at h
  split at h
  · rename_i hearly
    obtain rfl := Grant.notBefore.inj h
    cases harrival : limiter.arrival with
    | none =>
      -- A limiter that was not used before has its whole burst to give.
      have hlast : pace.period * permits = pace.period * (permits - 1) + pace.period := by
        rw [← Nat.mul_succ, Nat.succ_eq_add_one, Nat.sub_add_cancel hpos]
      have hwhole := Nat.mul_le_mul_left pace.period hburst
      rw [harrival, Option.getD_none] at hearly
      omega
    | some arrival =>
      refine ⟨_, (request_eq_granted_iff hburst).2 ⟨?_, rfl⟩⟩
      rw [harrival, Option.getD_some, Option.getD_some]
      omega
  · cases h

end Limiter

section Permits

variable [Quantity α] {pace : Pace α} {rate : Option α} {amount : α} {q : Rat}

/-- A burst is a positive word of half the width of the permits. -/
theorem Pace.burst_bounds (h : ofRate rate = some pace) :
    1 ≤ pace.burst ∧ pace.burst ≤ Word.greatest 32 := by
  unfold ofRate at h
  split at h
  · cases h
  · obtain rfl := Option.some.inj h
    dsimp only
    generalize Quantity.value? (α := α) _ = value
    cases value with
    | none => decide
    | some q => exact ⟨Nat.le_max_right _ _, max_le (Quantity.ceilUpTo_le _ _) (by decide)⟩

theorem permitsFor_of_pos (hvalue : Quantity.value? amount = some q) (hpos : 0 < q) :
    permitsFor amount = min q.ceil.toNat (Word.greatest 64) := by
  rw [permitsFor, Quantity.positive?_eq_some_iff.2 ⟨hvalue, hpos⟩]
  rfl

theorem permitsFor_of_not_pos (h : ∀ q, Quantity.value? amount = some q → q ≤ 0) :
    permitsFor amount = 1 := by
  cases hpositive : Quantity.positive? amount with
  | none => rw [permitsFor, hpositive]
  | some q =>
    obtain ⟨hvalue, hpos⟩ := Quantity.positive?_eq_some_iff.1 hpositive
    exact absurd (h q hvalue) (not_le.2 hpos)

theorem permitsFor_pos (amount : α) : 1 ≤ permitsFor amount := by
  unfold permitsFor
  split
  · rename_i q hq
    exact Quantity.ceilUpTo_pos (by decide) (Quantity.positive?_eq_some_iff.1 hq).2
  · exact le_rfl

end Permits

namespace Pacer

variable {pacer next : Pacer α} {pace : Pace α} {now time remaining left : Nat}

theorem exists_of_charge_granted (hpace : pacer.pace = some pace)
    (h : pacer.charge now remaining = .granted next left) :
    ∃ limiter, pacer.limiter.request pace now (min remaining pace.burst) = .granted limiter ∧
      next = { pacer with limiter } ∧ left = remaining - min remaining pace.burst := by
  rw [charge, hpace] at h
  dsimp only at h
  split at h
  · rename_i limiter hrequest
    obtain ⟨rfl, rfl⟩ := Charge.granted.inj h
    exact ⟨limiter, hrequest, by rw [hpace], rfl⟩
  · cases h
  · rename_i hinsufficient
    exact absurd hinsufficient (Limiter.request_ne_insufficient (Nat.min_le_right _ _))

theorem charge_of_granted {limiter : Limiter} (hpace : pacer.pace = some pace)
    (h : pacer.limiter.request pace now (min remaining pace.burst) = .granted limiter) :
    pacer.charge now remaining =
      .granted { pacer with limiter } (remaining - min remaining pace.burst) := by
  rw [charge, hpace]
  dsimp only
  rw [h]

theorem charge_of_notBefore (hpace : pacer.pace = some pace)
    (h : pacer.limiter.request pace now (min remaining pace.burst) = .notBefore time) :
    pacer.charge now remaining = .notBefore time := by
  rw [charge, hpace]
  dsimp only
  rw [h]

end Pacer

/-- An acquisition under way, with the permits that its steps were granted so far. -/
structure Acquisition (α : Type) where
  pacer : Pacer α
  now : Nat
  remaining : Nat
  steps : List Nat := []

namespace Acquisition

/-- What an acquisition does itself: its next step is granted, or put off, so that it waits. -/
inductive OwnStep : Acquisition α → Acquisition α → Prop
  | grant {a next left} (hremaining : a.remaining ≠ 0)
      (h : a.pacer.charge a.now a.remaining = .granted next left) :
    OwnStep a { a with
      pacer := next, remaining := left, steps := a.steps ++ [a.remaining - left] }
  | await {a time} (hremaining : a.remaining ≠ 0)
      (h : a.pacer.charge a.now a.remaining = .notBefore time) : OwnStep a { a with now := time }

/-- What happens in the course of an acquisition: it makes a step of its own, or others use the
limiter, and time passes. -/
inductive Step : Acquisition α → Acquisition α → Prop
  | own {a b} (h : OwnStep a b) : Step a b
  | meanwhile {a} (limiter : Limiter) (now : Nat) :
    Step a { a with pacer := { a.pacer with limiter }, now }

/-- What an acquisition comes to that is left alone. -/
abbrev LeadsAlone : Acquisition α → Acquisition α → Prop := Relation.ReflTransGen OwnStep

/-- What an acquisition comes to. -/
abbrev Leads : Acquisition α → Acquisition α → Prop := Relation.ReflTransGen Step

theorem LeadsAlone.leads {a b : Acquisition α} (h : LeadsAlone a b) : Leads a b :=
  Relation.ReflTransGen.mono (fun _ _ => Step.own) _ _ h

/-- The steps of an acquisition of so many permits: each takes as many of them as the burst
allows, so that only the last one is smaller. -/
structure IsCharging (pace : Pace α) (permits : Nat) (a : Acquisition α) : Prop where
  pace_eq : a.pacer.pace = some pace
  step_bounds : ∀ step ∈ a.steps, 1 ≤ step ∧ step ≤ pace.burst
  sum_add : a.steps.sum + a.remaining = permits
  whole : a.remaining = permits - pace.burst * a.steps.length
  length_lt : pace.burst * a.steps.length < permits + pace.burst

variable {pace : Pace α} {permits : Nat} {a b : Acquisition α}

theorem isCharging_start {pacer : Pacer α} (hpace : pacer.pace = some pace)
    (hburst : 1 ≤ pace.burst) (now : Nat) :
    IsCharging pace permits { pacer, now, remaining := permits } where
  pace_eq := hpace
  step_bounds := nofun
  sum_add := Nat.zero_add _
  whole := rfl
  length_lt := Nat.add_pos_right _ hburst

theorem IsCharging.ownStep (h : IsCharging pace permits a) (hburst : 1 ≤ pace.burst)
    (hstep : OwnStep a b) : IsCharging pace permits b := by
  cases hstep with
  | await _ _ => exact ⟨h.pace_eq, h.step_bounds, h.sum_add, h.whole, h.length_lt⟩
  | grant hremaining hcharge =>
    obtain ⟨limiter, -, rfl, rfl⟩ := Pacer.exists_of_charge_granted h.pace_eq hcharge
    have htaken : a.remaining - (a.remaining - min a.remaining pace.burst) =
        min a.remaining pace.burst := by omega
    have hwhole := h.whole
    have hlength : pace.burst * (a.steps.length + 1) =
        pace.burst * a.steps.length + pace.burst := Nat.mul_succ _ _
    refine ⟨h.pace_eq, ?_, ?_, ?_, ?_⟩
    · rw [List.forall_mem_append, List.forall_mem_singleton, htaken]
      exact ⟨h.step_bounds, by omega, Nat.min_le_right _ _⟩
    · have hsum := h.sum_add
      dsimp only
      rw [List.sum_append, List.sum_singleton, htaken]
      omega
    · dsimp only
      rw [List.length_append, List.length_singleton, hlength]
      omega
    · dsimp only
      rw [List.length_append, List.length_singleton, hlength]
      omega

theorem IsCharging.step (h : IsCharging pace permits a) (hburst : 1 ≤ pace.burst)
    (hstep : Step a b) : IsCharging pace permits b := by
  cases hstep with
  | own hown => exact h.ownStep hburst hown
  | meanwhile _ _ => exact ⟨h.pace_eq, h.step_bounds, h.sum_add, h.whole, h.length_lt⟩

theorem IsCharging.leads (h : IsCharging pace permits a) (hburst : 1 ≤ pace.burst)
    (hleads : Leads a b) : IsCharging pace permits b := by
  induction hleads with
  | refl => exact h
  | tail _ hstep ih => exact ih.step hburst hstep

/-- An acquisition takes no more steps than there are bursts in its permits. -/
theorem IsCharging.length_le (h : IsCharging pace permits a) (hburst : 1 ≤ pace.burst) :
    a.steps.length ≤ permits ⌈/⌉ pace.burst := by
  have hceil : permits ≤ pace.burst * (permits ⌈/⌉ pace.burst) :=
    (ceilDiv_le_iff_le_mul hburst).1 le_rfl
  refine Nat.le_of_lt_succ (Nat.lt_of_mul_lt_mul_left (a := pace.burst) ?_)
  calc pace.burst * a.steps.length < permits + pace.burst := h.length_lt
    _ ≤ pace.burst * (permits ⌈/⌉ pace.burst) + pace.burst := Nat.add_le_add_right hceil _
    _ = pace.burst * (permits ⌈/⌉ pace.burst + 1) := (Nat.mul_succ _ _).symm

/-- An acquisition is over after as many steps as there are bursts in its permits. -/
theorem IsCharging.remaining_eq_zero_iff (h : IsCharging pace permits a)
    (hburst : 1 ≤ pace.burst) :
    a.remaining = 0 ↔ a.steps.length = permits ⌈/⌉ pace.burst := by
  rw [h.whole, Nat.sub_eq_zero_iff_le, ← ceilDiv_le_iff_le_mul hburst]
  exact ⟨fun hle => le_antisymm (h.length_le hburst) hle, fun heq => heq.ge⟩

/-- The next step of an acquisition asks for a positive word, no greater than the burst, which
no limiter of its pace refuses. -/
theorem next_step (hburst : 1 ≤ pace.burst ∧ pace.burst ≤ Word.greatest 32) {remaining : Nat}
    (hremaining : remaining ≠ 0) :
    let step := min remaining pace.burst
    1 ≤ step ∧ step ≤ pace.burst ∧ (UInt32.ofNat step).toNat = step ∧
      ∀ limiter now, Limiter.request limiter pace now step ≠ .insufficient := by
  intro step
  have hle : step ≤ pace.burst := Nat.min_le_right _ _
  have hword : step < 2 ^ 32 := by
    have hgreatest : Word.greatest 32 + 1 = 2 ^ 32 := by decide
    omega
  refine ⟨by omega, hle, ?_, fun limiter now => Limiter.request_ne_insufficient hle⟩
  rw [UInt32.toNat_ofNat', Nat.mod_eq_of_lt hword]

theorem chargeWaiting_zero (pacer : Pacer α) (fuel now : Nat) :
    pacer.chargeWaiting fuel now 0 = (pacer, now) := by
  cases fuel <;> rfl

/-- An acquisition that waits wherever it has to, undisturbed by others, ends with all of its
permits granted: a step that was put off is granted when it asks again. -/
theorem exists_of_chargeWaiting (hburst : 1 ≤ pace.burst) {count fuel : Nat}
    (hpace : a.pacer.pace = some pace) (hcount : a.remaining ≤ pace.burst * count)
    (hfuel : 2 * count ≤ fuel) :
    ∃ b, LeadsAlone a b ∧ b.remaining = 0 ∧
      a.pacer.chargeWaiting fuel a.now a.remaining = (b.pacer, b.now) := by
  induction count generalizing a fuel with
  | zero =>
    have hzero : a.remaining = 0 := Nat.eq_zero_of_le_zero hcount
    exact ⟨a, .refl, hzero, hzero ▸ chargeWaiting_zero _ _ _⟩
  | succ count ih =>
    by_cases hzero : a.remaining = 0
    · exact ⟨a, .refl, hzero, hzero ▸ chargeWaiting_zero _ _ _⟩
    obtain ⟨fuel, rfl⟩ : ∃ rest, fuel = rest + 2 := ⟨fuel - 2, by omega⟩
    have hleft : a.remaining - min a.remaining pace.burst ≤ pace.burst * count := by
      rw [Nat.mul_succ] at hcount
      omega
    have hgo : ∀ {now fuel limiter}, 2 * count ≤ fuel →
        a.pacer.limiter.request pace now (min a.remaining pace.burst) = .granted limiter →
        ∃ b, LeadsAlone { a with now } b ∧ b.remaining = 0 ∧
          a.pacer.chargeWaiting (fuel + 1) now a.remaining = (b.pacer, b.now) := by
      intro now fuel limiter hfuel hrequest
      have hcharge := Pacer.charge_of_granted hpace hrequest
      obtain ⟨b, hleads, hdone, hrun⟩ := ih (a := { a with
        pacer := { a.pacer with limiter }
        now
        remaining := a.remaining - min a.remaining pace.burst
        steps := a.steps ++ [a.remaining - (a.remaining - min a.remaining pace.burst)] })
        hpace hleft hfuel
      refine ⟨b, .head (.grant hzero hcharge) hleads, hdone, ?_⟩
      rw [Pacer.chargeWaiting, if_neg hzero, hcharge]
      exact hrun
    cases hrequest : a.pacer.limiter.request pace a.now (min a.remaining pace.burst) with
    | granted limiter => exact hgo (by omega) hrequest
    | notBefore time =>
      have hcharge := Pacer.charge_of_notBefore hpace hrequest
      obtain ⟨limiter, hagain⟩ := Limiter.exists_granted_of_notBefore
        (by omega) (Nat.min_le_right _ _) hrequest
      have hrest : 2 * count ≤ fuel := by omega
      obtain ⟨b, hleads, hdone, hrun⟩ := hgo hrest hagain
      refine ⟨b, .head (.await hzero hcharge) hleads, hdone, ?_⟩
      rw [Pacer.chargeWaiting, if_neg hzero, hcharge]
      exact hrun
    | insufficient =>
      exact absurd hrequest (Limiter.request_ne_insufficient (Nat.min_le_right _ _))

end Acquisition

/-! ## While no time passes -/

namespace Pacer

variable {pacer : Pacer α} {pace : Pace α} {now remaining owed fuel : Nat}

theorem chargeNow_zero (pacer : Pacer α) (now fuel : Nat) :
    pacer.chargeNow now fuel 0 = (pacer, 0) := by
  cases fuel <;> rfl

theorem chargeNow_of_notBefore {time : Nat} (hremaining : remaining ≠ 0)
    (h : pacer.charge now remaining = .notBefore time) :
    pacer.chargeNow now fuel remaining = (pacer, remaining) := by
  cases fuel with
  | zero => rfl
  | succ fuel => rw [chargeNow, if_neg hremaining, h]

/-- The permits that are granted of an amount that is charged when so many are owed: all of
them if there is room for them, and else a whole burst if nothing is owed. -/
def grantedOf (pace : Pace α) (owed permits : Nat) : Nat :=
  if owed + permits ≤ pace.burst then permits else if owed = 0 then pace.burst else 0

theorem grantedOf_zero (pace : Pace α) (owed : Nat) : grantedOf pace owed 0 = 0 := by
  unfold grantedOf
  split
  · rfl
  · rw [if_neg]
    omega

/-- No more is granted than is asked for and than there is room for, and all of it only if
there is room for all. -/
theorem grantedOf_bounds (hpos : 1 ≤ remaining) (howed : owed ≤ pace.burst) :
    grantedOf pace owed remaining ≤ remaining ∧
      owed + grantedOf pace owed remaining ≤ pace.burst ∧
      (grantedOf pace owed remaining = remaining ↔ owed + remaining ≤ pace.burst) := by
  unfold grantedOf
  split
  · omega
  · split <;> omega

theorem chargeNow_of_full (hpace : pacer.pace = some pace) (hperiod : 1 ≤ pace.period)
    (howes : pacer.limiter.Owes pace now owed) (hburst : 1 ≤ pace.burst)
    (hremaining : remaining ≠ 0) (hfull : pace.burst < owed + min remaining pace.burst) :
    pacer.chargeNow now fuel remaining = (pacer, remaining) := by
  obtain ⟨time, hrequest⟩ := howes.exists_notBefore hperiod (by omega) (Nat.min_le_right _ _) hfull
  exact chargeNow_of_notBefore hremaining (charge_of_notBefore hpace hrequest)

/-- As long as no time passes, a pacer grants permits until its burst is spent. -/
theorem exists_of_chargeNow (hpace : pacer.pace = some pace) (hperiod : 1 ≤ pace.period)
    (hburst : 1 ≤ pace.burst) (howes : pacer.limiter.Owes pace now owed) :
    ∃ limiter, limiter.Owes pace now (owed + grantedOf pace owed remaining) ∧
      pacer.chargeNow now (fuel + 1) remaining =
        ({ pacer with limiter }, remaining - grantedOf pace owed remaining) := by
  by_cases hzero : remaining = 0
  · subst hzero
    rw [grantedOf_zero]
    exact ⟨pacer.limiter, howes, chargeNow_zero _ _ _⟩
  · by_cases hroom : owed + remaining ≤ pace.burst
    · have hstep : min remaining pace.burst = remaining := by omega
      obtain ⟨limiter, hgrant, hnext⟩ := howes.exists_granted hperiod
        (Nat.one_le_iff_ne_zero.2 hzero) hroom
      rw [grantedOf, if_pos hroom]
      refine ⟨limiter, hnext, ?_⟩
      rw [chargeNow, if_neg hzero, charge_of_granted hpace (hstep.symm ▸ hgrant), hstep,
        Nat.sub_self]
      exact chargeNow_zero _ _ _
    · rw [grantedOf, if_neg hroom]
      by_cases hfresh : owed = 0
      · subst hfresh
        have hstep : min remaining pace.burst = pace.burst := by omega
        obtain ⟨limiter, hgrant, hnext⟩ := howes.exists_granted hperiod hburst (by omega)
        refine ⟨limiter, hnext, ?_⟩
        rw [chargeNow, if_neg hzero, charge_of_granted hpace (hstep.symm ▸ hgrant), hstep,
          if_pos rfl]
        exact chargeNow_of_full hpace hperiod hnext hburst (by omega) (by omega)
      · rw [if_neg hfresh]
        exact ⟨pacer.limiter, howes,
          chargeNow_of_full hpace hperiod howes hburst hzero (by omega)⟩

section Poll

variable [Quantity α]

/-- The permits that are granted to a capacity without letting time pass. -/
def grantedAtOnce (pacer : Pacer α) (now : Nat) (capacity : α) : Nat :=
  let permits := pacer.permits capacity
  permits - (pacer.chargeNow now (pacer.stepCount permits) permits).2

/-- A capacity is charged without letting time pass. Next to the pacer stands what all
capacities before it were granted. -/
def poll (now : Nat) (state : Pacer α × Nat) (capacity : α) : Pacer α × Nat :=
  ((state.1.tryAcquire now capacity).1, state.2 + state.1.grantedAtOnce now capacity)

/-- The pacer after a sequence of capacities that were charged at one time, with the permits
that were granted to them. -/
def pollAll (pacer : Pacer α) (now : Nat) (capacities : List α) : Pacer α × Nat :=
  capacities.foldl (poll now) (pacer, 0)

/-- A pacer whose permits were all granted at one time, as many as the burst at most. -/
structure IsOwing (pace : Pace α) (now : Nat) (state : Pacer α × Nat) : Prop where
  pace_eq : state.1.pace = some pace
  owes : state.1.limiter.Owes pace now state.2
  owed_le : state.2 ≤ pace.burst

variable {state : Pacer α × Nat} {capacity : α}

/-- What is granted to a capacity that is charged at the same time as others before it. -/
theorem IsOwing.exists_of_poll (h : IsOwing pace now state) (hperiod : 1 ≤ pace.period)
    (hburst : 1 ≤ pace.burst) (capacity : α) :
    let granted := grantedOf pace state.2 (permitsFor capacity)
    ∃ limiter, limiter.Owes pace now (state.2 + granted) ∧
      state.1.tryAcquire now capacity =
        ({ state.1 with limiter }, decide (permitsFor capacity - granted = 0)) ∧
      state.1.grantedAtOnce now capacity =
        permitsFor capacity - (permitsFor capacity - granted) := by
  intro granted
  have hsteps : state.1.stepCount (permitsFor capacity) =
      permitsFor capacity / pace.burst + 1 := by
    rw [stepCount, h.pace_eq]
  obtain ⟨limiter, howes, hrun⟩ :=
    exists_of_chargeNow h.pace_eq hperiod hburst h.owes
  refine ⟨limiter, howes, ?_, ?_⟩
  · rw [tryAcquire, permits_eq h.pace_eq, hsteps, hrun]
  · rw [grantedAtOnce, permits_eq h.pace_eq, hsteps, hrun]

theorem IsOwing.granted_iff (h : IsOwing pace now state) (hperiod : 1 ≤ pace.period)
    (hburst : 1 ≤ pace.burst) (capacity : α) :
    (state.1.tryAcquire now capacity).2 = true ↔
      state.2 + permitsFor capacity ≤ pace.burst := by
  obtain ⟨limiter, -, htry, -⟩ := h.exists_of_poll hperiod hburst capacity
  obtain ⟨hle, -, hall⟩ := grantedOf_bounds (permitsFor_pos capacity) h.owed_le
  rw [htry, decide_eq_true_iff, ← hall]
  omega

theorem IsOwing.poll (h : IsOwing pace now state) (hperiod : 1 ≤ pace.period)
    (hburst : 1 ≤ pace.burst) (capacity : α) : IsOwing pace now (poll now state capacity) := by
  obtain ⟨limiter, howes, htry, hgranted⟩ := h.exists_of_poll hperiod hburst capacity
  obtain ⟨hle, hroom, -⟩ := grantedOf_bounds (permitsFor_pos capacity) h.owed_le
  rw [Pacer.poll, htry, hgranted, Nat.sub_sub_self hle]
  exact ⟨h.pace_eq, howes, hroom⟩

theorem IsOwing.pollAll (hpace : pacer.pace = some pace) (hnew : pacer.limiter = {})
    (hperiod : 1 ≤ pace.period) (hburst : 1 ≤ pace.burst) (capacities : List α) :
    IsOwing pace now (pacer.pollAll now capacities) := by
  have hstart : IsOwing pace now (pacer, 0) :=
    ⟨hpace, hnew ▸ Limiter.owes_new pace now, Nat.zero_le _⟩
  rw [Pacer.pollAll]
  generalize (pacer, 0) = state at hstart ⊢
  induction capacities generalizing state with
  | nil => exact hstart
  | cons capacity capacities ih => exact ih _ (hstart.poll hperiod hburst capacity)

end Poll
end Pacer

/-- An amount is charged whole, whatever its rate and its units. Its permits are the units
rounded up, one permit if they are not a positive number. Its acquisition asks for steps of at
least one permit and at most the burst, whatever others do to the limiter in between, so that
no step is refused or changed by being written as a word; it is over once the steps add up to
the permits, after as many steps as there are bursts in them. An acquisition that is left alone
makes all these steps, each of which the limiter grants. A limiter grants a step at once if the
permits that are spent leave room for it. So of amounts that are charged at one time those are
granted at once for which there is room beside all permits granted before, which stay charged,
those of an amount that has to wait included, and are never more than the burst. -/
theorem Pacer.charges_whole_amount [Quantity α] {rate : Option α} {pace : Pace α}
    (hpace : Pace.ofRate rate = some pace) :
    (∀ units : α,
      (∀ q, Quantity.value? units = some q → 0 < q →
        permitsFor units = min q.ceil.toNat (2 ^ 64 - 1)) ∧
      ((∀ q, Quantity.value? units = some q → q ≤ 0) → permitsFor units = 1)) ∧
    (∀ (pacer : Pacer α) (now : Nat) (units : α) (a : Acquisition α),
      pacer.pace = some pace → Acquisition.Leads ⟨pacer, now, pacer.permits units, []⟩ a →
      (∀ step ∈ a.steps, 1 ≤ step ∧ step ≤ pace.burst) ∧
      a.steps.sum + a.remaining = permitsFor units ∧
      (a.remaining = 0 ↔ a.steps.length = permitsFor units ⌈/⌉ pace.burst) ∧
      (a.remaining ≠ 0 →
        let step := min a.remaining pace.burst
        1 ≤ step ∧ step ≤ pace.burst ∧ (UInt32.ofNat step).toNat = step ∧
          ∀ limiter now, Limiter.request limiter pace now step ≠ .insufficient)) ∧
    (∀ (pacer : Pacer α) (now : Nat) (units : α), pacer.pace = some pace →
      ∃ a, Acquisition.LeadsAlone ⟨pacer, now, pacer.permits units, []⟩ a ∧
        pacer.acquire now units = (a.pacer, a.now) ∧ a.remaining = 0 ∧
        a.steps.sum = permitsFor units ∧ a.steps.length = permitsFor units ⌈/⌉ pace.burst) ∧
    (∀ (limiter : Limiter) (now n : Nat), 1 ≤ n →
      (n ≤ pace.burst → ((∃ next, limiter.request pace now n = .granted next) ↔
        limiter.spent pace now ≤ pace.burst - n)) ∧
      (limiter.request pace now n = .insufficient ↔ pace.burst < n)) ∧
    ∀ (now : Nat) (amounts : List α),
      let state := (Pacer.ofRate rate).pollAll now amounts
      state.1.limiter.spent pace now = state.2 ∧ state.2 ≤ pace.burst ∧
      ∀ units, (state.1.tryAcquire now units).2 = true ↔
        state.2 + permitsFor units ≤ pace.burst := by
  have hperiod := Pace.period_pos hpace
  have hburst := Pace.burst_bounds hpace
  have hcharging {pacer : Pacer α} {now : Nat} {units : α} {a : Acquisition α}
      (hpacer : pacer.pace = some pace)
      (hleads : Acquisition.Leads ⟨pacer, now, pacer.permits units, []⟩ a) :
      Acquisition.IsCharging pace (permitsFor units) a := by
    rw [Pacer.permits_eq hpacer] at hleads
    exact (Acquisition.isCharging_start hpacer hburst.1 now).leads hburst.1 hleads
  refine ⟨fun units => ⟨fun q => permitsFor_of_pos, permitsFor_of_not_pos⟩,
    fun pacer now units a hpacer hleads => ?_, fun pacer now units hpacer => ?_,
    fun limiter now n hpos => ⟨fun hle => ?_, Limiter.request_eq_insufficient_iff⟩,
    fun now amounts => ?_⟩
  · have ha := hcharging hpacer hleads
    exact ⟨ha.step_bounds, ha.sum_add, ha.remaining_eq_zero_iff hburst.1,
      Acquisition.next_step hburst⟩
  · have hcount : permitsFor units ≤ pace.burst * (permitsFor units / pace.burst + 1) :=
      (Nat.lt_mul_div_succ _ hburst.1).le
    have hsteps : pacer.stepCount (permitsFor units) = permitsFor units / pace.burst + 1 := by
      rw [Pacer.stepCount, hpacer]
    obtain ⟨a, halone, hdone, hrun⟩ := Acquisition.exists_of_chargeWaiting
      (a := ⟨pacer, now, permitsFor units, []⟩) hburst.1 hpacer hcount le_rfl
    rw [Pacer.acquire, Pacer.permits_eq hpacer, hsteps]
    have ha := hcharging hpacer (Pacer.permits_eq hpacer units ▸ halone.leads)
    have hsum := ha.sum_add
    rw [hdone, Nat.add_zero] at hsum
    exact ⟨a, halone, hrun, hdone, hsum, (ha.remaining_eq_zero_iff hburst.1).1 hdone⟩
  · rw [Limiter.exists_granted_iff hperiod hpos hle]
    omega
  · have howing : Pacer.IsOwing pace now ((Pacer.ofRate rate).pollAll now amounts) :=
      Pacer.IsOwing.pollAll hpace rfl hperiod hburst.1 amounts
    exact ⟨howing.owes.spent_eq hperiod, howing.owed_le,
      howing.granted_iff hperiod hburst.1⟩

/-- A rate of two and a half units has a burst of three permits. A page of six and a half units
is charged in three steps, the last of which is granted after 1.6 seconds. Only the first one is
granted at once; it stays charged, so that even a single unit has to wait after it. Of pages of
one, four and two units that are charged at one time only the second one has to wait. -/
theorem Pacer.charges_seven_permits :
    ∃ pace : Pace Float, Pace.ofRate (some (Quantity.ofRat (5 / 2))) = some pace ∧
      pace.burst = 3 ∧
      (∃ a, Acquisition.LeadsAlone
          ⟨⟨some pace, {}⟩, 0, Pacer.permits ⟨some pace, {}⟩ (Quantity.ofRat (13 / 2)), []⟩ a ∧
        Pacer.acquire ⟨some pace, {}⟩ 0 (Quantity.ofRat (13 / 2)) = (a.pacer, a.now) ∧
        a.now = 1600000000 ∧ a.steps.length = 3 ∧ a.steps.sum = 7 ∧
        ∀ step ∈ a.steps, 1 ≤ step ∧ step ≤ 3) ∧
      (let state := Pacer.pollAll ⟨some pace, {}⟩ 0 [Quantity.ofRat (13 / 2)];
        state.2 = 3 ∧ (state.1.tryAcquire 0 (Quantity.ofNat 1)).2 = false) ∧
      let state := Pacer.pollAll ⟨some pace, {}⟩ 0 [Quantity.ofNat 1, Quantity.ofNat 4]
      state.2 = 1 ∧ (state.1.tryAcquire 0 (Quantity.ofNat 2)).2 = true := by
  have hmap : (Pace.ofRate (some (Quantity.ofRat (5 / 2) : Float))).map Pace.burst = some 3 := by
    decide +kernel
  obtain ⟨pace, hpace, hburst⟩ := Option.map_eq_some_iff.1 hmap
  have hpacer : Pacer.ofRate (some (Quantity.ofRat (5 / 2) : Float)) = ⟨some pace, {}⟩ := by
    rw [Pacer.ofRate, hpace]
  have hpage : permitsFor (Quantity.ofRat (13 / 2) : Float) = 7 := by decide +kernel
  have hone : permitsFor (Quantity.ofNat 1 : Float) = 1 := by decide +kernel
  have htwo : permitsFor (Quantity.ofNat 2 : Float) = 2 := by decide +kernel
  have hlarge : ((Pacer.ofRate (some (Quantity.ofRat (5 / 2) : Float))).pollAll 0
      [Quantity.ofRat (13 / 2)]).2 = 3 := by decide +kernel
  have hsmall : ((Pacer.ofRate (some (Quantity.ofRat (5 / 2) : Float))).pollAll 0
      [Quantity.ofNat 1, Quantity.ofNat 4]).2 = 1 := by decide +kernel
  have hlater : ((Pacer.ofRate (some (Quantity.ofRat (5 / 2) : Float))).acquire 0
      (Quantity.ofRat (13 / 2))).2 = 1600000000 := by decide +kernel
  obtain ⟨-, hsteps, hends, -, hpolls⟩ := Pacer.charges_whole_amount hpace
  rw [hpacer] at hlarge hsmall hlater hpolls
  refine ⟨pace, hpace, hburst, ?_, ⟨hlarge, ?_⟩, hsmall, ?_⟩
  · obtain ⟨a, halone, hrun, -, hsum, hcount⟩ :=
      hends ⟨some pace, {}⟩ 0 (Quantity.ofRat (13 / 2)) rfl
    obtain ⟨hbounds, -⟩ := hsteps _ _ _ a rfl halone.leads
    rw [hpage, hburst] at hcount
    rw [hpage] at hsum
    rw [hburst] at hbounds
    rw [hrun] at hlater
    exact ⟨a, halone, hrun, hlater, hcount, hsum, hbounds⟩
  · rw [Bool.eq_false_iff, Ne, (hpolls 0 _).2.2, hlarge, hone, hburst]
    decide
  · rw [(hpolls 0 _).2.2, hsmall, htwo, hburst]

end TableCopy
