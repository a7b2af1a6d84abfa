import TableCopy.Proofs.Number.Exact
import TableCopy.Retry

/-!
# How long a retry waits

The delay for an attempt is what the initial delay has grown to, up to the greatest delay, and a
part of the jitter range on top of it. Only the growth is capped. Read exactly, every delay can
be represented and lies at or above the capped growth, but the jitter takes it past the greatest
delay once the growth has come near enough to it.
-/

namespace TableCopy
namespace RetryConfig

section Exact

variable (config : RetryConfig Rat) (attempt : Nat)

/-- The nanoseconds to which the initial delay has grown at an attempt, up to the greatest
delay. -/
def cappedGrowth : Rat := min (config.initialDelay * config.multiplier ^ attempt) config.maxDelay

/-- The share of the jitter range that an attempt uses: the fraction of a multiple of the golden
ratio. -/
def jitterShare : Rat := Int.fract (attempt * (618033988749895 / 1000000000000000))

/-- The capped growth with its share of the jitter range on top. -/
def spreadGrowth : Rat :=
  config.cappedGrowth attempt * (1 + config.jitter * jitterShare attempt)

variable {config attempt}

theorem cappedDelay_eq (hattempt : attempt < 2 ^ 31) :
    config.cappedDelay attempt = config.cappedGrowth attempt / Duration.perSecond := by
  have hcount : Word.count 32 = 2 ^ 32 := rfl
  have hword : Word.wrapSigned 32 attempt = attempt := by
    rw [Word.wrapSigned, hcount]
    exact Int.bmod_eq_of_le (by omega) (by omega)
  have hpos : (0 : Rat) ≤ Duration.perSecond := Nat.cast_nonneg _
  rw [cappedDelay, hword, Quantity.power_natCast, Quantity.mul_eq, Quantity.least_eq_min,
    Duration.seconds_eq, Duration.seconds_eq, div_mul_eq_mul_div, min_div_div_right hpos,
    cappedGrowth]

/-- The delay in nanoseconds, before it is rounded to a whole number of them. -/
theorem delay_eq (hjitter : 0 ≤ config.jitter) (hattempt : attempt < 2 ^ 31) :
    config.delay attempt =
      Duration.ofQuantity (config.spreadGrowth attempt / Duration.perSecond) := by
  have hadded : (if Quantity.isPositive config.jitter then
      Quantity.mul (Quantity.mul (config.cappedDelay attempt) config.jitter) (jitterPoint attempt)
      else Quantity.ofNat 0) =
        config.cappedDelay attempt * config.jitter * jitterShare attempt := by
    split
    · rfl
    · rename_i hzero
      rw [Quantity.isPositive_iff] at hzero
      rw [le_antisymm (not_lt.1 hzero) hjitter, mul_zero, zero_mul]
      exact Nat.cast_zero
  have htotal : config.cappedDelay attempt + config.cappedDelay attempt * config.jitter *
      jitterShare attempt = config.spreadGrowth attempt / Duration.perSecond := by
    rw [cappedDelay_eq hattempt, spreadGrowth]
    ring
  rw [delay, hadded, Quantity.add_eq, htotal]

theorem jitterShare_bounds (attempt : Nat) : 0 ≤ jitterShare attempt ∧ jitterShare attempt < 1 :=
  ⟨Int.fract_nonneg _, Int.fract_lt_one _⟩

theorem cappedGrowth_nonneg (hmultiplier : 0 ≤ config.multiplier) (attempt : Nat) :
    0 ≤ config.cappedGrowth attempt :=
  le_min (mul_nonneg (Nat.cast_nonneg _) (pow_nonneg hmultiplier _)) (Nat.cast_nonneg _)

/-- The jitter adds to the capped growth, and at most its fraction of the greatest delay. -/
theorem spreadGrowth_bounds (hmultiplier : 0 ≤ config.multiplier) (hjitter : 0 ≤ config.jitter)
    (attempt : Nat) :
    config.cappedGrowth attempt ≤ config.spreadGrowth attempt ∧
      config.spreadGrowth attempt ≤ config.maxDelay * (1 + config.jitter) := by
  obtain ⟨hshare, hshare_lt⟩ := jitterShare_bounds attempt
  have hgrowth := cappedGrowth_nonneg hmultiplier attempt
  have hadded : 0 ≤ config.jitter * jitterShare attempt := mul_nonneg hjitter hshare
  have hadded_le : config.jitter * jitterShare attempt ≤ config.jitter :=
    mul_le_of_le_one_right hjitter hshare_lt.le
  constructor
  · exact le_mul_of_one_le_right hgrowth (by linarith)
  · exact mul_le_mul (min_le_right _ _) (by linarith) (by linarith) (Nat.cast_nonneg _)

/-- Nothing is added without jitter, and nothing at the first attempt. -/
theorem spreadGrowth_eq_of_none (h : config.jitter = 0 ∨ attempt = 0) :
    config.spreadGrowth attempt = config.cappedGrowth attempt := by
  have hadded : config.jitter * jitterShare attempt = 0 := by
    obtain hjitter | rfl := h
    · rw [hjitter, zero_mul]
    · rw [jitterShare, Nat.cast_zero, zero_mul, Int.fract_zero, mul_zero]
  rw [spreadGrowth, hadded, add_zero, mul_one]

/-- The delay for an attempt can always be represented, and is the capped growth with its share
of the jitter, to the nearest nanosecond. As a duration it does not fall below the capped growth.
The jitter may take it past the greatest delay, by no more than its fraction of that and the
rounding: it does so where the exact value is past it by more than half a nanosecond, and does
not where it is so by less; without jitter, or at the first attempt, it never does. -/
theorem delay_bounds (hmultiplier : 1 ≤ config.multiplier) (hjitter : 0 ≤ config.jitter)
    (hjitter_le : config.jitter ≤ 1) (hmax : config.maxDelay < Duration.ofSeconds (2 ^ 63))
    (hattempt : attempt < 2 ^ 31) :
    ∃ delay, config.delay attempt = .ok delay ∧
      |(delay : Rat) - config.spreadGrowth attempt| ≤ 1 / 2 ∧
      Duration.nearest (config.cappedGrowth attempt / Duration.perSecond) ≤ delay ∧
      (∀ whole : Nat, whole ≤ config.cappedGrowth attempt → whole ≤ delay) ∧
      (delay : Rat) ≤ config.maxDelay * (1 + config.jitter) + 1 / 2 ∧
      (config.maxDelay + 1 / 2 < config.spreadGrowth attempt → config.maxDelay < delay) ∧
      (config.spreadGrowth attempt < config.maxDelay + 1 / 2 → delay ≤ config.maxDelay) ∧
      (config.jitter = 0 ∨ attempt = 0 → delay ≤ config.maxDelay) := by
  have hmultiplier' : 0 ≤ config.multiplier := zero_le_one.trans hmultiplier
  have hpos : (0 : Rat) < Duration.perSecond := by decide
  have hgrowth := cappedGrowth_nonneg hmultiplier' attempt
  obtain ⟨hge, hle⟩ := spreadGrowth_bounds hmultiplier' hjitter attempt
  have hnonneg : 0 ≤ config.spreadGrowth attempt / Duration.perSecond :=
    div_nonneg (hgrowth.trans hge) hpos.le
  have hmax' : (config.maxDelay : Rat) < 2 ^ 63 * Duration.perSecond := by exact_mod_cast hmax
  have hlt : config.spreadGrowth attempt / Duration.perSecond < Word.count 64 := by
    rw [div_lt_iff₀ hpos]
    calc config.spreadGrowth attempt ≤ config.maxDelay * (1 + config.jitter) := hle
      _ ≤ config.maxDelay * 2 := mul_le_mul_of_nonneg_left (by linarith) (Nat.cast_nonneg _)
      _ < 2 ^ 63 * Duration.perSecond * 2 := mul_lt_mul_of_pos_right hmax' two_pos
      _ = (Word.count 64 : Nat) * Duration.perSecond := by
        rw [Word.count]
        norm_num
        ring
  have hnear := Duration.nearest_near hnonneg
  rw [div_mul_cancel₀ _ hpos.ne'] at hnear
  obtain ⟨hlow, hhigh⟩ := abs_le.1 hnear
  refine ⟨_, (delay_eq hjitter hattempt).trans (Duration.ofQuantity_eq_ok hnonneg hlt), hnear,
    Duration.nearest_mono (div_nonneg hgrowth hpos.le) (div_le_div_of_nonneg_right hge hpos.le),
    ?_, ?_, ?_, ?_, ?_⟩
  · intro whole hwhole
    exact Nat.le_of_cast_le_add_half (by linarith)
  · linarith
  · intro hpast
    have hlt : (config.maxDelay : Rat) <
        Duration.nearest (config.spreadGrowth attempt / Duration.perSecond) := by linarith
    exact_mod_cast hlt
  · intro hnot
    have hlt : (Duration.nearest (config.spreadGrowth attempt / Duration.perSecond) : Rat) <
        config.maxDelay + 1 := by linarith
    exact Nat.le_of_lt_succ (by exact_mod_cast hlt)
  · intro hnone
    have hsame := spreadGrowth_eq_of_none hnone
    have hcap : config.cappedGrowth attempt ≤ config.maxDelay := min_le_right _ _
    exact Nat.le_of_cast_le_add_half (by linarith)

/-- The ninth delay between attempts to write a batch lies between the greatest delay and a
quarter above it. -/
theorem delay_bounds_of_batch :
    ∃ delay, (forBatchWrite : RetryConfig Rat).delay 8 = .ok delay ∧
      (forBatchWrite : RetryConfig Rat).maxDelay < delay ∧ (delay : Rat) ≤ 12500000000 + 1 / 2 := by
  have hpast : ((forBatchWrite : RetryConfig Rat).maxDelay : Rat) + 1 / 2 <
      (forBatchWrite : RetryConfig Rat).spreadGrowth 8 := by decide +kernel
  have hbound : ((forBatchWrite : RetryConfig Rat).maxDelay : Rat) *
      (1 + (forBatchWrite : RetryConfig Rat).jitter) = 12500000000 := by decide +kernel
  obtain ⟨delay, hdelay, -, -, -, hle, hexceeds, -⟩ :=
    @delay_bounds forBatchWrite 8 (by decide +kernel) (by decide +kernel) (by decide +kernel)
      (by decide +kernel) (by decide)
  exact ⟨delay, hdelay, hexceeds hpast, hbound ▸ hle⟩

end Exact

/-- With doubles as well, the jitter takes delays of every preset past the greatest delay. That
of the batches is slept before the last but one of their ten retries. -/
theorem delay_exceeds_cap :
    ((forBatchWrite : RetryConfig Float).delay 8 = .ok 12360679775 ∧
        (forBatchWrite : RetryConfig Float).maxDelay = 10000000000 ∧
        8 < (forBatchWrite : RetryConfig Float).maxRetries) ∧
      ((forScan : RetryConfig Float).delay 7 = .ok 10489356882 ∧
        (forScan : RetryConfig Float).maxDelay = 10000000000) ∧
      (defaults : RetryConfig Float).delay 9 = .ok 31686917696 ∧
        (defaults : RetryConfig Float).maxDelay = 30000000000 := by
  decide +kernel

end RetryConfig
end TableCopy
