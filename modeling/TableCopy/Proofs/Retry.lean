import Mathlib.Data.ENat.Lattice
import TableCopy.Retry

/-!
# The attempts of a request

A request is attempted until its outcome is final: a success, or an error that is not worth
another attempt. The retries that are allowed bound how far this goes. Every attempt but the
last is followed by the delay for it, and the outcome of the last attempt is the result.
-/

namespace TableCopy

/-- Whether an outcome leaves nothing to try again. -/
def isFinal {β : Type} : Except CopyError β → Bool
  | .ok _ => true
  | .error e => !e.isRetryable

/-- The number of the first final outcome; infinite where none is final. -/
noncomputable def firstFinal {β : Type} (outcome : Nat → Except CopyError β) : ℕ∞ :=
  ⨅ attempt : { n // isFinal (outcome n) = true }, (attempt : Nat)

section FirstFinal

variable {β : Type} {outcome : Nat → Except CopyError β} {last most : Nat}

theorem le_firstFinal (h : ∀ n < last, isFinal (outcome n) = false) :
    (last : ℕ∞) ≤ firstFinal outcome := by
  refine le_iInf fun attempt => Nat.cast_le.2 (Nat.le_of_not_lt fun hlt => ?_)
  exact Bool.false_ne_true ((h attempt hlt).symm.trans attempt.property)

/-- A bounded search for the first final outcome ends there, or at its bound. -/
theorem min_firstFinal (hbefore : ∀ n < last, isFinal (outcome n) = false) (hle : last ≤ most)
    (hlast : isFinal (outcome last) = true ∨ last = most) :
    (last : ℕ∞) = min (firstFinal outcome) most := by
  refine le_antisymm (le_min (le_firstFinal hbefore) (Nat.cast_le.2 hle)) ?_
  rcases hlast with hfinal | rfl
  · exact (min_le_left _ _).trans
      (iInf_le (fun attempt : { n // isFinal (outcome n) = true } => ((attempt : Nat) : ℕ∞))
        ⟨last, hfinal⟩)
  · exact min_le_right _ _

end FirstFinal

namespace RetryConfig

/-- Attempts from number `attempt` on, `retries` of them tried again after their delays. -/
def attempts (delay : Nat → Nat) : (retries attempt : Nat) → List Step
  | 0, attempt => [.call attempt]
  | retries + 1, attempt =>
    .call attempt :: .sleep (delay attempt) :: attempts delay retries (attempt + 1)

section Attempts

variable (delay : Nat → Nat) (retries attempt : Nat)

theorem attempts_eq : attempts delay retries attempt =
    (List.range' attempt retries).flatMap (fun n => [.call n, .sleep (delay n)]) ++
      [.call (attempt + retries)] := by
  induction retries generalizing attempt with
  | zero => rfl
  | succ retries ih =>
    rw [attempts, ih, List.range'_succ, List.flatMap_cons, Nat.add_right_comm, Nat.add_assoc]
    rfl

/-- The loop is left with a result. -/
theorem leave_notMem_attempts : .leave ∉ attempts delay retries attempt := by
  induction retries generalizing attempt with
  | zero => simp [attempts]
  | succ retries ih => simp [attempts, ih]

variable {β : Type} (result : Except Duration.Fault (Except CopyError β))

theorem calls_attempts :
    (⟨attempts delay retries attempt, result⟩ : Run β).calls = retries + 1 := by
  induction retries generalizing attempt with
  | zero => rfl
  | succ retries ih =>
    have hrest := ih (attempt + 1)
    simp only [Run.calls] at hrest
    simp [Run.calls, attempts, hrest]

theorem delays_attempts : (⟨attempts delay retries attempt, result⟩ : Run β).delays =
    (List.range' attempt retries).map delay := by
  induction retries generalizing attempt with
  | zero => rfl
  | succ retries ih =>
    rw [List.range'_succ, List.map_cons, ← ih (attempt + 1)]
    rfl

end Attempts

variable {α : Type} [Quantity α] {β : Type} {config : RetryConfig α} {delay : Nat → Nat}
variable {outcome : Nat → Except CopyError β} {attempt left : Nat} {last : Option CopyError}

/-- After a final outcome the loop is over. -/
theorem runFrom_of_isFinal (operation : String) (h : isFinal (outcome attempt) = true) :
    config.runFrom outcome operation (left + 1) attempt last =
      ⟨attempts delay 0 attempt, .ok (outcome attempt)⟩ := by
  cases houtcome : outcome attempt with
  | ok value => simp [runFrom, houtcome, attempts]
  | error e =>
    have hfatal : e.isRetryable = false := by simpa [houtcome, isFinal] using h
    simp [runFrom, houtcome, attempts, onFailure_of_fatal config attempt hfatal]

/-- Where no retry is left, the loop is over whatever the outcome is. -/
theorem runFrom_of_exhausted (operation : String) (h : config.maxRetries ≤ attempt) :
    config.runFrom outcome operation (left + 1) attempt last =
      ⟨attempts delay 0 attempt, .ok (outcome attempt)⟩ := by
  cases houtcome : outcome attempt with
  | ok value => simp [runFrom, houtcome, attempts]
  | error e =>
    have hgiveUp : config.onFailure attempt e = .giveUp :=
      if_neg fun hretry => Nat.not_lt.2 h hretry.2
    simp [runFrom, houtcome, attempts, hgiveUp]

/-- Otherwise the delay for the attempt follows, and then the next round. -/
theorem exists_runFrom_of_retry (left : Nat) (last : Option CopyError) (operation : String)
    (h : isFinal (outcome attempt) = false) (hlt : attempt < config.maxRetries)
    (hdelay : config.delay attempt = .ok (delay attempt)) :
    ∃ e, config.runFrom outcome operation (left + 1) attempt last =
      let rest := config.runFrom outcome operation left (attempt + 1) (some e)
      ⟨.call attempt :: .sleep (delay attempt) :: rest.steps, rest.result⟩ := by
  cases houtcome : outcome attempt with
  | ok value => simp [houtcome, isFinal] at h
  | error e =>
    have hretry : e.isRetryable = true := by simpa [houtcome, isFinal] using h
    have hagain : config.onFailure attempt e = .again (.ok (delay attempt)) := by
      simp [onFailure, hretry, hlt, hdelay]
    exact ⟨e, by simp [runFrom, houtcome, hagain]⟩

/-- Of the rounds that are left, those up to the first final outcome, or up to the last that
is allowed, are run. -/
theorem exists_runFrom_eq (hdelay : ∀ n < config.maxRetries, config.delay n = .ok (delay n))
    (last : Option CopyError) (operation : String) (hleft : attempt + left = config.maxRetries) :
    ∃ retries, retries ≤ left ∧
      (∀ n < retries, isFinal (outcome (attempt + n)) = false) ∧
      (isFinal (outcome (attempt + retries)) = true ∨ retries = left) ∧
      config.runFrom outcome operation (left + 1) attempt last =
        ⟨attempts delay retries attempt, .ok (outcome (attempt + retries))⟩ := by
  induction left generalizing attempt last with
  | zero =>
    exact ⟨0, le_rfl, by simp, .inr rfl, runFrom_of_exhausted operation hleft.ge⟩
  | succ left ih =>
    by_cases hfinal : isFinal (outcome attempt) = true
    · exact ⟨0, Nat.zero_le _, by simp, .inl hfinal, runFrom_of_isFinal operation hfinal⟩
    · have hagain : isFinal (outcome attempt) = false := Bool.eq_false_iff.2 hfinal
      have hlt : attempt < config.maxRetries := by omega
      obtain ⟨e, hround⟩ := exists_runFrom_of_retry (left + 1) last operation hagain hlt
        (hdelay attempt hlt)
      have hnext : attempt + 1 + left = config.maxRetries := by omega
      obtain ⟨retries, hle, hbefore, hlast, hrest⟩ := ih (some e) hnext
      have hshift : ∀ n, attempt + (n + 1) = attempt + 1 + n := by omega
      refine ⟨retries + 1, Nat.succ_le_succ hle, fun n hn => ?_, ?_, ?_⟩
      · cases n with
        | zero => exact hagain
        | succ n => exact hshift n ▸ hbefore n (Nat.lt_of_succ_lt_succ hn)
      · rw [hshift]
        exact hlast.imp_right (congrArg (· + 1))
      · rw [hround, hrest, hshift retries]
        rfl

/-- A request under a policy whose delays can be represented is called up to the first final
outcome, but not more often than once and for each retry that is allowed. Before each further
call the delay for the attempt before is slept, nothing is slept after the last call, and the
outcome of that call is the result, whatever the loop would make of having none. -/
theorem run_until_final (hdelay : ∀ n < config.maxRetries, config.delay n = .ok (delay n))
    (outcome : Nat → Except CopyError β) (operation : String) :
    ∃ last : Nat, (last : ℕ∞) = min (firstFinal outcome) config.maxRetries ∧
      (config.run outcome operation).steps =
        (List.range last).flatMap (fun n => [.call n, .sleep (delay n)]) ++ [.call last] ∧
      (config.run outcome operation).calls = last + 1 ∧
      (config.run outcome operation).delays = (List.range last).map delay ∧
      .leave ∉ (config.run outcome operation).steps ∧
      (config.run outcome operation).result = .ok (outcome last) := by
  obtain ⟨last, hle, hbefore, hlast, hrun⟩ :=
    exists_runFrom_eq hdelay none operation (Nat.zero_add config.maxRetries)
  simp only [Nat.zero_add] at hbefore hlast hrun
  rw [run, hrun]
  refine ⟨last, min_firstFinal hbefore hle hlast, ?_, calls_attempts .., ?_, ?_, rfl⟩
  · rw [attempts_eq, Nat.zero_add, List.range_eq_range']
  · rw [delays_attempts, List.range_eq_range']
  · exact leave_notMem_attempts delay last 0

/-- A request that is throttled twice and then served. -/
def servedThird (attempt : Nat) : Except CopyError Nat :=
  if attempt < 2 then .error (.throttled "slow down") else .ok attempt

/-- Half a second after every attempt, three times at most. -/
def halfSecond : RetryConfig Rat :=
  ⟨3, Duration.ofMillis 500, Duration.ofMillis 500, 1, 0⟩

/-- The third call is served, and the third retry is not used. -/
theorem run_until_final_of_servedThird :
    ∃ last : Nat, (last : ℕ∞) = min (firstFinal servedThird) halfSecond.maxRetries ∧
      (halfSecond.run servedThird "scan").steps =
        [.call 0, .sleep 500000000, .call 1, .sleep 500000000, .call last] ∧
      (halfSecond.run servedThird "scan").calls = 3 ∧
      (halfSecond.run servedThird "scan").result = .ok (.ok 2) := by
  have hdelay : ∀ n < halfSecond.maxRetries, halfSecond.delay n = .ok 500000000 := by
    decide +kernel
  obtain ⟨last, hlast, hsteps, hcalls, -, -, hresult⟩ :=
    run_until_final hdelay servedThird "scan"
  have htwo : ((2 : Nat) : ℕ∞) = min (firstFinal servedThird) halfSecond.maxRetries :=
    min_firstFinal (by decide) (by decide) (.inl rfl)
  obtain rfl : last = 2 := Nat.cast_inj.1 (hlast.trans htwo.symm)
  exact ⟨2, hlast, hsteps, hcalls, hresult⟩

end RetryConfig
end TableCopy
