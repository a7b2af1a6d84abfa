import Mathlib.Algebra.BigOperators.Group.Finset.Basic
import Mathlib.Algebra.BigOperators.Group.List.Basic
import Mathlib.Algebra.BigOperators.Group.Finset.Piecewise

/-!
# Tallies

A tally is the sum of a measure over the entries of a log. It does not depend on their
order, and the tallies of the parts of a log add up to that of the whole.
-/

namespace TableCopy

variable {β M : Type} [AddCommMonoid M]

/-- The sum of a measure over the entries of a log. -/
def tally (measure : β → M) (log : List β) : M :=
  (log.map measure).sum

variable (measure : β → M)

@[simp] theorem tally_nil : tally measure [] = 0 := rfl

@[simp] theorem tally_cons (entry : β) (log : List β) :
    tally measure (entry :: log) = measure entry + tally measure log := by
  rw [tally, List.map_cons, List.sum_cons, tally]

@[simp] theorem tally_append (log log' : List β) :
    tally measure (log ++ log') = tally measure log + tally measure log' := by
  rw [tally, List.map_append, List.sum_append, tally, tally]

theorem tally_perm {log log' : List β} (h : log.Perm log') :
    tally measure log = tally measure log' :=
  (h.map measure).sum_eq

theorem mem_tally {γ : Type} {measure : β → Multiset γ} {log : List β} {x : γ} :
    x ∈ tally measure log ↔ ∃ entry ∈ log, x ∈ measure entry := by
  induction log with
  | nil => simp
  | cons entry log ih => simp [ih]

theorem tally_filter_cons (keep : β → Bool) (entry : β) (log : List β) :
    tally measure ((entry :: log).filter keep) =
      (if keep entry then measure entry else 0) + tally measure (log.filter keep) := by
  cases hkeep : keep entry with
  | true => rw [List.filter_cons_of_pos hkeep, tally_cons, if_pos rfl]
  | false => rw [List.filter_cons_of_neg (by rw [hkeep]; exact Bool.false_ne_true),
      if_neg Bool.false_ne_true, zero_add]

/-- The parts of a log by a number below a bound add up to the whole log. -/
theorem sum_tally_filter (part : β → Nat) (n : Nat) (log : List β)
    (h : ∀ entry ∈ log, part entry < n) :
    ∑ i ∈ Finset.range n, tally measure (log.filter fun entry => part entry = i) =
      tally measure log := by
  induction log with
  | nil => exact Finset.sum_eq_zero fun _ _ => rfl
  | cons entry log ih =>
    obtain ⟨hentry, hlog⟩ := List.forall_mem_cons.1 h
    have hmem : part entry ∈ Finset.range n := Finset.mem_range.2 hentry
    simp only [tally_filter_cons, decide_eq_true_eq]
    rw [Finset.sum_add_distrib, ih hlog, Finset.sum_ite_eq, if_pos hmem, tally_cons]

end TableCopy
