import TableCopy.Plan.Section
import TableCopy.Proofs.Tally

/-!
# Sections share the segments out

Every segment of a plan belongs to exactly one of the sections, so what is summed over
the segments of each section sums up to the whole plan.
-/

namespace TableCopy
namespace Section

variable {i n total segment : Nat}

/-- Stride number `j` from a start stays below a bound as long as the number of strides
that fit, rounded up, is above `j`. -/
theorem stride_lt_iff (hn : 1 ≤ n) {j : Nat} :
    j < (total - i + n - 1) / n ↔ i + n * j < total := by
  rw [Nat.lt_iff_add_one_le, Nat.le_div_iff_mul_le hn, Nat.add_mul, Nat.mul_comm j n]
  omega

theorem lt_of_mem_ownedSegments {s : Section} (h : segment ∈ s.ownedSegments total) :
    segment < total := by
  obtain ⟨j, hj, rfl⟩ := List.mem_range'.1 h
  exact (stride_lt_iff (Nat.le_max_right s.totalSections 1)).1 hj

theorem mem_ownedSegments (hi : i < n) :
    segment ∈ ownedSegments ⟨i, n⟩ total ↔ segment < total ∧ segment % n = i := by
  have hn : 1 ≤ n := Nat.lt_of_le_of_lt (Nat.zero_le i) hi
  rw [ownedSegments, Nat.max_eq_left hn, List.mem_range']
  constructor
  · rintro ⟨j, hj, rfl⟩
    rw [Nat.add_mul_mod_self_left, Nat.mod_eq_of_lt hi]
    exact ⟨(stride_lt_iff hn).1 hj, rfl⟩
  · rintro ⟨hlt, rfl⟩
    have hsegment : segment % n + n * (segment / n) = segment := Nat.mod_add_div segment n
    refine ⟨segment / n, (stride_lt_iff hn).2 ?_, hsegment.symm⟩
    rw [hsegment]
    exact hlt

theorem nodup_ownedSegments (s : Section) (total : Nat) : (s.ownedSegments total).Nodup :=
  List.nodup_range' _ (Nat.le_max_right s.totalSections 1)

/-- A section owns no more segments than there are. -/
theorem length_ownedSegments_le (s : Section) (total : Nat) :
    (s.ownedSegments total).length ≤ total := by
  have hsubset : s.ownedSegments total ⊆ List.range total :=
    fun _ hmem => List.mem_range.2 (lt_of_mem_ownedSegments hmem)
  have hle := (List.subperm_of_subset (nodup_ownedSegments s total) hsubset).length_le
  rwa [List.length_range] at hle

/-- The segments of a section are those of the plan that it owns. -/
theorem ownedSegments_perm (hi : i < n) : (ownedSegments ⟨i, n⟩ total).Perm
    ((List.range total).filter fun segment => segment % n = i) := by
  refine (List.perm_ext_iff_of_nodup (nodup_ownedSegments _ _)
    (List.nodup_range.filter _)).2 ?_
  intro segment
  rw [mem_ownedSegments hi, List.mem_filter, List.mem_range, decide_eq_true_iff]

variable {M : Type} [AddCommMonoid M]

/-- Sums over the segments of all sections add up to the sum over the whole plan. -/
theorem sum_tally_ownedSegments (hpos : 1 ≤ n) (measure : Nat → M) (total : Nat) :
    ∑ i ∈ Finset.range n, tally measure (ownedSegments ⟨i, n⟩ total) =
      tally measure (List.range total) := by
  rw [← sum_tally_filter measure (fun segment => segment % n) n (List.range total)
    fun segment _ => Nat.mod_lt segment hpos]
  refine Finset.sum_congr rfl ?_
  intro i hi
  exact tally_perm measure (ownedSegments_perm (Finset.mem_range.1 hi))

/-- Together, the sections own as many segments as there are. -/
theorem sum_length_ownedSegments (hpos : 1 ≤ n) (total : Nat) :
    ∑ i ∈ Finset.range n, (ownedSegments ⟨i, n⟩ total).length = total := by
  have hsum := sum_tally_ownedSegments hpos (fun _ => 1) total
  simpa [tally] using hsum

end Section
end TableCopy
