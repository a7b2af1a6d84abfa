import TableCopy.Proofs.Plan.Section

/-!
# Sections partition the segment space

A request for a section is accepted exactly when the section exists, and the sections of
one number are then a partition of the segments into even shares. The segments of a
section are found by stepping through the plan. That stepping is done on 32-bit words:
it may wrap around behind the last segment, where nothing is read any more.
-/

namespace TableCopy

/-- How parts of one number share out the segments below a total. -/
structure SharesOut (number total : Nat) (part : Nat → List Nat) : Prop where
  ascending : ∀ i < number, (part i).Pairwise (· < ·)
  nonempty : ∀ i < number, part i ≠ []
  disjoint : ∀ i < number, ∀ j < number, i ≠ j → (part i).Disjoint (part j)
  covers : ∀ segment, segment < total ↔ ∃ i < number, segment ∈ part i
  balanced : ∀ i < number, ∀ j < number, (part i).length ≤ (part j).length + 1

/-- The words found by going a number of strides from a start. The word behind the last
one is computed without being read, and may wrap around. -/
def strideWords (start stride : UInt32) : Nat → List UInt32
  | 0 => []
  | strides + 1 => start :: strideWords (start + stride) stride strides

/-- Strides on words are strides on numbers as long as the words that are read fit. -/
theorem map_toNat_strideWords {start stride : UInt32} {strides : Nat}
    (hfit : ∀ number ∈ List.range' start.toNat strides stride.toNat, number < UInt32.size) :
    (strideWords start stride strides).map UInt32.toNat =
      List.range' start.toNat strides stride.toNat := by
  induction strides generalizing start with
  | zero => rfl
  | succ strides ih =>
    simp only [strideWords, List.map_cons, List.range'_succ]
    rw [List.range'_succ, List.forall_mem_cons] at hfit
    -- Without further strides the next start is not read, so it need not fit.
    cases strides with
    | zero => rfl
    | succ strides =>
      have hlt : start.toNat + stride.toNat < UInt32.size := hfit.2 _ (by simp [List.range'_succ])
      have hnext : (start + stride).toNat = start.toNat + stride.toNat := by
        rw [UInt32.toNat_add, Nat.mod_eq_of_lt hlt]
      rw [ih (by rw [hnext]; exact hfit.2), hnext]

namespace Section

variable {i n total segment : Nat} {index sections : Int} {s : Section}

theorem ofRequest_cases (index sections : Int) (total : Nat) :
    (0 ≤ index ∧ index < sections ∧ sections ≤ total) ∧
        ofRequest index sections total = .ok ⟨index.toNat, sections.toNat⟩ ∨
      ¬ (0 ≤ index ∧ index < sections ∧ sections ≤ total) ∧
        ofRequest index sections total = .error (.sectionOutOfRange index sections total) := by
  unfold ofRequest
  split
  · rename_i h
    exact .inl ⟨h, rfl⟩
  · rename_i h
    exact .inr ⟨h, rfl⟩

/-- The section of an accepted request is one of the sections it asks for. -/
theorem index_lt_of_ofRequest (h : ofRequest index sections total = .ok s) :
    s.index < s.totalSections ∧ s.totalSections ≤ total := by
  obtain ⟨h₀, h₁, h₂, rfl⟩ := ofRequest_eq_ok_iff.1 h
  dsimp only
  omega

theorem ascending_ownedSegments (s : Section) (total : Nat) :
    (s.ownedSegments total).Pairwise (· < ·) :=
  List.pairwise_lt_range' _ (Nat.le_max_right s.totalSections 1)

/-- Membership in the segments of a section is ownership. -/
theorem mem_ownedSegments_iff_owns (hi : s.index < s.totalSections) (hsegment : segment < total) :
    segment ∈ s.ownedSegments total ↔ s.owns segment = true := by
  have hmax : max s.totalSections 1 = s.totalSections := by omega
  rw [mem_ownedSegments hi, owns, hmax, decide_eq_true_iff]
  exact and_iff_right hsegment

theorem length_ownedSegments (hn : 1 ≤ n) :
    (ownedSegments ⟨i, n⟩ total).length = (total - i + n - 1) / n := by
  rw [ownedSegments, Nat.max_eq_left hn, List.length_range']

/-- A section that starts later owns no more, and at most one segment less. -/
theorem length_ownedSegments_le_of_le {j : Nat} (hi : i < n) (hj : j < n) :
    (ownedSegments ⟨i, n⟩ total).length ≤ (ownedSegments ⟨j, n⟩ total).length + 1 := by
  have hn : 1 ≤ n := Nat.lt_of_le_of_lt (Nat.zero_le i) hi
  rw [length_ownedSegments hn, length_ownedSegments hn, ← Nat.add_div_right _ hn]
  exact Nat.div_le_div_right (by omega)

/-- The sections of a number of them share out the segments of any plan that has at least
as many. -/
theorem sharesOut_ownedSegments (hn : 1 ≤ n) (htotal : n ≤ total) :
    SharesOut n total fun i => ownedSegments ⟨i, n⟩ total where
  ascending i _ := ascending_ownedSegments ⟨i, n⟩ total
  nonempty i hi := by
    have hfirst : i ∈ ownedSegments ⟨i, n⟩ total :=
      (mem_ownedSegments hi).2 ⟨hi.trans_le htotal, Nat.mod_eq_of_lt hi⟩
    exact List.ne_nil_of_mem hfirst
  disjoint i hi j hj hne segment hmem hmem' := by
    rw [mem_ownedSegments hi] at hmem
    rw [mem_ownedSegments hj] at hmem'
    exact hne (hmem.2.symm.trans hmem'.2)
  covers segment := by
    constructor
    · intro hsegment
      have hmod : segment % n < n := Nat.mod_lt segment hn
      exact ⟨segment % n, hmod, (mem_ownedSegments hmod).2 ⟨hsegment, rfl⟩⟩
    · rintro ⟨i, _, hmem⟩
      exact lt_of_mem_ownedSegments hmem
  balanced i hi j hj := length_ownedSegments_le_of_le hi hj

/-- On words, the segments of a section are those found by going through the plan in
strides of the number of sections. -/
theorem map_toNat_strideWords_ownedSegments {total : UInt32} (hi : s.index < s.totalSections)
    (htotal : s.totalSections ≤ total.toNat) :
    (strideWords (.ofNat s.index) (.ofNat s.totalSections)
        (s.ownedSegments total.toNat).length).map UInt32.toNat =
      s.ownedSegments total.toNat := by
  have hsize : total.toNat < UInt32.size := total.toNat_lt
  have hindex : (UInt32.ofNat s.index).toNat = s.index :=
    UInt32.toNat_ofNat_of_lt (by omega)
  have hstride : (UInt32.ofNat s.totalSections).toNat = s.totalSections :=
    UInt32.toNat_ofNat_of_lt (by omega)
  have hmax : max s.totalSections 1 = s.totalSections := by omega
  have hrange : List.range' s.index (s.ownedSegments total.toNat).length s.totalSections =
      s.ownedSegments total.toNat := by
    rw [ownedSegments, hmax, List.length_range']
  rw [map_toNat_strideWords, hindex, hstride, hrange]
  rw [hindex, hstride, hrange]
  exact fun segment hmem => (lt_of_mem_ownedSegments hmem).trans hsize

/-- What a request for a section gives. It is accepted exactly when the section exists, with
the very numbers of the request, and refused with them otherwise. The sections of every
number that can be accepted share out the segments; a segment is among those of an accepted
section when the section owns it, also when segments are words. -/
theorem sections_partition (index sections : Int) (total : Nat) :
    ((∃ s, ofRequest index sections total = .ok s) ↔
      0 ≤ index ∧ index < sections ∧ sections ≤ total) ∧
    (∀ e, ofRequest index sections total = .error e →
      e = .sectionOutOfRange index sections total) ∧
    (∀ s, ofRequest index sections total = .ok s →
      (s.index : Int) = index ∧ (s.totalSections : Int) = sections ∧
      (∀ segment < total, segment ∈ s.ownedSegments total ↔ s.owns segment = true) ∧
      ∀ word : UInt32, word.toNat = total →
        s.totalSections < UInt32.size ∧
        (strideWords (.ofNat s.index) (.ofNat s.totalSections)
          (s.ownedSegments total).length).map UInt32.toNat = s.ownedSegments total) ∧
    ∀ n, 1 ≤ n → n ≤ total →
      (∀ i, i < n ↔ ofRequest i n total = .ok ⟨i, n⟩) ∧
      SharesOut n total fun i => ownedSegments ⟨i, n⟩ total := by
  refine ⟨?_, ?_, ?_, ?_⟩
  · obtain ⟨hexists, h⟩ | ⟨hmissing, h⟩ := ofRequest_cases index sections total
    · exact ⟨fun _ => hexists, fun _ => ⟨_, h⟩⟩
    · refine ⟨?_, fun hexists => (hmissing hexists).elim⟩
      rintro ⟨s, hs⟩
      cases h.symm.trans hs
  · intro e he
    obtain ⟨_, h⟩ | ⟨_, h⟩ := ofRequest_cases index sections total
    · cases h.symm.trans he
    · cases h.symm.trans he
      rfl
  · intro s hs
    obtain ⟨hi, htotal⟩ := index_lt_of_ofRequest hs
    obtain ⟨h₀, h₁, h₂, rfl⟩ := ofRequest_eq_ok_iff.1 hs
    refine ⟨Int.toNat_of_nonneg h₀, Int.toNat_of_nonneg (h₀.trans h₁.le),
      fun segment => mem_ownedSegments_iff_owns hi, ?_⟩
    rintro word rfl
    exact ⟨htotal.trans_lt word.toNat_lt, map_toNat_strideWords_ownedSegments hi htotal⟩
  · intro n hn htotal
    refine ⟨?_, sharesOut_ownedSegments hn htotal⟩
    intro i
    rw [ofRequest_eq_ok_iff]
    simp only [Int.toNat_natCast, and_true]
    omega

/-- The greatest plan in one section less than it has segments: the stride behind the second
segment of the first section wraps around. -/
theorem sections_partition_greatest :
    ofRequest 0 4294967294 4294967295 = .ok ⟨0, 4294967294⟩ ∧
      (strideWords 0 4294967294 2).map UInt32.toNat = [0, 4294967294] ∧
      SharesOut 4294967294 4294967295 fun i => ownedSegments ⟨i, 4294967294⟩ 4294967295 := by
  have haccepted : ofRequest 0 4294967294 4294967295 = .ok ⟨0, 4294967294⟩ := by decide
  obtain ⟨-, -, hsection, hshares⟩ := sections_partition 0 4294967294 4294967295
  obtain ⟨-, -, -, hwords⟩ := hsection _ haccepted
  exact ⟨haccepted, (hwords 4294967295 rfl).2, (hshares 4294967294 (by decide) (by decide)).2⟩

end Section
end TableCopy
