import TableCopy.Plan.Capacity

/-!
# Sections of the segment space

Cooperating processes share the segments of a plan: section `i` of `n` owns
every segment `s` with `s % n = i`, so that each process gets an even spread of
segments rather than a contiguous run.
-/

namespace TableCopy

structure Section where
  index : Nat
  totalSections : Nat
  deriving DecidableEq, Repr

namespace Section

/-- The whole table in one process. -/
def whole : Section := ⟨0, 1⟩

/-- The segments owned by a section, ascending. -/
def ownedSegments (s : Section) (totalSegments : Nat) : List Nat :=
  let stride := max s.totalSections 1
  List.range' s.index ((totalSegments - s.index + stride - 1) / stride) stride

/-- Whether a segment belongs to a section. -/
def owns (s : Section) (segment : Nat) : Bool :=
  segment % max s.totalSections 1 = s.index

/-- The section with a requested index among a requested number of sections. It
exists when `0 ≤ index < totalSections ≤ totalSegments`. -/
def ofRequest (index totalSections : Int) (totalSegments : Nat) : Except CopyError Section :=
  if 0 ≤ index ∧ index < totalSections ∧ totalSections ≤ totalSegments then
    .ok ⟨index.toNat, totalSections.toNat⟩
  else .error (.sectionOutOfRange index totalSections totalSegments)

theorem ofRequest_eq_ok_iff {index totalSections : Int} {totalSegments : Nat} {s : Section} :
    ofRequest index totalSections totalSegments = .ok s ↔
      0 ≤ index ∧ index < totalSections ∧ totalSections ≤ totalSegments ∧
        s = ⟨index.toNat, totalSections.toNat⟩ := by
  unfold ofRequest
  split
  · rename_i h
    simp only [Except.ok.injEq]
    exact ⟨fun hs => ⟨h.1, h.2.1, h.2.2, hs.symm⟩, fun hs => hs.2.2.2.symm⟩
  · rename_i h
    simp only [reduceCtorEq, false_iff]
    exact fun hs => h ⟨hs.1, hs.2.1, hs.2.2.1⟩

end Section
end TableCopy
