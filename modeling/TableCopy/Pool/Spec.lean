import TableCopy.Number.Word

/-!
# Pool sizes

A pool for a concurrency limit has as many threads and as many queue places as
the limit. Its core stays below the limit where it can, so that a burst past
the queue still has a thread to grow into. All queue places are made at once, so
that a pool with more than `mostPlaces` of them cannot be made.
-/

namespace TableCopy

structure PoolSpec where
  corePoolSize : Nat
  maxPoolSize : Nat
  queueCapacity : Nat
  /-- Nanoseconds after which an idle thread above the core leaves. -/
  keepAlive : Nat
  deriving DecidableEq, Repr

namespace PoolSpec

/-- The size of a pool for a limit and a preferred core size. -/
def ofLimit (limit configuredCore keepAlive : Nat) : PoolSpec where
  corePoolSize := max (min configuredCore (max limit 1 - 1)) 1
  maxPoolSize := max limit 1
  queueCapacity := max limit 1
  keepAlive := keepAlive

/-- The queue places of a pool; there is always at least one. -/
def places (spec : PoolSpec) : Nat := max spec.queueCapacity 1

/-- Octets that a queue place takes. -/
def placeSize : Nat := 24

/-- The most queue places that fit into half of the addresses. -/
def mostPlaces : Nat := Word.greatest 63 / placeSize

/-- Whether a pool can be made. -/
def isFeasible (spec : PoolSpec) : Bool := spec.places ≤ mostPlaces

/-- What is said when a pool cannot be made. -/
def excess : String := "capacity overflow"

theorem ofLimit_core_pos (limit core keepAlive : Nat) :
    1 ≤ (ofLimit limit core keepAlive).corePoolSize := Nat.le_max_right ..

theorem ofLimit_core_le_max (limit core keepAlive : Nat) :
    (ofLimit limit core keepAlive).corePoolSize ≤ (ofLimit limit core keepAlive).maxPoolSize := by
  simp only [ofLimit]
  omega

theorem isFeasible_ofLimit_iff (limit core keepAlive : Nat) :
    (ofLimit limit core keepAlive).isFeasible = true ↔ limit ≤ mostPlaces := by
  have hone : 1 ≤ mostPlaces := by decide
  simp only [isFeasible, places, ofLimit, decide_eq_true_eq, Nat.max_le]
  exact ⟨fun h => h.1.1, fun h => ⟨⟨h, hone⟩, hone⟩⟩

end PoolSpec
end TableCopy
