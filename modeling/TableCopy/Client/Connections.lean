import TableCopy.Number.Word

/-!
# Connection slots

A client bounds its requests in flight by a number of slots. A request holds
one slot from before it is sent until it is answered. A client without a limit
always has a slot. No client can be made for more slots than `mostSlots`.
-/

namespace TableCopy

structure Connections where
  /-- Most slots in use at once; unlimited when unset. -/
  limit : Option Nat
  held : Nat := 0
  deriving DecidableEq, Repr

namespace Connections

/-- The most slots that a client can be made for: a word without its three
leading bits. -/
def mostSlots : Nat := Word.greatest 61

/-- Whether a client can be made for a configured limit. -/
def isFeasible (maxConnections : Nat) : Bool := maxConnections ≤ mostSlots

/-- What is said when a client cannot be made. -/
def excess : String :=
  "a semaphore may not have more than MAX_PERMITS permits (" ++ toString mostSlots ++ ")"

/-- The slots of a client with a configured limit; there is always at least one. -/
def ofLimit (maxConnections : Nat) : Connections := ⟨some (max maxConnections 1), 0⟩

def unlimited : Connections := ⟨none, 0⟩

/-- Take a slot, if one is free. -/
def acquire? (c : Connections) : Option Connections :=
  if c.limit.all fun limit => c.held < limit then some { c with held := c.held + 1 } else none

/-- Give a slot back, if one is held. -/
def release? (c : Connections) : Option Connections :=
  if c.held = 0 then none else some { c with held := c.held - 1 }

/-- Give a slot back. -/
def release (c : Connections) : Connections := { c with held := c.held - 1 }

theorem held_le_of_acquire? {c d : Connections} {limit : Nat} (hl : c.limit = some limit)
    (h : c.acquire? = some d) : d.held ≤ limit := by
  simp only [acquire?, hl, Option.all_some, decide_eq_true_eq, Option.ite_none_right_eq_some,
    Option.some.injEq] at h
  obtain ⟨hlt, rfl⟩ := h
  exact hlt

end Connections
end TableCopy
