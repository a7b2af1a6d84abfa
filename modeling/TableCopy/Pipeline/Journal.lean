import TableCopy.Pipeline.State

/-!
# Reading the journal

The journal of a copy keeps the latest entry first. Here are the entries in the
order in which they were made, and what single entries tell.
-/

namespace TableCopy

variable {α ι : Type}

namespace State

/-- The entries made since the journal had `earlier` entries, the earliest first. -/
def entriesSince (s : State α ι) (earlier : Nat) : List (Entry α ι) :=
  (s.journal.take (s.journal.length - earlier)).reverse

/-- All entries, the earliest first. -/
def entries (s : State α ι) : List (Entry α ι) := s.journal.reverse

end State

namespace Entry

/-- The request for a page that an entry notes. -/
def request? : Entry α ι → Option (PageRequest ι)
  | requested request => some request
  | _ => none

/-- The batch that an entry notes, with its table. -/
def batch? : Entry α ι → Option (String × List ι)
  | sent table items => some (table, items)
  | _ => none

/-- The items that an entry notes as handed to a consumer outside, with their segment. -/
def handed? : Entry α ι → Option (Nat × List ι)
  | handed part items => some (part, items)
  | _ => none

def isFinishing : Entry α ι → Bool
  | finishing => true
  | _ => false

end Entry
end TableCopy
