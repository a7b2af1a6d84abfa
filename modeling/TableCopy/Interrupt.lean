/-!
# Interrupt handles

Handles of one interrupt share a flag: a clone belongs to the group of the
handle it was taken from, and a trigger raises the flag of the whole group for
good. Handles are numbered in the order in which they appear.
-/

namespace TableCopy

structure Interrupts where
  /-- The group of each handle. -/
  groups : List Nat := [0]
  /-- The groups whose flag is raised. -/
  raised : List Nat := []
  /-- The first group number not in use. -/
  nextGroup : Nat := 1
  deriving DecidableEq, Repr

namespace Interrupts

inductive Action
  /-- A handle of a group of its own. -/
  | new
  | clone (handle : Nat)
  | trigger (handle : Nat)
  deriving DecidableEq, Repr

def apply (s : Interrupts) : Action → Interrupts
  | .new => { s with groups := s.groups ++ [s.nextGroup], nextGroup := s.nextGroup + 1 }
  | .clone handle =>
    match s.groups[handle]? with
    | some group => { s with groups := s.groups ++ [group] }
    | none => s
  | .trigger handle =>
    match s.groups[handle]? with
    | some group => { s with raised := group :: s.raised }
    | none => s

def isTriggered (s : Interrupts) (handle : Nat) : Bool :=
  match s.groups[handle]? with
  | some group => s.raised.contains group
  | none => false

/-- The flags of all handles, in order. -/
def states (s : Interrupts) : List Bool := s.groups.map s.raised.contains

end Interrupts
end TableCopy
