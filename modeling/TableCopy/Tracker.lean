import TableCopy.Error

/-!
# Completion of tasks

A tracker counts the tasks that have begun and not completed, and keeps the
first failure for good. A task that crashes counts as one that failed.
-/

namespace TableCopy

/-- How a call ended: it returned, or it crashed with a reason that may be unknown. -/
inductive Outcome (β : Type)
  | returned (result : Except CopyError β)
  | crashed (reason : Option String)

/-- The result recorded for a task; a crash becomes a failure that names the task. -/
def Outcome.record {β : Type} (label : String) : Outcome β → Except CopyError β
  | returned result => result
  | crashed reason =>
    .error (.execution (label ++ " panicked: " ++ reason.getD "unknown cause"))

structure Tracker where
  pending : Nat := 0
  firstError : Option CopyError := none
  deriving DecidableEq, Repr

namespace Tracker

/-- Register a task that is about to be submitted. -/
def begin (t : Tracker) : Tracker := { t with pending := t.pending + 1 }

/-- Record how a registered task ended. -/
def complete (t : Tracker) (result : Except CopyError Unit) : Tracker :=
  { pending := t.pending - 1
    firstError :=
      match t.firstError, result with
      | none, .error e => some e
      | first, _ => first }

/-- Record the outcome of a registered task, a crash included. -/
def completeTask (t : Tracker) (label : String) (outcome : Outcome Unit) : Tracker :=
  t.complete (outcome.record label)

def hasFailed (t : Tracker) : Bool := t.firstError.isSome

/-- The answer of a waiter: none while tasks are pending, else the first failure. -/
def wait? (t : Tracker) : Option (Except CopyError Unit) :=
  if t.pending = 0 then
    some (match t.firstError with
      | some e => .error e
      | none => .ok ())
  else none

@[simp] theorem pending_begin (t : Tracker) : t.begin.pending = t.pending + 1 := rfl

@[simp] theorem pending_complete (t : Tracker) (result : Except CopyError Unit) :
    (t.complete result).pending = t.pending - 1 := rfl

theorem firstError_complete_of_some {t : Tracker} {e : CopyError} (h : t.firstError = some e)
    (result : Except CopyError Unit) : (t.complete result).firstError = some e := by
  simp [complete, h]

theorem hasFailed_complete_error (t : Tracker) (e : CopyError) :
    (t.complete (.error e)).hasFailed = true := by
  simp only [complete, hasFailed]
  cases t.firstError <;> rfl

end Tracker
end TableCopy
