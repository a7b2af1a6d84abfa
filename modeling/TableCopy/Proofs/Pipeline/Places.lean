import TableCopy.Pipeline.Simulation
import TableCopy.Proofs.Pipeline.Rule.Control
import TableCopy.Proofs.Pipeline.Rule.Move
import TableCopy.Proofs.Pipeline.Rule.Segment

/-!
# What a step leaves in its place

A task touches neither the pool that it belongs to nor the controlling thread; a chunk task
touches no pool at all. So only its own steps change where the controlling thread stands, and
these leave it in its pipe.
-/

namespace TableCopy

variable {α ι : Type} [Quantity α] {setup : Setup α} {s t : State α ι} {answer : Answer α ι}
variable {exchanges : List (Exchange α ι)}

namespace ChunkTask

/-- A chunk task does not touch the pools or the controlling thread. -/
theorem Rule.places {task next : ChunkTask α ι} (h : Rule setup s task exchanges t next) :
    t.readPool = s.readPool ∧ t.writePool = s.writePool ∧ t.control = s.control := by
  cases h <;> exact ⟨rfl, rfl, rfl⟩

end ChunkTask

namespace Delivery

variable {delivery next : Delivery α ι}

omit [Quantity α] in
theorem Rule.places (h : Delivery.Rule setup s delivery t next) :
    t.readPool = s.readPool ∧ t.writePool = s.writePool ∧ t.control = s.control := by
  cases h <;> exact ⟨rfl, rfl, rfl⟩

theorem places_of_step (h : delivery.step setup s answer = some (t, next)) :
    t.readPool = s.readPool ∧ t.control = s.control := by
  rcases rule_of_step h with hrule | ⟨_, _, _, _, _, _, _, rfl, _⟩ | ⟨_, _, _, _, _, rfl, _⟩ |
    ⟨_, _, _, _, _, hstep, _⟩
  · exact ⟨hrule.places.1, hrule.places.2.2⟩
  · exact ⟨rfl, rfl⟩
  · exact ⟨rfl, rfl⟩
  · obtain ⟨hread, -, hcontrol⟩ := (ChunkTask.rule_of_step hstep).places
    exact ⟨hread, hcontrol⟩

end Delivery

namespace SegmentTask

variable {task next : SegmentTask α ι}

theorem Rule.places (h : Rule setup s task exchanges t next) :
    t.readPool = s.readPool ∧ t.writePool = s.writePool ∧ t.control = s.control := by
  cases h <;> exact ⟨rfl, rfl, rfl⟩

theorem places_of_step (hpaced : setup.outsideConsumer = false)
    (h : task.step setup s answer = some (t, next)) :
    t.readPool = s.readPool ∧ t.control = s.control := by
  rcases rule_of_step hpaced h with hrule | ⟨_, _, _, _, _, _, rfl, _⟩ |
    ⟨_, _, _, _, _, _, _, rfl, _⟩ | ⟨_, _, _, _, _, _, _, hstep, _⟩
  · exact ⟨hrule.places.1, hrule.places.2.2⟩
  · exact ⟨rfl, rfl⟩
  · exact ⟨rfl, rfl⟩
  · exact Delivery.places_of_step hstep

end SegmentTask

omit [Quantity α] in
theorem Control.Rule.isPiping {c c' : Control α ι} (h : Control.Rule setup s c t c') :
    c'.isPiping = true := by
  cases h <;> rfl

namespace State

variable {i : Nat}

theorem control_of_readerStep (hpaced : setup.outsideConsumer = false)
    (h : s.readerStep setup i answer = some t) : t.control = s.control := by
  cases rule_of_readerStep h with
  | advance _ hstep => exact (SegmentTask.places_of_step hpaced hstep).2
  | retire | idle => rfl

theorem places_of_writerStep (h : s.writerStep setup i answer = some t) :
    t.readPool = s.readPool ∧ t.control = s.control := by
  cases rule_of_writerStep h with
  | advance _ hstep =>
    obtain ⟨hread, -, hcontrol⟩ := (ChunkTask.rule_of_step hstep).places
    exact ⟨hread, hcontrol⟩
  | retire | idle => exact ⟨rfl, rfl⟩

theorem isPiping_of_controlStep (hpaced : setup.outsideConsumer = false)
    (hpiping : s.control.isPiping = true) (h : s.controlStep setup answer = some t) :
    t.control.isPiping = true := by
  rcases Control.rule_of_step hpaced hpiping h with ⟨-, _, _, _, _, hrule, rfl⟩ |
    ⟨_, _, _, _, placement, _, rfl⟩ | ⟨_, _, _, _, rfl⟩ | ⟨_, _, _, _, _, _, rfl⟩
  · exact hrule.isPiping
  · cases placement <;> rfl
  · rfl
  · rfl

/-- Only its own steps change where the controlling thread stands. -/
theorem controlStep_or_control_eq {move : Move α ι} (hpaced : setup.outsideConsumer = false)
    (h : s.step setup move = some t) :
    (∃ answer, move = .act .control answer ∧ s.controlStep setup answer = some t) ∨
      t.control = s.control := by
  cases rule_of_step h with
  | control h => exact .inl ⟨_, rfl, h⟩
  | reader h => exact .inr (control_of_readerStep hpaced h)
  | writer h => exact .inr (places_of_writerStep h).2
  | _ => exact .inr rfl

/-- A copy in a pipe does not leave it by a step. -/
theorem isPiping_of_step {move : Move α ι} (hpaced : setup.outsideConsumer = false)
    (hpiping : s.control.isPiping = true) (h : s.step setup move = some t) :
    t.control.isPiping = true := by
  rcases controlStep_or_control_eq hpaced h with ⟨_, -, hstep⟩ | hsame
  · exact isPiping_of_controlStep hpaced hpiping hstep
  · exact hsame ▸ hpiping

end State
end TableCopy
