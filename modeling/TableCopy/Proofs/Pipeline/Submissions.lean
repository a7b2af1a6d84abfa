import TableCopy.Proofs.Pipeline.Run

/-!
# The submissions of a copy

A turn that adds a task to a pool, or gives one to the thread that submits it, is counted by the
pool as a submission. So what a copy has submitted is seen from its turns, but for the tasks that
were lost with a thread that was not started, which the pools count as well.
-/

namespace TableCopy

variable {α ι : Type} [Quantity α] {setup : Setup α} {s t : State α ι}

/-- What a pool has taken of what was submitted to it since an earlier state of it, and what was
lost with threads that were not started. -/
structure Pool.HasTaken {τ : Type} (earlier pool : Pool τ) (taken lost : Nat) : Prop where
  submitted : pool.submitted = taken + lost
  unstarted : pool.unstarted = earlier.unstarted + lost

theorem Pool.HasTaken.change {τ : Type} {earlier pool next : Pool τ} {who? : Option Nat}
    {lent lent' taken lost : Nat} (h : Pool.HasTaken earlier pool taken lost)
    (hreliable : pool.IsReliable) (hchange : pool.Change who? lent next lent') :
    ∃ lost', Pool.HasTaken earlier next
      (taken + (next.tasks.card + lent' - (pool.tasks.card + lent))) lost' := by
  obtain ⟨more, hsubmitted, hunstarted⟩ := hchange.exists_submitted_eq hreliable
  refine ⟨lost + more, ?_, ?_⟩
  · rw [hsubmitted, h.submitted]
    omega
  · rw [hunstarted, h.unstarted, Nat.add_assoc]

/-- What holds at a moment of a pipe, and is preserved by every turn together with the
numbers of the tasks that the pools have taken, holds from then on. A turn gives a pool as many
tasks as it adds to it. -/
theorem Run.invariant_submitted {later : List (Exchange α ι)}
    {P : List (Exchange α ι) → Shared α ι → Multiset (Holder α ι) → Nat → Nat → Prop}
    (hpaced : setup.outsideConsumer = false) (hreliable : s.IsReliable)
    (hpiping : s.control.isPiping = true)
    (hstart : P [] s.shared s.population s.readPool.submitted s.writePool.submitted)
    (hturn : ∀ {history u v before after rest exchanges read write},
      Run setup s history u → u.population = before + rest →
        Turn setup u before exchanges v after → P history u.shared (before + rest) read write →
          P (exchanges ++ history) v.shared (after + rest)
            (read + (Holder.total Holder.segmentTasks after -
              Holder.total Holder.segmentTasks before))
            (write + (Holder.total Holder.chunkTasks after -
              Holder.total Holder.chunkTasks before)))
    (hlater : Run setup s later t) :
    ∃ read write lostReads lostWrites, P later t.shared t.population read write ∧
      s.readPool.HasTaken t.readPool read lostReads ∧
      s.writePool.HasTaken t.writePool write lostWrites := by
  have hstep : ∀ {history exchanges u v reader? writer? read write lostReads lostWrites},
      Run setup s history u → P history u.shared u.population read write →
      s.readPool.HasTaken u.readPool read lostReads →
      s.writePool.HasTaken u.writePool write lostWrites →
      TakesTurn setup u u.population exchanges v v.population →
      u.readPool.Change reader? u.control.lentSegments v.readPool v.control.lentSegments →
      u.writePool.Change writer? u.lentChunks v.writePool v.lentChunks →
      ∃ read write lostReads lostWrites, P (exchanges ++ history) v.shared v.population read write ∧
        s.readPool.HasTaken v.readPool read lostReads ∧
        s.writePool.HasTaken v.writePool write lostWrites := by
    intro history exchanges u v _ _ read write _ _ run hu hreads hwrites hturns hread hwrite
    obtain ⟨before, after, rest, w, hw, hshared, hheld, hleft⟩ := hturns
    have hnext := hturn run hheld hw (hheld ▸ hu)
    have hmiddle := run.isReliable_from hpaced hreliable hpiping
    obtain ⟨lostReads, hreads⟩ := hreads.change hmiddle.read hread
    obtain ⟨lostWrites, hwrites⟩ := hwrites.change hmiddle.write hwrite
    rw [← State.total_segmentTasks, ← State.total_segmentTasks, hheld, hleft, Holder.total_add,
      Holder.total_add, Nat.add_sub_add_right] at hreads
    rw [← State.total_chunkTasks, ← State.total_chunkTasks, hheld, hleft, Holder.total_add,
      Holder.total_add, Nat.add_sub_add_right] at hwrites
    rw [hshared, hleft]
    exact ⟨_, _, _, _, hnext, hreads, hwrites⟩
  induction hlater with
  | start => exact ⟨_, _, 0, 0, hstart, ⟨rfl, rfl⟩, ⟨rfl, rfl⟩⟩
  | step _ run h ih =>
    obtain ⟨read, write, lostReads, lostWrites, hu, hreads, hwrites⟩ := ih
    have hmiddle := run.isPiping_from hpaced hpiping
    obtain ⟨hread, hwrite⟩ := State.pools_of_step hpaced hmiddle h
    exact hstep run hu hreads hwrites (State.takesTurn_of_step hpaced
      (run.isReliable_from hpaced hreliable hpiping) hmiddle h) hread hwrite
  | release run h ih =>
    obtain ⟨read, write, lostReads, lostWrites, hu, hreads, hwrites⟩ := ih
    obtain ⟨hread, hwrite⟩ := State.pools_releasing h
    exact hstep run hu hreads hwrites (State.takesTurn_of_releasing setup h) hread hwrite

end TableCopy
