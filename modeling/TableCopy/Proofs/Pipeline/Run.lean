import TableCopy.Proofs.Pipeline.Turn

/-!
# Runs of a copy

A run is any sequence of steps of a copy, with the shutdown of its pools after the
pipe. Its history lists the exchanges that the steps ended, the latest first. A
property of the shared state, the holders and the history that every turn preserves
holds along every run of a pipe.
-/

namespace TableCopy

variable {α ι : Type} [Quantity α]

/-- The states that a copy reaches from a start, with the exchanges on the way. -/
inductive Run (setup : Setup α) (start : State α ι) : List (Exchange α ι) → State α ι → Prop
  | start : Run setup start [] start
  | step {history s t} (move : Move α ι) (run : Run setup start history s)
      (h : s.step setup move = some t) :
    Run setup start (s.exchanged setup move ++ history) t
  | release {history s result} (run : Run setup start history s)
      (h : s.control = .returned result) : Run setup start history s.releasing

/-- A copy before its pipe: nothing is registered, counted or noted yet. Pools and
slots may be of any size, but a task that a pool refuses is not queued in it. -/
structure State.IsFresh (setup : Setup α) (s : State α ι) : Prop where
  reliable : s.IsReliable
  readTasks : s.readPool.tasks = 0
  writeTasks : s.writePool.tasks = 0
  scanTracker : s.scanTracker = {}
  writeTracker : s.writeTracker = {}
  metrics : s.metrics = {}
  journal : s.journal = []
  readPacer : s.readPacer = Pacer.ofRate setup.scan.throughput
  writePacer : s.writePacer = Pacer.ofRate setup.write.throughput

variable {setup : Setup α} {start s t : State α ι} {history : List (Exchange α ι)}

theorem State.isFresh_initial (readPool writePool : PoolSpec) :
    (initial setup readPool writePool : State α ι).IsFresh setup where
  reliable := ⟨.inl rfl, .inl rfl⟩
  readTasks := rfl
  writeTasks := rfl
  scanTracker := rfl
  writeTracker := rfl
  metrics := rfl
  journal := rfl
  readPacer := rfl
  writePacer := rfl

omit [Quantity α] in
theorem State.IsReliable.piping (h : start.IsReliable) : (start.piping setup).IsReliable :=
  ⟨h.read, h.write⟩

/-- At the start of a pipe the controlling thread holds all the work. -/
theorem State.IsFresh.population_piping (h : start.IsFresh setup) :
    (start.piping setup).population = {.control (.submitting setup.scan.segments)} := by
  have hread : (start.piping setup).readPool.tasks = 0 := h.readTasks
  have hwrite : (start.piping setup).writePool.tasks = 0 := h.writeTasks
  have hreaders : (start.piping setup).readers = 0 := by
    rw [State.readers, hread, Multiset.zero_bind]
  have hwriters : (start.piping setup).writers = 0 := by
    rw [State.writers, hwrite, Multiset.map_zero]
  rw [State.population, hreaders, hwriters, add_zero, add_zero]
  rfl

namespace State

omit [Quantity α] in
theorem isPiping_releasing {result : Except CopyError Unit} (h : s.control = .returned result) :
    s.releasing.control.isPiping = true := by
  rw [releasing, h]
  rfl

/-- The release of the pools is a turn of the controlling thread. -/
theorem takesTurn_of_releasing (setup : Setup α) {result : Except CopyError Unit}
    (h : s.control = .returned result) :
    TakesTurn setup s s.population [] s.releasing s.releasing.population := by
  have hnext : s.releasing = { s with control := .closingRead result } := by
    rw [releasing, h]
  have hleft : ({ s with control := .closingRead result } : State α ι).population =
      {.control (.closingRead result)} + s.readers + s.writers := rfl
  rw [hnext, hleft, population, h]
  exact (((Turn.release.takesTurn rfl).add _).add _).of_shared_eq rfl

end State

namespace Run

/-- A run extends to a run by what follows. -/
theorem trans {later : List (Exchange α ι)} (hrun : Run setup start history s)
    (hlater : Run setup s later t) : Run setup start (later ++ history) t := by
  induction hlater with
  | start => exact hrun
  | step move _ h ih =>
    rw [List.append_assoc]
    exact ih.step move h
  | release _ h ih => exact ih.release h

/-- The release of the pools is part of a run. -/
theorem releasing (hrun : Run setup start history s) : Run setup start history s.releasing := by
  cases hcontrol : s.control with
  | returned => exact hrun.release hcontrol
  | _ =>
    rw [State.releasing, hcontrol]
    exact hrun

/-- Every state that is reachable by steps alone is reached by a run. -/
theorem exists_of_reachable (h : Reachable setup start s) :
    ∃ history, Run setup start history s := by
  induction h with
  | start => exact ⟨[], .start⟩
  | step move _ h ih =>
    obtain ⟨history, hrun⟩ := ih
    exact ⟨_, hrun.step move h⟩

/-- A copy in a pipe does not leave it, but for the release of its pools. -/
theorem isPiping_from (hpaced : setup.outsideConsumer = false)
    (hpiping : s.control.isPiping = true) (hlater : Run setup s history t) :
    t.control.isPiping = true := by
  induction hlater with
  | start => exact hpiping
  | step _ _ h ih => exact State.isPiping_of_step hpaced ih h
  | release _ h _ => exact State.isPiping_releasing h

theorem isPiping (hpaced : setup.outsideConsumer = false)
    (hrun : Run setup (start.piping setup) history s) : s.control.isPiping = true :=
  hrun.isPiping_from hpaced rfl

/-- Reliable pools are so along the whole run. -/
theorem isReliable_from (hpaced : setup.outsideConsumer = false) (hreliable : s.IsReliable)
    (hpiping : s.control.isPiping = true) (hlater : Run setup s history t) : t.IsReliable := by
  induction hlater with
  | start => exact hreliable
  | step _ run h ih => exact ih.step hpaced (run.isPiping_from hpaced hpiping) h
  | release _ h ih => exact ih.releasing h

theorem isReliable (hpaced : setup.outsideConsumer = false) (hfresh : start.IsFresh setup)
    (hrun : Run setup (start.piping setup) history s) : s.IsReliable :=
  hrun.isReliable_from hpaced hfresh.reliable.piping rfl

/-- What holds at a moment of a pipe and is preserved by every turn holds from then on. The
history begins at that moment. -/
theorem invariant_from {P : List (Exchange α ι) → Shared α ι → Multiset (Holder α ι) → Prop}
    (hpaced : setup.outsideConsumer = false) (hreliable : s.IsReliable)
    (hpiping : s.control.isPiping = true) (hstart : P [] s.shared s.population)
    (hturn : ∀ {history u v before after rest exchanges},
      Run setup s history u → u.population = before + rest →
        Turn setup u before exchanges v after → P history u.shared (before + rest) →
          P (exchanges ++ history) v.shared (after + rest))
    (hlater : Run setup s history t) : P history t.shared t.population := by
  induction hlater with
  | start => exact hstart
  | step move run h ih =>
    have hmiddle := run.isPiping_from hpaced hpiping
    obtain ⟨before, after, rest, u, hu, hshared, hheld, hleft⟩ := State.takesTurn_of_step hpaced
      (run.isReliable_from hpaced hreliable hpiping) hmiddle h
    rw [hshared, hleft]
    exact hturn run hheld hu (hheld ▸ ih)
  | release run h ih =>
    obtain ⟨before, after, rest, u, hu, hshared, hheld, hleft⟩ :=
      State.takesTurn_of_releasing setup h
    rw [hshared, hleft]
    exact hturn run hheld hu (hheld ▸ ih)

/-- What holds at the start of a pipe and is preserved by every turn holds along the
whole run. -/
theorem invariant {P : List (Exchange α ι) → Shared α ι → Multiset (Holder α ι) → Prop}
    (hpaced : setup.outsideConsumer = false) (hfresh : start.IsFresh setup)
    (hstart : P [] start.shared {.control (.submitting setup.scan.segments)})
    (hturn : ∀ {history s t before after rest exchanges},
      Run setup (start.piping setup) history s → s.population = before + rest →
        Turn setup s before exchanges t after → P history s.shared (before + rest) →
          P (exchanges ++ history) t.shared (after + rest))
    (hrun : Run setup (start.piping setup) history s) : P history s.shared s.population :=
  invariant_from hpaced hfresh.reliable.piping rfl (hfresh.population_piping.symm ▸ hstart) hturn
    hrun

/-- A property of single holders that every turn hands on, as long as the exchanges are
of a kind, holds of all holders. -/
theorem forall_holders {Q : Exchange α ι → Prop} {P : Holder α ι → Prop}
    (hpaced : setup.outsideConsumer = false) (hfresh : start.IsFresh setup)
    (hstart : P (.control (.submitting setup.scan.segments)))
    (hturn : ∀ {s t : State α ι} {before after exchanges}, Turn setup s before exchanges t after →
      (∀ x ∈ exchanges, Q x) → (∀ holder ∈ before, P holder) → ∀ holder ∈ after, P holder)
    (hrun : Run setup (start.piping setup) history s) (hall : ∀ x ∈ history, Q x) :
    ∀ holder ∈ s.population, P holder := by
  refine hrun.invariant
    (P := fun history _ holders => (∀ x ∈ history, Q x) → ∀ holder ∈ holders, P holder)
    hpaced hfresh ?_ ?_ hall
  · intro _ holder hmem
    rw [Multiset.mem_singleton.1 hmem]
    exact hstart
  · intro history s t before after rest exchanges _ _ h hs hall holder hmem
    rw [List.forall_mem_append] at hall
    rcases Multiset.mem_add.1 hmem with hmem | hmem
    · exact hturn h hall.1 (fun x hx => hs hall.2 x (Multiset.mem_add.2 (.inl hx))) holder hmem
    · exact hs hall.2 holder (Multiset.mem_add.2 (.inr hmem))

/-- Two sides that every turn changes alike, the holders counted in, stay equal, as long
as the exchanges are of a kind. -/
theorem balance {Q : Exchange α ι → Prop} {M : Type} [AddCancelCommMonoid M]
    (debit credit : List (Exchange α ι) → Shared α ι → M) (weight : Holder α ι → M)
    (hpaced : setup.outsideConsumer = false) (hfresh : start.IsFresh setup)
    (hstart : debit [] start.shared =
      credit [] start.shared + weight (.control (.submitting setup.scan.segments)))
    (hturn : ∀ {history s t before after rest exchanges},
      Run setup (start.piping setup) history s → s.population = before + rest →
        Turn setup s before exchanges t after → (∀ x ∈ exchanges ++ history, Q x) →
          debit (exchanges ++ history) t.shared +
              (credit history s.shared + Holder.total weight before) =
            debit history s.shared +
              (credit (exchanges ++ history) t.shared + Holder.total weight after))
    (hrun : Run setup (start.piping setup) history s) (hall : ∀ x ∈ history, Q x) :
    debit history s.shared = credit history s.shared + Holder.total weight s.population := by
  refine hrun.invariant (P := fun history shared holders => (∀ x ∈ history, Q x) →
    debit history shared = credit history shared + Holder.total weight holders)
    hpaced hfresh ?_ ?_ hall
  · intro _
    rw [Holder.total_singleton]
    exact hstart
  · intro history s t before after rest exchanges run hpop h hs hall
    have hlocal := hturn run hpop h hall
    have hs := hs (List.forall_mem_append.1 hall).2
    rw [Holder.total_add] at hs ⊢
    have htotal : debit (exchanges ++ history) t.shared +
          (credit history s.shared + Holder.total weight before) =
        credit (exchanges ++ history) t.shared +
            (Holder.total weight after + Holder.total weight rest) +
          (credit history s.shared + Holder.total weight before) := by
      rw [hlocal, hs]
      abel
    exact add_right_cancel htotal

end Run

namespace World

variable {σ : Type} {world : World σ α ι} {outside next : σ}

omit [Quantity α] in
/-- An interrupt changes no call. -/
theorem call?_interrupt (actor : Actor) :
    ({ s with interrupted := true } : State α ι).call? setup actor = s.call? setup actor := by
  cases actor <;> rfl

/-- Whatever is asked, and whatever was asked before, the answer of a world is of a kind. -/
def Answers (setup : Setup α) (world : World σ α ι) (P : Exchange α ι → Prop) : Prop :=
  ∀ outside call, P ⟨call, (world.respond setup outside call).2.2⟩

variable {P : Exchange α ι → Prop}

/-- A step of a thread in a world is a run whose exchange is answered by the world. -/
theorem exists_run_of_act? {actor : Actor} (hanswers : Answers setup world P)
    (hrun : Run setup start history s)
    (h : world.act? setup outside s actor = some (next, t)) :
    ∃ later, Run setup start (later ++ history) t ∧ ∀ x ∈ later, P x := by
  unfold act? at h
  split at h
  · rename_i call hcall
    split at h
    · cases h
    · obtain ⟨next', response, answer, hrespond⟩ : ∃ next' response answer,
          world.respond setup outside call = (next', response, answer) := ⟨_, _, _, rfl⟩
      rw [hrespond] at h
      obtain ⟨u, hstep, hu⟩ := Option.map_eq_some_iff.1 h
      obtain ⟨-, rfl⟩ := Prod.mk.inj hu
      obtain ⟨v, hv, hcallv, hstepv⟩ : ∃ v, Run setup start history v ∧
          v.call? setup actor = some call ∧ v.step setup (.act actor answer) = some u := by
        split at hstep
        · exact ⟨_, hrun.step .interrupt rfl, (call?_interrupt actor).trans hcall, hstep⟩
        · exact ⟨s, hrun, hcall, hstep⟩
      have hnext := hv.step _ hstepv
      rw [State.exchanged, hcallv, Exchange.ended_some] at hnext
      refine ⟨_, hnext, ?_⟩
      intro x hx
      have hanswer := hanswers outside call
      rw [hrespond] at hanswer
      rw [List.mem_singleton.1 hx]
      exact hanswer
  · rename_i hcall
    obtain ⟨u, hstep, hu⟩ := Option.map_eq_some_iff.1 h
    obtain ⟨rfl, rfl⟩ := Prod.mk.inj hu
    have hnext := hrun.step _ hstep
    rw [State.exchanged, hcall, Exchange.ended_none] at hnext
    exact ⟨[], hnext, List.forall_mem_nil _⟩

/-- What a world makes of a copy is a run whose exchanges are answered by the world. -/
theorem exists_run_settle (hanswers : Answers setup world P) (outside : σ) (fuel : Nat)
    (hrun : Run setup start history s) :
    ∃ later, Run setup start (later ++ history) (world.settle setup fuel outside s).2 ∧
      ∀ x ∈ later, P x := by
  induction fuel generalizing outside history s with
  | zero => exact ⟨[], hrun, List.forall_mem_nil _⟩
  | succ fuel ih =>
    unfold settle
    split
    · rename_i next t hadvance
      obtain ⟨first, hfirst, hanswered⟩ : ∃ first, Run setup start (first ++ history) t ∧
          ∀ x ∈ first, P x := by
        unfold advance? at hadvance
        split at hadvance
        · rename_i hact
          obtain ⟨actor, -, hactor⟩ := List.exists_of_findSome?_eq_some hact
          exact exists_run_of_act? hanswers hrun (hactor.trans hadvance)
        · obtain ⟨time, -, htime⟩ := Option.bind_eq_some_iff.1 hadvance
          obtain ⟨u, hstep, hu⟩ := Option.map_eq_some_iff.1 htime
          obtain ⟨rfl, rfl⟩ := Prod.mk.inj hu
          exact ⟨[], hrun.step _ hstep, List.forall_mem_nil _⟩
      obtain ⟨later, hlater, hrest⟩ := ih _ hfirst
      rw [← List.append_assoc] at hlater
      exact ⟨later ++ first, hlater, List.forall_mem_append.2 ⟨hrest, hanswered⟩⟩
    · exact ⟨[], hrun, List.forall_mem_nil _⟩

end World
end TableCopy
