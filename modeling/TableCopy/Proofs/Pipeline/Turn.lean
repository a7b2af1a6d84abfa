import TableCopy.Proofs.Pipeline.Pools

/-!
# Turns

Every step of a copy in a pipe is a turn: one holder, or two that meet, become others
by one of the rules, and the rest of the population is left alone. Whatever turns
preserve, steps preserve. A pool that refuses a task and keeps it nevertheless would give
it two holders, so the pools are reliable ones.
-/

namespace TableCopy

variable {α ι : Type}

section Holders

variable {setup : Setup α} {s t : State α ι} {delivery next : Delivery α ι}
variable {c c' : Control α ι}

theorem Delivery.Rule.holders (h : Delivery.Rule setup s delivery t next) :
    delivery.holders = {.delivery delivery} ∧ next.holders = {.delivery next} := by
  cases h <;> exact ⟨rfl, rfl⟩

theorem Delivery.Rule.inline? (h : Delivery.Rule setup s delivery t next) :
    delivery.inline? = none := by
  cases h <;> rfl

theorem Control.Rule.holders (h : Control.Rule setup s c t c') :
    c.holders = {.control c} ∧ c'.holders = {.control c'} := by
  cases h <;> exact ⟨rfl, rfl⟩

/-- Closing a pool leaves its holders as they are. -/
theorem Control.Rule.pools (h : Control.Rule setup s c t c') :
    t.readers = s.readers ∧ t.writers = s.writers := by
  cases h <;> exact ⟨rfl, rfl⟩

/-- The controlling thread waits for no answer outside of the segments that it runs. -/
theorem Control.Rule.call? (hpaced : setup.outsideConsumer = false)
    (h : Control.Rule setup s c t c') (hcontrol : s.control = c) :
    s.call? setup .control = none := by
  cases h <;> simp [State.call?, hcontrol, hpaced]

end Holders

variable [Quantity α]

/-- A turn: the holders that take part, the exchange that ends, the state that is left,
and the holders that they become. -/
inductive Turn (setup : Setup α) (s : State α ι) :
    Multiset (Holder α ι) → List (Exchange α ι) → State α ι → Multiset (Holder α ι) → Prop
  /-- Only the places of tasks in a pool change. -/
  | rearrange : Turn setup s 0 [] s 0
  | interrupt : Turn setup s 0 [] s.raise 0
  | elapse {time} (h : s.now ≤ time) : Turn setup s 0 [] (s.waitUntil time) 0
  | control {c t c'} (h : Control.Rule setup s c t c') :
    Turn setup s {.control c} [] t {.control c'}
  | segment {task exchanges t next} (h : SegmentTask.Rule setup s task exchanges t next) :
    Turn setup s {.segment task} exchanges t {.segment next}
  | delivery {delivery t next} (h : Delivery.Rule setup s delivery t next) :
    Turn setup s {.delivery delivery} [] t {.delivery next}
  | chunk {task exchanges t next} (h : ChunkTask.Rule setup s task exchanges t next) :
    Turn setup s {.chunk task} exchanges t {.chunk next}
  | submitSegment {segment left} :
    Turn setup s {.control (.handing segment left)} [] s
      ({.control (.submitting left)} + {.segment ⟨segment, none, 0, .ready⟩})
  | rejectSegment {segment left pool error}
      (h : s.readPool.submit ⟨segment, none, 0, .ready⟩ = (pool, .refused error)) :
    Turn setup s {.control (.handing segment left)} [] { s with readPool := pool }
      {.control (.refused error left)}
  | retireSegment {task} (h : task.isFinished = true) : Turn setup s {.segment task} [] s 0
  /-- A page is counted, and a delivery takes its items. -/
  | handOver {segment key pages page} (h : page.items ≠ []) :
    Turn setup s {.segment ⟨segment, key, pages, .recording page⟩} []
      (s.countPage segment page)
      ({.segment ⟨segment, key, pages + 1, .delivering page.nextKey Delivery.absent⟩} +
        {.delivery ⟨segment, .checking page.items⟩})
  /-- A delivery has ended, and its segment goes on. -/
  | takeBack {segment key pages nextKey number result} :
    Turn setup s
      ({.segment ⟨segment, key, pages, .delivering nextKey Delivery.absent⟩} +
        {.delivery ⟨number, .ended result⟩}) [] s
      {.segment (SegmentTask.afterHandover ⟨segment, key, pages, .checking⟩ nextKey result)}
  | submitChunk {segment chunk rest} :
    Turn setup s {.delivery ⟨segment, .submitting chunk rest⟩} [] s
      ({.delivery ⟨segment, .splitting rest⟩} + {.chunk ⟨segment, chunk, .ready⟩})
  | rejectChunk {segment chunk rest pool error}
      (h : s.writePool.submit ⟨segment, chunk, .ready⟩ = (pool, .refused error)) :
    Turn setup s {.delivery ⟨segment, .submitting chunk rest⟩} [] { s with writePool := pool }
      {.delivery ⟨segment, .refused error chunk rest⟩}
  | retireChunk {task} (h : task.isFinished = true) : Turn setup s {.chunk task} [] s 0
  /-- After the pipe, its pools are released. -/
  | release {result} :
    Turn setup s {.control (.returned result)} [] s {.control (.closingRead result)}

/-- Some of the holders take a turn, and the others are left alone. -/
def TakesTurn (setup : Setup α) (s : State α ι) (held : Multiset (Holder α ι))
    (exchanges : List (Exchange α ι)) (t : State α ι) (left : Multiset (Holder α ι)) : Prop :=
  ∃ before after rest u, Turn setup s before exchanges u after ∧ t.shared = u.shared ∧
    held = before + rest ∧ left = after + rest

variable {setup : Setup α} {s t u : State α ι}
variable {before after held left : Multiset (Holder α ι)} {exchanges : List (Exchange α ι)}

theorem Turn.takesTurn (h : Turn setup s before exchanges u after) (hshared : t.shared = u.shared) :
    TakesTurn setup s before exchanges t after :=
  ⟨before, after, 0, u, h, hshared, (add_zero _).symm, (add_zero _).symm⟩

/-- Holders that take no part may be there as well. -/
theorem TakesTurn.add (h : TakesTurn setup s held exchanges t left)
    (more : Multiset (Holder α ι)) :
    TakesTurn setup s (held + more) exchanges t (left + more) := by
  obtain ⟨before, after, rest, u, hturn, hshared, rfl, rfl⟩ := h
  exact ⟨before, after, rest + more, u, hturn, hshared, add_assoc _ _ _, add_assoc _ _ _⟩

theorem TakesTurn.add_left (h : TakesTurn setup s held exchanges t left)
    (more : Multiset (Holder α ι)) :
    TakesTurn setup s (more + held) exchanges t (more + left) := by
  rw [add_comm more, add_comm more]
  exact h.add more

theorem TakesTurn.of_shared_eq {t' : State α ι} (h : TakesTurn setup s held exchanges t left)
    (hshared : t'.shared = t.shared) : TakesTurn setup s held exchanges t' left := by
  obtain ⟨before, after, rest, u, hturn, hu, hheld, hleft⟩ := h
  exact ⟨before, after, rest, u, hturn, hshared.trans hu, hheld, hleft⟩

/-- The same holders are left in a state that differs by the places of tasks at most. -/
theorem takesTurn_of_shared_eq (hshared : t.shared = s.shared)
    (held : Multiset (Holder α ι)) : TakesTurn setup s held [] t held :=
  ⟨0, 0, held, s, .rearrange, hshared, (zero_add _).symm, (zero_add _).symm⟩

omit [Quantity α] in
/-- Pools that miss as many threads as before are the same to the threads of a copy. -/
theorem State.shared_of_unstarted {readPool : Pool (SegmentTask α ι)}
    {writePool : Pool (ChunkTask α ι)} (hread : readPool.unstarted = s.readPool.unstarted)
    (hwrite : writePool.unstarted = s.writePool.unstarted) :
    ({ s with readPool, writePool } : State α ι).shared = s.shared := by
  simp only [State.shared, hread, hwrite]

namespace Delivery

/-- A step of a delivery is a turn of its holders and those in the write pool. -/
theorem takesTurn_of_step {delivery next : Delivery α ι} {answer : Answer α ι}
    (hreliable : s.writePool.IsReliable) (h : delivery.step setup s answer = some (t, next)) :
    TakesTurn setup s (delivery.holders + s.writers)
      (Exchange.ended ((delivery.inline?.bind ChunkTask.call?).map .batch) answer) t
      (next.holders + t.writers) := by
  rcases rule_of_step h with hrule |
    ⟨segment, chunk, rest, rfl, pool, placement, hsubmit, rfl, rfl⟩ |
    ⟨segment, task, rest, rfl, hfinished, rfl, rfl⟩ |
    ⟨segment, task, rest, task', rfl, hstep, rfl⟩
  · obtain ⟨hbefore, hafter⟩ := hrule.holders
    rw [hbefore, hafter, hrule.inline?, State.writers_congr hrule.places.2.1]
    exact ((Turn.delivery hrule).takesTurn rfl).add _
  · cases placement with
    | refused error =>
      rw [State.writers_of_tasks_eq (Pool.tasks_submit_of_refused hreliable hsubmit)]
      exact ((Turn.rejectChunk hsubmit).takesTurn rfl).add _
    | onCaller =>
      rw [State.writers_of_tasks_eq (Pool.tasks_submit_of_lent hsubmit)]
      have hshared := State.shared_of_unstarted (s := s) rfl (Pool.unstarted_submit hsubmit nofun)
      exact (Turn.submitChunk.takesTurn hshared).add _
    | started | queued =>
      rw [State.writers_of_taken (Pool.tasks_submit_of_taken hsubmit (by decide)), ← add_assoc]
      have hshared := State.shared_of_unstarted (s := s) rfl (Pool.unstarted_submit hsubmit nofun)
      exact (Turn.submitChunk.takesTurn hshared).add _
  · have hcall : task.call? = none := ChunkTask.call?_of_isFinished hfinished
    have hwriters : ({ s with writePool := s.writePool.finishOnCaller false } :
        State α ι).writers = s.writers :=
      State.writers_of_tasks_eq (Pool.tasks_finishOnCaller ..)
    rw [hwriters]
    simp only [inline?, Option.bind_some, hcall, Option.map_none, Exchange.ended_none]
    have hretire : Turn setup s {.chunk task} [] s 0 := .retireChunk hfinished
    have hturn := (hretire.takesTurn rfl).add_left
      {.delivery ⟨segment, .splitting rest⟩}
    rw [add_zero] at hturn
    exact (hturn.of_shared_eq rfl).add _
  · have hrule := ChunkTask.rule_of_step hstep
    rw [State.writers_congr hrule.places.2.1]
    exact (((Turn.chunk hrule).takesTurn rfl).add_left _).add _

end Delivery

namespace SegmentTask

theorem Rule.holders {task next : SegmentTask α ι} (h : Rule setup s task exchanges t next) :
    task.holders = {.segment task} ∧ next.holders = {.segment next} := by
  cases h with
  | skip => exact ⟨rfl, holders_advance _ _⟩
  | takenOutside => exact ⟨rfl, holders_afterHandover _ _ _⟩
  | _ => exact ⟨rfl, rfl⟩

/-- A step of a segment task is a turn of its holders and those in the write pool. -/
theorem takesTurn_of_step {task next : SegmentTask α ι} {answer : Answer α ι}
    (hpaced : setup.outsideConsumer = false) (hreliable : s.writePool.IsReliable)
    (h : task.step setup s answer = some (t, next)) :
    TakesTurn setup s (task.holders + s.writers) (Exchange.ended (task.call? setup) answer) t
      (next.holders + t.writers) := by
  rcases rule_of_step hpaced h with hrule | ⟨segment, key, pages, page, rfl, hitems, rfl, rfl⟩ |
    ⟨segment, key, pages, nextKey, number, result, rfl, rfl, rfl⟩ |
    ⟨segment, key, pages, nextKey, delivery, delivery', rfl, hstep, rfl⟩
  · obtain ⟨hbefore, hafter⟩ := hrule.holders
    rw [hbefore, hafter, State.writers_congr hrule.places.2.1]
    exact ((Turn.segment hrule).takesTurn rfl).add _
  · exact ((Turn.handOver hitems).takesTurn rfl).add _
  · rw [holders_afterHandover, afterHandover_phase segment key pages _ .checking]
    exact (Turn.takeBack.takesTurn rfl).add _
  · have hturn := (Delivery.takesTurn_of_step hreliable hstep).add_left
      {.segment ⟨segment, key, pages, .delivering nextKey Delivery.absent⟩}
    rw [← add_assoc, ← add_assoc] at hturn
    exact hturn

end SegmentTask

namespace State

theorem takesTurn_of_readerStep {i : Nat} {answer : Answer α ι}
    (hpaced : setup.outsideConsumer = false) (hreliable : s.IsReliable)
    (h : s.readerStep setup i answer = some t) :
    TakesTurn setup s s.population (s.exchanged setup (.act (.reader i) answer)) t
      t.population := by
  simp only [exchanged, call?]
  cases rule_of_readerStep h with
  | @retire task htask hfinished =>
    obtain ⟨rest, htasks, -, hfinish⟩ := Pool.exists_tasks_eq_cons htask
    have hreaders : s.readers = task.holders + rest.bind SegmentTask.holders := by
      rw [readers, htasks, Multiset.cons_bind]
    have hleft : ({ s with readPool := s.readPool.finish i false } : State α ι).readers =
        0 + rest.bind SegmentTask.holders := by
      rw [readers, hfinish, zero_add]
    rw [htask, Option.bind_some, population_of_readers hreaders,
      SegmentTask.call?_of_isFinished hfinished, SegmentTask.holders_of_isFinished hfinished,
      add_assoc, population_of_readers hleft, add_assoc]
    exact ((Turn.retireSegment hfinished).takesTurn rfl).add _
  | @advance task _ u next htask hstep =>
    obtain ⟨rest, htasks, hset, -⟩ := Pool.exists_tasks_eq_cons htask
    obtain ⟨hread, hcontrol⟩ := SegmentTask.places_of_step hpaced hstep
    have hturn := SegmentTask.takesTurn_of_step hpaced hreliable.write hstep
    have hreaders : s.readers = task.holders + rest.bind SegmentTask.holders := by
      rw [readers, htasks, Multiset.cons_bind]
    have hnext : ({ u with readPool := u.readPool.setWorker i (.running next) } :
        State α ι).readers = next.holders + rest.bind SegmentTask.holders := by
      rw [readers, hread, hset, Multiset.cons_bind]
    rw [htask, Option.bind_some, population_of_readers hreaders, population_of_readers hnext,
      hcontrol]
    exact (hturn.of_shared_eq rfl).add _
  | idle htask hidle =>
    rw [htask, population_readPool (Pool.tasks_idleStep hidle)]
    exact takesTurn_of_shared_eq (shared_of_unstarted (Pool.unstarted_idleStep hidle) rfl) _

theorem takesTurn_of_writerStep {i : Nat} {answer : Answer α ι}
    (h : s.writerStep setup i answer = some t) :
    TakesTurn setup s s.population (s.exchanged setup (.act (.writer i) answer)) t
      t.population := by
  simp only [exchanged, call?]
  cases rule_of_writerStep h with
  | @retire task htask hfinished =>
    obtain ⟨rest, htasks, -, hfinish⟩ := Pool.exists_tasks_eq_cons htask
    have hwriters : s.writers = {.chunk task} + rest.map .chunk := by
      rw [writers, htasks, Multiset.map_cons]
      rfl
    have hretire : Turn setup s {.chunk task} [] s 0 := .retireChunk hfinished
    have hturn := ((hretire.takesTurn rfl).add
      (rest.map .chunk)).add_left (s.control.holders + s.readers)
    rw [zero_add] at hturn
    rw [htask, Option.bind_some, population, hwriters, ChunkTask.call?_of_isFinished hfinished,
      population, writers, hfinish]
    exact hturn.of_shared_eq rfl
  | @advance task _ u next htask hstep =>
    obtain ⟨rest, htasks, hset, -⟩ := Pool.exists_tasks_eq_cons htask
    have hrule := ChunkTask.rule_of_step hstep
    obtain ⟨hread, hwrite, hcontrol⟩ := hrule.places
    have hwriters : s.writers = {.chunk task} + rest.map .chunk := by
      rw [writers, htasks, Multiset.map_cons]
      rfl
    have hnext : ({ u with writePool := u.writePool.setWorker i (.running next) } :
        State α ι).writers = {.chunk next} + rest.map .chunk := by
      rw [writers, hwrite, hset, Multiset.map_cons]
      rfl
    have hleft : ({ u with writePool := u.writePool.setWorker i (.running next) } :
        State α ι).population = s.control.holders + s.readers +
          ({.chunk next} + rest.map .chunk) := by
      rw [population, hnext, readers, readers, hcontrol, hread]
    rw [htask, Option.bind_some, hleft, population, hwriters]
    exact ((((Turn.chunk hrule).takesTurn rfl).add _).add_left _).of_shared_eq rfl
  | idle htask hidle =>
    rw [htask, population_writePool (Pool.tasks_idleStep hidle)]
    exact takesTurn_of_shared_eq (shared_of_unstarted rfl (Pool.unstarted_idleStep hidle)) _

/-- The submission of a segment is a turn of the controlling thread, whether the pool takes
the segment, leaves it to this thread, or refuses it. -/
theorem takesTurn_of_handing {segment : Nat} {left : List Nat} {pool : Pool (SegmentTask α ι)}
    {placement : Placement} (hreliable : s.readPool.IsReliable)
    (hcontrol : s.control = .handing segment left)
    (hsubmit : s.readPool.submit ⟨segment, none, 0, .ready⟩ = (pool, placement))
    (ht : t = { s with
      readPool := pool
      control := Control.afterSubmission segment left placement }) :
    TakesTurn setup s s.population [] t t.population := by
  have hshared (hplacement : ∀ error, placement ≠ .refused error) : t.shared = s.shared := by
    rw [ht]
    exact shared_of_unstarted (Pool.unstarted_submit hsubmit hplacement) rfl
  rw [population, hcontrol]
  cases placement with
  | refused error =>
    have hleft : t.population = {.control (.refused error left)} + s.readers + s.writers := by
      rw [← readers_of_tasks_eq (Pool.tasks_submit_of_refused hreliable hsubmit), ht]
      rfl
    rw [hleft]
    exact ((((Turn.rejectSegment hsubmit).takesTurn rfl).add _).add _).of_shared_eq (ht ▸ rfl)
  | onCaller =>
    have hleft : t.population = {.control (.submitting left)} +
        {.segment ⟨segment, none, 0, .ready⟩} + s.readers + s.writers := by
      rw [← readers_of_tasks_eq (Pool.tasks_submit_of_lent hsubmit), ht]
      rfl
    rw [hleft]
    have hkept := hshared fun _ h => by cases h
    exact (((Turn.submitSegment.takesTurn rfl).add _).add _).of_shared_eq hkept
  | started | queued =>
    have hleft : t.population = {.control (.submitting left)} +
        {.segment ⟨segment, none, 0, .ready⟩} + s.readers + s.writers := by
      rw [add_assoc ({.control (.submitting left)} : Multiset (Holder α ι)),
        ← readers_of_taken (Pool.tasks_submit_of_taken hsubmit (by decide)), ht]
      rfl
    rw [hleft]
    have hkept := hshared fun _ h => by cases h
    exact (((Turn.submitSegment.takesTurn rfl).add _).add _).of_shared_eq hkept

/-- A step of the controlling thread in a pipe is a turn. -/
theorem takesTurn_of_controlStep {answer : Answer α ι} (hpaced : setup.outsideConsumer = false)
    (hreliable : s.IsReliable) (hpiping : s.control.isPiping = true)
    (h : s.controlStep setup answer = some t) :
    TakesTurn setup s s.population (s.exchanged setup (.act .control answer)) t t.population := by
  rcases Control.rule_of_step hpaced hpiping h with ⟨-, c, u, c', hcontrol, hrule, rfl⟩ |
    ⟨segment, left, hcontrol, pool, placement, hsubmit, rfl⟩ |
    ⟨task, left, hcontrol, hfinished, rfl⟩ | ⟨task, left, u, next, hcontrol, hstep, rfl⟩
  · obtain ⟨hbefore, hafter⟩ := hrule.holders
    obtain ⟨hreaders, hwriters⟩ := hrule.pools
    have hleft : ({ u with control := c' } : State α ι).population =
        {.control c'} + s.readers + s.writers := by
      rw [← hreaders, ← hwriters, ← hafter]
      rfl
    rw [hleft, population, hcontrol, hbefore, exchanged, hrule.call? hpaced hcontrol]
    exact ((((Turn.control hrule).takesTurn rfl).add _).add _).of_shared_eq rfl
  · have hcall : s.call? setup .control = none := by
      rw [call?, hcontrol]
    rw [exchanged, hcall]
    exact takesTurn_of_handing hreliable.read hcontrol hsubmit rfl
  · have hcall : s.call? setup .control = none := by
      rw [call?, hcontrol]
      exact SegmentTask.call?_of_isFinished hfinished
    have hleft : ({ s with
          readPool := s.readPool.finishOnCaller false
          control := .submitting left } : State α ι).population =
        {.control (.submitting left)} + 0 + s.readers + s.writers := by
      rw [add_zero, readers, ← Pool.tasks_finishOnCaller s.readPool false]
      rfl
    rw [hleft, exchanged, hcall, population, hcontrol, Control.holders,
      SegmentTask.holders_of_isFinished hfinished]
    exact (((((Turn.retireSegment hfinished).takesTurn rfl).add_left _).add _).add _).of_shared_eq
      rfl
  · have hread := (SegmentTask.places_of_step hpaced hstep).1
    have hturn := SegmentTask.takesTurn_of_step hpaced hreliable.write hstep
    have hcall : s.call? setup .control = task.call? setup := by
      rw [call?, hcontrol]
    have hheld : s.population =
        task.holders + s.writers + ({.control (.submitting left)} + s.readers) := by
      rw [population, hcontrol, Control.holders]
      abel
    have hleft : ({ u with control := .running next left } : State α ι).population =
        next.holders + u.writers + ({.control (.submitting left)} + s.readers) := by
      have hreaders : u.readers = s.readers := by rw [readers, hread, readers]
      rw [← hreaders]
      change {.control (.submitting left)} + next.holders + u.readers + u.writers = _
      abel
    rw [exchanged, hcall, hheld, hleft]
    exact (hturn.of_shared_eq rfl).add _

/-- Every step of a copy in a pipe is a turn of its holders. -/
theorem takesTurn_of_step {move : Move α ι} (hpaced : setup.outsideConsumer = false)
    (hreliable : s.IsReliable) (hpiping : s.control.isPiping = true)
    (h : s.step setup move = some t) :
    TakesTurn setup s s.population (s.exchanged setup move) t t.population := by
  cases rule_of_step h with
  | interrupt => exact ⟨0, 0, _, _, .interrupt, rfl, (zero_add _).symm, (zero_add _).symm⟩
  | elapse htime => exact ⟨0, 0, _, _, .elapse htime, rfl, (zero_add _).symm, (zero_add _).symm⟩
  | control h => exact takesTurn_of_controlStep hpaced hreliable hpiping h
  | reader h => exact takesTurn_of_readerStep hpaced hreliable h
  | writer h => exact takesTurn_of_writerStep h
  | readerTimeOut hout =>
    rw [population_readPool (Pool.tasks_timeOut hout)]
    exact takesTurn_of_shared_eq (shared_of_unstarted (Pool.unstarted_timeOut hout) rfl) _
  | writerTimeOut hout =>
    rw [population_writePool (Pool.tasks_timeOut hout)]
    exact takesTurn_of_shared_eq (shared_of_unstarted rfl (Pool.unstarted_timeOut hout)) _

end State
end TableCopy
