import TableCopy.Proofs.Pipeline.Rule.Delivery

/-!
# Rules of a segment task

A segment task reads a page, charges it, counts it and hands it over. Its own steps
are the rules here. Handing a page to the writer and going on after it join the task
to a delivery, and the steps of that delivery are its own.
-/

namespace TableCopy

variable {α ι : Type} [Quantity α]

namespace SegmentTask

/-- One step that a segment task makes by itself: the exchange it ends, the state it
leaves, and where the task stands then. -/
inductive Rule (setup : Setup α) (s : State α ι) :
    SegmentTask α ι → List (Exchange α ι) → State α ι → SegmentTask α ι → Prop
  | begin {segment key pages} :
    Rule setup s ⟨segment, key, pages, .ready⟩ [] (s.count .segmentStarted)
      ⟨segment, key, pages, .checking⟩
  | interrupt {segment key pages} (h : s.interrupted = true) :
    Rule setup s ⟨segment, key, pages, .checking⟩ [] s
      ⟨segment, key, pages, .closing (.error (interruption (⟨segment, key, pages, .checking⟩ :
        SegmentTask α ι)))⟩
  | proceed {segment key pages} (h : s.interrupted = false) :
    Rule setup s ⟨segment, key, pages, .checking⟩ [] s ⟨segment, key, pages, .connecting 0⟩
  | send {segment key pages attempt slots} (h : s.readSlots.acquire? = some slots) :
    Rule setup s ⟨segment, key, pages, .connecting attempt⟩ []
      ((s.holdReadSlots slots).log
        (.requested (request setup ⟨segment, key, pages, .connecting attempt⟩)))
      ⟨segment, key, pages, .fetching attempt⟩
  | crash {segment key pages attempt} (reason : Option String) :
    Rule setup s ⟨segment, key, pages, .fetching attempt⟩
      [Exchange.page (request setup ⟨segment, key, pages, .fetching attempt⟩) (.crashed reason)]
      s.freeReadSlot ⟨segment, key, pages, .ending (.crashed reason)⟩
  /-- A page arrived: what it consumed is charged next. -/
  | fetch {segment key pages attempt} (page : Page α ι) :
    Rule setup s ⟨segment, key, pages, .fetching attempt⟩
      [Exchange.page (request setup ⟨segment, key, pages, .fetching attempt⟩)
        (.returned (.ok page))]
      s.freeReadSlot
      ⟨segment, key, pages, .charging page (s.readPacer.permits page.capacity) s.now⟩
  | giveUp {segment key pages attempt e} (h : setup.scanRetry.onFailure attempt e = .giveUp) :
    Rule setup s ⟨segment, key, pages, .fetching attempt⟩
      [Exchange.page (request setup ⟨segment, key, pages, .fetching attempt⟩)
        (.returned (.error e))]
      s.freeReadSlot ⟨segment, key, pages, .closing (.error e)⟩
  /-- The delay before the next attempt is no duration. -/
  | faultyDelay {segment key pages attempt e fault}
      (h : setup.scanRetry.onFailure attempt e = .again (.error fault)) :
    Rule setup s ⟨segment, key, pages, .fetching attempt⟩
      [Exchange.page (request setup ⟨segment, key, pages, .fetching attempt⟩)
        (.returned (.error e))]
      s.freeReadSlot ⟨segment, key, pages, .ending (.crashed (some fault.message))⟩
  | backOff {segment key pages attempt e delay}
      (h : setup.scanRetry.onFailure attempt e = .again (.ok delay)) :
    Rule setup s ⟨segment, key, pages, .fetching attempt⟩
      [Exchange.page (request setup ⟨segment, key, pages, .fetching attempt⟩)
        (.returned (.error e))]
      s.freeReadSlot ⟨segment, key, pages, .backingOff (attempt + 1) (s.wakeAfter delay)⟩
  | retry {segment key pages attempt wake} (h : wake ≤ s.now) :
    Rule setup s ⟨segment, key, pages, .backingOff attempt wake⟩ [] s
      ⟨segment, key, pages, .connecting attempt⟩
  | charge {segment key pages page permits wake pacer remaining}
      (hwake : wake ≤ s.now) (hpermits : permits ≠ 0)
      (h : s.readPacer.charge s.now permits = .granted pacer remaining) :
    Rule setup s ⟨segment, key, pages, .charging page permits wake⟩ []
      (s.paceReads pacer) ⟨segment, key, pages, .charging page remaining s.now⟩
  | await {segment key pages page permits wake time}
      (h : s.readPacer.charge s.now permits = .notBefore time) :
    Rule setup s ⟨segment, key, pages, .charging page permits wake⟩ [] s
      ⟨segment, key, pages, .charging page permits time⟩
  | charged {segment key pages page wake} (hwake : wake ≤ s.now) :
    Rule setup s ⟨segment, key, pages, .charging page 0 wake⟩ [] s
      ⟨segment, key, pages, .recording page⟩
  /-- An empty page is counted and not handed over. -/
  | skip {segment key pages page} (h : page.items = []) :
    Rule setup s ⟨segment, key, pages, .recording page⟩ [] (s.countPage segment page)
      (advance ⟨segment, key, pages + 1, .recording page⟩ page.nextKey)
  /-- A consumer outside has taken a page, or refused it. -/
  | takenOutside {segment key pages nextKey items} (result : Except CopyError Unit) :
    Rule setup s ⟨segment, key, pages, .handing nextKey items⟩
      [⟨.consume segment items, .consumer (.returned result)⟩] s
      (afterHandover ⟨segment, key, pages, .handing nextKey items⟩ nextKey result)
  | crashOutside {segment key pages nextKey items} (reason : Option String) :
    Rule setup s ⟨segment, key, pages, .handing nextKey items⟩
      [⟨.consume segment items, .consumer (.crashed reason)⟩] s
      ⟨segment, key, pages, .ending (.crashed reason)⟩
  | close {segment key pages} (result : Except CopyError Nat) :
    Rule setup s ⟨segment, key, pages, .closing result⟩ []
      (s.count (.segmentEnded result.isOk))
      ⟨segment, key, pages, .ending (.returned (result.map fun _ => ()))⟩
  | complete {segment key pages outcome} :
    Rule setup s ⟨segment, key, pages, .ending outcome⟩ []
      (s.endSegment (outcome.record (SegmentTask.label ⟨segment, key, pages, .ending outcome⟩)))
      ⟨segment, key, pages, .finished⟩

variable {setup : Setup α} {s t : State α ι} {task next : SegmentTask α ι}

/-- An answered request for a page leads on by the rule for its answer. -/
theorem rule_of_receive {segment : Nat} {key : Option ι} {pages attempt : Nat}
    {outcome : Outcome (Page α ι)} :
    Rule setup s ⟨segment, key, pages, .fetching attempt⟩
      [Exchange.page (request setup ⟨segment, key, pages, .fetching attempt⟩) outcome]
      s.freeReadSlot
      (receive setup s.freeReadSlot ⟨segment, key, pages, .fetching attempt⟩ attempt outcome) := by
  unfold receive
  split
  · exact .crash _
  · exact .fetch _
  · split
    · rename_i hverdict
      exact .giveUp hverdict
    · rename_i hverdict
      exact .faultyDelay hverdict
    · rename_i hverdict
      exact .backOff hverdict

/-- A step of a segment task is one of its own rules, the handover of a page to the
writer, the end of a delivery, or a step of the delivery that is under way. -/
theorem rule_of_step {answer : Answer α ι} (hpaced : setup.outsideConsumer = false)
    (h : task.step setup s answer = some (t, next)) :
    Rule setup s task (Exchange.ended (task.call? setup) answer) t next ∨
    (∃ segment key pages page, task = ⟨segment, key, pages, .recording page⟩ ∧ page.items ≠ [] ∧
      t = s.countPage segment page ∧
      next = ⟨segment, key, pages + 1,
        .delivering page.nextKey ⟨segment, .checking page.items⟩⟩) ∨
    (∃ segment key pages nextKey number result,
      task = ⟨segment, key, pages, .delivering nextKey ⟨number, .ended result⟩⟩ ∧ t = s ∧
      next = afterHandover task nextKey result) ∨
    (∃ segment key pages nextKey delivery delivery',
      task = ⟨segment, key, pages, .delivering nextKey delivery⟩ ∧
      delivery.step setup s answer = some (t, delivery') ∧
      next = ⟨segment, key, pages, .delivering nextKey delivery'⟩) := by
  obtain ⟨segment, key, pages, phase⟩ := task
  unfold step at h
  split at h
  · rename_i hphase
    obtain rfl := hphase
    obtain ⟨rfl, rfl⟩ := Prod.mk.inj (Option.some.inj h)
    exact .inl .begin
  · rename_i hphase
    obtain rfl := hphase
    split at h
    · rename_i hint
      obtain ⟨rfl, rfl⟩ := Prod.mk.inj (Option.some.inj h)
      exact .inl (.interrupt hint)
    · rename_i hint
      obtain ⟨rfl, rfl⟩ := Prod.mk.inj (Option.some.inj h)
      exact .inl (.proceed (Bool.eq_false_iff.2 hint))
  · rename_i hphase
    obtain rfl := hphase
    obtain ⟨slots, hslots, hst⟩ := Option.map_eq_some_iff.1 h
    obtain ⟨rfl, rfl⟩ := Prod.mk.inj hst
    exact .inl (.send hslots)
  · rename_i hphase
    obtain rfl := hphase
    obtain ⟨rfl, rfl⟩ := Prod.mk.inj (Option.some.inj h)
    exact .inl rule_of_receive
  · rename_i hphase
    obtain rfl := hphase
    split at h
    · rename_i hwake
      obtain ⟨rfl, rfl⟩ := Prod.mk.inj (Option.some.inj h)
      exact .inl (.retry hwake)
    · cases h
  · rename_i hphase
    obtain rfl := hphase
    split at h
    · cases h
    · rename_i hwake
      split at h
      · rename_i hpermits
        obtain rfl := hpermits
        obtain ⟨rfl, rfl⟩ := Prod.mk.inj (Option.some.inj h)
        exact .inl (.charged (Nat.le_of_not_lt hwake))
      · rename_i hpermits
        split at h
        · rename_i hcharge
          obtain ⟨rfl, rfl⟩ := Prod.mk.inj (Option.some.inj h)
          exact .inl (.charge (Nat.le_of_not_lt hwake) hpermits hcharge)
        · rename_i hcharge
          obtain ⟨rfl, rfl⟩ := Prod.mk.inj (Option.some.inj h)
          exact .inl (.await hcharge)
  · rename_i page hphase
    obtain rfl := hphase
    unfold record at h
    split at h
    · rename_i hempty
      obtain ⟨rfl, rfl⟩ := Prod.mk.inj (Option.some.inj h)
      exact .inl (.skip (List.isEmpty_iff.1 hempty))
    · rename_i hitems
      rw [if_neg (Bool.eq_false_iff.1 hpaced)] at h
      obtain ⟨rfl, rfl⟩ := Prod.mk.inj (Option.some.inj h)
      exact .inr (.inl ⟨segment, key, pages, page, rfl,
        fun hnil => hitems (List.isEmpty_iff.2 hnil), rfl, rfl⟩)
  · rename_i nextKey delivery hphase
    obtain rfl := hphase
    split at h
    · rename_i result hended
      obtain ⟨number, _⟩ := delivery
      obtain rfl := hended
      obtain ⟨rfl, rfl⟩ := Prod.mk.inj (Option.some.inj h)
      exact .inr (.inr (.inl ⟨segment, key, pages, nextKey, number, result, rfl, rfl, rfl⟩))
    · obtain ⟨⟨u, delivery'⟩, hstep, hnext⟩ := Option.map_eq_some_iff.1 h
      obtain ⟨rfl, rfl⟩ := Prod.mk.inj hnext
      exact .inr (.inr (.inr ⟨segment, key, pages, nextKey, delivery, delivery', rfl, hstep, rfl⟩))
  · rename_i hphase
    obtain rfl := hphase
    obtain ⟨rfl, rfl⟩ := Prod.mk.inj (Option.some.inj h)
    exact .inl (.takenOutside _)
  · rename_i hphase
    obtain rfl := hphase
    obtain ⟨rfl, rfl⟩ := Prod.mk.inj (Option.some.inj h)
    exact .inl (.crashOutside _)
  · rename_i hphase
    obtain rfl := hphase
    obtain ⟨rfl, rfl⟩ := Prod.mk.inj (Option.some.inj h)
    exact .inl (.close _)
  · rename_i hphase
    obtain rfl := hphase
    obtain ⟨rfl, rfl⟩ := Prod.mk.inj (Option.some.inj h)
    exact .inl .complete
  · cases h

end SegmentTask
end TableCopy
