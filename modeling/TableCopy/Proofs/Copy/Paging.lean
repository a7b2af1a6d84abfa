import Mathlib.Data.UInt
import TableCopy.Proofs.Copy.Handover
import TableCopy.Proofs.Copy.Laps
import TableCopy.Proofs.Copy.Resubmission

/-!
# The pages of a segment

What a segment task does is a number of laps, and what it has begun of another one. A lap that
has begun or failed does not look like one that is through, so the log of a scan tells whether
the scan has ended, and with how many pages. Every page in the log is counted once, with its
items and the units that it has consumed.
-/

namespace TableCopy

variable {α ι : Type} [Quantity α]

/-! ## Scans -/

/-- The counters of what was read: pages, items, and thousandths of units. -/
def Metrics.reading (metrics : Metrics) : UInt64 × UInt64 × UInt64 :=
  (metrics.pagesScanned, metrics.itemsRead, metrics.readMilli)

/-- What an event adds to these counters. -/
def ScanEvent.reading : ScanEvent α ι → UInt64 × UInt64 × UInt64
  | .counted page => (1, UInt64.ofNat page.items.length, Metrics.milli page.capacity)
  | _ => 0

/-- What a segment task has done, in order, and what it has added to the counters of what was
read. -/
structure Scan (α ι : Type) where
  log : List (ScanEvent α ι) := []
  reading : UInt64 × UInt64 × UInt64 := 0

/-- A scan after another step of the task, as it is seen in the states that the step found and
left. -/
def Scan.after (scan : Scan α ι) (setup : Setup α) (step : TaskStep α ι (SegmentTask α ι)) :
    Scan α ι where
  log := scan.log ++ step.task.events setup step.found
    (Exchange.ended (step.task.call? setup) step.answer) step.next
  reading := scan.reading + (step.left.metrics.reading - step.found.metrics.reading)

namespace SegmentTask

/-- The scan that some steps make, of which the latest stands first. -/
def scanOf (setup : Setup α) : List (TaskStep α ι (SegmentTask α ι)) → Scan α ι
  | [] => {}
  | step :: earlier => (scanOf setup earlier).after setup step

end SegmentTask

open scoped UInt64.CommRing

theorem Metrics.reading_record (metrics : Metrics) (event : Event α) :
    (metrics.record event).reading = metrics.reading + event.contribution.reading := rfl

section Reading

variable {setup : Setup α} {s t : State α ι}

theorem ChunkTask.Rule.reading_eq {task next : ChunkTask α ι} {ended : List (Exchange α ι)}
    (h : Rule setup s task ended t next) : t.metrics.reading = s.metrics.reading := by
  have hbatch : ∀ (metrics : Metrics) (n : UInt64) (units : α),
      (metrics.record (.batch n units)).reading = metrics.reading := fun metrics n units =>
    add_zero metrics.reading
  have hagain : ∀ metrics : Metrics,
      (metrics.record (.resubmission : Metrics.Event α)).reading = metrics.reading :=
    fun metrics => add_zero metrics.reading
  cases h with
  | finish | exhaust => exact hbatch _ _ _
  | faultyRest | rest => exact (hagain _).trans (hbatch _ _ _)
  | _ => rfl

theorem Delivery.reading_of_step {delivery next : Delivery α ι} {answer : Answer α ι}
    (h : delivery.step setup s answer = some (t, next)) :
    t.metrics.reading = s.metrics.reading := by
  rcases rule_of_step h with hrule | ⟨_, _, _, -, _, _, -, rfl, -⟩ | ⟨_, _, _, -, -, rfl, -⟩ |
    ⟨_, _, _, _, -, hstep, -⟩
  · cases hrule <;> rfl
  · rfl
  · rfl
  · exact (ChunkTask.rule_of_step hstep).reading_eq

namespace SegmentTask

variable {task next : SegmentTask α ι} {ended : List (Exchange α ι)}

theorem Rule.reading_eq (h : Rule setup s task ended t next) :
    t.metrics.reading =
      s.metrics.reading + ((events setup s task ended next).map ScanEvent.reading).sum := by
  have hcount : ∀ event : Metrics.Event α, (s.count event).metrics.reading =
      s.metrics.reading + event.contribution.reading := Metrics.reading_record s.metrics
  cases h with
  | begin => exact hcount .segmentStarted
  | close result => cases result <;> exact hcount _
  | skip =>
    simp only [events, handed_advance, List.map_cons, List.map_nil, List.sum_singleton]
    exact hcount (.page _ _)
  | _ =>
    show s.metrics.reading = s.metrics.reading + _
    simp [events, ScanEvent.reading, Exchange.page]

/-- A step counts the pages that it tells of. -/
theorem reading_of_step {answer : Answer α ι} (h : task.step setup s answer = some (t, next)) :
    t.metrics.reading = s.metrics.reading +
      ((events setup s task (Exchange.ended (task.call? setup) answer) next).map
        ScanEvent.reading).sum := by
  rcases rule_of_any_step h with
    hrule | ⟨segment, key, pages, page, phase, rfl, -, hcount, rfl, hphase⟩ |
    ⟨_, _, _, _, _, result, rfl, rfl, -⟩ | ⟨_, _, _, _, _, _, rfl, hstep, -⟩
  · exact hrule.reading_eq
  · rw [hcount]
    have hpage : (s.countPage segment page).metrics.reading =
        s.metrics.reading + (ScanEvent.counted page).reading := Metrics.reading_record s.metrics _
    rcases hphase with rfl | rfl <;> simpa [events, handed, ScanEvent.reading] using hpage
  · simp [events, ScanEvent.reading]
  · rw [events_of_delivering hstep]
    simpa using Delivery.reading_of_step hstep

end SegmentTask
end Reading

/-! ## Where a scan stands -/

namespace SegmentTask

/-- Whether a scan has ended. -/
def isOver (task : SegmentTask α ι) : Bool :=
  match task.phase with
  | .closing _ | .ending _ | .finished => true
  | _ => false

/-- The result of a scan that has ended: the number of its pages, an error, or a crash. -/
def result? (task : SegmentTask α ι) : Option (Outcome Nat) :=
  match task.phase with
  | .closing result => some (.returned result)
  | .ending (.crashed reason) => some (.crashed reason)
  | _ => none

variable {setup : Setup α} {task : SegmentTask α ι} {segment : Nat}

omit [Quantity α] in
theorem segment_advance (task : SegmentTask α ι) (nextKey : Option ι) :
    (task.advance nextKey).segment = task.segment := by
  cases nextKey <;> rfl

omit [Quantity α] in
theorem segment_afterHandover (task : SegmentTask α ι) (nextKey : Option ι)
    (result : Except CopyError Unit) :
    (task.afterHandover nextKey result).segment = task.segment := by
  cases result with
  | ok => exact segment_advance task nextKey
  | error => rfl

theorem segment_of_step {s t : State α ι} {next : SegmentTask α ι} {answer : Answer α ι}
    (h : task.step setup s answer = some (t, next)) : next.segment = task.segment := by
  rcases rule_of_any_step h with hrule | ⟨_, _, _, _, _, rfl, -, -, rfl, -⟩ |
    ⟨_, _, _, _, _, _, -, -, rfl⟩ | ⟨_, _, _, _, _, _, rfl, -, rfl⟩
  · cases hrule with
    | skip => exact segment_advance _ _
    | takenOutside => exact segment_afterHandover _ _ _
    | _ => rfl
  · rfl
  · exact segment_afterHandover _ _ _
  · rfl

section Path

variable {steps : List (TaskStep α ι (SegmentTask α ι))}
variable (hpath : (kind setup).Path ⟨segment, none, 0, .ready⟩ steps task)

include hpath

theorem segment_of_path : task.segment = segment :=
  hpath.invariant (P := fun task => task.segment = segment) rfl
    fun hsegment h => (segment_of_step h).trans hsegment

theorem told_of_path : task.Told setup (scanOf setup steps).log := by
  induction hpath with
  | start => exact ⟨[], [], fun _ hmem => absurd hmem List.not_mem_nil, rfl,
      ⟨rfl, rfl, fun _ hmem => absurd hmem List.not_mem_nil⟩, rfl⟩
  | step _ h ih => exact told_of_step h ih

/-- Every page is counted once. -/
theorem reading_of_path :
    (scanOf setup steps).reading = ((scanOf setup steps).log.map ScanEvent.reading).sum := by
  induction hpath with
  | start => rfl
  | step _ h ih =>
    simp only [scanOf, Scan.after, List.map_append, List.sum_append, reading_of_step h, ih]
    rw [add_sub_cancel_left]

end Path
end SegmentTask

section Logs

variable {setup : Setup α} {segment : Nat} {laps laps' : List (Lap α ι)}
variable {request : PageRequest ι} {rest : List (ScanEvent α ι)} {result : Outcome Nat}

omit [Quantity α]

/-- The page that an event counts. -/
def ScanEvent.page? : ScanEvent α ι → Option (Page α ι)
  | .counted page => some page
  | _ => none

/-- Whether a lap that does not fail may end with an event. -/
def ScanEvent.endsLap : ScanEvent α ι → Bool
  | .counted _ | .taken (.returned (.ok ())) => true
  | _ => false

/-- Whether the last event is one that a lap may end with. -/
def EndsLap (log : List (ScanEvent α ι)) : Prop := ∃ event ∈ log.getLast?, event.endsLap = true

theorem endsLap_append (log : List (ScanEvent α ι)) (hrest : rest ≠ []) :
    EndsLap (log ++ rest) ↔ EndsLap rest := by
  rw [EndsLap, EndsLap, List.getLast?_append_of_ne_nil _ hrest]

theorem pages_opening (request : PageRequest ι) (errors : List CopyError) :
    (Lap.opening request errors : List (ScanEvent α ι)).filterMap ScanEvent.page? = [] := by
  induction errors with
  | nil => rfl
  | cons e errors ih => exact ih

theorem pages_attempted (request : PageRequest ι) (errors : List CopyError)
    (outcome : Outcome (Page α ι)) :
    (Lap.attempted request errors outcome).filterMap ScanEvent.page? = [] := by
  rw [Lap.attempted, List.filterMap_append, pages_opening]
  rfl

theorem pages_events (request : PageRequest ι) (lap : Lap α ι) :
    (lap.events request).filterMap ScanEvent.page? = [lap.page] := by
  rw [Lap.events]
  split
  · rw [List.filterMap_append, pages_attempted]
    rfl
  · rw [Lap.handing, List.filterMap_append, List.filterMap_append, pages_attempted]
    rfl

theorem endsLap_events (request : PageRequest ι) (lap : Lap α ι) :
    EndsLap (lap.events request) := by
  rw [Lap.events]
  split
  · exact ⟨.counted lap.page, by simp, rfl⟩
  · exact ⟨.taken (.returned (.ok ())), by simp, rfl⟩

/-- The pages that laps count are theirs. -/
theorem pages_scanLog (key : Option ι) (laps : List (Lap α ι)) :
    (scanLog setup segment key laps).filterMap ScanEvent.page? = laps.map Lap.page := by
  induction laps generalizing key with
  | nil => rfl
  | cons lap laps ih => rw [scanLog, List.filterMap_append, pages_events, ih]; rfl

theorem AreWhole.endsLap (h : AreWhole laps) (setup : Setup α) (segment : Nat) (key : Option ι) :
    EndsLap (scanLog setup segment key laps) := by
  obtain ⟨before, last, rfl, -, -⟩ := h
  have hne : last.events (setup.request segment (keyAfter key before)) ≠ [] := by
    rw [Lap.events]
    split <;> simp
  rw [scanLog_snoc, endsLap_append _ hne]
  exact endsLap_events _ _

/-- Pages of which each names another are not those of a whole scan. -/
theorem AreWhole.not_hasKeys (h : AreWhole laps) (hpages : laps'.map Lap.page = laps.map Lap.page) :
    ¬ ∀ lap ∈ laps', lap.page.nextKey ≠ none := by
  obtain ⟨before, last, rfl, -, hlast⟩ := h
  have hmem : last.page ∈ laps'.map Lap.page := by simp [hpages]
  obtain ⟨lap, hlap, hpage⟩ := List.mem_map.1 hmem
  exact fun hkeys => hkeys lap hlap (hpage ▸ hlast)

variable {config : RetryConfig α} {pages : Nat}

theorem not_endsLap_attempted (request : PageRequest ι) (errors : List CopyError)
    (outcome : Outcome (Page α ι)) : ¬ EndsLap (Lap.attempted request errors outcome) := by
  simp [Lap.attempted, EndsLap, ScanEvent.endsLap]

theorem not_endsLap_opening (request : PageRequest ι) (errors : List CopyError) :
    ¬ EndsLap (Lap.opening request errors : List (ScanEvent α ι)) := by
  rcases List.eq_nil_or_concat' errors with rfl | ⟨errors, e, rfl⟩
  · simp [Lap.opening, EndsLap, ScanEvent.endsLap]
  · rw [Lap.opening_snoc]
    exact not_endsLap_attempted _ _ _

theorem IsBegun.not_endsLap (h : IsBegun config request rest) : ¬ EndsLap rest := by
  cases h with
  | opened => exact not_endsLap_opening _ _
  | answered => exact not_endsLap_attempted _ _ _
  | _ => simp [EndsLap, ScanEvent.endsLap, Lap.handing]

theorem IsFailed.not_endsLap [Quantity α] (h : IsFailed config request pages rest result) :
    rest ≠ [] ∧ ¬ EndsLap rest := by
  cases h with
  | rejected | crashed | delayed =>
    exact ⟨by simp [Lap.attempted], not_endsLap_attempted _ _ _⟩
  | _ => simp [EndsLap, ScanEvent.endsLap]

/-- A lap that has begun, after pages that each name another, does not make a whole scan. -/
theorem AreWhole.not_begun (h : AreWhole laps') (hkeys : ∀ lap ∈ laps, lap.page.nextKey ≠ none)
    (hbegun : IsBegun config request rest) : scanLog setup segment none laps' ≠
      scanLog setup segment none laps ++ rest := by
  intro hlog
  -- If nothing has begun, the last page decides, and else the last event.
  by_cases hrest : rest = []
  · subst hrest
    have hpages := congrArg (List.filterMap ScanEvent.page?) hlog
    rw [List.append_nil, pages_scanLog, pages_scanLog] at hpages
    exact h.not_hasKeys hpages.symm hkeys
  · have hends := h.endsLap setup segment none
    rw [hlog, endsLap_append _ hrest] at hends
    exact hbegun.not_endsLap hends

/-- The log of a whole scan ends with the number of its pages. -/
theorem EndsWith.eq_of_whole [Quantity α] (hends : EndsWith setup segment laps rest result)
    (h : AreWhole laps')
    (hlog : scanLog setup segment none laps' = scanLog setup segment none laps ++ rest) :
    result = .returned (.ok laps'.length) := by
  rcases hends with ⟨-, rfl, rfl⟩ | ⟨-, hfailed⟩
  · have hpages := congrArg (List.filterMap ScanEvent.page?) hlog
    rw [List.append_nil, pages_scanLog, pages_scanLog] at hpages
    have hlength := congrArg List.length hpages
    rw [List.length_map, List.length_map] at hlength
    rw [hlength]
  · obtain ⟨hrest, hnot⟩ := hfailed.not_endsLap
    have hends := h.endsLap setup segment none
    rw [hlog, endsLap_append _ hrest] at hends
    exact absurd hends hnot

end Logs

namespace SegmentTask

variable {setup : Setup α} {task : SegmentTask α ι} {laps : List (Lap α ι)}
variable {rest : List (ScanEvent α ι)}

/-- A scan that has not ended has begun another lap, and one that has ended has a result. -/
theorem InLap.cases (h : task.InLap setup laps rest) :
    (task.isOver = false ∧ (∀ lap ∈ laps, lap.page.nextKey ≠ none) ∧
      IsBegun setup.scanRetry (setup.request task.segment (keyAfter none laps)) rest) ∨
    task.isOver = true ∧ ∃ result, EndsWith setup task.segment laps rest result ∧
      ∀ r, task.result? = some r → r = result := by
  obtain ⟨segment, key, pages, phase⟩ := task
  cases phase with
  | ready | checking =>
    obtain ⟨⟨rfl, rfl, hkeys⟩, rfl⟩ := h
    exact .inl ⟨rfl, hkeys, .nothing⟩
  | connecting attempt | backingOff attempt wake =>
    obtain ⟨⟨rfl, rfl, hkeys⟩, errors, herrors, -, rfl⟩ := h
    exact .inl ⟨rfl, hkeys, .opened herrors⟩
  | fetching attempt =>
    obtain ⟨⟨rfl, rfl, hkeys⟩, errors, herrors, -, rfl⟩ := h
    exact .inl ⟨rfl, hkeys, .asked herrors⟩
  | charging page | recording page =>
    obtain ⟨⟨rfl, rfl, hkeys⟩, errors, herrors, rfl⟩ := h
    exact .inl ⟨rfl, hkeys, .answered herrors⟩
  | delivering nextKey | handing nextKey =>
    obtain ⟨before, errors, page, rfl, ⟨rfl, rfl, hkeys⟩, herrors, hpage, rfl, rfl⟩ := h
    exact .inl ⟨rfl, hkeys, .handed herrors hpage⟩
  | closing result =>
    exact .inr ⟨rfl, _, h, fun r hr => (Option.some.inj hr).symm⟩
  | ending outcome =>
    cases outcome with
    | returned result =>
      obtain ⟨result, hends⟩ := h
      exact .inr ⟨rfl, result, hends, nofun⟩
    | crashed reason => exact .inr ⟨rfl, _, h, fun r hr => (Option.some.inj hr).symm⟩
  | finished =>
    obtain ⟨result, hends⟩ := h
    exact .inr ⟨rfl, result, hends, nofun⟩

omit [Quantity α] in
theorem isOver_of_result? {result : Outcome Nat} (h : task.result? = some result) :
    task.isOver = true := by
  obtain ⟨segment, key, pages, phase⟩ := task
  cases phase with
  | closing | ending => rfl
  | _ => cases h

/-! ## Progress -/

/-- What a segment task waits for before it goes on: a slot, a moment, an answer, or a chunk that
its own thread writes. -/
def isWaiting (s : State α ι) (task : SegmentTask α ι) : Bool :=
  match task.phase with
  | .connecting _ => s.readSlots.acquire?.isNone
  | .backingOff _ wake | .charging _ _ wake => s.now < wake
  | .fetching _ | .handing .. => true
  | .delivering _ delivery => delivery.isWriting
  | _ => false

theorem exists_step (setup : Setup α) (s : State α ι) (task : SegmentTask α ι) :
    task.isFinished = true ∨ task.isWaiting s = true ∨
      ∃ t next, task.step setup s .none = some (t, next) := by
  obtain ⟨segment, key, pages, phase⟩ := task
  cases phase with
  | finished => exact .inl rfl
  | fetching | handing => exact .inr (.inl rfl)
  | ready | closing | ending => exact .inr (.inr ⟨_, _, rfl⟩)
  | recording page => exact .inr (.inr ⟨_, _, rfl⟩)
  | checking =>
    refine .inr (.inr ?_)
    by_cases hint : s.interrupted = true <;> simp [step, hint]
  | connecting attempt =>
    refine .inr ?_
    cases hslots : s.readSlots.acquire? <;> simp [isWaiting, step, hslots]
  | backingOff attempt wake =>
    refine .inr ?_
    by_cases hwake : wake ≤ s.now
    · exact .inr ⟨_, _, if_pos hwake⟩
    · exact .inl (decide_eq_true (Nat.lt_of_not_le hwake))
  | charging page permits wake =>
    refine .inr ?_
    by_cases hwake : s.now < wake
    · exact .inl (decide_eq_true hwake)
    · refine .inr ?_
      simp only [step, if_neg hwake]
      split
      · exact ⟨_, _, rfl⟩
      · split <;> exact ⟨_, _, rfl⟩
  | delivering nextKey delivery =>
    rcases delivery.exists_step setup s with ⟨result, hended⟩ | hwriting | ⟨t, next, hstep⟩
    · refine .inr (.inr ?_)
      simp [step, hended]
    · exact .inr (.inl hwriting)
    · refine .inr (.inr ?_)
      simp only [step]
      split
      · exact ⟨_, _, rfl⟩
      · rw [hstep]
        exact ⟨_, _, rfl⟩

/-- Every answer to a request for a page leads on, and so does the end of a handover. -/
theorem exists_step_of_call (setup : Setup α) (s : State α ι) (task : SegmentTask α ι) :
    (∀ attempt, task.phase = .fetching attempt → ∀ outcome,
      ∃ t next, task.step setup s (.page outcome) = some (t, next)) ∧
    ∀ nextKey items, task.phase = .handing nextKey items → ∀ outcome,
      ∃ t next, task.step setup s (.consumer outcome) = some (t, next) := by
  obtain ⟨segment, key, pages, phase⟩ := task
  refine ⟨?_, ?_⟩
  · rintro attempt rfl outcome
    exact ⟨_, _, rfl⟩
  · rintro nextKey items rfl outcome
    cases outcome <;> exact ⟨_, _, rfl⟩

/-- The scan of a segment, with whatever answers and for whatever consumer, is one lap after the
other. The first page is requested without a key, and every other with the key that the page
before it has named; between two laps there is nothing, and after a lap that fails there is
nothing more. The counters of what was read have grown by each page once. The log of a whole scan
is that of a scan that has ended, and a scan that has a result has returned a number of pages if
and only if its log is that of so many laps, of which the last one and no other names no key. A
scan goes on until it has finished, unless it waits, and every answer leads it on. In a pipe the
threads lead their segments on in this way. -/
theorem scans_in_laps (setup : Setup α) :
    (∀ segment steps (task : SegmentTask α ι),
      (kind setup).Path ⟨segment, none, 0, .ready⟩ steps task →
        let scan := scanOf setup steps
        (∃ laps rest, (∀ lap ∈ laps, setup.scanRetry.Retries lap.errors) ∧
          scan.log = scanLog setup segment none laps ++ rest ∧
          ((task.isOver = false ∧ (∀ lap ∈ laps, lap.page.nextKey ≠ none) ∧
              IsBegun setup.scanRetry (setup.request segment (keyAfter none laps)) rest) ∨
            task.isOver = true ∧ ∃ result, EndsWith setup segment laps rest result ∧
              ∀ r, task.result? = some r → r = result)) ∧
        scan.reading = (scan.log.map ScanEvent.reading).sum ∧
        (∀ laps, AreWhole laps → scan.log = scanLog setup segment none laps →
          task.isOver = true) ∧
        ∀ result n, task.result? = some result → (result = .returned (.ok n) ↔
          ∃ laps, laps.length = n ∧ AreWhole laps ∧ scan.log = scanLog setup segment none laps)) ∧
    (∀ (s : State α ι) (task : SegmentTask α ι),
      (task.isFinished = true ∨ task.isWaiting s = true ∨
        ∃ t next, task.step setup s .none = some (t, next)) ∧
      (∀ attempt, task.phase = .fetching attempt → ∀ outcome,
        ∃ t next, task.step setup s (.page outcome) = some (t, next)) ∧
      ∀ nextKey items, task.phase = .handing nextKey items → ∀ outcome,
        ∃ t next, task.step setup s (.consumer outcome) = some (t, next)) ∧
    (setup.outsideConsumer = false → ∀ s : State α ι, s.control.isPiping = true →
      ∀ actor task, s.segment? actor = some task → ∀ later t, Run setup s later t →
        ∃ steps last, (kind setup).Path task steps last ∧
          (∀ step ∈ steps, (kind setup).HasStepped setup s t actor step) ∧
          (kind setup).HasLed setup s t actor last) := by
  refine ⟨fun segment steps task hpath => ?_,
    fun s task => ⟨exists_step setup s task, exists_step_of_call setup s task⟩,
    fun hpaced s hpiping actor task htask later t hlater =>
      hlater.exists_segmentPath hpaced hpiping htask⟩
  obtain ⟨laps, rest, hretries, hlog, hlap⟩ := told_of_path hpath
  have hlap := hlap.cases
  rw [segment_of_path hpath] at hlog hlap
  refine ⟨⟨laps, rest, hretries, hlog, hlap⟩, reading_of_path hpath, ?_, ?_⟩
  · intro whole hwhole heq
    rcases hlap with ⟨-, hkeys, hbegun⟩ | ⟨hover, -⟩
    · exact absurd (heq.symm.trans hlog) (hwhole.not_begun hkeys hbegun)
    · exact hover
  · intro result n hresult
    rcases hlap with ⟨hover, -⟩ | ⟨-, ended, hends, heq⟩
    · exact absurd (isOver_of_result? hresult) (Bool.eq_false_iff.1 hover)
    · obtain rfl := heq result hresult
      constructor
      · rintro rfl
        rcases hends with ⟨hwhole, rfl, hn⟩ | ⟨-, hfailed⟩
        · obtain rfl := Except.ok.inj (Outcome.returned.inj hn)
          exact ⟨laps, rfl, hwhole, by rw [hlog, List.append_nil]⟩
        · cases hfailed
      · rintro ⟨whole, rfl, hwhole, heq⟩
        exact hends.eq_of_whole hwhole (heq.symm.trans hlog)

end SegmentTask

/-- The small copy with a consumer outside. -/
def outsideSetup : Setup Rat := { smallSetup with outsideConsumer := true }

/-- The first request is throttled once; then there is a page that names another, which is
empty and names none. -/
theorem SegmentTask.exists_path_of_two : ∃ steps,
    (kind outsideSetup).Path (⟨0, none, 0, .ready⟩ : SegmentTask Rat Nat) steps
      ⟨0, some 3, 2, .closing (.ok 2)⟩ := by
  have hdelay : outsideSetup.scanRetry.delay 0 = .ok 100000000 := by decide +kernel
  have hbegun : (kind outsideSetup).step smallStart ⟨0, none, 0, .ready⟩ .none =
      some (_, ⟨0, none, 0, .checking⟩) := rfl
  have hlooked : ∀ {key pages}, (kind outsideSetup).step smallLater
      ⟨0, key, pages, .checking⟩ .none = some (_, ⟨0, key, pages, .connecting 0⟩) := rfl
  have hasked : ∀ {key pages attempt}, (kind outsideSetup).step smallLater
      ⟨0, key, pages, .connecting attempt⟩ .none =
        some (_, ⟨0, key, pages, .fetching attempt⟩) := rfl
  have hthrottled : ∃ t, (kind outsideSetup).step smallStart ⟨0, none, 0, .fetching 0⟩
      (.page (.returned (.error (.throttled "slow down")))) =
        some (t, ⟨0, none, 0, .backingOff 1 100000000⟩) := by
    have hagain : outsideSetup.scanRetry.onFailure 0 (.throttled "slow down") =
        .again (.ok 100000000) := by
      rw [RetryConfig.onFailure, hdelay]
      rfl
    simp only [kind, step, receive, hagain]
    exact ⟨_, rfl⟩
  have hretried : (kind outsideSetup).step smallLater ⟨0, none, 0, .backingOff 1 100000000⟩
      .none = some (_, ⟨0, none, 0, .connecting 1⟩) := rfl
  have hanswered : ∀ key pages attempt page, ∃ t,
      (kind outsideSetup).step smallLater ⟨0, key, pages, .fetching attempt⟩
        (.page (.returned (.ok page))) =
          some (t, ⟨0, key, pages, .charging page 0 1000000000⟩) := fun _ _ _ _ => ⟨_, rfl⟩
  have hcharged : ∀ {key pages page}, (kind outsideSetup).step smallLater
      ⟨0, key, pages, .charging page 0 1000000000⟩ .none =
        some (_, ⟨0, key, pages, .recording page⟩) := rfl
  have hhanded : (kind outsideSetup).step smallLater
      ⟨0, none, 0, .recording ⟨[1, 2, 3], some 3, 1 / 2⟩⟩ .none =
        some (_, ⟨0, none, 1, .handing (some 3) [1, 2, 3]⟩) := rfl
  have htaken : (kind outsideSetup).step smallLater ⟨0, none, 1, .handing (some 3) [1, 2, 3]⟩
      (.consumer (.returned (.ok ()))) = some (_, ⟨0, some 3, 1, .checking⟩) := rfl
  have hlast : (kind outsideSetup).step smallLater
      ⟨0, some 3, 1, .recording ⟨[], none, 1 / 2⟩⟩ .none =
        some (_, ⟨0, some 3, 2, .closing (.ok 2)⟩) := rfl
  obtain ⟨t, hthrottled⟩ := hthrottled
  obtain ⟨u, hfirst⟩ := hanswered none 0 1 ⟨[1, 2, 3], some 3, 1 / 2⟩
  obtain ⟨v, hsecond⟩ := hanswered (some 3) 1 0 ⟨[], none, 1 / 2⟩
  have hstart : (kind outsideSetup).Path (⟨0, none, 0, .ready⟩ : SegmentTask Rat Nat) [] _ :=
    .start
  have hopened := (((((hstart.step hbegun).step hlooked).step hasked).step hthrottled).step
    hretried).step hasked
  have hlap := (((hopened.step hfirst).step hcharged).step hhanded).step htaken
  have hpath := ((((hlap.step hlooked).step hasked).step hsecond).step hcharged).step hlast
  exact ⟨_, hpath⟩

/-- A page that names no other is handed to the paced writer, which takes it in one chunk. -/
theorem SegmentTask.exists_path_of_one : ∃ steps,
    (kind smallSetup).Path (⟨0, none, 0, .ready⟩ : SegmentTask Rat Nat) steps
      ⟨0, none, 1, .closing (.ok 1)⟩ := by
  have hbegun : (kind smallSetup).step smallStart ⟨0, none, 0, .ready⟩ .none =
      some (_, ⟨0, none, 0, .checking⟩) := rfl
  have hlooked : (kind smallSetup).step smallStart ⟨0, none, 0, .checking⟩ .none =
      some (_, ⟨0, none, 0, .connecting 0⟩) := rfl
  have hasked : (kind smallSetup).step smallStart ⟨0, none, 0, .connecting 0⟩ .none =
      some (_, ⟨0, none, 0, .fetching 0⟩) := rfl
  have hanswered : (kind smallSetup).step smallStart ⟨0, none, 0, .fetching 0⟩
      (.page (.returned (.ok ⟨[1, 2, 3], none, 1 / 2⟩))) =
        some (_, ⟨0, none, 0, .charging ⟨[1, 2, 3], none, 1 / 2⟩ 0 0⟩) := rfl
  have hcharged : (kind smallSetup).step smallStart
      ⟨0, none, 0, .charging ⟨[1, 2, 3], none, 1 / 2⟩ 0 0⟩ .none =
        some (_, ⟨0, none, 0, .recording ⟨[1, 2, 3], none, 1 / 2⟩⟩) := rfl
  have hhanded : (kind smallSetup).step smallStart
      ⟨0, none, 0, .recording ⟨[1, 2, 3], none, 1 / 2⟩⟩ .none =
        some (_, ⟨0, none, 1, .delivering none ⟨0, .checking [1, 2, 3]⟩⟩) := rfl
  have hchecked : (kind smallSetup).step smallStart
      ⟨0, none, 1, .delivering none ⟨0, .checking [1, 2, 3]⟩⟩ .none =
        some (_, ⟨0, none, 1, .delivering none ⟨0, .splitting [1, 2, 3]⟩⟩) := rfl
  have hsplit : (kind smallSetup).step smallStart
      ⟨0, none, 1, .delivering none ⟨0, .splitting [1, 2, 3]⟩⟩ .none =
        some (_, ⟨0, none, 1, .delivering none ⟨0, .submitting [1, 2, 3] []⟩⟩) := rfl
  have hsubmitted : (kind smallSetup).step smallStart
      ⟨0, none, 1, .delivering none ⟨0, .submitting [1, 2, 3] []⟩⟩ .none =
        some (_, ⟨0, none, 1, .delivering none ⟨0, .splitting []⟩⟩) := rfl
  have hended : (kind smallSetup).step smallStart
      ⟨0, none, 1, .delivering none ⟨0, .splitting []⟩⟩ .none =
        some (_, ⟨0, none, 1, .delivering none ⟨0, .ended (.ok ())⟩⟩) := rfl
  have htaken : (kind smallSetup).step smallStart
      ⟨0, none, 1, .delivering none ⟨0, .ended (.ok ())⟩⟩ .none =
        some (_, ⟨0, none, 1, .closing (.ok 1)⟩) := rfl
  have hstart : (kind smallSetup).Path (⟨0, none, 0, .ready⟩ : SegmentTask Rat Nat) [] _ :=
    .start
  have hread := (((((hstart.step hbegun).step hlooked).step hasked).step hanswered).step
    hcharged).step hhanded
  have hpath := ((((hread.step hchecked).step hsplit).step hsubmitted).step hended).step htaken
  exact ⟨_, hpath⟩

/-- The small copy when its first segment is about to start. -/
def scanMiddle : State Rat Nat :=
  ((World.ofTables smallSource slowDestination).settle smallSetup 3 ()
    (smallStart.piping smallSetup)).2

/-- Both pages were followed by a consumer outside, the one page by the paced writer, and nothing
else happened; and the thread of the first segment of the small copy scans it in this way. -/
theorem SegmentTask.scans_in_laps_of_two :
    (∃ steps, (kind outsideSetup).Path (⟨0, none, 0, .ready⟩ : SegmentTask Rat Nat) steps
        ⟨0, some 3, 2, .closing (.ok 2)⟩ ∧
      ∃ laps, laps.length = 2 ∧ AreWhole laps ∧
        (scanOf outsideSetup steps).log = scanLog outsideSetup 0 none laps) ∧
    (∃ steps, (kind smallSetup).Path (⟨0, none, 0, .ready⟩ : SegmentTask Rat Nat) steps
        ⟨0, none, 1, .closing (.ok 1)⟩ ∧
      ∃ laps, laps.length = 1 ∧ AreWhole laps ∧
        (scanOf smallSetup steps).log = scanLog smallSetup 0 none laps) ∧
    ∃ steps last, (kind smallSetup).Path (⟨0, none, 0, .ready⟩ : SegmentTask Rat Nat) steps last ∧
      (∀ step ∈ steps, (kind smallSetup).HasStepped smallSetup scanMiddle
        (smallEnd slowDestination) (.reader 0) step) ∧
      (kind smallSetup).HasLed smallSetup scanMiddle (smallEnd slowDestination) (.reader 0)
        last := by
  refine ⟨?_, ?_, ?_⟩
  · obtain ⟨steps, hpath⟩ := exists_path_of_two
    obtain ⟨-, -, -, hresult⟩ := (scans_in_laps outsideSetup).1 0 steps _ hpath
    exact ⟨steps, hpath, (hresult _ 2 rfl).1 rfl⟩
  · obtain ⟨steps, hpath⟩ := exists_path_of_one
    obtain ⟨-, -, -, hresult⟩ := (scans_in_laps smallSetup).1 0 steps _ hpath
    exact ⟨steps, hpath, (hresult _ 1 rfl).1 rfl⟩
  · obtain ⟨later, hlater, -⟩ := World.exists_run_ofTables smallSetup smallSource scanMiddle 97
      slowDestination_faithful
    exact (scans_in_laps smallSetup).2.2 rfl scanMiddle rfl (.reader 0) _ rfl later _ hlater

end TableCopy
