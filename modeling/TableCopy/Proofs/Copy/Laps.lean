import TableCopy.Proofs.Copy.Repeats
import TableCopy.Proofs.Copy.Source

/-!
# The laps of a segment

A segment is scanned in laps. A lap looks at the interrupt, requests the page that the page
before it has named, and once more after every error that is worth another attempt, counts the
page, and hands its items over if there are any. A scan is one lap after the other, up to the
first page that names no other. Where a lap fails the scan fails with it, and nothing follows.
What has happened therefore tells where a segment task stands: after some laps, and in another
one, or at the end.
-/

namespace TableCopy

variable {α ι : Type}

/-- What a segment task does that matters for the order of its pages. -/
inductive ScanEvent (α ι : Type)
  | looked (interrupted : Bool)
  | asked (request : PageRequest ι)
  | answered (request : PageRequest ι) (outcome : Outcome (Page α ι))
  | counted (page : Page α ι)
  | handed (segment : Nat) (items : List ι)
  | taken (outcome : Outcome Unit)

/-! ## Laps -/

/-- A page, and the errors of the attempts before it arrived. -/
structure Lap (α ι : Type) where
  errors : List CopyError
  page : Page α ι

namespace Lap

variable (request : PageRequest ι) (errors : List CopyError)

/-- What happens in a lap before the attempt that follows these errors. -/
def opening : List (ScanEvent α ι) :=
  .looked false ::
    errors.flatMap fun e => [.asked request, .answered request (.returned (.error e))]

/-- What happens in a lap up to the end of that attempt. -/
def attempted (outcome : Outcome (Page α ι)) : List (ScanEvent α ι) :=
  opening request errors ++ [.asked request, .answered request outcome]

/-- What happens in a lap up to the handover of the items. -/
def handing (page : Page α ι) : List (ScanEvent α ι) :=
  attempted request errors (.returned (.ok page)) ++
    [.counted page, .handed request.segment page.items]

/-- What happens in a lap. -/
def events (lap : Lap α ι) : List (ScanEvent α ι) :=
  if lap.page.items.isEmpty then
    attempted request lap.errors (.returned (.ok lap.page)) ++ [.counted lap.page]
  else handing request lap.errors lap.page ++ [.taken (.returned (.ok ()))]

theorem opening_snoc (e : CopyError) : (opening request (errors ++ [e]) : List (ScanEvent α ι)) =
    attempted request errors (.returned (.error e)) := by
  simp [opening, attempted]

end Lap

/-- The key of the page after some laps that began at a key. -/
def keyAfter : Option ι → List (Lap α ι) → Option ι
  | key, [] => key
  | _, lap :: laps => keyAfter lap.page.nextKey laps

/-- What happens in laps that begin at a key: the page of each is requested with the key that the
page before it has named. -/
def scanLog (setup : Setup α) (segment : Nat) : Option ι → List (Lap α ι) → List (ScanEvent α ι)
  | _, [] => []
  | key, lap :: laps =>
    lap.events (setup.request segment key) ++ scanLog setup segment lap.page.nextKey laps

/-- Errors after each of which another attempt is allowed. -/
def RetryConfig.Retries (config : RetryConfig α) (errors : List CopyError) : Prop :=
  (∀ e ∈ errors, e.isRetryable = true) ∧ errors.length ≤ config.maxRetries

namespace RetryConfig.Retries

variable [Quantity α] {config : RetryConfig α} {errors : List CopyError} {e : CopyError}

/-- Where another attempt follows, the error before it is worth one. -/
theorem snoc {delay : Except Duration.Fault Nat} (h : config.Retries errors)
    (hagain : config.onFailure errors.length e = .again delay) :
    config.Retries (errors ++ [e]) := by
  unfold onFailure at hagain
  split at hagain
  · rename_i hretry
    refine ⟨List.forall_mem_append.2 ⟨h.1, List.forall_mem_singleton.2 hretry.1⟩, ?_⟩
    rw [List.length_append]
    exact hretry.2
  · cases hagain

/-- Where none follows, the error is not worth one, or none is left. -/
theorem of_giveUp (h : config.Retries errors)
    (hgiveUp : config.onFailure errors.length e = .giveUp) :
    e.isRetryable = false ∨ errors.length = config.maxRetries := by
  by_cases hretry : e.isRetryable = true
  · by_cases hlt : errors.length < config.maxRetries
    · rw [onFailure, if_pos ⟨hretry, hlt⟩] at hgiveUp
      cases hgiveUp
    · exact .inr (le_antisymm h.2 (Nat.le_of_not_lt hlt))
  · exact .inl (Bool.eq_false_iff.2 hretry)

end RetryConfig.Retries

section Laps

variable {setup : Setup α} {segment : Nat} {key : Option ι} {laps : List (Lap α ι)}
variable {request : PageRequest ι} {errors : List CopyError} {e : CopyError}

theorem keyAfter_snoc (key : Option ι) (laps : List (Lap α ι)) (lap : Lap α ι) :
    keyAfter key (laps ++ [lap]) = lap.page.nextKey := by
  induction laps generalizing key with
  | nil => rfl
  | cons first laps ih => exact ih _

theorem scanLog_snoc (setup : Setup α) (segment : Nat) (key : Option ι) (laps : List (Lap α ι))
    (lap : Lap α ι) : scanLog setup segment key (laps ++ [lap]) =
      scanLog setup segment key laps ++
        lap.events (setup.request segment (keyAfter key laps)) := by
  induction laps generalizing key with
  | nil => simp [scanLog, keyAfter]
  | cons first laps ih => simp [scanLog, keyAfter, ih]

end Laps

/-- Laps after which the scan goes on: each of their pages names another. -/
structure GoOn (laps : List (Lap α ι)) (pages : Nat) (key : Option ι) : Prop where
  length_eq : laps.length = pages
  keyAfter_eq : keyAfter none laps = key
  hasKeys : ∀ lap ∈ laps, lap.page.nextKey ≠ none

/-- The laps of a whole scan: the last page, and no other, names none. -/
def AreWhole (laps : List (Lap α ι)) : Prop :=
  ∃ before last, laps = before ++ [last] ∧ (∀ lap ∈ before, lap.page.nextKey ≠ none) ∧
    last.page.nextKey = none

variable [Quantity α]

/-- What happens in a lap that fails after so many pages, and with which result. -/
inductive IsFailed (config : RetryConfig α) (request : PageRequest ι) (pages : Nat) :
    List (ScanEvent α ι) → Outcome Nat → Prop
  | interrupted : IsFailed config request pages [.looked true]
      (.returned (.error (.interrupted ("segment " ++ toString request.segment ++
        " stopped after " ++ toString pages ++ " pages"))))
  /-- An error that is not worth another attempt, or for which none is left. -/
  | rejected {errors e} (h : config.Retries errors)
      (hlast : e.isRetryable = false ∨ errors.length = config.maxRetries) :
    IsFailed config request pages (Lap.attempted request errors (.returned (.error e)))
      (.returned (.error e))
  | crashed {errors reason} (h : config.Retries errors) :
    IsFailed config request pages (Lap.attempted request errors (.crashed reason))
      (.crashed reason)
  /-- The delay before the next attempt is no duration. -/
  | delayed {errors e} {fault : Duration.Fault} (h : config.Retries errors)
      (hagain : config.onFailure errors.length e = .again (.error fault)) :
    IsFailed config request pages (Lap.attempted request errors (.returned (.error e)))
      (.crashed (some fault.message))
  | refused {errors page e} (h : config.Retries errors) (hpage : page.items ≠ []) :
    IsFailed config request pages
      (Lap.handing request errors page ++ [.taken (.returned (.error e))]) (.returned (.error e))
  | crashedOutside {errors page reason} (h : config.Retries errors) (hpage : page.items ≠ []) :
    IsFailed config request pages
      (Lap.handing request errors page ++ [.taken (.crashed reason)]) (.crashed reason)

/-- What happens in a lap that has not ended yet. -/
inductive IsBegun (config : RetryConfig α) (request : PageRequest ι) :
    List (ScanEvent α ι) → Prop
  | nothing : IsBegun config request []
  | opened {errors} (h : config.Retries errors) :
    IsBegun config request (Lap.opening request errors)
  | asked {errors} (h : config.Retries errors) :
    IsBegun config request (Lap.opening request errors ++ [.asked request])
  | answered {errors page} (h : config.Retries errors) :
    IsBegun config request (Lap.attempted request errors (.returned (.ok page)))
  | handed {errors page} (h : config.Retries errors) (hpage : page.items ≠ []) :
    IsBegun config request (Lap.handing request errors page)

/-- What happens after whole laps when the scan ends with a result. -/
def EndsWith (setup : Setup α) (segment : Nat) (laps : List (Lap α ι))
    (rest : List (ScanEvent α ι)) (result : Outcome Nat) : Prop :=
  (AreWhole laps ∧ rest = [] ∧ result = .returned (.ok laps.length)) ∨
    (∀ lap ∈ laps, lap.page.nextKey ≠ none) ∧
      IsFailed setup.scanRetry (setup.request segment (keyAfter none laps)) laps.length rest result

/-- A lap that fails ends the scan. -/
theorem GoOn.endsWith {setup : Setup α} {segment pages : Nat} {key : Option ι}
    {laps : List (Lap α ι)} {rest : List (ScanEvent α ι)} {result : Outcome Nat}
    (h : GoOn laps pages key)
    (hfailed : IsFailed setup.scanRetry (setup.request segment key) pages rest result) :
    EndsWith setup segment laps rest result := by
  obtain ⟨rfl, rfl, hkeys⟩ := h
  exact .inr ⟨hkeys, hfailed⟩

namespace SegmentTask

/-- The items that a segment task begins to hand over. -/
def handed (task : SegmentTask α ι) : List (ScanEvent α ι) :=
  match task.phase with
  | .delivering _ ⟨segment, .checking items⟩ => [.handed segment items]
  | .handing _ items => [.handed task.segment items]
  | _ => []

/-- What happens in a step of a segment task, from the exchange that the step ends and where the
task stands then. -/
def events (setup : Setup α) (found : State α ι) (task : SegmentTask α ι)
    (ended : List (Exchange α ι)) (next : SegmentTask α ι) : List (ScanEvent α ι) :=
  match task.phase, ended with
  | .checking, _ => [.looked found.interrupted]
  | .connecting _, _ => [.asked (task.request setup)]
  | .fetching _, [⟨.page request, .page outcome⟩] => [.answered request outcome]
  | .recording page, _ => .counted page :: next.handed
  | .delivering _ ⟨_, .ended result⟩, _ => [.taken (.returned result)]
  | .handing .., [⟨_, .consumer outcome⟩] => [.taken outcome]
  | _, _ => []

/-- What has happened in a lap whose items are handed over. -/
def HandsOver (setup : Setup α) (laps : List (Lap α ι)) (rest : List (ScanEvent α ι))
    (segment : Nat) (key : Option ι) (pages : Nat) (nextKey : Option ι) : Prop :=
  ∃ before errors page, pages = before + 1 ∧ GoOn laps before key ∧
    setup.scanRetry.Retries errors ∧ page.items ≠ [] ∧ nextKey = page.nextKey ∧
      rest = Lap.handing (setup.request segment key) errors page

/-- What has happened in a lap that is under way. -/
def InLap (setup : Setup α) (laps : List (Lap α ι)) (rest : List (ScanEvent α ι))
    (task : SegmentTask α ι) : Prop :=
  let request := setup.request task.segment task.startKey
  match task.phase with
  | .ready | .checking => GoOn laps task.pages task.startKey ∧ rest = []
  | .connecting attempt | .backingOff attempt _ => GoOn laps task.pages task.startKey ∧
    ∃ errors, setup.scanRetry.Retries errors ∧ errors.length = attempt ∧
      rest = Lap.opening request errors
  | .fetching attempt => GoOn laps task.pages task.startKey ∧
    ∃ errors, setup.scanRetry.Retries errors ∧ errors.length = attempt ∧
      rest = Lap.opening request errors ++ [.asked request]
  | .charging page .. | .recording page => GoOn laps task.pages task.startKey ∧
    ∃ errors, setup.scanRetry.Retries errors ∧
      rest = Lap.attempted request errors (.returned (.ok page))
  | .delivering nextKey _ | .handing nextKey _ =>
    HandsOver setup laps rest task.segment task.startKey task.pages nextKey
  | .closing result => EndsWith setup task.segment laps rest (.returned result)
  | .ending (.crashed reason) => EndsWith setup task.segment laps rest (.crashed reason)
  | .ending (.returned _) | .finished => ∃ result, EndsWith setup task.segment laps rest result

/-- What has happened tells where a segment task stands: after some laps, and in another one. -/
def Told (setup : Setup α) (log : List (ScanEvent α ι)) (task : SegmentTask α ι) : Prop :=
  ∃ laps rest, (∀ lap ∈ laps, setup.scanRetry.Retries lap.errors) ∧
    log = scanLog setup task.segment none laps ++ rest ∧ task.InLap setup laps rest

variable {setup : Setup α} {s t : State α ι} {task next : SegmentTask α ι}
variable {ended : List (Exchange α ι)} {log : List (ScanEvent α ι)}

section InLap

variable {segment : Nat} {laps : List (Lap α ι)} {rest more : List (ScanEvent α ι)}

/-- Nothing happens in a step. -/
theorem Told.of_idle (hretries : ∀ lap ∈ laps, setup.scanRetry.Retries lap.errors)
    (hsegment : next.segment = segment) (hnext : next.InLap setup laps rest) :
    next.Told setup (scanLog setup segment none laps ++ rest ++ []) :=
  ⟨laps, rest, hretries, by rw [hsegment, List.append_nil], hnext⟩

/-- More happens in the same lap. -/
theorem Told.of_inLap (hretries : ∀ lap ∈ laps, setup.scanRetry.Retries lap.errors)
    (hsegment : next.segment = segment) (hnext : next.InLap setup laps (rest ++ more)) :
    next.Told setup (scanLog setup segment none laps ++ rest ++ more) :=
  ⟨laps, rest ++ more, hretries, by rw [hsegment, List.append_assoc], hnext⟩

variable {key nextKey : Option ι} {pages : Nat} {phase : SegmentPhase α ι}
variable {last : Lap α ι}

/-- After a lap comes the next one, or the end. -/
theorem told_advance (hretries : ∀ lap ∈ laps, setup.scanRetry.Retries lap.errors)
    (hgo : GoOn laps pages key) (hlap : rest ++ more = last.events (setup.request segment key))
    (hlast : setup.scanRetry.Retries last.errors) :
    (advance ⟨segment, key, pages + 1, phase⟩ last.page.nextKey).Told setup
      (scanLog setup segment none laps ++ rest ++ more) := by
  have hretries : ∀ lap ∈ laps ++ [last], setup.scanRetry.Retries lap.errors :=
    List.forall_mem_append.2 ⟨hretries, List.forall_mem_singleton.2 hlast⟩
  have hlength : (laps ++ [last]).length = pages + 1 := by simp [hgo.length_eq]
  have hlog : scanLog setup segment none laps ++ rest ++ more =
      scanLog setup segment none (laps ++ [last]) ++ [] := by
    rw [scanLog_snoc, hgo.keyAfter_eq, List.append_nil, List.append_assoc, hlap]
  cases hkey : last.page.nextKey with
  | none =>
    refine ⟨_, [], hretries, hlog, .inl ⟨⟨laps, last, rfl, hgo.hasKeys, hkey⟩, rfl, ?_⟩⟩
    rw [hlength]
  | some next =>
    refine ⟨_, [], hretries, hlog, ⟨hlength, ?_, ?_⟩, rfl⟩
    · exact (keyAfter_snoc none laps last).trans hkey
    · refine List.forall_mem_append.2 ⟨hgo.hasKeys, List.forall_mem_singleton.2 ?_⟩
      simp [hkey]

/-- After the items of a page were handed over, the scan goes on, or it fails. -/
theorem told_afterHandover (hretries : ∀ lap ∈ laps, setup.scanRetry.Retries lap.errors)
    (hlap : HandsOver setup laps rest segment key pages nextKey) (result : Except CopyError Unit) :
    (afterHandover ⟨segment, key, pages, phase⟩ nextKey result).Told setup
      (scanLog setup segment none laps ++ rest ++ [.taken (.returned result)]) := by
  obtain ⟨before, errors, page, rfl, hgo, herrors, hpage, rfl, rfl⟩ := hlap
  cases result with
  | ok =>
    have hlap : Lap.handing (setup.request segment key) errors page ++
        [.taken (.returned (.ok ()))] = Lap.events (setup.request segment key) ⟨errors, page⟩ := by
      simp [Lap.events, hpage]
    exact told_advance hretries hgo hlap herrors
  | error e =>
    exact .of_inLap hretries rfl (hgo.endsWith (.refused herrors hpage))

end InLap

omit [Quantity α] in
theorem handed_advance (task : SegmentTask α ι) (nextKey : Option ι) :
    (task.advance nextKey).handed = [] := by
  cases nextKey <;> rfl

/-- A segment task that makes a step of its own stands where the longer log tells. -/
theorem Rule.told (h : Rule setup s task ended t next) (htold : task.Told setup log) :
    next.Told setup (log ++ events setup s task ended next) := by
  obtain ⟨laps, rest, hretries, rfl, hlap⟩ := htold
  -- Most steps only add to the lap that is under way. A page that is skipped or taken completes
  -- the lap, and a lap that fails ends the scan.
  cases h with
  | begin => exact .of_idle hretries rfl hlap
  | interrupt hint =>
    obtain ⟨hgo, rfl⟩ := hlap
    refine .of_inLap hretries rfl (hgo.endsWith ?_)
    simp only [events, hint]
    exact .interrupted
  | proceed hint =>
    obtain ⟨hgo, rfl⟩ := hlap
    refine .of_inLap hretries rfl ?_
    refine ⟨hgo, [], ⟨by simp, Nat.zero_le _⟩, rfl, ?_⟩
    simp [events, hint, Lap.opening]
  | send =>
    obtain ⟨hgo, errors, herrors, hattempt, rfl⟩ := hlap
    refine .of_inLap hretries rfl ?_
    exact ⟨hgo, errors, herrors, hattempt, rfl⟩
  | crash reason =>
    obtain ⟨hgo, errors, herrors, hattempt, rfl⟩ := hlap
    refine .of_inLap hretries rfl (hgo.endsWith ?_)
    rw [List.append_assoc]
    exact .crashed herrors
  | fetch page =>
    obtain ⟨hgo, errors, herrors, hattempt, rfl⟩ := hlap
    refine .of_inLap hretries rfl ?_
    exact ⟨hgo, errors, herrors, List.append_assoc ..⟩
  | giveUp hgiveUp =>
    obtain ⟨hgo, errors, herrors, rfl, rfl⟩ := hlap
    refine .of_inLap hretries rfl (hgo.endsWith ?_)
    rw [List.append_assoc]
    exact .rejected herrors (herrors.of_giveUp hgiveUp)
  | faultyDelay hagain =>
    obtain ⟨hgo, errors, herrors, rfl, rfl⟩ := hlap
    refine .of_inLap hretries rfl (hgo.endsWith ?_)
    rw [List.append_assoc]
    exact .delayed herrors hagain
  | @backOff _ _ _ _ e _ hagain =>
    obtain ⟨hgo, errors, herrors, rfl, rfl⟩ := hlap
    refine .of_inLap hretries rfl ?_
    refine ⟨hgo, errors ++ [e], herrors.snoc hagain, List.length_append, ?_⟩
    rw [Lap.opening_snoc]
    exact List.append_assoc ..
  | retry | charge | await | charged => exact .of_idle hretries rfl hlap
  | @skip segment key pages page hempty =>
    obtain ⟨hgo, errors, herrors, rfl⟩ := hlap
    have hlap : Lap.attempted (setup.request segment key) errors (.returned (.ok page)) ++
        events setup s ⟨segment, key, pages, .recording page⟩ []
          (advance ⟨segment, key, pages + 1, .recording page⟩ page.nextKey) =
        Lap.events (setup.request segment key) ⟨errors, page⟩ := by
      simp [events, handed_advance, Lap.events, hempty]
    exact told_advance hretries hgo hlap herrors
  | takenOutside result => exact told_afterHandover hretries hlap result
  | crashOutside reason =>
    obtain ⟨before, errors, page, rfl, hgo, herrors, hpage, rfl, rfl⟩ := hlap
    exact .of_inLap hretries rfl (hgo.endsWith (.crashedOutside herrors hpage))
  | close result =>
    refine .of_idle hretries rfl ?_
    exact ⟨_, hlap⟩
  | @complete _ _ _ _ outcome =>
    refine .of_idle hretries rfl ?_
    cases outcome with
    | returned result => exact hlap
    | crashed reason => exact ⟨_, hlap⟩

/-- The rules of a segment task do not depend on who consumes its pages. -/
theorem Rule.of_paced (h : Rule { setup with outsideConsumer := false } s task ended t next) :
    Rule setup s task ended t next := by
  cases h <;> constructor <;> assumption

/-- Where a segment task stands that hands a page over, to the paced writer or to a consumer
outside. -/
def HandsTo (segment : Nat) (page : Page α ι) (phase : SegmentPhase α ι) : Prop :=
  phase = .delivering page.nextKey ⟨segment, .checking page.items⟩ ∨
    phase = .handing page.nextKey page.items

/-- A step of a segment task, whoever consumes its pages, is one of its own rules, the handover of
a page, the end of a delivery, or a step of the delivery that is under way. -/
theorem rule_of_any_step {answer : Answer α ι} (h : task.step setup s answer = some (t, next)) :
    Rule setup s task (Exchange.ended (task.call? setup) answer) t next ∨
    (∃ segment key pages page phase, task = ⟨segment, key, pages, .recording page⟩ ∧
      page.items ≠ [] ∧ t.metrics = (s.countPage segment page).metrics ∧
      next = ⟨segment, key, pages + 1, phase⟩ ∧ HandsTo segment page phase) ∨
    (∃ segment key pages nextKey number result,
      task = ⟨segment, key, pages, .delivering nextKey ⟨number, .ended result⟩⟩ ∧ t = s ∧
      next = afterHandover task nextKey result) ∨
    (∃ segment key pages nextKey delivery delivery',
      task = ⟨segment, key, pages, .delivering nextKey delivery⟩ ∧
      delivery.step setup s answer = some (t, delivery') ∧
      next = ⟨segment, key, pages, .delivering nextKey delivery'⟩) := by
  by_cases hrecording : ∃ page, task.phase = .recording page
  · obtain ⟨segment, key, pages, phase⟩ := task
    obtain ⟨page, rfl⟩ := hrecording
    cases answer with
    | none =>
      simp only [step, record] at h
      split at h
      · rename_i hempty
        obtain ⟨rfl, rfl⟩ := Prod.mk.inj (Option.some.inj h)
        exact .inl (.skip (List.isEmpty_iff.1 hempty))
      · rename_i hitems
        have hpage : page.items ≠ [] := fun hnil => hitems (List.isEmpty_iff.2 hnil)
        split at h
        · obtain ⟨rfl, rfl⟩ := Prod.mk.inj (Option.some.inj h)
          exact .inr (.inl ⟨segment, key, pages, page, _, rfl, hpage, rfl, rfl, .inr rfl⟩)
        · obtain ⟨rfl, rfl⟩ := Prod.mk.inj (Option.some.inj h)
          exact .inr (.inl ⟨segment, key, pages, page, _, rfl, hpage, rfl, rfl, .inl rfl⟩)
    | _ => cases h
  · rw [← step_paced fun page hpage => hrecording ⟨page, hpage⟩] at h
    rcases rule_of_step rfl h with hrule | ⟨_, _, _, page, rfl, -⟩ | hended | hdelivery
    · exact .inl hrule.of_paced
    · exact absurd ⟨page, rfl⟩ hrecording
    · exact .inr (.inr (.inl hended))
    · exact .inr (.inr (.inr hdelivery))

/-- Nothing happens to the pages while one is delivered. -/
theorem events_of_delivering {segment pages : Nat} {key nextKey : Option ι}
    {delivery delivery' : Delivery α ι} {answer : Answer α ι}
    (h : delivery.step setup s answer = some (t, delivery')) :
    events setup s ⟨segment, key, pages, .delivering nextKey delivery⟩ ended next = [] := by
  obtain ⟨number, phase⟩ := delivery
  cases phase with
  | ended result => cases h
  | _ => rfl

/-- So does one that makes any other step. -/
theorem told_of_step {answer : Answer α ι} (h : task.step setup s answer = some (t, next))
    (htold : task.Told setup log) :
    next.Told setup
      (log ++ events setup s task (Exchange.ended (task.call? setup) answer) next) := by
  rcases rule_of_any_step h with
    hrule | ⟨segment, key, pages, page, phase, rfl, hpage, -, rfl, hphase⟩ |
    ⟨_, _, _, _, _, result, rfl, -, rfl⟩ | ⟨_, _, _, _, _, _, rfl, hstep, rfl⟩
  · exact hrule.told htold
  · obtain ⟨laps, rest, hretries, rfl, hgo, errors, herrors, rfl⟩ := htold
    have hlap : HandsOver setup laps
        (Lap.attempted (setup.request segment key) errors (.returned (.ok page)) ++
          [.counted page, .handed segment page.items]) segment key (pages + 1) page.nextKey :=
      ⟨pages, errors, page, rfl, hgo, herrors, hpage, rfl, rfl⟩
    rcases hphase with rfl | rfl <;> exact .of_inLap hretries rfl hlap
  · obtain ⟨laps, rest, hretries, rfl, hlap⟩ := htold
    exact told_afterHandover hretries hlap result
  · obtain ⟨laps, rest, hretries, rfl, hlap⟩ := htold
    rw [events_of_delivering hstep]
    exact .of_idle hretries rfl hlap

end SegmentTask

end TableCopy
