import TableCopy.Proofs.Copy.Counters
import TableCopy.Proofs.Copy.Failure
import TableCopy.Proofs.Copy.Tables

/-!
# Items are conserved

On every run of a pipe, whatever fails, each item that was read is written, dropped, or
still held, nothing is acknowledged that was not read, and a pipe that has dropped
something ends with an error.
-/

namespace TableCopy

variable {α ι : Type} [Quantity α] {setup : Setup α} {start s t : State α ι}
variable {history : List (Exchange α ι)}

/-- The controlling thread has submitted all segments that it will submit, and the pipe
has not ended. -/
def Control.isWaiting : Control α ι → Bool
  | awaitingScan | finishing _ | awaitingWrite _ | concluding .. => true
  | _ => false

/-- The controlling thread can take every step that a rule gives it. -/
theorem Control.Rule.controlStep_eq {c c' : Control α ι} (hpaced : setup.outsideConsumer = false)
    (h : Control.Rule setup s c t c') (hcontrol : s.control = c) :
    s.controlStep setup .none = some { t with control := c' } := by
  unfold State.controlStep
  rw [hcontrol]
  cases h with
  | stop h => exact if_pos (Bool.or_eq_true_iff.2 h)
  | next hint h =>
    rw [hint, h]
    rfl
  | scanned h => exact congrArg (Option.map _) h
  | written h =>
    refine (if_neg (Bool.eq_false_iff.1 hpaced)).trans ?_
    exact congrArg (Option.map _) h
  | interrupt h => exact if_pos h
  | conclude h => exact if_neg (Bool.eq_false_iff.1 h)
  | joinRead h => exact if_pos h
  | joinWrite h => exact if_pos h
  | _ => rfl

theorem Tracker.exists_wait?_eq_some {tracker : Tracker} (h : tracker.pending = 0) :
    ∃ result, tracker.wait? = some result :=
  ⟨_, if_pos h⟩

namespace Run

section Progress

theorem of_controlRule {c c' : Control α ι} (hpaced : setup.outsideConsumer = false)
    (h : Control.Rule setup s c t c') (hcontrol : s.control = c) :
    Run setup s [] { t with control := c' } := by
  have hrun := Run.start.step (.act .control .none) (h.controlStep_eq hpaced hcontrol)
  rw [State.exchanged, h.call? hpaced hcontrol] at hrun
  exact hrun

variable {scanned written : Except CopyError Unit}

/-- The pipe goes on to its end, and drops nothing on the way. -/
def Ends (setup : Setup α) (s : State α ι) : Prop :=
  ∃ t result, Run setup s [] t ∧ t.control = .returned result ∧ t.itemsDropped = s.itemsDropped

theorem Ends.of_controlRule {c c' : Control α ι} (hpaced : setup.outsideConsumer = false)
    (h : Control.Rule setup s c t c') (hcontrol : s.control = c)
    (hdropped : t.itemsDropped = s.itemsDropped)
    (hends : Ends setup ({ t with control := c' } : State α ι)) : Ends setup s := by
  obtain ⟨u, result, hrun, hreturned, hsame⟩ := hends
  exact ⟨u, result, (Run.of_controlRule hpaced h hcontrol).trans hrun, hreturned,
    hsame.trans hdropped⟩

theorem ends_of_returned {result : Except CopyError Unit} (h : s.control = .returned result) :
    Ends setup s :=
  ⟨s, result, .start, h, rfl⟩

theorem ends_of_concluding (hpaced : setup.outsideConsumer = false)
    (h : s.control = .concluding scanned written) : Ends setup s := by
  cases hint : s.interrupted with
  | true => exact .of_controlRule hpaced (.interrupt hint) h rfl (ends_of_returned rfl)
  | false => exact .of_controlRule hpaced (.conclude hint) h rfl (ends_of_returned rfl)

theorem ends_of_awaitingWrite (hpaced : setup.outsideConsumer = false)
    (h : s.control = .awaitingWrite scanned) (hwrite : s.writeTracker.pending = 0) :
    Ends setup s := by
  obtain ⟨written, hwait⟩ := Tracker.exists_wait?_eq_some hwrite
  exact .of_controlRule hpaced (.written hwait) h rfl (ends_of_concluding hpaced rfl)

theorem ends_of_finishing (hpaced : setup.outsideConsumer = false)
    (h : s.control = .finishing scanned) (hwrite : s.writeTracker.pending = 0) :
    Ends setup s := by
  refine .of_controlRule hpaced .finish h ?_ (ends_of_awaitingWrite hpaced rfl hwrite)
  rw [State.itemsDropped, State.itemsDropped, State.log, tally_cons]
  exact zero_add _

/-- Once all tasks have completed, the controlling thread alone brings the pipe to its
end. -/
theorem ends_of_isWaiting (hpaced : setup.outsideConsumer = false)
    (h : s.control.isWaiting = true) (hscan : s.scanTracker.pending = 0)
    (hwrite : s.writeTracker.pending = 0) : Ends setup s := by
  cases hcontrol : s.control with
  | awaitingScan =>
    obtain ⟨scanned, hwait⟩ := Tracker.exists_wait?_eq_some hscan
    exact .of_controlRule hpaced (.scanned hwait) hcontrol rfl (ends_of_finishing hpaced rfl hwrite)
  | finishing => exact ends_of_finishing hpaced hcontrol hwrite
  | awaitingWrite => exact ends_of_awaitingWrite hpaced hcontrol hwrite
  | concluding => exact ends_of_concluding hpaced hcontrol
  | _ =>
    rw [hcontrol] at h
    cases h

end Progress

/-- In every state of every run of a pipe into a destination that leaves none but items
of a batch unprocessed: what was read is written, held or dropped, each item once;
nothing is acknowledged more often than it was read; the counters say so, too; and what
was dropped makes the pipe end with an error, to which it comes once its tasks have
completed. -/
theorem items_conserved [DecidableEq ι] (hpaced : setup.outsideConsumer = false)
    (hfresh : start.IsFresh setup) (hrun : Run setup (start.piping setup) history s)
    (hfaithful : ∀ x ∈ history, x.IsFaithful) :
    s.itemsRead = s.itemsWritten + s.itemsHeld + s.itemsDropped ∧
      tally Exchange.acknowledged history ≤ s.itemsRead ∧
      s.itemsWritten ≤ s.itemsRead ∧
      s.metrics.itemsRead = UInt64.ofNat s.itemsRead.card ∧
      s.metrics.itemsWritten = UInt64.ofNat s.itemsWritten.card ∧
      (s.itemsRead.card < 2 ^ 64 → s.metrics.itemsWritten ≤ s.metrics.itemsRead ∧
        s.metrics.itemsPending = (s.itemsHeld + s.itemsDropped).card) ∧
      (s.itemsDropped ≠ 0 →
        (∀ result, s.control.result? = some result → ∃ e, result = .error e) ∧
        (s.control.isWaiting = true → s.scanTracker.pending = 0 → s.writeTracker.pending = 0 →
          ∃ t e, Run setup s [] t ∧ t.control = .returned (.error e))) := by
  have hitems := hrun.itemsRead_eq hpaced hfresh hfaithful
  rw [add_right_comm] at hitems
  have hle : s.itemsWritten ≤ s.itemsRead := by
    rw [hitems, add_assoc]
    exact Multiset.le_add_right _ _
  refine ⟨hitems, hrun.acknowledged_le_itemsRead hpaced hfresh hfaithful, hle,
    hrun.metrics_itemsRead hpaced hfresh, hrun.metrics_itemsWritten hpaced hfresh hfaithful,
    ?_, ?_⟩
  · intro hfew
    obtain ⟨hread, hwritten, hpending⟩ := hrun.counters_exact hpaced hfresh hfaithful hfew
    rw [add_comm] at hpending
    refine ⟨UInt64.le_iff_toNat_le.2 ?_, hpending⟩
    rw [hread, hwritten]
    exact Multiset.card_le_card hle
  · intro hdropped
    refine ⟨fun result hresult => hrun.result_eq_error_of_dropped hpaced hfresh hresult hdropped,
      ?_⟩
    intro hwaiting hscan hwrite
    obtain ⟨t, result, hends, hreturned, hsame⟩ := ends_of_isWaiting hpaced hwaiting hscan hwrite
    have hresult : t.control.result? = some result := by rw [hreturned]; rfl
    obtain ⟨e, rfl⟩ := (hrun.trans hends).result_eq_error_of_dropped hpaced hfresh hresult
      (hsame ▸ hdropped)
    exact ⟨t, e, hends, hreturned⟩

/-- A small copy into a destination that rejects the chunk of its last page: that page is
dropped, the others are written, and the pipe ends with an error. -/
theorem items_conserved_of_rejected : ∃ history,
    Run smallSetup (smallStart.piping smallSetup) history (smallEnd strictDestination) ∧
      (smallEnd strictDestination).itemsRead = {1, 2, 3, 2} ∧
      (smallEnd strictDestination).itemsWritten = {1, 2, 3} ∧
      (smallEnd strictDestination).itemsDropped = {2} ∧
      tally Exchange.acknowledged history ≤ (smallEnd strictDestination).itemsRead ∧
      (smallEnd strictDestination).metrics.itemsWritten = 3 ∧
      ∃ e, (smallEnd strictDestination).control.result? = some (.error e) := by
  obtain ⟨history, hrun, -, hfaithful⟩ := World.exists_run_ofTables smallSetup smallSource
    (smallStart.piping smallSetup) 100 strictDestination_faithful
  have hdropped : (smallEnd strictDestination).itemsDropped = {2} := by decide +kernel
  obtain ⟨-, hacknowledged, -, -, hwritten, -, herror⟩ := Run.items_conserved rfl
    (State.isFresh_initial _ _) hrun hfaithful
  obtain ⟨hends, -⟩ := herror (hdropped.trans_ne (by decide))
  have hresult : ∃ result, (smallEnd strictDestination).control.result? = some result :=
    Option.isSome_iff_exists.1 (by decide +kernel)
  obtain ⟨result, hresult⟩ := hresult
  obtain ⟨e, rfl⟩ := hends result hresult
  refine ⟨history, hrun, by decide +kernel, by decide +kernel, hdropped, hacknowledged, ?_, e,
    hresult⟩
  rw [smallEnd, hwritten]
  decide +kernel

end Run
end TableCopy
