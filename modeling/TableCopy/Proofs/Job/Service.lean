import TableCopy.Proofs.Copy.Cause
import TableCopy.Proofs.Job.Connections

/-!
# What a job relies on in its backend

A backend that talks to the service makes its clients or crashes, and reports whatever
keeps it from describing a table as a fault of the metadata. The requests of its pipe fail
as requests do. Every transport gives such a backend.
-/

namespace TableCopy

/-- A backend that talks to the service: making its clients does not fail by an error, and a
table that is not described is a fault of the metadata. -/
structure Backend.IsService {α : Type} (backend : Backend α) : Prop where
  connect : ∀ source destination e, backend.connect source destination ≠ .failed e
  describe : ∀ side table e, backend.describe side table = .error e → ∃ m, e = .metadata m

theorem Backend.isService_ofTables {α ι : Type} [Quantity α] (source : PageRequest ι → Page α ι)
    (destination : List ι → Outcome (BatchOutcome α ι)) (fuel : Nat) :
    (ofTables source destination fuel).IsService where
  connect _ _ _ h := by cases h
  describe _ _ _ h := by cases h

namespace Transport

variable (transport : Transport)

theorem describeTable_eq_error {side : Side} {table : String} {e : CopyError}
    (h : transport.describeTable side table = .error e) : ∃ m, e = .metadata m := by
  unfold describeTable at h
  split at h
  · exact ⟨_, (Except.error.inj h).symm⟩
  · exact ⟨_, (Except.error.inj h).symm⟩
  · cases h

theorem isService_backend (fuel maxConnections : Nat) (interrupted : Bool) :
    (transport.backend fuel maxConnections interrupted).IsService where
  connect _ _ _ h := by
    unfold backend at h
    dsimp only at h
    split at h <;> cases h
  describe _ _ _ h := transport.describeTable_eq_error h

theorem isOfRequest_of_mapError {β : Type} {result : Except RequestFailure β} {operation : String}
    {e : CopyError}
    (h : result.mapError (fun failure => failure.toError operation failure.cause) = .error e) :
    e.IsOfRequest := by
  cases result with
  | ok => cases h
  | error failure =>
    obtain rfl := Except.error.inj h
    exact .failed _ _ _

/-- Whatever a transport answers, the requests of a pipe fail as requests do. -/
theorem answers_world (setup : Setup Float) :
    transport.world.Answers setup Exchange.FailsByRequest := by
  intro outside call e he
  cases call with
  | page request =>
    change (Answer.page (.returned (transport.scanPage request))).error? = some e at he
    cases hpage : transport.scanPage request with
    | ok page =>
      rw [hpage] at he
      cases he
    | error first =>
      rw [hpage] at he
      obtain rfl := Option.some.inj he
      exact isOfRequest_of_mapError hpage
  | batch items =>
    change (Answer.batch (.returned (transport.writeBatch setup.write.table items))).error? =
      some e at he
    cases hbatch : transport.writeBatch setup.write.table items with
    | ok outcome =>
      rw [hbatch] at he
      cases he
    | error first =>
      rw [hbatch] at he
      obtain rfl := Option.some.inj he
      exact isOfRequest_of_mapError hbatch
  | _ => cases he

/-- The exchanges of a job over a transport, once its pipe comes to its end. -/
theorem exists_hasHistory {request : JobRequest Float} {fuel maxConnections : Nat}
    {interrupted : Bool}
    (hended : ∀ delegation,
      .pipe delegation ∈ (request.run (transport.backend fuel maxConnections interrupted)).calls →
        (transport.world.runJob delegation.setup fuel ()
          (start delegation maxConnections interrupted)).2.ending?.isSome = true) :
    ∃ history : List (Exchange Float Item),
      (request.run (transport.backend fuel maxConnections interrupted)).HasHistory history ∧
        ∀ x ∈ history, x.FailsByRequest := by
  refine JobRequest.exists_hasHistory_of_world ?_ transport.answers_world (fun _ => rfl) hended
  intro delegation
  rw [start_eq_opening]
  exact delegation.isFresh_opening maxConnections interrupted

end Transport
end TableCopy
