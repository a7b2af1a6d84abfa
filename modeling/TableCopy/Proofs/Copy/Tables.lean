import TableCopy.Job.Perform
import TableCopy.Proofs.Copy.Source

/-!
# Copies between two tables

A source is a page for every request, a destination an answer to every batch. The two
are a world without a memory, and what this world makes of a copy is a run whose pages
are those of the source. A small copy of two segments serves as an example.
-/

namespace TableCopy

variable {α ι : Type}

/-- A destination that leaves none but items of a batch unprocessed. -/
def IsFaithfulDestination (destination : List ι → Outcome (BatchOutcome α ι)) : Prop :=
  ∀ items outcome, destination items = .returned (.ok outcome) →
    (outcome.unprocessed : Multiset ι) ≤ items

namespace World

/-- The world of a source and a destination. -/
def ofTables (source : PageRequest ι → Page α ι)
    (destination : List ι → Outcome (BatchOutcome α ι)) : World Unit α ι where
  scan _ request := ((), { outcome := .returned (.ok (source request)) })
  write _ _ items := ((), { outcome := destination items })
  consume _ _ _ := ((), { outcome := .returned (.ok ()) })
  finish _ := ((), { outcome := .returned (.ok ()) })
  holds _ := false

/-- Between a source and a faithful destination, pages come from the source, and nothing but
items of a batch is left unprocessed. -/
theorem answers_ofTables (setup : Setup α) (source : PageRequest ι → Page α ι)
    {destination : List ι → Outcome (BatchOutcome α ι)}
    (hfaithful : IsFaithfulDestination destination) :
    Answers setup (ofTables source destination) fun x => x.IsFrom source ∧ x.IsFaithful := by
  intro outside call
  cases call with
  | page => exact ⟨rfl, trivial⟩
  | batch items =>
    refine ⟨trivial, ?_⟩
    change Exchange.IsFaithful ⟨.batch items, .batch (destination items)⟩
    rcases hdestination : destination items with (e | outcome) | reason
    · trivial
    · exact hfaithful items outcome hdestination
    · trivial
  | _ => exact ⟨trivial, trivial⟩

variable [Quantity α]

/-- A copy between two tables is a run from its source, and to its destination. -/
theorem exists_run_ofTables (setup : Setup α) (source : PageRequest ι → Page α ι)
    {destination : List ι → Outcome (BatchOutcome α ι)} (s : State α ι) (fuel : Nat)
    (hfaithful : IsFaithfulDestination destination) :
    ∃ history, Run setup s history ((ofTables source destination).settle setup fuel () s).2 ∧
      (∀ x ∈ history, x.IsFrom source) ∧ ∀ x ∈ history, x.IsFaithful := by
  obtain ⟨history, hrun, hanswers⟩ :=
    exists_run_settle (answers_ofTables setup source hfaithful) () fuel .start
  rw [List.append_nil] at hrun
  exact ⟨history, hrun, fun x hx => (hanswers x hx).1, fun x hx => (hanswers x hx).2⟩

/-- What a world makes of a pipe and of the release of its pools is a run whose exchanges
are answered by the world. -/
theorem exists_run_runJob {σ : Type} {world : World σ α ι} {setup : Setup α}
    {P : Exchange α ι → Prop} (hanswers : Answers setup world P) (fuel : Nat) (outside : σ)
    (start : State α ι) :
    ∃ history, Run setup (start.piping setup) history (world.runJob setup fuel outside start).2 ∧
      ∀ x ∈ history, P x := by
  obtain ⟨piped, hpiped, hanswered⟩ :=
    exists_run_settle hanswers outside fuel (.start : Run setup (start.piping setup) [] _)
  obtain ⟨rest, hrest, hanswered'⟩ := exists_run_settle hanswers
    (world.settle setup fuel outside (start.piping setup)).1 fuel hpiped.releasing
  rw [List.append_nil] at hrest
  exact ⟨rest ++ piped, hrest, List.forall_mem_append.2 ⟨hanswered', hanswered⟩⟩

omit [Quantity α] in
theorem endingOf_eq {s : State α ι} {ending : Ending} (h : s.ending? = some ending) :
    endingOf s = ending := by
  rw [endingOf, h, Option.getD_some]

end World

/-! ## A small copy -/

/-- Two pages in the first segment, an empty one in the second, and a single item in each
of the others. -/
def smallSource (request : PageRequest Nat) : Page Rat Nat :=
  match request.segment, request.startKey with
  | 0, none => ⟨[1, 2, 3], some 3, 1 / 2⟩
  | 0, some _ => ⟨[2], none, 1 / 2⟩
  | 1, _ => ⟨[], none, 1 / 2⟩
  | segment, _ => ⟨[segment], none, 1 / 2⟩

def smallSetup : Setup Rat where
  scan := ⟨"orders", none, ⟨2, .fallback⟩, .whole, false, none⟩
  write := ⟨"archive", none, 25⟩
  scanRetry := .forScan
  writeRetry := .forBatchWrite

/-- The pages of each segment. -/
def smallPages (segment : Nat) : List (Page Rat Nat) :=
  match segment with
  | 0 => [⟨[1, 2, 3], some 3, 1 / 2⟩, ⟨[2], none, 1 / 2⟩]
  | 1 => [⟨[], none, 1 / 2⟩]
  | segment => [⟨[segment], none, 1 / 2⟩]

theorem pageChain_smallPages {request : PageRequest Nat} (h : request.startKey = none) :
    PageChain smallSource request (smallPages request.segment) := by
  obtain ⟨table, segment, totalSegments, consistentRead, limit, startKey⟩ := request
  obtain rfl := h
  match segment with
  | 0 => exact .next rfl (.last rfl)
  | 1 => exact .last rfl
  | _ + 2 => exact .last rfl

def smallStart : State Rat Nat := .initial smallSetup (.ofLimit 2 1 0) (.ofLimit 2 1 0)

/-- The state in which the small copy ends. -/
def smallEnd (destination : List Nat → Outcome (BatchOutcome Rat Nat)) : State Rat Nat :=
  ((World.ofTables smallSource destination).settle smallSetup 100 ()
    (smallStart.piping smallSetup)).2

/-- A destination that takes two items of a batch. -/
def slowDestination (items : List Nat) : Outcome (BatchOutcome Rat Nat) :=
  .returned (.ok ⟨items.drop 2, 1⟩)

/-- A destination that takes all batches but those of a single item. -/
def strictDestination (items : List Nat) : Outcome (BatchOutcome Rat Nat) :=
  if items.length = 1 then .returned (.error (.execution "rejected"))
  else .returned (.ok ⟨[], 1⟩)

theorem slowDestination_faithful : IsFaithfulDestination slowDestination := by
  intro items outcome h
  obtain rfl := Except.ok.inj (Outcome.returned.inj h)
  exact Multiset.coe_le.2 (List.drop_sublist 2 items).subperm

theorem strictDestination_faithful : IsFaithfulDestination strictDestination := by
  intro items outcome h
  unfold strictDestination at h
  split at h
  · cases h
  · obtain rfl := Except.ok.inj (Outcome.returned.inj h)
    exact Multiset.zero_le _

end TableCopy
