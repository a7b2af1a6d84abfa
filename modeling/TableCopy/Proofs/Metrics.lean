import Mathlib.Algebra.Order.Round
import Mathlib.Data.Nat.ModEq
import Mathlib.Data.Rat.Floor
import Mathlib.Logic.Relation
import TableCopy.Error
import TableCopy.Metrics
import TableCopy.Proofs.Tally

/-!
# Counting by many threads

Threads that report progress share the counters. One report is made of up to three additions,
each of which is made at once, and the additions of different threads come in any order. What
a counter shows and what is still to be added to it make up the same sum all the time, modulo
the word size, so that in the end each counter is the sum of what the reports contribute to
it: it matters neither which thread has reported what nor when.
-/

namespace TableCopy
namespace Metrics

inductive Counter
  | segmentsStarted
  | segmentsCompleted
  | segmentsFailed
  | pagesScanned
  | itemsRead
  | readMilli
  | batchesWritten
  | itemsWritten
  | unprocessedRetries
  | writeMilli
  deriving DecidableEq

/-- The side whose progress a counter shows. -/
def Counter.side : Counter → Side
  | batchesWritten | itemsWritten | unprocessedRetries | writeMilli => .destination
  | _ => .source

/-- What a counter shows. -/
def read (metrics : Metrics) : Counter → UInt64
  | .segmentsStarted => metrics.segmentsStarted
  | .segmentsCompleted => metrics.segmentsCompleted
  | .segmentsFailed => metrics.segmentsFailed
  | .pagesScanned => metrics.pagesScanned
  | .itemsRead => metrics.itemsRead
  | .readMilli => metrics.readMilli
  | .batchesWritten => metrics.batchesWritten
  | .itemsWritten => metrics.itemsWritten
  | .unprocessedRetries => metrics.unprocessedRetries
  | .writeMilli => metrics.writeMilli

theorem eq_of_read {a b : Metrics} (h : ∀ counter, a.read counter = b.read counter) : a = b := by
  cases a
  cases b
  simp only [Metrics.mk.injEq]
  exact ⟨h .segmentsStarted, h .segmentsCompleted, h .segmentsFailed, h .pagesScanned,
    h .itemsRead, h .readMilli, h .batchesWritten, h .itemsWritten, h .unprocessedRetries,
    h .writeMilli⟩

theorem read_add (a b : Metrics) (counter : Counter) :
    (a + b).read counter = a.read counter + b.read counter := by
  cases counter <;> rfl

/-- An addition to one counter, which is made at once. -/
structure Addition where
  counter : Counter
  amount : UInt64

/-- Make an addition. -/
def raise (metrics : Metrics) : Addition → Metrics
  | ⟨.segmentsStarted, n⟩ => { metrics with segmentsStarted := metrics.segmentsStarted + n }
  | ⟨.segmentsCompleted, n⟩ => { metrics with segmentsCompleted := metrics.segmentsCompleted + n }
  | ⟨.segmentsFailed, n⟩ => { metrics with segmentsFailed := metrics.segmentsFailed + n }
  | ⟨.pagesScanned, n⟩ => { metrics with pagesScanned := metrics.pagesScanned + n }
  | ⟨.itemsRead, n⟩ => { metrics with itemsRead := metrics.itemsRead + n }
  | ⟨.readMilli, n⟩ => { metrics with readMilli := metrics.readMilli + n }
  | ⟨.batchesWritten, n⟩ => { metrics with batchesWritten := metrics.batchesWritten + n }
  | ⟨.itemsWritten, n⟩ => { metrics with itemsWritten := metrics.itemsWritten + n }
  | ⟨.unprocessedRetries, n⟩ =>
    { metrics with unprocessedRetries := metrics.unprocessedRetries + n }
  | ⟨.writeMilli, n⟩ => { metrics with writeMilli := metrics.writeMilli + n }

variable {metrics : Metrics} {addition : Addition} {counter : Counter}

theorem read_raise_self :
    (metrics.raise addition).read addition.counter =
      metrics.read addition.counter + addition.amount := by
  obtain ⟨counter, amount⟩ := addition
  cases counter <;> rfl

theorem read_raise_of_ne (h : addition.counter ≠ counter) :
    (metrics.raise addition).read counter = metrics.read counter := by
  obtain ⟨other, amount⟩ := addition
  cases counter <;> cases other <;> first | rfl | exact absurd rfl h

theorem read_foldl_raise_of_ne {additions : List Addition}
    (h : ∀ addition ∈ additions, addition.counter ≠ counter) :
    (additions.foldl raise metrics).read counter = metrics.read counter := by
  induction additions generalizing metrics with
  | nil => rfl
  | cons addition additions ih =>
    obtain ⟨hne, hrest⟩ := List.forall_mem_cons.1 h
    rw [List.foldl_cons, ih hrest, read_raise_of_ne hne]

namespace Addition

/-- What an addition contributes to a counter. -/
def due (counter : Counter) (addition : Addition) : Nat :=
  if addition.counter = counter then addition.amount.toNat else 0

/-- What is added to a counter is gained by it, modulo the word size. -/
theorem read_raise (metrics : Metrics) (addition : Addition) (counter : Counter) :
    ((metrics.raise addition).read counter).toNat ≡
      (metrics.read counter).toNat + addition.due counter [MOD Word.count 64] := by
  by_cases h : addition.counter = counter
  · subst h
    rw [read_raise_self, UInt64.toNat_add, due, if_pos rfl]
    exact Nat.mod_modEq _ _
  · rw [read_raise_of_ne h, due, if_neg h]
    exact Nat.ModEq.refl _

end Addition

section Reports

variable {α : Type} [Quantity α]

/-- Thousandths of a capacity: a thousand times it, rounded to the nearest whole number, but at
most the greatest word. A capacity that is not finite, or not above zero, has none. -/
def thousandths (capacity : α) : Nat :=
  match Quantity.value? capacity with
  | none => 0
  | some units =>
    if units ≤ 0 then 0
    else
      match Quantity.value? (Quantity.mul capacity (Quantity.ofNat 1000)) with
      | none => Word.greatest 64
      | some product => min (round product).toNat (Word.greatest 64)

theorem toNat_milli (capacity : α) : (milli capacity).toNat = thousandths capacity := by
  have hgreatest : Word.greatest 64 < 2 ^ 64 := by decide
  unfold milli thousandths
  cases hvalue : Quantity.value? capacity with
  | none => simp [Quantity.positive?, hvalue]
  | some units =>
    by_cases hunits : units ≤ 0
    · simp [Quantity.positive?, hvalue, hunits, Option.filter_some, not_lt.2 hunits]
    · simp only [Quantity.positive?, hvalue, Option.filter_some, not_le.1 hunits, hunits,
        decide_true, if_true, if_false]
      cases hproduct : Quantity.value? (Quantity.mul capacity (Quantity.ofNat 1000)) with
      | none => exact UInt64.toNat_ofNat_of_lt' hgreatest
      | some product =>
        dsimp only
        rw [UInt64.toNat_ofNat_of_lt' ((Quantity.roundUpTo_le ..).trans_lt hgreatest), round_eq]
        rfl

namespace Event

/-- The side on which an event happens. -/
def side : Event α → Side
  | batch .. | resubmission => .destination
  | _ => .source

/-- What an event contributes to a counter. -/
def amount (counter : Counter) (event : Event α) : Nat :=
  match event, counter with
  | segmentStarted, .segmentsStarted => 1
  | segmentEnded true, .segmentsCompleted => 1
  | segmentEnded false, .segmentsFailed => 1
  | page .., .pagesScanned => 1
  | page items _, .itemsRead => items.toNat
  | page _ capacity, .readMilli => thousandths capacity
  | batch .., .batchesWritten => 1
  | batch items _, .itemsWritten => items.toNat
  | batch _ capacity, .writeMilli => thousandths capacity
  | resubmission, .unprocessedRetries => 1
  | _, _ => 0

/-- The additions by which an event is reported, in order. -/
def additions : Event α → List Addition
  | segmentStarted => [⟨.segmentsStarted, 1⟩]
  | segmentEnded true => [⟨.segmentsCompleted, 1⟩]
  | segmentEnded false => [⟨.segmentsFailed, 1⟩]
  | page items capacity => [⟨.pagesScanned, 1⟩, ⟨.itemsRead, items⟩, ⟨.readMilli, milli capacity⟩]
  | batch items capacity =>
    [⟨.batchesWritten, 1⟩, ⟨.itemsWritten, items⟩, ⟨.writeMilli, milli capacity⟩]
  | resubmission => [⟨.unprocessedRetries, 1⟩]

/-- The additions of an event, one after the other, record it. -/
theorem foldl_raise_additions (metrics : Metrics) (event : Event α) :
    event.additions.foldl raise metrics = metrics.record event := by
  refine eq_of_read fun counter => ?_
  rw [record, read_add]
  cases event with
  | segmentEnded success =>
    cases success <;> cases counter <;> simp [additions, raise, contribution, read]
  | _ => cases counter <;> simp [additions, raise, contribution, read]

/-- An event raises counters of its own side only. -/
theorem side_of_mem_additions {event : Event α} {addition : Addition}
    (h : addition ∈ event.additions) : addition.counter.side = event.side := by
  unfold additions at h
  split at h
  all_goals
    simp only [List.mem_cons, List.not_mem_nil, or_false] at h
    aesop

theorem tally_due_additions (counter : Counter) (event : Event α) :
    tally (Addition.due counter) event.additions = event.amount counter := by
  cases event with
  | segmentEnded success =>
    cases success <;> cases counter <;> simp [additions, amount, Addition.due]
  | _ => cases counter <;> simp [additions, amount, Addition.due, toNat_milli]

end Event
end Reports

/-- Threads that report: the counters that they share, and the additions that each of them has
still to make. -/
structure Counting where
  metrics : Metrics
  threads : List (List Addition)

namespace Counting

/-- Some thread makes its next addition. -/
inductive Step : Counting → Counting → Prop
  | raise (metrics : Metrics) (before : List (List Addition)) (addition : Addition)
      (rest : List Addition) (after : List (List Addition)) :
      Step ⟨metrics, before ++ (addition :: rest) :: after⟩
        ⟨metrics.raise addition, before ++ rest :: after⟩

/-- Any number of additions, whichever threads make them. -/
def Steps : Counting → Counting → Prop := Relation.ReflTransGen Step

def IsDone (s : Counting) : Prop := ∀ thread ∈ s.threads, thread = []

/-- What a counter shows, and what is still to be added to it. -/
def balance (s : Counting) (counter : Counter) : Nat :=
  (s.metrics.read counter).toNat + tally (Addition.due counter) s.threads.flatten

variable {s t : Counting}

theorem balance_of_isDone (h : s.IsDone) (counter : Counter) :
    s.balance counter = (s.metrics.read counter).toNat := by
  rw [balance, List.flatten_eq_nil_iff.2 h, tally_nil, Nat.add_zero]

theorem balance_of_step (h : Step s t) (counter : Counter) :
    t.balance counter ≡ s.balance counter [MOD Word.count 64] := by
  cases h with
  | raise metrics before addition rest after =>
    have hcounter := addition.read_raise metrics counter
    simp only [balance, List.flatten_append, List.flatten_cons, tally_append, tally_cons]
    calc _ ≡ (metrics.read counter).toNat + addition.due counter +
          (tally (Addition.due counter) before.flatten + (tally (Addition.due counter) rest +
            tally (Addition.due counter) after.flatten)) [MOD Word.count 64] :=
          hcounter.add_right _
      _ = _ := by omega

theorem balance_of_steps (h : Steps s t) (counter : Counter) :
    t.balance counter ≡ s.balance counter [MOD Word.count 64] := by
  induction h with
  | refl => exact Nat.ModEq.refl _
  | tail _ hstep ih => exact (balance_of_step hstep counter).trans ih

/-- A thread may make all its additions in a row. -/
theorem steps_thread (metrics : Metrics) (before : List (List Addition)) (thread : List Addition)
    (after : List (List Addition)) :
    Steps ⟨metrics, before ++ thread :: after⟩
      ⟨thread.foldl raise metrics, before ++ [] :: after⟩ := by
  induction thread generalizing metrics with
  | nil => exact .refl
  | cons addition rest ih => exact .head (.raise metrics before addition rest after) (ih _)

/-- One thread after the other may make its additions. -/
theorem steps_threads (metrics : Metrics) (before threads : List (List Addition)) :
    Steps ⟨metrics, before ++ threads⟩
      ⟨threads.flatten.foldl raise metrics, before ++ threads.map fun _ => []⟩ := by
  induction threads generalizing metrics before with
  | nil => exact .refl
  | cons thread threads ih =>
    have hrest := ih (thread.foldl raise metrics) (before ++ [[]])
    rw [List.append_assoc, List.append_assoc] at hrest
    rw [List.flatten_cons, List.foldl_append]
    exact (steps_thread metrics before thread threads).trans hrest

end Counting

section Outcome

variable {α : Type} [Quantity α]

/-- Threads that have still to report everything. -/
def Counting.start (reports : List (List (Event α))) : Counting :=
  ⟨{}, reports.map fun events => events.flatMap Event.additions⟩

/-- Whether threads may end with certain counters, once each has made its reports. -/
def EndsWith (reports : List (List (Event α))) (final : Metrics) : Prop :=
  ∃ s, Counting.Steps (.start reports) s ∧ s.IsDone ∧ s.metrics = final

theorem Counting.flatten_start (reports : List (List (Event α))) :
    (start reports).threads.flatten = reports.flatten.flatMap Event.additions := by
  induction reports with
  | nil => rfl
  | cons events reports ih =>
    rw [List.flatten_cons, List.flatMap_append, ← ih]
    rfl

theorem Counting.balance_start (reports : List (List (Event α))) (counter : Counter) :
    (start reports).balance counter = tally (Event.amount counter) reports.flatten := by
  have hzero : ((start reports).metrics.read counter).toNat = 0 := by
    cases counter <;> rfl
  rw [balance, flatten_start, hzero, Nat.zero_add]
  induction reports.flatten with
  | nil => rfl
  | cons event events ih =>
    rw [List.flatMap_cons, tally_append, Event.tally_due_additions, ih, tally_cons]

/-- Threads may end with the counters of all events recorded in turn. -/
theorem endsWith_foldl (reports : List (List (Event α))) :
    EndsWith reports (reports.flatten.foldl record {}) := by
  refine ⟨_, Counting.steps_threads {} [] (Counting.start reports).threads, ?_, ?_⟩
  · intro thread hthread
    obtain ⟨-, -, rfl⟩ := List.mem_map.1 hthread
    rfl
  · dsimp only
    rw [Counting.flatten_start, List.foldl_flatMap]
    simp only [Event.foldl_raise_additions]

/-- However threads make their reports, each counter ends as the sum of what the events
contribute to it, modulo the word size. -/
theorem EndsWith.toNat_read {reports : List (List (Event α))} {final : Metrics}
    (h : EndsWith reports final) (counter : Counter) :
    (final.read counter).toNat = tally (Event.amount counter) reports.flatten % Word.count 64 := by
  obtain ⟨s, hsteps, hdone, rfl⟩ := h
  have hbalance := Counting.balance_of_steps hsteps counter
  rw [Counting.balance_of_isDone hdone, Counting.balance_start] at hbalance
  have hlt : (s.metrics.read counter).toNat < Word.count 64 := UInt64.toNat_lt _
  rwa [Nat.ModEq, Nat.mod_eq_of_lt hlt] at hbalance

theorem EndsWith.unique {reports others : List (List (Event α))} {final other : Metrics}
    (h : EndsWith reports final) (hother : EndsWith others other)
    (hperm : others.flatten.Perm reports.flatten) : other = final := by
  refine eq_of_read fun counter => UInt64.toNat_inj.1 ?_
  rw [hother.toNat_read, h.toNat_read, tally_perm _ hperm]

/-- Any finite number of events leads to the same counters, to the bit, in whatever order and
by however many threads they are reported, and in whatever order the additions of the threads
are made: those of the events recorded in turn. Each counter is the sum of what the events
contribute to it, modulo the word size; a capacity contributes its own thousandths. An event
changes counters of its own side only, with each of its additions and as a whole. -/
theorem reports_commute (events : Multiset (Event α)) :
    ∃ metrics : Metrics,
      (∀ reports : List (List (Event α)), (reports.flatten : Multiset (Event α)) = events →
        metrics = reports.flatten.foldl record {} ∧
          ∀ final, EndsWith reports final ↔ final = metrics) ∧
      (∀ counter, (metrics.read counter).toNat =
        (events.map (Event.amount counter)).sum % Word.count 64) ∧
      ∀ (event : Event α) (counter : Counter) (earlier : Metrics), counter.side ≠ event.side →
        (∀ addition ∈ event.additions,
          (earlier.raise addition).read counter = earlier.read counter) ∧
        (earlier.record event).read counter = earlier.read counter := by
  obtain ⟨list, rfl⟩ := Quotient.exists_rep events
  have hlist : EndsWith [list] (list.foldl record {}) := by
    simpa using endsWith_foldl [list]
  refine ⟨list.foldl record {}, ?_, ?_, ?_⟩
  · intro reports hreports
    have hperm : reports.flatten.Perm [list].flatten := by
      rw [List.flatten_singleton]
      exact Multiset.coe_eq_coe.1 hreports
    have hfold := endsWith_foldl reports
    have hsame := hlist.unique hfold hperm
    refine ⟨hsame.symm, fun final => ⟨fun hfinal => hlist.unique hfinal hperm, ?_⟩⟩
    rintro rfl
    rwa [hsame] at hfold
  · intro counter
    rw [hlist.toNat_read, List.flatten_singleton]
    rfl
  · intro event counter earlier hside
    have hcounter : ∀ addition ∈ event.additions, addition.counter ≠ counter := by
      rintro addition hmem rfl
      exact hside (Event.side_of_mem_additions hmem)
    refine ⟨fun addition hmem => read_raise_of_ne (hcounter addition hmem), ?_⟩
    rw [← Event.foldl_raise_additions]
    exact read_foldl_raise_of_ne hcounter

/-- A page of three items and half a unit, the end of a segment, and a batch of two items whose
capacity is infinite. -/
def threeEvents : List (Event Float) :=
  [.page 3 (Quantity.ofRat (1 / 2)), .segmentEnded true,
    .batch 2 (Float.ofBits 0x7ff0000000000000)]

/-- Two threads that share the three events end with the same counters as three threads that
share them in another order, one of which has nothing to report. -/
theorem reports_commute_of_three :
    ∃ metrics : Metrics, metrics.itemsRead = 3 ∧ metrics.readMilli = 500 ∧
      metrics.itemsWritten = 2 ∧ metrics.writeMilli = 0 ∧
      (∀ final, EndsWith [threeEvents.take 2, threeEvents.drop 2] final ↔ final = metrics) ∧
      ∀ final, EndsWith [threeEvents.drop 1, [], threeEvents.take 1] final ↔ final = metrics := by
  obtain ⟨metrics, hends, -⟩ := reports_commute (threeEvents : Multiset (Event Float))
  obtain ⟨hmetrics, htwo⟩ := hends [threeEvents.take 2, threeEvents.drop 2] rfl
  obtain ⟨-, hthree⟩ := hends [threeEvents.drop 1, [], threeEvents.take 1]
    (Multiset.coe_eq_coe.2 List.perm_append_comm)
  refine ⟨metrics, ?_, ?_, ?_, ?_, htwo, hthree⟩
  all_goals
    rw [hmetrics]
    decide +kernel

end Outcome
end Metrics
end TableCopy
