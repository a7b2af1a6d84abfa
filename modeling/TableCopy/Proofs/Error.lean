import Mathlib.Data.List.Induction
import TableCopy.Error

/-!
# What an error keeps on its way out

Each layer that an error passes may add a context to it: to the error itself, to the result
that it is in, or to the result with a text that is computed only for a failure. However many
layers there are, and however each of them does it, an error keeps its kind and with it all
that depends on it, and the texts gather in front of its message, the latest first. The texts
to be computed are computed once each, in order; for a success none is.
-/

namespace TableCopy
namespace CopyError

/-! ## One error -/

/-- The cause that an error names, apart from what it tells about it. -/
inductive Kind
  | configuration (side : Side)
  | invalidParameter
  | missingCapacity
  | sectionOutOfRange
  | metadata
  | throttled
  | communication
  | execution
  | interrupted
  | unexpected
  deriving DecidableEq

def kind : CopyError → Kind
  | configuration side _ => .configuration side
  | invalidParameter _ => .invalidParameter
  | missingCapacity .. => .missingCapacity
  | sectionOutOfRange .. => .sectionOutOfRange
  | metadata _ => .metadata
  | throttled _ => .throttled
  | communication _ => .communication
  | execution _ => .execution
  | interrupted _ => .interrupted
  | unexpected _ => .unexpected

/-- The text that an error carries; one made of numbers and names carries none. -/
def text? : CopyError → Option String
  | configuration _ text | invalidParameter text | metadata text | throttled text
  | communication text | execution text | interrupted text | unexpected text => some text
  | missingCapacity .. | sectionOutOfRange .. => none

theorem text?_eq_none_iff {e : CopyError} :
    e.text? = none ↔ e.kind = .missingCapacity ∨ e.kind = .sectionOutOfRange := by
  cases e <;> simp [text?, kind]

@[simp] theorem kind_withContext (context : String) (e : CopyError) :
    (e.withContext context).kind = e.kind := by
  cases e <;> rfl

theorem text?_withContext (context : String) (e : CopyError) :
    (e.withContext context).text? = e.text?.map fun text => context ++ ": " ++ text := by
  cases e <;> rfl

theorem withContext_of_text? {e : CopyError} (h : e.text? = none) (context : String) :
    e.withContext context = e := by
  cases e with
  | missingCapacity | sectionOutOfRange => rfl
  | _ => cases h

/-- An error with contexts added to it, one after the other. -/
def inContexts (e : CopyError) (contexts : List String) : CopyError :=
  contexts.foldl (fun e context => e.withContext context) e

theorem inContexts_cons (e : CopyError) (context : String) (contexts : List String) :
    e.inContexts (context :: contexts) = (e.withContext context).inContexts contexts := rfl

theorem inContexts_concat (e : CopyError) (contexts : List String) (context : String) :
    e.inContexts (contexts ++ [context]) = (e.inContexts contexts).withContext context :=
  List.foldl_append ..

/-- What a context does not change, many contexts do not change. -/
theorem apply_inContexts {γ : Sort*} (f : CopyError → γ)
    (h : ∀ context e, f (withContext context e) = f e) (e : CopyError) (contexts : List String) :
    f (e.inContexts contexts) = f e := by
  induction contexts generalizing e with
  | nil => rfl
  | cons context contexts ih => rw [inContexts_cons, ih, h]

theorem text?_inContexts (e : CopyError) (contexts : List String) :
    (e.inContexts contexts).text? =
      e.text?.map fun text => ": ".intercalate (contexts.reverse ++ [text]) := by
  induction contexts using List.reverseRecOn with
  | nil => simp [inContexts]
  | append_singleton contexts context ih =>
    rw [inContexts_concat, text?_withContext, ih, Option.map_map]
    congr 1
    funext text
    have hne : contexts.reverse ++ [text] ≠ [] := by simp
    rw [List.reverse_append, List.reverse_singleton, List.append_assoc, List.singleton_append,
      String.intercalate_cons_of_ne_nil hne]
    rfl

theorem inContexts_of_text? {e : CopyError} (h : e.text? = none) (contexts : List String) :
    e.inContexts contexts = e := by
  induction contexts with
  | nil => rfl
  | cons context contexts ih => rw [inContexts_cons, withContext_of_text? h, ih]

/-! ## A result on its way through layers -/

/-- How a layer adds a context to a result. -/
inductive Layer (m : Type → Type)
  /-- The error is taken out of a failed result, and put back with the context. -/
  | toError (context : String)
  | toResult (context : String)
  /-- The context is computed, in whatever way, if the result is a failure. -/
  | computed (context : m String)

namespace Layer

variable {m : Type → Type} [Monad m] {β : Type}

def isComputed : Layer m → Bool
  | computed _ => true
  | _ => false

/-- The context of a layer. -/
def context : Layer m → m String
  | toError context | toResult context => pure context
  | computed context => context

/-- Add the context of a layer to a result. -/
def add (layer : Layer m) (result : Except CopyError β) : m (Except CopyError β) :=
  match layer with
  | toError context =>
    match result with
    | .ok value => pure (.ok value)
    | .error e => pure (.error (e.withContext context))
  | toResult context => pure (addContext context result)
  | computed context => addContextWith context result

/-- Add the contexts of all layers, in order. -/
def addAll (layers : List (Layer m)) (result : Except CopyError β) : m (Except CopyError β) :=
  layers.foldlM (fun result layer => layer.add result) result

/-- The layer, which counts how often it computes its context. -/
def counted : Layer m → Layer (StateT Nat m)
  | toError context => toError context
  | toResult context => toResult context
  | computed context => computed do
    modify (· + 1)
    context

theorem addAll_cons (layer : Layer m) (layers : List (Layer m)) (result : Except CopyError β) :
    addAll (layer :: layers) result = layer.add result >>= addAll layers :=
  List.foldlM_cons

theorem add_ok (layer : Layer m) (value : β) : layer.add (.ok value) = pure (.ok value) := by
  cases layer <;> rfl

variable [LawfulMonad m]

theorem add_error (layer : Layer m) (e : CopyError) :
    layer.add (.error e : Except CopyError β) = do
      return .error (e.withContext (← layer.context)) := by
  cases layer with
  | toError context | toResult context =>
    rw [Layer.context, pure_bind]
    rfl
  | computed context => rfl

/-- A success passes all layers as it is, and nothing is computed. -/
theorem addAll_ok (layers : List (Layer m)) (value : β) :
    addAll layers (.ok value) = pure (.ok value) := by
  induction layers with
  | nil => rfl
  | cons layer layers ih => rw [addAll_cons, add_ok, pure_bind, ih]

/-- On the way of a failure each layer has its context made once, in order. -/
theorem addAll_error (layers : List (Layer m)) (e : CopyError) :
    addAll layers (.error e : Except CopyError β) = do
      return .error (e.inContexts (← layers.mapM context)) := by
  induction layers generalizing e with
  | nil =>
    rw [List.mapM_nil, pure_bind]
    rfl
  | cons layer layers ih =>
    rw [addAll_cons, add_error, List.mapM_cons]
    simp only [bind_assoc, pure_bind, ih, inContexts_cons]

theorem run_context_counted (layer : Layer m) (count : Nat) :
    layer.counted.context.run count =
      (fun text => (text, count + if layer.isComputed then 1 else 0)) <$> layer.context := by
  cases layer <;> simp [counted, context, isComputed]

/-- Each computation that a failure meets is counted once. -/
theorem run_mapM_counted (layers : List (Layer m)) (count : Nat) :
    ((layers.map counted).mapM context).run count =
      (fun texts => (texts, count + layers.countP isComputed)) <$> layers.mapM context := by
  induction layers generalizing count with
  | nil => simp
  | cons layer layers ih =>
    rw [List.map_cons, List.mapM_cons, List.mapM_cons, StateT.run_bind, run_context_counted]
    simp only [StateT.run_bind, StateT.run_pure, ih, bind_map_left, map_bind, map_pure,
      List.countP_cons]
    rw [Nat.add_assoc count, Nat.add_comm (layers.countP isComputed)]

theorem run_addAll_counted (layers : List (Layer m)) (e : CopyError) (count : Nat) :
    (addAll (layers.map counted) (.error e : Except CopyError β)).run count =
      (fun result => (result, count + layers.countP isComputed)) <$>
        addAll layers (.error e) := by
  rw [addAll_error, addAll_error, StateT.run_bind, run_mapM_counted]
  simp only [StateT.run_pure, bind_map_left, map_bind, map_pure]

end Layer

section Meaning

open Layer

variable {m : Type → Type} [Monad m] [LawfulMonad m] {β : Type}

/-- However many layers add a context to an error, and however each of them does it, the error
keeps its kind, and with it the exit status and whether it may be retried or recovered from.
Its text comes to be the contexts, the latest first, and then what it was, with a colon between
any two; an error without a text stays as it is. The contexts that are to be computed are
computed in order, each exactly once. A success passes all layers untouched, and for it none is
computed. -/
theorem contexts_keep_meaning (layers : List (Layer m)) (e : CopyError) (value : β) :
    (addAll layers (.error e : Except CopyError β) =
        (fun contexts => .error (e.inContexts contexts)) <$> layers.mapM Layer.context ∧
      ∀ count, (addAll (layers.map counted) (.error e : Except CopyError β)).run count =
        (fun result => (result, count + layers.countP isComputed)) <$>
          addAll layers (.error e)) ∧
    (addAll layers (.ok value) = pure (.ok value) ∧
      ∀ count, (addAll (layers.map counted) (.ok value)).run count =
        pure (.ok value, count)) ∧
    ∀ contexts,
      ((e.inContexts contexts).kind = e.kind ∧
        (e.inContexts contexts).exitCode = e.exitCode ∧
        (e.inContexts contexts).isRetryable = e.isRetryable ∧
        (e.inContexts contexts).isRecoverable = e.isRecoverable) ∧
      (∀ text, e.text? = some text →
        (e.inContexts contexts).text? = some (": ".intercalate (contexts.reverse ++ [text]))) ∧
      (e.text? = none ↔ e.kind = .missingCapacity ∨ e.kind = .sectionOutOfRange) ∧
      (e.text? = none → e.inContexts contexts = e) := by
  refine ⟨⟨?_, run_addAll_counted layers e⟩, ⟨addAll_ok layers value, fun count => ?_⟩,
    fun contexts => ⟨⟨?_, ?_, ?_, ?_⟩, fun text h => ?_, text?_eq_none_iff,
      fun h => inContexts_of_text? h contexts⟩⟩
  · rw [addAll_error, map_eq_pure_bind]
  · rw [addAll_ok, StateT.run_pure]
  · exact apply_inContexts kind kind_withContext e contexts
  · exact apply_inContexts exitCode exitCode_withContext e contexts
  · exact apply_inContexts isRetryable isRetryable_withContext e contexts
  · exact apply_inContexts isRecoverable isRecoverable_withContext e contexts
  · rw [text?_inContexts, h, Option.map_some]

/-- Three layers, of which the second one computes its context. -/
def threeLayers : List (Layer Id) :=
  [.toError "segment 3", .computed (pure "orders -> orders_copy"), .toResult "night run"]

/-- The layers, which count their computations. -/
def countedLayers : List (Layer (StateT Nat Id)) := threeLayers.map counted

/-- A rejection gathers the three contexts with one computation, and goes on as a failure with
the exit status that it had; a success goes through with none. -/
theorem contexts_keep_meaning_of_three :
    (addAll countedLayers (.error (.execution "rejected") : Except CopyError Nat)).run 0 =
        pure (.error (.execution "night run: orders -> orders_copy: segment 3: rejected"), 1) ∧
      (addAll countedLayers (.ok 7 : Except CopyError Nat)).run 0 = pure (.ok 7, 0) := by
  obtain ⟨⟨herror, hcounted⟩, ⟨-, hok⟩, -⟩ :=
    contexts_keep_meaning threeLayers (.execution "rejected") 7
  refine ⟨?_, hok 0⟩
  rw [countedLayers, hcounted, herror]
  rfl

end Meaning
end CopyError
end TableCopy
