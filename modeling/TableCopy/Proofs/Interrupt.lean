import Mathlib.Data.List.Basic
import Mathlib.Logic.Relation
import TableCopy.Interrupt

/-!
# Handles that threads share

Threads make handles, clone handles of each other and trigger them, in any order; each of these
is done at once. A handle is named when it appears, so that what a thread does can be told
without the order in which the handles of all threads appear. Two handles are connected if
clones lead from one to the other, in whichever direction. A handle has the group of those that
it is connected with and of no others, and its flag is raised when one of these has been
triggered, whether that was before or after it was cloned.
-/

namespace TableCopy
namespace Interrupts

/-! ## Flags -/

section Flags

variable {s t : Interrupts} {handle group : Nat}

theorem isTriggered_iff (hgroup : s.groups[handle]? = some group) :
    s.isTriggered handle = true ↔ group ∈ s.raised := by
  rw [isTriggered, hgroup]
  exact List.contains_iff_mem

theorem apply_clone (hgroup : s.groups[handle]? = some group) :
    s.apply (.clone handle) = { s with groups := s.groups ++ [group] } := by
  simp only [apply, hgroup]

theorem apply_trigger (hgroup : s.groups[handle]? = some group) :
    s.apply (.trigger handle) = { s with raised := group :: s.raised } := by
  simp only [apply, hgroup]

theorem mem_raised_apply (h : group ∈ s.raised) (action : Action) :
    group ∈ (s.apply action).raised := by
  cases action with
  | new => exact h
  | clone other =>
    simp only [apply]
    split <;> exact h
  | trigger other =>
    simp only [apply]
    split
    · exact List.mem_cons_of_mem _ h
    · exact h

theorem mem_raised_foldl (h : group ∈ s.raised) (actions : List Action) :
    group ∈ (actions.foldl apply s).raised := by
  induction actions generalizing s with
  | nil => exact h
  | cons action actions ih => exact ih (mem_raised_apply h action)

theorem groups_isPrefix_apply (s : Interrupts) (action : Action) :
    s.groups <+: (s.apply action).groups := by
  cases action with
  | new => exact List.prefix_append _ _
  | clone other =>
    simp only [apply]
    split
    · exact List.prefix_append _ _
    · exact List.prefix_rfl
  | trigger other =>
    simp only [apply]
    split <;> exact List.prefix_rfl

/-- A clone joins the group of its handle. -/
theorem groups_clone (hgroup : s.groups[handle]? = some group) :
    (s.apply (.clone handle)).groups = s.groups ++ [group] := by
  rw [apply_clone hgroup]

/-- Whatever happens after a trigger, the handles of the group are triggered. -/
theorem isTriggered_of_trigger (hgroup : s.groups[handle]? = some group) (actions : List Action)
    {other : Nat}
    (hother : (actions.foldl apply (s.apply (.trigger handle))).groups[other]? = some group) :
    (actions.foldl apply (s.apply (.trigger handle))).isTriggered other = true := by
  have hraised : group ∈ (s.apply (.trigger handle)).raised := by
    rw [apply_trigger hgroup]
    exact List.mem_cons_self
  exact (isTriggered_iff hother).2 (mem_raised_foldl hraised actions)

/-- The handles and flags of both are the same, though the flags may have been raised in
another order or more than once. -/
structure SameFlags (s t : Interrupts) : Prop where
  groups_eq : s.groups = t.groups
  nextGroup_eq : s.nextGroup = t.nextGroup
  raised_iff : ∀ group, group ∈ s.raised ↔ group ∈ t.raised

theorem SameFlags.apply (h : SameFlags s t) (action : Action) :
    SameFlags (s.apply action) (t.apply action) := by
  obtain ⟨groups, raised, next⟩ := s
  obtain ⟨others, flags, free⟩ := t
  obtain ⟨rfl, rfl, hraised⟩ := h
  cases action with
  | new => exact ⟨rfl, rfl, hraised⟩
  | clone handle =>
    simp only [Interrupts.apply]
    split <;> exact ⟨rfl, rfl, hraised⟩
  | trigger handle =>
    simp only [Interrupts.apply]
    split
    · exact ⟨rfl, rfl, fun group => by rw [List.mem_cons, List.mem_cons, hraised]⟩
    · exact ⟨rfl, rfl, hraised⟩

theorem SameFlags.foldl (h : SameFlags s t) (actions : List Action) :
    SameFlags (actions.foldl Interrupts.apply s) (actions.foldl Interrupts.apply t) := by
  induction actions generalizing s t with
  | nil => exact h
  | cons action actions ih => exact ih (h.apply action)

theorem SameFlags.states_eq (h : SameFlags s t) : s.states = t.states := by
  have hflag : s.raised.contains = t.raised.contains := by
    funext group
    rw [Bool.eq_iff_iff, List.contains_iff_mem, List.contains_iff_mem, h.raised_iff]
  rw [states, states, h.groups_eq, hflag]

/-- To trigger a handle whose flag is raised changes nothing. -/
theorem sameFlags_trigger (h : s.isTriggered handle = true) :
    SameFlags (s.apply (.trigger handle)) s := by
  cases hgroup : s.groups[handle]? with
  | none =>
    rw [isTriggered, hgroup] at h
    cases h
  | some group =>
    rw [apply_trigger hgroup]
    have hmem := (isTriggered_iff hgroup).1 h
    refine ⟨rfl, rfl, fun other => ⟨fun hother => ?_, List.mem_cons_of_mem _⟩⟩
    rcases List.mem_cons.1 hother with rfl | hother
    · exact hmem
    · exact hother

end Flags

/-! ## Threads -/

/-- What a thread does with handles, by their names. -/
inductive Call (ν : Type)
  | new (name : ν)
  | clone (handle name : ν)
  | trigger (handle : ν)

namespace Call

variable {ν : Type}

/-- The name of the handle that appears. -/
def name? : Call ν → Option ν
  | new name => some name
  | clone _ name => some name
  | trigger _ => none

/-- The handle that is cloned or triggered. -/
def handle? : Call ν → Option ν
  | new _ => none
  | clone handle _ => some handle
  | trigger handle => some handle

end Call

/-- Threads that share handles. -/
structure Sharing (ν : Type) where
  interrupts : Interrupts := {}
  /-- The handle that is there from the start. -/
  first : ν
  /-- What each thread has still to do. -/
  threads : List (List (Call ν))
  /-- What the threads have done, the latest first. -/
  made : List (Call ν) := []

namespace Sharing

variable {ν : Type}

/-- The names of the handles, in the order in which these appeared. -/
def names (s : Sharing ν) : List ν := s.first :: s.made.reverse.filterMap Call.name?

/-- Clones lead from one handle to the other, in whichever direction. -/
def IsConnected (s : Sharing ν) : ν → ν → Prop :=
  Relation.EqvGen fun handle name => .clone handle name ∈ s.made

section Names

variable {s : Sharing ν} {call : Call ν} {name other : ν}

theorem mem_names_of_name? (hmem : call ∈ s.made) (hname : call.name? = some name) :
    name ∈ s.names :=
  List.mem_cons_of_mem _ (List.mem_filterMap.2 ⟨call, List.mem_reverse.2 hmem, hname⟩)

/-- What is the same for a handle and each clone of it is the same for connected handles. -/
theorem eq_of_isConnected {γ : Type} {f : ν → γ}
    (h : ∀ handle name, .clone handle name ∈ s.made → f handle = f name)
    (hconnected : s.IsConnected name other) : f name = f other := by
  induction hconnected with
  | rel handle name hmem => exact h handle name hmem
  | refl => rfl
  | symm _ _ _ ih => exact ih.symm
  | trans _ _ _ _ _ ih ih' => exact ih.trans ih'

/-- The call that a thread makes is one of those to be made. -/
theorem perm_flatten_set {threads : List (List (Call ν))} {i : Nat} {rest : List (Call ν)}
    (h : threads[i]? = some (call :: rest)) :
    threads.flatten.Perm (call :: (threads.set i rest).flatten) := by
  induction threads generalizing i with
  | nil => cases h
  | cons thread threads ih =>
    cases i with
    | zero =>
      obtain rfl := Option.some.inj h
      exact .refl _
    | succ i => exact ((ih h).append_left thread).trans List.perm_middle

end Names

variable [DecidableEq ν]

def number (s : Sharing ν) (name : ν) : Nat := s.names.idxOf name

/-- The group of a handle. -/
def group? (s : Sharing ν) (name : ν) : Option Nat := s.interrupts.groups[s.number name]?

/-- Whether a handle is triggered. -/
def reports (s : Sharing ν) (name : ν) : Bool := s.interrupts.isTriggered (s.number name)

def action (s : Sharing ν) : Call ν → Action
  | .new _ => .new
  | .clone handle _ => .clone (s.number handle)
  | .trigger handle => .trigger (s.number handle)

def make (s : Sharing ν) (call : Call ν) : Sharing ν :=
  { s with interrupts := s.interrupts.apply (s.action call), made := call :: s.made }

/-- The handle that a call uses is there, and the name that it gives is free. -/
def IsPossible (s : Sharing ν) (call : Call ν) : Prop :=
  (∀ handle ∈ call.handle?, handle ∈ s.names) ∧ ∀ name ∈ call.name?, name ∉ s.names

instance (s : Sharing ν) (call : Call ν) : Decidable (s.IsPossible call) :=
  inferInstanceAs (Decidable (_ ∧ _))

/-- The next call of a thread, if it can be made. -/
def step (s : Sharing ν) (i : Nat) : Option (Sharing ν) :=
  match s.threads[i]? with
  | some (call :: rest) =>
    if s.IsPossible call then some { s.make call with threads := s.threads.set i rest } else none
  | _ => none

/-- The calls of threads in the order that tells which thread makes the next one. -/
def run (s : Sharing ν) (schedule : List Nat) : Option (Sharing ν) := schedule.foldlM step s

variable {s t : Sharing ν} {call : Call ν} {handle name other : ν} {group : Nat}

theorem names_make (s : Sharing ν) (call : Call ν) :
    (s.make call).names = s.names ++ call.name?.toList := by
  simp only [names, make, List.reverse_cons, List.filterMap_append, List.cons_append]
  cases h : call.name? <;> simp [h]

theorem mem_names_make (h : name ∈ s.names) (call : Call ν) : name ∈ (s.make call).names := by
  rw [names_make]
  exact List.mem_append_left _ h

theorem isConnected_make (h : s.IsConnected name other) (call : Call ν) :
    (s.make call).IsConnected name other :=
  h.mono fun _ _ hmem => List.mem_cons_of_mem call hmem

theorem isConnected_make_trigger :
    (s.make (.trigger handle)).IsConnected name other ↔ s.IsConnected name other := by
  refine ⟨fun h => h.mono fun _ _ hmem => ?_, fun h => isConnected_make h _⟩
  rcases List.mem_cons.1 hmem with heq | hmem
  · cases heq
  · exact hmem

/-! ## Groups -/

/-- The groups tell which handles are connected, and the raised ones which are connected with
one that has been triggered. -/
structure IsGrouped (s : Sharing ν) : Prop where
  length_eq : s.interrupts.groups.length = s.names.length
  mem_names : ∀ call ∈ s.made, ∀ handle ∈ call.handle?, handle ∈ s.names
  group_lt : ∀ group ∈ s.interrupts.groups, group < s.interrupts.nextGroup
  group?_clone : ∀ handle name, .clone handle name ∈ s.made → s.group? handle = s.group? name
  isConnected : ∀ name ∈ s.names, ∀ other ∈ s.names, s.group? name = s.group? other →
    s.IsConnected name other
  mem_raised_iff : ∀ group, group ∈ s.interrupts.raised ↔
    ∃ handle, .trigger handle ∈ s.made ∧ s.group? handle = some group

namespace IsGrouped

theorem number_lt (hs : s.IsGrouped) (h : name ∈ s.names) :
    s.number name < s.interrupts.groups.length := by
  rw [hs.length_eq]
  exact List.idxOf_lt_length_iff.2 h

theorem exists_group? (hs : s.IsGrouped) (h : name ∈ s.names) :
    ∃ group ∈ s.interrupts.groups, s.group? name = some group :=
  ⟨_, List.getElem_mem (hs.number_lt h), List.getElem?_eq_getElem (hs.number_lt h)⟩

/-- A handle keeps its group. -/
theorem group?_make (hs : s.IsGrouped) (h : name ∈ s.names) (call : Call ν) :
    (s.make call).group? name = s.group? name := by
  obtain ⟨later, hlater⟩ := groups_isPrefix_apply s.interrupts (s.action call)
  have hnumber : (s.make call).number name = s.number name := by
    rw [number, names_make, List.idxOf_append_of_mem h]
    rfl
  rw [group?, hnumber, group?, ← List.getElem?_append_left (hs.number_lt h), hlater]
  rfl

/-- A handle that appears gets the group that is put down. -/
theorem group?_make_self (hs : s.IsGrouped) (hname : call.name? = some name)
    (hfree : name ∉ s.names)
    (hgroups : (s.make call).interrupts.groups = s.interrupts.groups ++ [group]) :
    (s.make call).group? name = some group := by
  have hnumber : (s.make call).number name = s.interrupts.groups.length := by
    rw [number, names_make, hname, List.idxOf_append_of_notMem hfree, Option.toList_some,
      List.idxOf_cons_self, Nat.add_zero, hs.length_eq]
  rw [group?, hnumber, hgroups, List.getElem?_concat_length]

theorem handle_mem_make (hs : s.IsGrouped) (hpossible : s.IsPossible call) :
    ∀ other ∈ (s.make call).made, ∀ handle ∈ other.handle?, handle ∈ (s.make call).names := by
  intro other hmem handle hhandle
  rcases List.mem_cons.1 hmem with rfl | hmem
  · exact mem_names_make (hpossible.1 handle hhandle) _
  · exact mem_names_make (hs.mem_names other hmem handle hhandle) _

/-- A handle and its clone stay in one group. -/
theorem group?_make_of_clone (hs : s.IsGrouped) (hmem : .clone handle name ∈ s.made)
    (call : Call ν) : (s.make call).group? handle = (s.make call).group? name := by
  rw [hs.group?_make (hs.mem_names _ hmem handle rfl), hs.group?_make (mem_names_of_name? hmem rfl),
    hs.group?_clone _ _ hmem]

theorem group?_make_of_trigger (hs : s.IsGrouped) (hmem : .trigger handle ∈ s.made)
    (call : Call ν) : (s.make call).group? handle = s.group? handle :=
  hs.group?_make (hs.mem_names _ hmem handle rfl) call

/-- A handle appears in a group, and is connected with all others of the group. -/
theorem appear (hs : s.IsGrouped) (hpossible : s.IsPossible call) (hname : call.name? = some name)
    (hgroups : (s.make call).interrupts.groups = s.interrupts.groups ++ [group])
    (hraised : (s.make call).interrupts.raised = s.interrupts.raised)
    (hlt : ∀ other ∈ (s.make call).interrupts.groups, other < (s.make call).interrupts.nextGroup)
    (hclone : ∀ handle, call = .clone handle name → s.group? handle = some group)
    (hjoin : ∀ other ∈ s.names, s.group? other = some group →
      (s.make call).IsConnected other name) :
    (s.make call).IsGrouped := by
  have hself := hs.group?_make_self hname (hpossible.2 name hname) hgroups
  have hnames : (s.make call).names = s.names ++ [name] := by
    rw [names_make, hname, Option.toList_some]
  refine ⟨?_, hs.handle_mem_make hpossible, hlt, ?_, ?_, ?_⟩
  · rw [hgroups, hnames, List.length_append, List.length_append, hs.length_eq]
    rfl
  · intro handle other hmem
    rcases List.mem_cons.1 hmem with rfl | hmem
    · obtain rfl := Option.some.inj hname
      rw [hself, hs.group?_make (hpossible.1 handle rfl), hclone handle rfl]
    · exact hs.group?_make_of_clone hmem call
  · intro handle hhandle other hother hsame
    rw [hnames, List.mem_append, List.mem_singleton] at hhandle hother
    -- each of the two was there before, or is the one that appears
    rcases hhandle with hhandle | rfl <;> rcases hother with hother | rfl
    · rw [hs.group?_make hhandle, hs.group?_make hother] at hsame
      exact isConnected_make (hs.isConnected _ hhandle _ hother hsame) call
    · rw [hs.group?_make hhandle, hself] at hsame
      exact hjoin handle hhandle hsame
    · rw [hs.group?_make hother, hself] at hsame
      exact (hjoin other hother hsame.symm).symm
    · exact .refl _
  · intro other
    rw [hraised, hs.mem_raised_iff]
    constructor
    · rintro ⟨handle, hmem, hgroup⟩
      rw [← hs.group?_make_of_trigger hmem call] at hgroup
      exact ⟨handle, List.mem_cons_of_mem _ hmem, hgroup⟩
    · rintro ⟨handle, hmem, hgroup⟩
      rcases List.mem_cons.1 hmem with rfl | hmem
      · cases hname
      · rw [hs.group?_make_of_trigger hmem] at hgroup
        exact ⟨handle, hmem, hgroup⟩

theorem new (hs : s.IsGrouped) (hpossible : s.IsPossible (.new name)) :
    (s.make (.new name)).IsGrouped := by
  refine hs.appear hpossible rfl rfl rfl ?_ nofun ?_
  · intro other hmem
    rcases List.mem_append.1 hmem with hmem | hmem
    · exact Nat.lt_succ_of_lt (hs.group_lt other hmem)
    · rw [List.mem_singleton.1 hmem]
      exact Nat.lt_succ_self _
  · intro other hmem hgroup
    obtain ⟨group, hlt, hother⟩ := hs.exists_group? hmem
    obtain rfl := Option.some.inj (hother.symm.trans hgroup)
    exact absurd (hs.group_lt _ hlt) (Nat.lt_irrefl _)

theorem clone (hs : s.IsGrouped) (hpossible : s.IsPossible (.clone handle name)) :
    (s.make (.clone handle name)).IsGrouped := by
  have hhandle := hpossible.1 handle rfl
  obtain ⟨group, hmem, hgroup⟩ := hs.exists_group? hhandle
  have hmake : (s.make (.clone handle name)).interrupts =
      { s.interrupts with groups := s.interrupts.groups ++ [group] } := apply_clone hgroup
  have hgroups : (s.make (.clone handle name)).interrupts.groups =
      s.interrupts.groups ++ [group] := by rw [hmake]
  refine hs.appear hpossible rfl hgroups ?_ ?_ ?_ ?_
  · rw [hmake]
  · intro other hother
    rw [hmake] at hother ⊢
    rcases List.mem_append.1 hother with hother | hother
    · exact hs.group_lt other hother
    · rw [List.mem_singleton.1 hother]
      exact hs.group_lt group hmem
  · intro other heq
    obtain ⟨rfl, -⟩ := Call.clone.inj heq
    exact hgroup
  · intro other hother hsame
    have hconnected := hs.isConnected _ hother _ hhandle (hsame.trans hgroup.symm)
    exact .trans _ _ _ (isConnected_make hconnected _) (.rel _ _ List.mem_cons_self)

theorem trigger (hs : s.IsGrouped) (hpossible : s.IsPossible (.trigger handle)) :
    (s.make (.trigger handle)).IsGrouped := by
  have hhandle := hpossible.1 handle rfl
  obtain ⟨group, -, hgroup⟩ := hs.exists_group? hhandle
  have hmake : (s.make (.trigger handle)).interrupts =
      { s.interrupts with raised := group :: s.interrupts.raised } := apply_trigger hgroup
  have hnames : (s.make (.trigger handle)).names = s.names := by
    rw [names_make]
    exact List.append_nil _
  refine ⟨?_, hs.handle_mem_make hpossible, ?_, ?_, ?_, ?_⟩
  · rw [hmake, hnames]
    exact hs.length_eq
  · rw [hmake]
    exact hs.group_lt
  · intro other name hmem
    rcases List.mem_cons.1 hmem with heq | hmem
    · cases heq
    · exact hs.group?_make_of_clone hmem _
  · intro name hname other hother hsame
    rw [hnames] at hname hother
    rw [hs.group?_make hname, hs.group?_make hother] at hsame
    exact isConnected_make (hs.isConnected _ hname _ hother hsame) _
  · intro other
    rw [hmake, List.mem_cons, hs.mem_raised_iff]
    constructor
    · rintro (rfl | ⟨name, hmem, hname⟩)
      · exact ⟨handle, List.mem_cons_self, (hs.group?_make hhandle _).trans hgroup⟩
      · exact ⟨name, List.mem_cons_of_mem _ hmem, (hs.group?_make_of_trigger hmem _).trans hname⟩
    · rintro ⟨name, hmem, hname⟩
      rcases List.mem_cons.1 hmem with heq | hmem
      · obtain rfl := Call.trigger.inj heq
        rw [hs.group?_make hhandle, hgroup] at hname
        exact .inl (Option.some.inj hname).symm
      · exact .inr ⟨name, hmem, (hs.group?_make_of_trigger hmem _).symm.trans hname⟩

/-- Whatever call is made, the groups go on telling which handles are connected. -/
theorem make (hs : s.IsGrouped) (hpossible : s.IsPossible call) : (s.make call).IsGrouped := by
  cases call with
  | new name => exact hs.new hpossible
  | clone handle name => exact hs.clone hpossible
  | trigger handle => exact hs.trigger hpossible

theorem reports_iff (hs : s.IsGrouped) (h : name ∈ s.names) :
    s.reports name = true ↔ ∃ handle, .trigger handle ∈ s.made ∧ s.IsConnected handle name := by
  obtain ⟨group, -, hgroup⟩ := hs.exists_group? h
  rw [reports, isTriggered_iff hgroup, hs.mem_raised_iff]
  constructor
  · rintro ⟨handle, hmem, hhandle⟩
    have hknown := hs.mem_names _ hmem handle rfl
    exact ⟨handle, hmem, hs.isConnected _ hknown _ h (hhandle.trans hgroup.symm)⟩
  · rintro ⟨handle, hmem, hconnected⟩
    exact ⟨handle, hmem, (eq_of_isConnected hs.group?_clone hconnected).trans hgroup⟩

theorem reports_make (hs : s.IsGrouped) (hpossible : s.IsPossible call) (h : name ∈ s.names)
    (htriggered : s.reports name = true) : (s.make call).reports name = true := by
  obtain ⟨handle, hmem, hconnected⟩ := (hs.reports_iff h).1 htriggered
  exact ((hs.make hpossible).reports_iff (mem_names_make h call)).2
    ⟨handle, List.mem_cons_of_mem _ hmem, isConnected_make hconnected call⟩

/-- To trigger a handle changes nothing for one that it is not connected with. -/
theorem reports_make_trigger (hs : s.IsGrouped) (hhandle : handle ∈ s.names) (h : name ∈ s.names)
    (happart : ¬ s.IsConnected handle name) :
    (s.make (.trigger handle)).reports name = s.reports name := by
  have hpossible : s.IsPossible (.trigger handle) :=
    ⟨fun _ husing => Option.some.inj husing ▸ hhandle, nofun⟩
  rw [Bool.eq_iff_iff]
  refine ⟨fun htriggered => ?_, hs.reports_make hpossible h⟩
  obtain ⟨other, hmem, hconnected⟩ :=
    ((hs.trigger hpossible).reports_iff (mem_names_make h _)).1 htriggered
  rw [isConnected_make_trigger] at hconnected
  rcases List.mem_cons.1 hmem with heq | hmem
  · obtain rfl := Call.trigger.inj heq
    exact absurd hconnected happart
  · exact (hs.reports_iff h).2 ⟨other, hmem, hconnected⟩

end IsGrouped

/-! ## Any order -/

theorem of_step {i : Nat} (h : s.step i = some t) : ∃ call rest,
    s.threads[i]? = some (call :: rest) ∧ s.IsPossible call ∧
      t = { s.make call with threads := s.threads.set i rest } := by
  unfold step at h
  split at h
  · rename_i call rest hthread
    split at h
    · exact ⟨call, rest, hthread, ‹_›, (Option.some.inj h).symm⟩
    · cases h
  · cases h

/-- What each step keeps, every sequence of steps keeps. -/
theorem run_invariant (P : Sharing ν → Prop) (hstep : ∀ s t i, P s → s.step i = some t → P t)
    {schedule : List Nat} (hs : P s) (h : s.run schedule = some t) : P t := by
  induction schedule generalizing s with
  | nil =>
    obtain rfl := Option.some.inj h
    exact hs
  | cons i schedule ih =>
    obtain ⟨u, hu, hrun⟩ := Option.bind_eq_some_iff.1 h
    exact ih (hstep s u i hs hu) hrun

theorem isGrouped_start (first : ν) (threads : List (List (Call ν))) :
    ({ first, threads } : Sharing ν).IsGrouped where
  length_eq := rfl
  mem_names := nofun
  group_lt group hmem := by
    rw [List.mem_singleton.1 hmem]
    exact Nat.zero_lt_one
  group?_clone := nofun
  isConnected name hname other hother _ := by
    rw [List.mem_singleton.1 hname, List.mem_singleton.1 hother]
    exact .refl _
  mem_raised_iff group := ⟨nofun, nofun⟩

theorem IsGrouped.step {i : Nat} (hs : s.IsGrouped) (h : s.step i = some t) : t.IsGrouped := by
  obtain ⟨call, rest, -, hpossible, rfl⟩ := of_step h
  exact { hs.make hpossible with }

/-- A handle that is triggered remains so. -/
theorem IsGrouped.reports_run {schedule : List Nat} (hs : s.IsGrouped) (hname : name ∈ s.names)
    (htriggered : s.reports name = true) (h : s.run schedule = some t) : t.reports name = true := by
  have hkept : t.IsGrouped ∧ name ∈ t.names ∧ t.reports name = true := by
    refine run_invariant (fun u => u.IsGrouped ∧ name ∈ u.names ∧ u.reports name = true) ?_
      ⟨hs, hname, htriggered⟩ h
    rintro u v i ⟨hu, hname, htriggered⟩ hstep
    refine ⟨hu.step hstep, ?_⟩
    obtain ⟨call, rest, -, hpossible, rfl⟩ := of_step hstep
    exact ⟨mem_names_make hname call, hu.reports_make hpossible hname htriggered⟩
  exact hkept.2.2

/-- What threads have done and have still to do is what they had to do. -/
theorem perm_of_run {schedule : List Nat} (h : s.run schedule = some t) :
    (t.made ++ t.threads.flatten).Perm (s.made ++ s.threads.flatten) := by
  refine run_invariant
    (fun u => (u.made ++ u.threads.flatten).Perm (s.made ++ s.threads.flatten)) ?_ (.refl _) h
  intro u v i hu hstep
  obtain ⟨call, rest, hthread, -, rfl⟩ := of_step hstep
  have htaken := (perm_flatten_set hthread).symm.append_left u.made
  exact List.perm_middle.symm.trans (htaken.trans hu)

/-- Threads share handles that they make, clone and trigger in any order. What they have done
is taken from what they had to do. A handle is triggered if some handle that clones connect it
with has been triggered, in whichever direction these lead, through however many, and before or
after; and only then. To trigger a handle leaves all alone that it is not connected with. To
trigger one that is triggered already changes nothing, whatever follows. And a triggered handle
remains triggered. -/
theorem handles_form_groups {first : ν} {threads : List (List (Call ν))} {schedule : List Nat}
    (h : ({ first, threads } : Sharing ν).run schedule = some s) :
    (s.made ++ s.threads.flatten).Perm threads.flatten ∧
    (∀ name ∈ s.names, s.reports name = true ↔
      ∃ handle, .trigger handle ∈ s.made ∧ s.IsConnected handle name) ∧
    (∀ handle ∈ s.names, ∀ name ∈ s.names, ¬ s.IsConnected handle name →
      (s.make (.trigger handle)).reports name = s.reports name) ∧
    (∀ handle, s.reports handle = true → ∀ actions : List Action,
      (actions.foldl apply (s.interrupts.apply (.trigger (s.number handle)))).states =
        (actions.foldl apply s.interrupts).states) ∧
    ∀ name ∈ s.names, s.reports name = true → ∀ later t, s.run later = some t →
      t.reports name = true := by
  have hs : s.IsGrouped :=
    run_invariant IsGrouped (fun _ _ _ hu hstep => hu.step hstep) (isGrouped_start first threads) h
  refine ⟨perm_of_run h, fun name => hs.reports_iff, ?_, ?_, ?_⟩
  · intro handle hhandle name hname happart
    exact hs.reports_make_trigger hhandle hname happart
  · intro handle htriggered actions
    exact ((sameFlags_trigger htriggered).foldl actions).states_eq
  · intro name hname htriggered later t hrun
    exact hs.reports_run hname htriggered hrun

/-- Two threads. The first one clones the handle of the copy for the scan, and triggers the
clone. The other one makes a handle of its own, and clones the first one for the writers and
their handle for a chunk. -/
def twoThreads : Sharing String where
  first := "copy"
  threads := [
    [.clone "copy" "scan", .trigger "scan"],
    [.new "other", .clone "copy" "write", .clone "write" "chunk"]]

/-- The handle for the chunk is cloned after the trigger, from one that was cloned before it,
and is triggered; the other handle is not, and is not connected with the one for the scan. -/
theorem handles_form_groups_of_two :
    ∃ s : Sharing String, twoThreads.run [1, 0, 1, 0, 1] = some s ∧ s.threads.flatten = [] ∧
      s.reports "chunk" = true ∧ s.reports "other" = false ∧
      ¬ s.IsConnected "scan" "other" := by
  obtain ⟨s, hrun, hdone, hmade, hother⟩ : ∃ s : Sharing String,
      twoThreads.run [1, 0, 1, 0, 1] = some s ∧ s.threads.flatten = [] ∧
      s.made = [.clone "write" "chunk", .trigger "scan", .clone "copy" "write",
        .clone "copy" "scan", .new "other"] ∧ s.reports "other" = false :=
    ⟨_, rfl, rfl, rfl, rfl⟩
  obtain ⟨-, hreports, -⟩ := handles_form_groups hrun
  have htrigger : .trigger "scan" ∈ s.made := by simp [hmade]
  have hscan : .clone "copy" "scan" ∈ s.made := by simp [hmade]
  have hwrite : .clone "copy" "write" ∈ s.made := by simp [hmade]
  have hchunk : .clone "write" "chunk" ∈ s.made := by simp [hmade]
  have hnew : .new "other" ∈ s.made := by simp [hmade]
  have hconnected : s.IsConnected "scan" "chunk" :=
    .trans _ "write" _ (.trans _ "copy" _ (.symm _ _ (.rel _ _ hscan)) (.rel _ _ hwrite))
      (.rel _ _ hchunk)
  refine ⟨s, hrun, hdone, ?_, hother, fun hsame => ?_⟩
  · exact (hreports "chunk" (mem_names_of_name? hchunk rfl)).2 ⟨"scan", htrigger, hconnected⟩
  · have htriggered := (hreports "other" (mem_names_of_name? hnew rfl)).2 ⟨"scan", htrigger, hsame⟩
    rw [hother] at htriggered
    cases htriggered

end Sharing
end Interrupts
end TableCopy
