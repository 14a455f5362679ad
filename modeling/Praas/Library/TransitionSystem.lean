import Mathlib.Data.List.Basic

namespace Praas
namespace Library

/-!
# Runs of an executable transition system

A transition system has one initial state and a partial step function; an
action that is not enabled has no successor.  A run is recorded with its
trace, the list of source states paired with the actions taken there, so that
a property of whole runs can speak about the state before each step and count
the steps of some kind.

An invariant is proved by one step lemma.  The guarded rule restricts the
step lemma to runs whose steps all satisfy a condition on the state before
the step, and the traced rule carries a relation between the trace and the
state reached.  The rule of payment bounds the number of steps of some kind.
-/

/-- A transition system with a single initial state and a partial step function.
What the system leaves open is part of the action, so that a state and an action
determine the next state, or that there is none. -/
structure TransitionSystem (State : Type u) (Action : Type v) where
  initial : State
  step : State -> Action -> Option State

namespace TransitionSystem

variable {State : Type u} {Action : Type v}

/-- A finite run from `origin`.  The trace has the source state and the action of
every step, the last step at its end, which is where an induction adds one. -/
inductive Run (system : TransitionSystem State Action) (origin : State) :
    List (State × Action) -> State -> Prop
  | start : Run system origin [] origin
  | extend {trace : List (State × Action)} {source target : State} {action : Action} :
      Run system origin trace source ->
      system.step source action = some target ->
      Run system origin (trace ++ [(source, action)]) target

/-- Every step of a trace is taken from a state where the guard holds.  A
condition on a run that is met step by step, by the state and the action alone,
is stated in this way. -/
def Guarded (guard : State -> Action -> Prop) (trace : List (State × Action)) : Prop :=
  forall entry, entry ∈ trace -> guard entry.1 entry.2

theorem guarded_append {guard : State -> Action -> Prop} {trace : List (State × Action)}
    {source : State} {action : Action} (guarded : Guarded guard (trace ++ [(source, action)])) :
    Guarded guard trace ∧ guard source action := by
  constructor
  · intro entry member
    exact guarded entry (List.mem_append.mpr (Or.inl member))
  · exact guarded (source, action) (List.mem_append.mpr (Or.inr (List.mem_singleton.mpr rfl)))

theorem guarded_append_iff {guard : State -> Action -> Prop} {trace : List (State × Action)}
    {source : State} {action : Action} :
    Guarded guard (trace ++ [(source, action)]) ↔ Guarded guard trace ∧ guard source action := by
  refine ⟨guarded_append, ?_⟩
  rintro ⟨earlier, last⟩ entry member
  rcases List.mem_append.mp member with old | new
  · exact earlier entry old
  · rw [List.mem_singleton.mp new]
    exact last

theorem Guarded.and {first second : State -> Action -> Prop} {trace : List (State × Action)}
    (left : Guarded first trace) (right : Guarded second trace) :
    Guarded (fun state action => first state action ∧ second state action) trace :=
  fun entry member => ⟨left entry member, right entry member⟩

theorem Guarded.mono {first second : State -> Action -> Prop} {trace : List (State × Action)}
    (guarded : Guarded first trace)
    (weaker : forall state action, first state action -> second state action) :
    Guarded second trace :=
  fun entry member => weaker _ _ (guarded entry member)

variable {system : TransitionSystem State Action} {origin : State}

/-- The traced rule: a relation between trace and state that holds at the
origin and is kept by every step holds at the end of every run. -/
theorem Run.traced_invariant (relation : List (State × Action) -> State -> Prop)
    (initially : relation [] origin)
    (preserved : forall trace source action target, Run system origin trace source ->
      relation trace source -> system.step source action = some target ->
      relation (trace ++ [(source, action)]) target)
    {trace : List (State × Action)} {final : State} (run : Run system origin trace final) :
    relation trace final := by
  induction run with
  | start => exact initially
  | extend earlier step inductionHypothesis =>
      exact preserved _ _ _ _ earlier inductionHypothesis step

/-- The guarded traced rule: the step lemma may use a condition on the state
before the step, provided that every step of the run satisfies it. -/
theorem Run.guarded_traced {guard : State -> Action -> Prop}
    (relation : List (State × Action) -> State -> Prop) (initially : relation [] origin)
    (preserved : forall trace source action target, Run system origin trace source ->
      Guarded guard trace -> relation trace source -> guard source action ->
      system.step source action = some target -> relation (trace ++ [(source, action)]) target)
    {trace : List (State × Action)} {final : State} (run : Run system origin trace final)
    (guarded : Guarded guard trace) : relation trace final := by
  induction run with
  | start => exact initially
  | extend earlier step inductionHypothesis =>
      have parts := guarded_append guarded
      exact preserved _ _ _ _ earlier parts.1 (inductionHypothesis parts.1) parts.2 step

/-- The guarded rule for a property of the state alone. -/
theorem Run.guarded_invariant {guard : State -> Action -> Prop} (invariant : State -> Prop)
    (initially : invariant origin)
    (preserved : forall source action target, invariant source -> guard source action ->
      system.step source action = some target -> invariant target)
    {trace : List (State × Action)} {final : State} (run : Run system origin trace final)
    (guarded : Guarded guard trace) : invariant final :=
  run.guarded_traced (fun _ state => invariant state) initially
    (fun _ source action target _ _ holds allowed step =>
      preserved source action target holds allowed step) guarded

/-- The plain rule: an invariant kept by every step holds in every state
reached. -/
theorem Run.invariant (invariant : State -> Prop) (initially : invariant origin)
    (preserved : forall source action target, invariant source ->
      system.step source action = some target -> invariant target)
    {trace : List (State × Action)} {final : State} (run : Run system origin trace final) :
    invariant final :=
  run.traced_invariant (fun _ state => invariant state) initially
    (fun _ source action target _ holds step => preserved source action target holds step)

/-- The number of steps of a trace that pass a test. -/
def count (test : State -> Action -> Bool) (trace : List (State × Action)) : Nat :=
  trace.countP (fun entry => test entry.1 entry.2)

theorem count_append (test : State -> Action -> Bool) (trace : List (State × Action))
    (source : State) (action : Action) :
    count test (trace ++ [(source, action)]) = count test trace + (test source action).toNat := by
  unfold count
  rw [List.countP_append, List.countP_singleton]
  cases test source action <;> rfl

/-- The rule of payment: when every step that costs takes one from a potential
and only a step that pays adds to it, at most its price, the steps that cost
are bounded by what was there and what was paid. -/
theorem Run.paid (costs pays : State -> Action -> Bool) (price : Nat) (potential : State -> Nat)
    (preserved : forall trace source action target, Run system origin trace source ->
      system.step source action = some target ->
      (costs source action).toNat + potential target ≤
        potential source + price * (pays source action).toNat)
    {trace : List (State × Action)} {final : State} (run : Run system origin trace final) :
    count costs trace + potential final ≤ potential origin + price * count pays trace := by
  apply run.traced_invariant (fun trace state =>
    count costs trace + potential state ≤ potential origin + price * count pays trace)
  · exact Nat.le_of_eq (Nat.zero_add _)
  · intro trace source action target earlier bounded stepped
    have step := preserved trace source action target earlier stepped
    rw [count_append, count_append, Nat.mul_add]
    omega

/-- Follow a list of actions, recording the trace; `none` when some action
is not enabled. -/
def follow (system : TransitionSystem State Action) :
    State -> List Action -> Option (List (State × Action) × State)
  | state, [] => some ([], state)
  | state, action :: rest =>
      match system.step state action with
      | none => none
      | some next => (follow system next rest).map
          (fun result => ((state, action) :: result.1, result.2))

theorem Run.prepend {trace : List (State × Action)} {source target final : State}
    {action : Action} (step : system.step source action = some target)
    (run : Run system target trace final) :
    Run system source ((source, action) :: trace) final := by
  induction run with
  | start => exact Run.extend Run.start step
  | extend _ later inductionHypothesis => exact Run.extend inductionHypothesis later

/-- Some run leads from one state to the other.  A property of all states to which
one leads is a property of its future. -/
def Leads (system : TransitionSystem State Action) (origin final : State) : Prop :=
  Exists fun trace => Run system origin trace final

theorem Leads.refl (state : State) : Leads system state state := ⟨[], .start⟩

theorem Leads.step {source target final : State} {action : Action}
    (stepped : system.step source action = some target) (later : Leads system target final) :
    Leads system source final := by
  rcases later with ⟨trace, run⟩
  exact ⟨_, run.prepend stepped⟩

theorem Leads.trans {source middle final : State} (first : Leads system source middle)
    (later : Leads system middle final) : Leads system source final := by
  rcases first with ⟨trace, run⟩
  induction run with
  | start => exact later
  | extend _ stepped inductionHypothesis => exact inductionHypothesis (later.step stepped)

/-- The rule of descent.  When every state that keeps an invariant and has not
reached the goal has an allowed step to one that keeps it with a smaller measure,
every such state reaches the goal by allowed steps. -/
theorem descend {guard : State -> Action -> Prop} (invariant goal : State -> Prop)
    (measure : State -> Nat)
    (closer : forall state, invariant state -> ¬ goal state ->
      Exists fun action => Exists fun next => guard state action ∧
        system.step state action = some next ∧ invariant next ∧ measure next < measure state)
    {state : State} (holds : invariant state) :
    Exists fun trace => Exists fun reached =>
      Run system state trace reached ∧ Guarded guard trace ∧ goal reached := by
  induction size : measure state using Nat.strongRecOn generalizing state with
  | ind bound inductionHypothesis =>
      by_cases done : goal state
      · exact ⟨[], state, .start, fun _ member => False.elim (List.not_mem_nil member), done⟩
      · rcases closer state holds done with ⟨action, next, allowed, stepped, kept, smaller⟩
        rcases inductionHypothesis _ (size ▸ smaller) kept rfl with
          ⟨trace, reached, run, guarded, final⟩
        exact ⟨(state, action) :: trace, reached, run.prepend stepped,
          List.forall_mem_cons.mpr ⟨allowed, guarded⟩, final⟩

theorem run_of_follow {actions : List Action} {state final : State}
    {trace : List (State × Action)}
    (followed : follow system state actions = some (trace, final)) :
    Run system state trace final := by
  induction actions generalizing state trace with
  | nil =>
      cases followed
      exact Run.start
  | cons action rest inductionHypothesis =>
      rw [follow] at followed
      cases stepped : system.step state action with
      | none => simp only [stepped, reduceCtorEq] at followed
      | some next =>
          simp only [stepped, Option.map_eq_some_iff, Prod.mk.injEq] at followed
          rcases followed with ⟨⟨tail, reached⟩, found, rfl, rfl⟩
          exact (inductionHypothesis found).prepend stepped

/-- A list of actions that can be followed, with a test of the trace and of
the state reached, gives a run that passes the test. -/
theorem exists_run (system : TransitionSystem State Action) (origin : State)
    (actions : List Action) (test : List (State × Action) -> State -> Bool)
    (passed : (follow system origin actions).any (fun result => test result.1 result.2) = true) :
    Exists fun trace => Exists fun final =>
      Run system origin trace final ∧ test trace final = true := by
  rcases Option.any_eq_true _ _ |>.mp passed with ⟨⟨trace, final⟩, followed, tested⟩
  exact ⟨trace, final, run_of_follow followed, tested⟩

theorem guarded_of_all {guard : State -> Action -> Bool} {trace : List (State × Action)}
    (tested : trace.all (fun entry => guard entry.1 entry.2) = true) :
    Guarded (fun state action => guard state action = true) trace :=
  List.all_eq_true.mp tested

end TransitionSystem
end Library
end Praas
