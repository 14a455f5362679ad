import Mathlib.Logic.Function.Basic
import Praas.Library.TransitionSystem

namespace Praas
namespace LocalWorker

open Library

/-!
# The shutdown of a local worker

The main thread of a local worker runs `Server::start`, and the handler of
SIGINT runs `Server::shutdown` between any two statements of it.  The shutdown
goes over the slots, and joins the thread of every slot that holds a `Process`.

`Process::create` constructs the `Process` in its slot first, and then enables
swapping and connects, which can take long and can fail.  The thread of the
slot is stored only after it has returned.  A signal in between finds a slot
with a `Process` and a null thread.

The state has the statement that `Server::start` executes next.  An action is
that statement, with its outcome where it has one, or the signal.
-/

namespace Shutdown

/-- What the server looks at of a `Process`. -/
structure Process where
  ending : Bool

/-- A thread that `_threads` points to. -/
structure Thread where
  joinable : Bool

structure Options where
  processes : Nat
  enableSwapping : Bool

/-- The next statement of `Server::start` or, from `emplacing` to `failing`, of
`Process::create`. -/
inductive Point
  -- the condition of the loop
  | loop
  | accepting
  -- the test of `_ending` after `accept`
  | accepted
  | reading
  -- the answer to a packet of a wrong size
  | refusing
  | searching
  | emplacing (slot : Nat)
  | swapping (slot : Nat)
  | connecting (slot : Nat)
  -- the `dest.reset()` after a failure
  | failing (slot : Nat)
  -- the test of the slot after `Process::create` has connected, or has failed
  | returned (slot : Nat) (connected : Bool)
  -- the creation of the thread
  | starting (slot : Nat)
  -- the write of `ret`
  | replying (ret : Int)
  | finished
  deriving DecidableEq

/-- The server.  `exhausted` is only recorded: whether every slot held a
`Process` when the last request was looked at.  `fault` is set when a shutdown
joins a null thread, or one that was joined before. -/
structure State where
  point : Point
  processes : Nat -> Option Process
  threads : Nat -> Option Thread
  ending : Bool
  exhausted : Bool
  fault : Bool

/-- The three outcomes of the read. -/
inductive Received
  | ended
  | incorrect
  | whole

inductive Action
  | next
  | read (received : Received)
  | enableSwapping (enabled : Bool)
  | connect (connected : Bool)
  | interrupt

/-- The search of `std::find_if`. -/
def firstFree (options : Options) (state : State) : Option Nat :=
  (List.range options.processes).find? (fun slot => (state.processes slot).isNone)

/-- Every slot holds a `Process`. -/
def allHeld (options : Options) (state : State) : Bool :=
  (List.range options.processes).all (fun slot => (state.processes slot).isSome)

/-- The point after the search. -/
def searched : Option Nat -> Point
  | none => .replying 1
  | some slot => .emplacing slot

/-- The statements of `Server::start` and `Process::create` with one
outcome. -/
def nextStatement (options : Options) (state : State) : Option State :=
  match state.point with
  | .loop => some { state with point := if state.ending then .finished else .accepting }
  | .accepting => some { state with point := .accepted }
  | .accepted => some { state with point := if state.ending then .finished else .reading }
  | .refusing => some { state with point := .loop }
  | .searching =>
      some { state with
        point := searched (firstFree options state)
        exhausted := allHeld options state }
  | .emplacing slot =>
      some { state with
        point := .swapping slot
        processes := Function.update state.processes slot (some ⟨false⟩) }
  | .failing slot =>
      some { state with
        point := .returned slot false
        processes := Function.update state.processes slot none }
  | .returned slot _ =>
      some { state with
        point := if (state.processes slot).isSome then .starting slot else .replying 2 }
  | .starting slot =>
      some { state with
        point := .replying 0
        threads := Function.update state.threads slot (some ⟨true⟩) }
  | .replying _ => some { state with point := .loop }
  | .reading => none
  | .swapping _ => none
  | .connecting _ => none
  | .finished => none

def Received.point : Received -> Point
  | .ended => .loop
  | .incorrect => .refusing
  | .whole => .searching

def advance (options : Options) (state : State) : Action -> Option State
  | .next => nextStatement options state
  | .read received =>
      if state.point = .reading then some { state with point := received.point } else none
  | .enableSwapping enabled =>
      match state.point with
      | .swapping slot =>
          -- without the option the call is not made
          some { state with
            point := if options.enableSwapping && !enabled then .failing slot else .connecting slot }
      | _ => none
  | .connect connected =>
      match state.point with
      | .connecting slot =>
          some { state with point := if connected then .returned slot true else .failing slot }
      | _ => none
  | .interrupt => none

/-- The body of the loop of `Server::shutdown`: `shutdown` of the `Process`,
and `join` of its thread. -/
def shutdownSlot (state : State) (slot : Nat) : State :=
  if state.fault then state
  else match state.processes slot with
    | none => state
    | some _ =>
        let closed := { state with
          processes := Function.update state.processes slot (some ⟨true⟩) }
        match state.threads slot with
        | none => { closed with fault := true }
        | some thread =>
            { closed with
              threads := Function.update state.threads slot (some ⟨false⟩)
              fault := !thread.joinable }

def shutdown (options : Options) (state : State) : State :=
  (List.range options.processes).foldl shutdownSlot { state with ending := true }

def step (options : Options) (state : State) (action : Action) : Option State :=
  if state.fault then none
  else match action with
    | .interrupt => some (shutdown options state)
    | action => advance options state action

def system (options : Options) : TransitionSystem State Action where
  initial := ⟨.loop, fun _ => none, fun _ => none, false, false, false⟩
  step := step options

/-! ## What a shutdown relies on -/

/-- A signal at this statement finds a thread for every `Process`; between
requests the threads are exactly those of the slots that hold a `Process`; and
a request is answered with 1 exactly when all slots held one. -/
structure ShutdownSafe (options : Options) (state : State) : Prop where
  joinable : forall slot, slot < options.processes -> (state.processes slot).isSome = true ->
    (state.threads slot).isSome = true
  paired : state.point = .loop -> forall slot, slot < options.processes ->
    ((state.processes slot).isSome = true ↔ (state.threads slot).isSome = true)
  answered : forall ret, state.point = .replying ret -> (ret = 1 ↔ state.exhausted = true)

/-- The slot that `Process::create` has filled, from the construction of the
`Process` to its destruction or to the creation of its thread. -/
def Point.unattended : Point -> Option Nat
  | .swapping slot => some slot
  | .connecting slot => some slot
  | .failing slot => some slot
  | .returned slot true => some slot
  | .starting slot => some slot
  | _ => none

/-- The slot that the current request was given. -/
def Point.chosen : Point -> Option Nat
  | .emplacing slot => some slot
  | .returned slot false => some slot
  | point => point.unattended

/-- The pairing of slots and threads at every statement: a slot that holds a
process has a thread, except between the two statements that fill them. -/
structure Consistent (options : Options) (state : State) : Prop where
  paired : forall slot, state.point.unattended ≠ some slot ->
    (state.processes slot).isSome = (state.threads slot).isSome
  unattended : forall slot, state.point.unattended = some slot ->
    (state.processes slot).isSome = true ∧ (state.threads slot).isSome = false
  free : forall slot, state.point.chosen = some slot -> state.point.unattended = none ->
    (state.processes slot).isSome = false
  inside : forall slot, state.point.chosen = some slot -> slot < options.processes
  spared : forall slot, state.point.chosen = some slot -> state.exhausted = false
  answered : forall ret, state.point = .replying ret -> (ret = 1 ↔ state.exhausted = true)

/-! ## One step -/

/-- The states differ at most in what a shutdown changes. -/
structure SameSlots (source target : State) : Prop where
  point : target.point = source.point
  exhausted : target.exhausted = source.exhausted
  processes : forall slot, (target.processes slot).isSome = (source.processes slot).isSome
  threads : forall slot, (target.threads slot).isSome = (source.threads slot).isSome

theorem isSome_update {Value : Type} (table : Nat -> Option Value) (slot : Nat) (value : Value)
    (held : (table slot).isSome = true) (other : Nat) :
    (Function.update table slot (some value) other).isSome = (table other).isSome := by
  by_cases same : other = slot
  · rw [same, Function.update_self, held, Option.isSome_some]
  · rw [Function.update_of_ne same]

theorem sameSlots_shutdownSlot (state : State) (slot : Nat) :
    SameSlots state (shutdownSlot state slot) := by
  unfold shutdownSlot
  split
  · exact ⟨rfl, rfl, fun _ => rfl, fun _ => rfl⟩
  · split
    · exact ⟨rfl, rfl, fun _ => rfl, fun _ => rfl⟩
    · next process found =>
      have held : (state.processes slot).isSome = true := by rw [found, Option.isSome_some]
      split
      · exact ⟨rfl, rfl, isSome_update _ _ _ held, fun _ => rfl⟩
      · next thread started =>
        have present : (state.threads slot).isSome = true := by rw [started, Option.isSome_some]
        exact ⟨rfl, rfl, isSome_update _ _ _ held, isSome_update _ _ _ present⟩

theorem sameSlots_shutdown (options : Options) (state : State) :
    SameSlots state (shutdown options state) := by
  unfold shutdown
  suffices kept : forall (slots : List Nat) (source : State),
      SameSlots source (slots.foldl shutdownSlot source) by
    have after := kept (List.range options.processes) { state with ending := true }
    exact ⟨after.point, after.exhausted, after.processes, after.threads⟩
  intro slots
  induction slots with
  | nil =>
      intro source
      exact ⟨rfl, rfl, fun _ => rfl, fun _ => rfl⟩
  | cons slot rest inductionHypothesis =>
      intro source
      have one := sameSlots_shutdownSlot source slot
      have others := inductionHypothesis (shutdownSlot source slot)
      refine ⟨others.point.trans one.point, others.exhausted.trans one.exhausted, ?_, ?_⟩
      · intro other
        exact (others.processes other).trans (one.processes other)
      · intro other
        exact (others.threads other).trans (one.threads other)

theorem Consistent.congr {options : Options} {source target : State}
    (consistent : Consistent options source) (same : SameSlots source target) :
    Consistent options target := by
  rcases consistent with ⟨paired, unattended, free, inside, spared, answered⟩
  rw [← same.point] at paired unattended free inside spared answered
  rw [← same.exhausted] at spared answered
  refine ⟨?_, ?_, ?_, inside, spared, answered⟩
  · intro slot other
    rw [same.processes, same.threads]
    exact paired slot other
  · intro slot chosen
    rw [same.processes, same.threads]
    exact unattended slot chosen
  · intro slot chosen attended
    rw [same.processes]
    exact free slot chosen attended

section Step

variable {options : Options} {state : State}

theorem unattended_of_chosen {point : Point} (unchosen : point.chosen = none) :
    point.unattended = none := by
  cases point with
  | emplacing slot => cases unchosen
  | returned slot connected => cases connected <;> cases unchosen
  | _ => exact unchosen

theorem chosen_of_unattended {point : Point} {slot : Nat} (holding : point.unattended = some slot) :
    point.chosen = some slot := by
  cases point with
  | emplacing other => cases holding
  | returned other connected =>
      cases connected with
      | true => exact holding
      | false => cases holding
  | _ => exact holding

/-- While no slot is without its thread, all slots are paired. -/
theorem Consistent.allPaired (consistent : Consistent options state)
    (attended : state.point.unattended = none) (slot : Nat) :
    (state.processes slot).isSome = (state.threads slot).isSome := by
  apply consistent.paired
  intro chosen
  cases attended.symm.trans chosen

/-- Between the handling of two slots, the slots have to be paired and the
answer has to be right. -/
theorem consistent_of_unchosen (unchosen : state.point.chosen = none)
    (paired : forall slot, (state.processes slot).isSome = (state.threads slot).isSome)
    (answered : forall ret, state.point = .replying ret -> (ret = 1 ↔ state.exhausted = true)) :
    Consistent options state where
  paired := fun slot _ => paired slot
  unattended := by
    intro slot chosen
    cases (unattended_of_chosen unchosen).symm.trans chosen
  free := by
    intro slot chosen _
    cases unchosen.symm.trans chosen
  inside := by
    intro slot chosen
    cases unchosen.symm.trans chosen
  spared := by
    intro slot chosen
    cases unchosen.symm.trans chosen
  answered := answered

theorem Consistent.pass (consistent : Consistent options state) {point : Point}
    (attended : state.point.unattended = none) (unchosen : point.chosen = none)
    (silent : forall ret, point ≠ .replying ret) :
    Consistent options { state with point := point } := by
  apply consistent_of_unchosen unchosen
  · exact consistent.allPaired attended
  · intro ret replying
    exact False.elim (silent ret replying)

/-- A statement between the construction of a `Process` and the creation of
its thread that changes the point only. -/
theorem Consistent.hold (consistent : Consistent options state) {point : Point} {slot : Nat}
    (holding : state.point.unattended = some slot) (chosen : state.point.chosen = some slot)
    (still : point.unattended = some slot) (given : point.chosen = some slot) :
    Consistent options { state with point := point } where
  paired := by
    intro other different
    apply consistent.paired
    rw [holding, ← still]
    exact different
  unattended := by
    intro other same
    apply consistent.unattended
    rw [holding, ← still]
    exact same
  free := by
    intro other _ attended
    cases still.symm.trans attended
  inside := by
    intro other same
    apply consistent.inside
    rw [chosen, ← given]
    exact same
  spared := by
    intro other _
    exact consistent.spared slot chosen
  answered := by
    intro ret replying
    have point_eq : point = .replying ret := replying
    rw [point_eq] at still
    cases still

theorem firstFree_some {slot : Nat} (found : firstFree options state = some slot) :
    slot < options.processes ∧ (state.processes slot).isSome = false ∧
      allHeld options state = false := by
  have inside := List.mem_of_find?_eq_some found
  have empty := List.find?_some found
  have free : (state.processes slot).isSome = false := Option.isSome_eq_false_iff.mpr empty
  refine ⟨List.mem_range.mp inside, free, ?_⟩
  apply Bool.eq_false_iff.mpr
  intro all
  have held := List.all_eq_true.mp all slot inside
  rw [free] at held
  cases held

theorem firstFree_none (missing : firstFree options state = none) :
    allHeld options state = true := by
  apply List.all_eq_true.mpr
  intro slot inside
  have taken := List.find?_eq_none.mp missing slot inside
  exact Option.isSome_iff_ne_none.mpr (fun empty => taken (Option.isNone_iff_eq_none.mpr empty))

theorem consistent_search (consistent : Consistent options state)
    (here : state.point = .searching) :
    Consistent options { state with
      point := searched (firstFree options state)
      exhausted := allHeld options state } := by
  have paired := consistent.allPaired (by rw [here]; rfl)
  cases found : firstFree options state with
  | none =>
      refine consistent_of_unchosen rfl paired ?_
      intro ret replying
      cases replying
      exact ⟨fun _ => firstFree_none found, fun _ => rfl⟩
  | some slot =>
      have free := firstFree_some found
      refine ⟨fun slot _ => paired slot, ?_, ?_, ?_, ?_, ?_⟩
      · intro other impossible
        cases impossible
      · intro other chosen _
        cases chosen
        exact free.2.1
      · intro other chosen
        cases chosen
        exact free.1
      · intro other chosen
        exact free.2.2
      · intro ret impossible
        cases impossible

theorem consistent_emplace (consistent : Consistent options state) {slot : Nat}
    (here : state.point = .emplacing slot) :
    Consistent options { state with
      point := .swapping slot
      processes := Function.update state.processes slot (some ⟨false⟩) } := by
  have paired := consistent.allPaired (by rw [here]; rfl)
  rcases consistent with ⟨-, -, free, inside, spared, -⟩
  rw [here] at free inside spared
  refine ⟨?_, ?_, ?_, inside, spared, ?_⟩
  · intro other different
    have apart : other ≠ slot := fun same => different (congrArg some same.symm)
    dsimp only
    rw [Function.update_of_ne apart]
    exact paired other
  · intro other same
    cases same
    dsimp only
    rw [Function.update_self, ← paired slot]
    exact ⟨rfl, free slot rfl rfl⟩
  · intro other _ impossible
    cases impossible
  · intro ret impossible
    cases impossible

theorem consistent_reset (consistent : Consistent options state) {slot : Nat}
    (here : state.point = .failing slot) :
    Consistent options { state with
      point := .returned slot false
      processes := Function.update state.processes slot none } := by
  rcases consistent with ⟨paired, unattended, -, inside, spared, -⟩
  rw [here] at paired unattended inside spared
  refine ⟨?_, ?_, ?_, inside, spared, ?_⟩
  · intro other _
    dsimp only
    by_cases same : other = slot
    · rw [same, Function.update_self, (unattended slot rfl).2, Option.isSome_none]
    · rw [Function.update_of_ne same]
      apply paired
      intro equal
      exact same (Option.some.inj equal).symm
  · intro other impossible
    cases impossible
  · intro other same _
    cases same
    dsimp only
    rw [Function.update_self, Option.isSome_none]
  · intro ret impossible
    cases impossible

/-- The answer to a request that was given a slot is not 1. -/
theorem consistent_reply (consistent : Consistent options state) {slot : Nat} {ret : Int}
    (chosen : state.point.chosen = some slot) (other : ret ≠ 1) {threads : Nat -> Option Thread}
    (paired : forall slot, (state.processes slot).isSome = (threads slot).isSome) :
    Consistent options { state with point := .replying ret, threads := threads } := by
  refine consistent_of_unchosen rfl paired ?_
  intro answer replying
  cases replying
  have spared : state.exhausted = false := consistent.spared slot chosen
  dsimp only
  rw [spared]
  exact ⟨fun one => False.elim (other one), Bool.noConfusion⟩

theorem consistent_returned (consistent : Consistent options state) {slot : Nat} {connected : Bool}
    (here : state.point = .returned slot connected) :
    Consistent options { state with
      point := if (state.processes slot).isSome then .starting slot else .replying 2 } := by
  cases connected with
  | true =>
      have held : (state.processes slot).isSome = true :=
        (consistent.unattended slot (by rw [here]; rfl)).1
      rw [if_pos held]
      exact consistent.hold (by rw [here]; rfl) (by rw [here]; rfl) rfl rfl
  | false =>
      have empty : (state.processes slot).isSome = false :=
        consistent.free slot (by rw [here]; rfl) (by rw [here]; rfl)
      have chosen : state.point.chosen = some slot := by rw [here]; rfl
      rw [if_neg (by rw [empty]; exact Bool.noConfusion)]
      apply consistent_reply consistent chosen (by decide)
      exact consistent.allPaired (by rw [here]; rfl)

theorem consistent_start (consistent : Consistent options state) {slot : Nat}
    (here : state.point = .starting slot) :
    Consistent options { state with
      point := .replying 0
      threads := Function.update state.threads slot (some ⟨true⟩) } := by
  have chosen : state.point.chosen = some slot := by rw [here]; rfl
  apply consistent_reply consistent chosen (by decide)
  intro other
  by_cases same : other = slot
  · rw [same, Function.update_self, Option.isSome_some]
    exact (consistent.unattended slot (by rw [here]; rfl)).1
  · rw [Function.update_of_ne same]
    apply consistent.paired
    rw [here]
    intro equal
    exact same (Option.some.inj equal).symm

theorem consistent_nextStatement (consistent : Consistent options state) {target : State}
    (advanced : nextStatement options state = some target) : Consistent options target := by
  unfold nextStatement at advanced
  cases here : state.point with
  | loop =>
      simp only [here] at advanced
      cases advanced
      apply consistent.pass (by rw [here]; rfl)
      · cases state.ending <;> rfl
      · intro ret
        cases state.ending <;> exact Point.noConfusion
  | accepting =>
      simp only [here] at advanced
      cases advanced
      exact consistent.pass (by rw [here]; rfl) rfl (fun _ => Point.noConfusion)
  | accepted =>
      simp only [here] at advanced
      cases advanced
      apply consistent.pass (by rw [here]; rfl)
      · cases state.ending <;> rfl
      · intro ret
        cases state.ending <;> exact Point.noConfusion
  | refusing =>
      simp only [here] at advanced
      cases advanced
      exact consistent.pass (by rw [here]; rfl) rfl (fun _ => Point.noConfusion)
  | searching =>
      simp only [here] at advanced
      cases advanced
      exact consistent_search consistent here
  | emplacing slot =>
      simp only [here] at advanced
      cases advanced
      exact consistent_emplace consistent here
  | failing slot =>
      simp only [here] at advanced
      cases advanced
      exact consistent_reset consistent here
  | returned slot connected =>
      simp only [here] at advanced
      cases advanced
      exact consistent_returned consistent here
  | starting slot =>
      simp only [here] at advanced
      cases advanced
      exact consistent_start consistent here
  | replying ret =>
      simp only [here] at advanced
      cases advanced
      exact consistent.pass (by rw [here]; rfl) rfl (fun _ => Point.noConfusion)
  | reading => simp only [here, reduceCtorEq] at advanced
  | swapping slot => simp only [here, reduceCtorEq] at advanced
  | connecting slot => simp only [here, reduceCtorEq] at advanced
  | finished => simp only [here, reduceCtorEq] at advanced

theorem consistent_advance (consistent : Consistent options state) {action : Action}
    {target : State} (advanced : advance options state action = some target) :
    Consistent options target := by
  unfold advance at advanced
  cases action with
  | next => exact consistent_nextStatement consistent advanced
  | read received =>
      dsimp only at advanced
      split at advanced
      · next here =>
        cases advanced
        apply consistent.pass (by rw [here]; rfl)
        · cases received <;> rfl
        · intro ret
          cases received <;> exact Point.noConfusion
      · cases advanced
  | enableSwapping enabled =>
      dsimp only at advanced
      cases here : state.point with
      | swapping slot =>
          have holding : state.point.unattended = some slot := by rw [here]; rfl
          have chosen : state.point.chosen = some slot := by rw [here]; rfl
          simp only [here] at advanced
          cases advanced
          apply consistent.hold holding chosen
          · split <;> rfl
          · split <;> rfl
      | _ => simp only [here, reduceCtorEq] at advanced
  | connect connected =>
      dsimp only at advanced
      cases here : state.point with
      | connecting slot =>
          have holding : state.point.unattended = some slot := by rw [here]; rfl
          have chosen : state.point.chosen = some slot := by rw [here]; rfl
          simp only [here] at advanced
          cases advanced
          apply consistent.hold holding chosen
          · cases connected <;> rfl
          · cases connected <;> rfl
      | _ => simp only [here, reduceCtorEq] at advanced
  | interrupt => cases advanced

theorem consistent_step {source target : State} {action : Action}
    (consistent : Consistent options source)
    (stepped : (system options).step source action = some target) :
    Consistent options target := by
  change step options source action = some target at stepped
  unfold step at stepped
  split at stepped
  · cases stepped
  · cases action with
    | interrupt =>
        cases stepped
        exact consistent.congr (sameSlots_shutdown options source)
    | _ => exact consistent_advance consistent stepped

end Step

/-! ## Whole runs -/

theorem consistent_of_run {options : Options} {trace : List (State × Action)} {final : State}
    (run : TransitionSystem.Run (system options) (system options).initial trace final) :
    Consistent options final := by
  apply run.invariant (Consistent options)
  · apply consistent_of_unchosen rfl
    · intro slot
      rfl
    · intro ret impossible
      cases impossible
  · intro source action target consistent stepped
    exact consistent_step consistent stepped

/-- A statement that a run has reached is safe for a shutdown exactly when it
is not one between the construction of a `Process` and the creation of its
thread, or its destruction. -/
theorem shutdown_safe_iff {options : Options} {trace : List (State × Action)} {final : State}
    (run : TransitionSystem.Run (system options) (system options).initial trace final) :
    ShutdownSafe options final ↔ final.point.unattended = none := by
  have consistent := consistent_of_run run
  constructor
  · intro safe
    cases holding : final.point.unattended with
    | none => rfl
    | some slot =>
        have alone := consistent.unattended slot holding
        have inside := consistent.inside slot (chosen_of_unattended holding)
        have joined := safe.joinable slot inside alone.1
        rw [alone.2] at joined
        cases joined
  · intro attended
    refine ⟨?_, ?_, consistent.answered⟩
    · intro slot _ held
      rw [← consistent.allPaired attended slot]
      exact held
    · intro _ slot _
      rw [consistent.allPaired attended slot]

/-! ## The first shutdown

A first signal runs `Server::shutdown` without a fault exactly at the
statements that are safe.  A second one joins threads that are joined already.
-/

/-- A slot that a shutdown can close: it is empty, or it holds a process with a
thread that can be joined. -/
def Closable (state : State) (slot : Nat) : Prop :=
  (state.processes slot).isSome = true ->
    Exists fun thread => state.threads slot = some thread ∧ thread.joinable = true

theorem closable_shutdownSlot {state : State} {slot other : Nat} (different : other ≠ slot) :
    Closable (shutdownSlot state slot) other ↔ Closable state other := by
  unfold Closable shutdownSlot
  split
  · rfl
  · split
    · rfl
    · split
      · dsimp only
        rw [Function.update_of_ne different]
      · dsimp only
        rw [Function.update_of_ne different, Function.update_of_ne different]

theorem fault_shutdownSlot {state : State} (running : state.fault = false) (slot : Nat) :
    (shutdownSlot state slot).fault = false ↔ Closable state slot := by
  unfold Closable shutdownSlot
  rw [running, if_neg Bool.noConfusion]
  cases held : state.processes slot with
  | none => exact ⟨fun _ impossible => Bool.noConfusion impossible, fun _ => running⟩
  | some process =>
      cases started : state.threads slot with
      | none =>
          constructor
          · intro impossible
            cases impossible
          · intro closable
            rcases closable rfl with ⟨thread, impossible, -⟩
            cases impossible
      | some thread =>
          constructor
          · intro joined
            exact fun _ => ⟨thread, rfl, by simpa using joined⟩
          · intro closable
            rcases closable rfl with ⟨same, equal, joinable⟩
            cases equal
            simpa using joinable

theorem fault_foldl {state : State} (faulted : state.fault = true) (slots : List Nat) :
    (slots.foldl shutdownSlot state).fault = true := by
  induction slots with
  | nil => exact faulted
  | cons slot rest inductionHypothesis =>
      have kept : shutdownSlot state slot = state := by
        unfold shutdownSlot
        rw [if_pos faulted]
      rw [List.foldl_cons, kept]
      exact inductionHypothesis

theorem fault_shutdown_iff {slots : List Nat} (distinct : slots.Nodup) {state : State}
    (running : state.fault = false) :
    (slots.foldl shutdownSlot state).fault = false ↔
      forall slot, slot ∈ slots -> Closable state slot := by
  induction slots generalizing state with
  | nil => exact ⟨fun _ slot impossible => absurd impossible List.not_mem_nil, fun _ => running⟩
  | cons slot rest inductionHypothesis =>
      have parts := List.nodup_cons.mp distinct
      have others : forall other, other ∈ rest ->
          (Closable (shutdownSlot state slot) other ↔ Closable state other) := by
        intro other member
        apply closable_shutdownSlot
        intro same
        exact parts.1 (same ▸ member)
      rw [List.foldl_cons, List.forall_mem_cons, ← fault_shutdownSlot running slot]
      cases faulted : (shutdownSlot state slot).fault with
      | true =>
          rw [fault_foldl faulted]
          exact ⟨Bool.noConfusion, fun impossible => Bool.noConfusion impossible.1⟩
      | false =>
          rw [inductionHypothesis parts.2 faulted]
          constructor
          · intro closable
            exact ⟨rfl, fun other member => (others other member).mp (closable other member)⟩
          · intro closable other member
            exact (others other member).mpr (closable.2 other member)

/-- What a statement leaves alone. -/
structure Statement (source target : State) : Prop where
  ending : target.ending = source.ending
  fault : target.fault = source.fault
  threads : target.threads = source.threads ∨
    Exists fun slot => target.threads = Function.update source.threads slot (some ⟨true⟩)

theorem statement_advance {options : Options} {state target : State} {action : Action}
    (advanced : advance options state action = some target) : Statement state target := by
  cases action with
  | next =>
      change nextStatement options state = some target at advanced
      unfold nextStatement at advanced
      cases here : state.point with
      | starting slot =>
          rw [here] at advanced
          cases advanced
          exact ⟨rfl, rfl, Or.inr ⟨slot, rfl⟩⟩
      | _ =>
          rw [here] at advanced
          cases advanced <;> exact ⟨rfl, rfl, Or.inl rfl⟩
  | read received =>
      change (if _ then _ else _) = some target at advanced
      split at advanced <;> cases advanced
      exact ⟨rfl, rfl, Or.inl rfl⟩
  | enableSwapping enabled =>
      simp only [advance] at advanced
      split at advanced <;> cases advanced
      exact ⟨rfl, rfl, Or.inl rfl⟩
  | connect connected =>
      simp only [advance] at advanced
      split at advanced <;> cases advanced
      exact ⟨rfl, rfl, Or.inl rfl⟩
  | interrupt => cases advanced

theorem ending_shutdown (options : Options) (state : State) :
    (shutdown options state).ending = true := by
  suffices kept : forall (slots : List Nat) (source : State), source.ending = true ->
      (slots.foldl shutdownSlot source).ending = true by
    exact kept _ _ rfl
  intro slots
  induction slots with
  | nil =>
      intro source ending
      exact ending
  | cons slot rest inductionHypothesis =>
      intro source ending
      apply inductionHypothesis
      unfold shutdownSlot
      split
      · exact ending
      · split
        · exact ending
        · split <;> exact ending

/-- Before a first shutdown no thread has been joined. -/
def Unjoined (state : State) : Prop :=
  state.ending = false -> state.fault = false ∧
    forall slot thread, state.threads slot = some thread -> thread.joinable = true

theorem unjoined_of_run {options : Options} {trace : List (State × Action)} {final : State}
    (run : TransitionSystem.Run (system options) (system options).initial trace final) :
    Unjoined final := by
  apply run.invariant Unjoined
  · intro _
    refine ⟨rfl, ?_⟩
    intro slot thread impossible
    cases impossible
  · intro source action target unjoined stepped early
    change step options source action = some target at stepped
    unfold step at stepped
    split at stepped
    · cases stepped
    · cases action with
      | interrupt =>
          cases stepped
          rw [ending_shutdown] at early
          cases early
      | _ =>
          have statement := statement_advance stepped
          have before := unjoined (statement.ending ▸ early)
          refine ⟨statement.fault.trans before.1, ?_⟩
          intro slot thread found
          rcases statement.threads with same | ⟨created, updated⟩
          · rw [same] at found
            exact before.2 slot thread found
          · rw [updated] at found
            by_cases own : slot = created
            · rw [own, Function.update_self] at found
              cases found
              rfl
            · rw [Function.update_of_ne own] at found
              exact before.2 slot thread found

/-- A first shutdown joins a null thread exactly when the signal arrives
between the construction of a `Process` and the creation of its thread, or its
destruction. -/
theorem first_shutdown_iff {options : Options} {trace : List (State × Action)} {final : State}
    (run : TransitionSystem.Run (system options) (system options).initial trace final)
    (first : final.ending = false) :
    (shutdown options final).fault = false ↔ final.point.unattended = none := by
  have consistent := consistent_of_run run
  have unjoined := unjoined_of_run run first
  have running : ({ final with ending := true } : State).fault = false := unjoined.1
  unfold shutdown
  rw [fault_shutdown_iff List.nodup_range running]
  constructor
  · intro closable
    cases holding : final.point.unattended with
    | none => rfl
    | some slot =>
        have alone := consistent.unattended slot holding
        have inside := consistent.inside slot (chosen_of_unattended holding)
        rcases closable slot (List.mem_range.mpr inside) alone.1 with ⟨thread, found, -⟩
        have null := alone.2
        have present : final.threads slot = some thread := found
        rw [present] at null
        cases null
  · intro attended slot _ held
    have present : (final.threads slot).isSome = true := by
      rw [← consistent.allPaired attended slot]
      exact held
    rcases Option.isSome_iff_exists.mp present with ⟨thread, found⟩
    exact ⟨thread, found, unjoined.2 slot thread found⟩

/-- One request on a worker with a single slot: the steps up to the search. -/
def requested : List Action := [.next, .next, .next, .read .whole, .next]

/-- A signal after the answer to a first request joins its thread. -/
theorem shutdown_safe_after_reply :
    Exists fun trace => Exists fun final =>
      TransitionSystem.Run (system ⟨1, false⟩) (system ⟨1, false⟩).initial trace final ∧
        final.ending = true ∧ (final.processes 0).isSome = true ∧
        ShutdownSafe ⟨1, false⟩ final := by
  rcases TransitionSystem.exists_run (system ⟨1, false⟩) (system ⟨1, false⟩).initial
      (requested ++ [.next, .enableSwapping true, .connect true, .next, .next, .next, .interrupt])
      (fun _ final => decide (final.point = .loop) && (final.ending && !final.fault) &&
        (final.processes 0).isSome) (by decide) with ⟨trace, final, run, tested⟩
  simp only [Bool.and_eq_true, decide_eq_true_eq] at tested
  refine ⟨trace, final, run, tested.1.2.1, tested.2, ?_⟩
  apply (shutdown_safe_iff run).mpr
  rw [tested.1.1]
  rfl

/-- While a first process connects to the control plane its slot is filled
and its thread is null: a signal joins the null thread. -/
theorem shutdown_unsafe_while_connecting :
    Exists fun trace => Exists fun final =>
      TransitionSystem.Run (system ⟨1, false⟩) (system ⟨1, false⟩).initial trace final ∧
        final.point = .connecting 0 ∧ ¬ ShutdownSafe ⟨1, false⟩ final ∧
        (step ⟨1, false⟩ final .interrupt).map State.fault = some true := by
  rcases TransitionSystem.exists_run (system ⟨1, false⟩) (system ⟨1, false⟩).initial
      (requested ++ [.next, .enableSwapping true])
      (fun _ final => decide (final.point = .connecting 0) && (final.processes 0).isSome &&
        (final.threads 0).isNone &&
        decide ((step ⟨1, false⟩ final .interrupt).map State.fault = some true)) (by decide) with
    ⟨trace, final, run, tested⟩
  simp only [Bool.and_eq_true, decide_eq_true_eq] at tested
  refine ⟨trace, final, run, tested.1.1.1, ?_, tested.2⟩
  intro safe
  have joined := safe.joinable 0 (by decide) tested.1.1.2
  have null := tested.1.2
  rw [Option.isNone_iff_eq_none.mp null] at joined
  cases joined

end Shutdown
end LocalWorker
end Praas
