import Praas.System.Capacity
import Praas.System.RejectedCalls

namespace Praas
namespace System

open Library
open ControlPlane

/-!
# Closures of any session

A process worker may announce the closure of a session that it does not run,
that was closed before or that never existed.  The control plane hands every
such message to `handle_session_closure`.  The system is extended here by these
messages; whatever its own process workers do is still part of it.

The counter of a process is not misled by them.  `remove_session` lowers it
only together with an entry of the list, and the reservations of clients are
made and used one by one.
-/

namespace Foreign

/-- The steps of the system, with calls whose numbers are 32-bit integers, and
closure messages with any content. -/
inductive Event
  | own (action : Action)
  | close (processId sessionId : Bytes)

def typed : Action -> Bool
  | .call call => Rejection.typed call
  | _ => true

/-- A message of a connected worker starts a thread of
`handle_session_closure`. -/
def closeStep (state : State) (process : Process) (sessionId : Bytes) : State :=
  { state with closures := state.closures ++
    [⟨process.processId, process.globalProcessId, sessionId, .remove⟩] }

def respond (state : State) : Event -> Option State
  | .own action => if typed action then step state action else none
  | .close processId sessionId =>
      (state.plane.resources.getProcess processId).map
        (fun process => closeStep state process sessionId)

def foreign : TransitionSystem State Event where
  initial := State.initial
  step := respond

abbrev Run (trace : List (State × Event)) (final : State) : Prop :=
  TransitionSystem.Run foreign State.initial trace final

/-- What one event can do. -/
inductive Happens (state : State) : Event -> State -> Prop
  | own {action : Action} {next : State} : typed action = true -> Transition state action next ->
      Happens state (.own action) next
  | close {process : Process} (sessionId : Bytes) :
      state.plane.resources.getProcess process.processId = some process ->
      Happens state (.close process.processId sessionId) (closeStep state process sessionId)

variable {state next : State} {event : Event}

theorem respond_happens (stepped : respond state event = some next) : Happens state event next := by
  cases event with
  | own action =>
      simp only [respond] at stepped
      split at stepped
      · rename_i fits
        exact .own fits (step_transition stepped)
      · cases stepped
  | close processId sessionId =>
      rcases Option.map_eq_some_iff.mp stepped with ⟨process, found, rfl⟩
      have named := Resources.processId_of_getProcess found
      subst named
      exact .close sessionId found

theorem registered_initial : Registered State.initial := placed_initial.registered

theorem registered_happens (registered : Registered state) (happens : Happens state event next) :
    Registered next := by
  cases happens with
  | own _ moved => exact registered_of_transition registered moved
  | close sessionId found =>
      exact ⟨registered.distinct, registered.known, registered.opened, registered.keyed⟩

theorem capacity_happens (registered : Registered state) (capacity : Capacity state)
    (happens : Happens state event next) : Capacity next := by
  cases happens with
  | own _ moved => exact capacity_step registered capacity moved
  | close sessionId found =>
      exact ⟨capacity.accounted, capacity.known, capacity.started, capacity.equipped⟩

theorem counted_of_run {trace : List (State × Event)} {final : State} (run : Run trace final) :
    Registered final ∧ Capacity final := by
  apply run.invariant (fun state => Registered state ∧ Capacity state)
    ⟨registered_initial, capacity_initial⟩
  intro source event target known stepped
  have happens := respond_happens stepped
  exact ⟨registered_happens known.1 happens, capacity_happens known.1 known.2 happens⟩

/-- In every reachable state the counter of a process is the length of its list
together with the slots that are reserved and not used, and it is within the
bounds of the process, whatever sessions its workers close. -/
theorem slots_accounted {trace : List (State × Event)} {final : State} (run : Run trace final)
    (process : Process) (member : process ∈ final.plane.resources.processes) :
    process.allocatedSessions =
        (process.sessions.length : Int) + (final.reserved process.processId : Int) ∧
      0 ≤ process.allocatedSessions ∧ process.allocatedSessions ≤ process.maxSessions := by
  have account := (counted_of_run run).2.accounted process member
  have counted := account.counted
  exact ⟨counted, by omega, account.bounded⟩

/-- One session is placed, and a second client reserves a slot. -/
def reservedSlot : List Action :=
  placeSession ++ [.client 0 [], .call newSessionCall, .client 1 [], .client 1 [4], .client 1 []]

/-- The worker closes a session that does not exist, and its own session
twice. -/
def bogusClosures : List Event :=
  reservedSlot.map .own ++
    [.close [3] [9], .close [3] [2], .close [3] [2], .own (.closure 0), .own (.closure 1),
      .own (.closure 2)]

theorem slots_accounted_bogus :
    Exists fun trace => Exists fun final => Run trace final ∧
      Exists fun process => process ∈ final.plane.resources.processes ∧
        final.reserved process.processId = 1 ∧ process.sessions = [] ∧
        process.allocatedSessions = 1 := by
  have found := TransitionSystem.exists_run foreign State.initial bogusClosures
    (fun _ final => final.plane.resources.processes.any (fun process =>
      decide (final.reserved process.processId = 1 ∧ process.sessions = []))) (by decide +kernel)
  rcases found with ⟨trace, final, run, tested⟩
  rcases List.any_eq_true.mp tested with ⟨process, member, expected⟩
  rcases of_decide_eq_true expected with ⟨reserved, empty⟩
  have counted := (slots_accounted run process member).1
  rw [reserved, empty] at counted
  exact ⟨trace, final, run, process, member, reserved, empty, counted⟩

end Foreign
end System
end Praas
