import Mathlib.Data.List.Count
import Praas.LocalMemory.BusyFlag
import Praas.LocalMemory.Connections
import Praas.Library.Simulation

namespace Praas
namespace LocalMemory
namespace Connections

open Library
open Server (maxConnections)

/-!
# The server on the arrays of its connections

The model of the server has one record for each slot.  The source keeps the
same in the two arrays of `SessionConnections`, finds a connection through the
pointer that the poller returns, and frees the index that the object knows.
Every run of the server, with the threads of its pool in any order, is a run on
these arrays: the steps of a task that do not touch a slot are passed over, and
the others are the steps of the arrays at the same place.

What an invariant says about the arrays then holds of the server.
-/

/-- A place as the model of the server has it. -/
def SessionConnections.slot (table : SessionConnections) (place : Nat) : Server.Slot :=
  ⟨(table.connections place).conn, table.active place, (table.connections place).busy⟩

/-- The server and the arrays agree on the slots, on the number of the next
socket, and on whether the loop has come to an end. -/
structure Agrees (server : Server.State) (state : State) : Prop where
  slots : server.slots = state.table.slot
  nextSocket : server.nextSocket = state.nextSocket
  crashed : server.crashed = state.crashed

/-- The sockets of the server are in places of the array, each in one, and a
place is taken exactly while it holds one. -/
structure PlacesSound (server : Server.State) : Prop where
  inside : forall place, (server.slots place).active = true -> place < maxConnections
  active : forall place,
    (server.slots place).active = (server.slots place).socket.isSome
  distinct : forall first second socket, (server.slots first).socket = some socket ->
    (server.slots second).socket = some socket -> first = second

def takenPlaces (server : Server.State) : Nat :=
  (List.range maxConnections).countP (fun place => (server.slots place).active)

/-- The server accepts a connection only while fewer are open than there are
places. -/
def serverHasRoom (server : Server.State) (action : Server.Action) : Bool :=
  match action with
  | .accept => decide (takenPlaces server < maxConnections)
  | _ => true

/-! ## One step -/

section Steps

variable {server next : Server.State} {state : State}

theorem firstFree_slot (same : server.slots = state.table.slot) :
    Server.firstFree server = state.table.firstFree := by
  unfold Server.firstFree SessionConnections.firstFree
  rw [same]
  rfl

theorem agrees_accept (agrees : Agrees server state) (tabled : Tabled state) :
    Agrees (Server.acceptStep server) (acceptStep state) := by
  unfold Server.acceptStep
  rw [firstFree_slot agrees.slots]
  cases found : state.table.firstFree with
  | none =>
      rw [acceptStep_none found]
      exact ⟨agrees.slots, agrees.nextSocket, rfl⟩
  | some slot =>
      rw [acceptStep_some found tabled]
      refine ⟨?_, congrArg (· + 1) agrees.nextSocket, agrees.crashed⟩
      funext place
      unfold SessionConnections.slot
      dsimp only
      by_cases here : place = slot
      · rw [here, Function.update_self, Function.update_self, Function.update_self,
          agrees.nextSocket]
        rfl
      · rw [Function.update_of_ne here, Function.update_of_ne here, Function.update_of_ne here,
          agrees.slots]
        rfl

/-- A socket in a slot is open, and its events point to this place. -/
theorem opened_of_socket (agrees : Agrees server state) (tabled : Tabled state) {slot socket : Nat}
    (found : (server.slots slot).socket = some socket) : ⟨socket, slot⟩ ∈ state.opened := by
  rw [agrees.slots] at found
  change (state.table.connections slot).conn = some socket at found
  have active : state.table.active slot = true := by
    by_contra inactive
    rw [tabled.empty slot (Bool.eq_false_iff.mpr inactive)] at found
    cases found
  rcases tabled.occupied slot active with ⟨entry, member, rfl⟩
  rw [(tabled.held entry member).2.1] at found
  cases found
  exact member

theorem find_opened (tabled : Tabled state) {entry : Opened} (member : entry ∈ state.opened) :
    state.opened.find? (fun other => decide (other.socket = entry.socket)) = some entry := by
  cases found : state.opened.find? (fun other => decide (other.socket = entry.socket)) with
  | none =>
      have absent := List.find?_eq_none.mp found entry member
      exact absurd (decide_eq_true rfl) absent
  | some other =>
      have named : other.socket = entry.socket := by simpa using List.find?_some found
      rw [tabled.single other entry (List.mem_of_find?_eq_some found) member named]

theorem agrees_ended (agrees : Agrees server state) (tabled : Tabled state) {slot socket : Nat}
    (found : (server.slots slot).socket = some socket)
    (idle : (server.slots slot).busy = false) :
    Agrees (Server.pollStep server slot socket .ended) (endedStep state slot) := by
  have member := opened_of_socket agrees tabled found
  rw [agrees.slots] at idle
  rw [endedStep_idle tabled member idle]
  refine ⟨?_, agrees.nextSocket, agrees.crashed⟩
  funext place
  dsimp only [Server.pollStep, SessionConnections.slot]
  by_cases here : place = slot
  · rw [here, Function.update_self, Function.update_self, Function.update_self, agrees.slots]
    rfl
  · rw [Function.update_of_ne here, Function.update_of_ne here, Function.update_of_ne here,
      agrees.slots]
    rfl

theorem agrees_mark (agrees : Agrees server state) (slot : Nat) (busy : Bool)
    (slots : next.slots = (Server.setBusy server slot busy).slots)
    (nextSocket : next.nextSocket = server.nextSocket) (crashed : next.crashed = server.crashed) :
    Agrees next (markStep state slot busy) := by
  refine ⟨?_, nextSocket.trans agrees.nextSocket, crashed.trans agrees.crashed⟩
  rw [slots]
  funext place
  dsimp only [Server.setBusy, markStep, SessionConnections.slot]
  by_cases here : place = slot
  · rw [here, Function.update_self, Function.update_self, agrees.slots]
    rfl
  · rw [Function.update_of_ne here, Function.update_of_ne here, agrees.slots]
    rfl

theorem kept_pollStep (server : Server.State) (slot socket : Nat) (arrival : Server.Arrival) :
    (Server.pollStep server slot socket arrival).nextSocket = server.nextSocket ∧
      (Server.pollStep server slot socket arrival).crashed = server.crashed := by
  cases arrival <;> exact ⟨rfl, rfl⟩

theorem kept_writeTo (server : Server.State) (task : Server.Task) (bytes : Option Bytes) :
    (Server.writeTo server task bytes).nextSocket = server.nextSocket ∧
      (Server.writeTo server task bytes).crashed = server.crashed := by
  unfold Server.writeTo
  split <;> exact ⟨rfl, rfl⟩

/-- Only an accepted connection takes a number, or a null pointer. -/
theorem kept_step {action : Server.Action} (stepped : Server.step server action = some next)
    (other : action ≠ .accept) :
    next.nextSocket = server.nextSocket ∧ next.crashed = server.crashed := by
  unfold Server.step at stepped
  split at stepped
  · cases stepped
  split at stepped
  · unfold Server.loopStep at stepped
    split at stepped
    · exact absurd rfl other
    · split at stepped
      · cases stepped
      split at stepped
      · cases stepped
        exact kept_pollStep _ _ _ _
      · cases stepped
    · split at stepped
      · cases stepped
      · cases stepped
        exact ⟨rfl, rfl⟩
    · cases stepped
  split at stepped
  · cases stepped
  unfold Server.taskStep at stepped
  split at stepped
  all_goals try split at stepped
  all_goals cases stepped
  · unfold Server.readStep
    dsimp only
    split <;> exact ⟨rfl, rfl⟩
  · exact ⟨rfl, rfl⟩
  · exact ⟨rfl, rfl⟩
  · exact kept_writeTo _ _ _
  · exact kept_writeTo _ _ _
  · exact ⟨rfl, rfl⟩

theorem acceptStep_of_step (stepped : Server.step server .accept = some next) :
    next = Server.acceptStep server := by
  unfold Server.step at stepped
  split at stepped
  · cases stepped
  · dsimp only [Server.Action.task, Server.loopStep] at stepped
    split at stepped
    · cases stepped
      rfl
    · cases stepped

/-- Every step of the server is a step of the arrays, or leaves them alone. -/
theorem agrees_step (agrees : Agrees server state) (tabled : Tabled state) {action : Server.Action}
    (stepped : Server.step server action = some next) :
    Exists fun target =>
      TransitionSystem.Answers system (fun _ _ => True) state target ∧ Agrees next target := by
  have moved := Server.step_move stepped
  have running : state.crashed = false := agrees.crashed.symm.trans moved.1
  by_cases accepting : action = .accept
  · subst accepting
    rw [acceptStep_of_step stepped]
    refine ⟨_, Or.inr ⟨.accept, trivial, ?_⟩, agrees_accept agrees tabled⟩
    simp only [system, step, running, Bool.false_eq_true, if_false]
  have kept := kept_step stepped accepting
  have unchanged : next.slots = server.slots -> Exists fun target =>
      TransitionSystem.Answers system (fun _ _ => True) state target ∧ Agrees next target := by
    intro slots
    exact ⟨state, Or.inl rfl, slots.trans agrees.slots, kept.1.trans agrees.nextSocket,
      kept.2.trans agrees.crashed⟩
  have marked : forall slot busy, next.slots = (Server.setBusy server slot busy).slots ->
      Exists fun target =>
        TransitionSystem.Answers system (fun _ _ => True) state target ∧ Agrees next target := by
    intro slot busy slots
    refine ⟨_, Or.inr ⟨.mark slot busy, trivial, ?_⟩,
      agrees_mark agrees slot busy slots kept.1 kept.2⟩
    simp only [system, step, running, Bool.false_eq_true, if_false]
  cases moved.2 with
  | accept => exact absurd rfl accepting
  | @poll slot socket arrival found free idle =>
      cases arrival with
      | message buffer => exact unchanged rfl
      | ended =>
          refine ⟨_, Or.inr ⟨.ended socket, trivial, ?_⟩, agrees_ended agrees tabled found idle⟩
          have opened := find_opened tabled (opened_of_socket agrees tabled found)
          simp only [system, step, running, opened, Option.map_some, Bool.false_eq_true, if_false]
  | markBusy marking => exact marked _ true rfl
  | received whole stage enough slots marking tasks => exact unchanged slots
  | short whole stage missing slots marking tasks => exact unchanged slots
  | @clearBusy before after task data next whole stage slots marking tasks =>
      exact marked task.slot false slots
  | later noRead noMark slots marking pending => exact unchanged slots

/-- The sockets of a server that agrees with the arrays. -/
theorem placesSound_of_tabled (agrees : Agrees server state) (tabled : Tabled state) :
    PlacesSound server where
  inside := by
    intro place active
    rw [agrees.slots] at active
    rcases tabled.occupied place active with ⟨entry, member, rfl⟩
    exact (tabled.placed entry member).1
  active := by
    intro place
    rw [agrees.slots]
    change state.table.active place = (state.table.connections place).conn.isSome
    cases active : state.table.active place with
    | true =>
        rcases tabled.occupied place active with ⟨entry, member, rfl⟩
        rw [(tabled.held entry member).2.1]
        rfl
    | false =>
        rw [tabled.empty place active]
        rfl
  distinct := by
    intro first second socket left right
    have same := tabled.single _ _ (opened_of_socket agrees tabled left)
      (opened_of_socket agrees tabled right) rfl
    exact congrArg Opened.slot same

/-! ## Room for a connection -/

theorem firstFree_isSome_iff (server : Server.State) :
    (Server.firstFree server).isSome = true ↔ takenPlaces server < maxConnections := by
  have full := List.countP_lt_length_iff (l := List.range maxConnections)
    (p := fun place => (server.slots place).active)
  rw [List.length_range] at full
  unfold Server.firstFree takenPlaces
  rw [full, List.find?_isSome]
  simp only [Bool.not_eq_true']

/-- A step leaves the loop running exactly when there is room for a connection
that it accepts. -/
theorem running_step_iff {action : Server.Action}
    (stepped : Server.step server action = some next) :
    next.crashed = false ↔ serverHasRoom server action = true := by
  have running := (Server.step_move stepped).1
  by_cases accepting : action = .accept
  · subst accepting
    unfold serverHasRoom
    rw [acceptStep_of_step stepped, decide_eq_true_eq, ← firstFree_isSome_iff]
    unfold Server.acceptStep
    cases Server.firstFree server with
    | none => exact iff_of_false Bool.true_eq_false_eq_False Bool.false_ne_true
    | some slot => exact iff_of_true running rfl
  · rw [(kept_step stepped accepting).2]
    refine iff_of_true running ?_
    cases action <;> first | rfl | exact absurd rfl accepting

end Steps

/-! ## Every run -/

/-- Every run of the server is a run on the arrays, the sockets of the server
are in places of their own, and the loop goes on exactly as long as every
connection is accepted while fewer are open than there are places. -/
theorem server_keeps_connections {trace : List (Server.State × Server.Action)}
    {final : Server.State}
    (run : TransitionSystem.Run Server.system Server.system.initial trace final) :
    (Exists fun events => Exists fun reached => Run events reached ∧ Agrees final reached) ∧
      PlacesSound final ∧
      (final.crashed = false ↔ TransitionSystem.Guarded
        (fun server action => serverHasRoom server action = true) trace) := by
  have simulated : Exists fun events => Exists fun reached => Run events reached ∧
      TransitionSystem.Guarded (fun _ _ => True) events ∧ Agrees final reached :=
    run.simulated Agrees ⟨rfl, rfl, rfl⟩ (fun earlier source middle action target arrays _ agrees
      stepped => agrees_step agrees (tabled_of_run arrays) stepped)
  rcases simulated with ⟨events, reached, arrays, _, agrees⟩
  refine ⟨⟨events, reached, arrays, agrees⟩, placesSound_of_tabled agrees (tabled_of_run arrays),
    ?_⟩
  clear agrees
  induction run with
  | start => exact iff_of_true rfl (fun entry member => by cases member)
  | @extend trace source target action earlier stepped inductionHypothesis =>
      rw [TransitionSystem.guarded_append_iff, running_step_iff stepped,
        ← inductionHypothesis]
      exact (and_iff_right (Server.step_move stepped).1).symm

/-- A connection ends after a request, and its place is given to a third. -/
def givenToThird : List Server.Action :=
  [.accept, .accept, .poll 0 (.message getExample.buffer), .markBusy, .read 0 [], .clearBusy 0,
    .poll 0 .ended, .accept]

theorem server_keeps_connections_third :
    Exists fun trace => Exists fun final =>
      TransitionSystem.Run Server.system Server.system.initial trace final ∧
        (final.slots 0).socket = some 2 ∧ final.crashed = false ∧ PlacesSound final := by
  have found := TransitionSystem.exists_run Server.system Server.system.initial givenToThird
    (fun trace final => trace.all (fun entry => serverHasRoom entry.1 entry.2) &&
      decide ((final.slots 0).socket = some 2)) (by decide +kernel)
  rcases found with ⟨trace, final, run, tested⟩
  rw [Bool.and_eq_true, decide_eq_true_eq] at tested
  rcases server_keeps_connections run with ⟨_, sound, running⟩
  exact ⟨trace, final, run, tested.2, running.mpr (TransitionSystem.guarded_of_all tested.1),
    sound⟩

end Connections
end LocalMemory
end Praas
