import Mathlib.Data.Fintype.EquivFin
import Praas.ControlPlane.WholeOperations
import Praas.System.Placement
import Praas.System.SessionTable

namespace Praas
namespace System

open Library
open ControlPlane
open Praas.Runtime

/-!
# No thread is stuck

A mutex that is taken can be released by the thread that holds it, a client
that has not returned and a closure that is not finished have a next step as
soon as the mutex is free, and every process that the tables know was asked for
and is connected once its worker is up.  What this relies on are invariants of
the runs: what a thread, a section or a connection needs next is there.

A worker that was asked for may never start: the backend may fail, and one
local worker never starts the second process that it is asked for.  The state
of rest is therefore relative to the workers that do not start.  The model has
no step for the end of a connection between the control plane and a worker;
what is said of the system holds as long as none ends or fails, no write to one
waits for its reader, and the pool of the control plane has a thread for every
task.
-/

namespace Progress

variable {state next : State} {action : Action}

/-! ## What keeps the threads going -/

/-- The worker owes no message and has none on its connection. -/
structure Silent (node : Node) : Prop where
  answering : node.answering = none
  closing : node.closing = []
  outbox : node.outbox = []

/-- The backend was asked for the process, or is about to be. -/
def Covered (state : State) (id : Bytes) : Prop :=
  id ∈ state.plane.started.map Prod.fst ∨ Exists fun owner => Exists fun placement =>
    state.mutex = some (.addSession owner placement id) ∨
      state.mutex = some (.allocateProcess owner placement id)

/-- What a thread, a section or a connection relies on is there. -/
structure Grounded (state : State) : Prop where
  inside : forall index, state.clients[index]? = some .inSection ↔ Opened index state.mutex
  reserved : forall placement id, Client.addExisting placement id ∈ state.clients ->
    id ∈ state.plane.resources.processIds
  looping : forall id index, state.mutex = some (.sendPending id index) ->
    id ∈ state.plane.resources.processIds
  starting : forall owner placement id, state.mutex = some (.allocateProcess owner placement id) ->
    id ∈ state.plane.resources.processIds
  asked : forall id, id ∈ state.plane.started.map Prod.fst ->
    id ∈ state.plane.resources.processIds
  covered : forall id, id ∈ state.plane.resources.processIds -> Covered state id
  connected : forall process, process ∈ state.plane.resources.processes ->
    process.connected = (state.nodes process.processId).up
  known : forall id, (state.nodes id).up = true -> id ∈ state.plane.resources.processIds
  silent : forall id, (state.nodes id).up = false ->
    state.plane.outgoing id = [] ∧ Silent (state.nodes id)

section Inside

variable {before after : List Client} {client new : Client} {mutex other : Option Section}

theorem inside_moved
    (inside : forall index, (before ++ client :: after)[index]? = some .inSection ↔
      Opened index mutex)
    (mine : new = .inSection ↔ Opened before.length other)
    (others : forall index, index ≠ before.length -> (Opened index other ↔ Opened index mutex))
    (index : Nat) :
    (before ++ new :: after)[index]? = some .inSection ↔ Opened index other := by
  by_cases here : index = before.length
  · rw [here, getElem?_middle rfl, Option.some.injEq]
    exact mine
  · rw [others index here, ← inside index, getElem?_replaced_of_ne before after client new here]

theorem inside_apart
    (inside : forall index, (before ++ client :: after)[index]? = some .inSection ↔
      Opened index mutex)
    (outside : client ≠ .inSection) (stays : new ≠ .inSection) (index : Nat) :
    (before ++ new :: after)[index]? = some .inSection ↔ Opened index mutex := by
  refine inside_moved inside ?_ (fun _ _ => Iff.rfl) index
  rw [← inside before.length, getElem?_middle rfl, Option.some.injEq]
  exact ⟨fun same => False.elim (stays same), fun same => False.elim (outside same)⟩

end Inside

theorem inside_step (grounded : Grounded state) (moved : Transition state action next)
    (index : Nat) : next.clients[index]? = some .inSection ↔ Opened index next.mutex := by
  have inside := grounded.inside
  cases moved with
  | call asked =>
      rw [← inside index]
      by_cases old : index < state.clients.length
      · rw [List.getElem?_append_left old]
      · rw [List.getElem?_append_right (Nat.le_of_not_lt old),
          List.getElem?_eq_none (Nat.le_of_not_lt old)]
        cases index - state.clients.length <;> simp
  | quiet whole quiet =>
      rw [whole] at inside
      refine inside_apart inside ?_ ?_ index <;> cases quiet <;> exact nofun
  | takeSwapped whole | recordDetails whole | reserve whole | allBusy whole | markAlive whole =>
      rw [whole] at inside
      refine inside_apart inside ?_ ?_ index <;> exact nofun
  | addExisting whole free | addProcess whole free =>
      rw [whole, free] at inside
      refine inside_moved inside ?_ ?_ index
      · exact ⟨fun _ => rfl, fun _ => rfl⟩
      · intro place different
        exact ⟨fun same => different same.symm, fun never => False.elim never⟩
  | writeRequest whole held | allocateProcess whole held =>
      rw [whole, held] at inside
      refine inside_moved inside ?_ ?_ index
      · exact ⟨nofun, fun never => False.elim never⟩
      · intro place different
        exact ⟨fun never => False.elim never, fun same => different same.symm⟩
  | addSession whole held =>
      rw [held] at inside
      exact inside index
  | enterPending _ free =>
      rw [free] at inside
      exact inside index
  | sendPending held | poll held =>
      rw [held] at inside
      exact inside index
  | _ => exact inside index

/-- The clients that hold a reserved slot keep their process. -/
theorem reserved_step (registered : Registered state) (grounded : Grounded state)
    (moved : Transition state action next) (placement : Placement) (id : Bytes)
    (member : Client.addExisting placement id ∈ next.clients) :
    id ∈ next.plane.resources.processIds := by
  apply mem_processIds_step registered moved
  have old := grounded.reserved placement id
  have middle : forall {before after : List Client} {client new : Client},
      state.clients = before ++ client :: after -> new ≠ .addExisting placement id ->
      Client.addExisting placement id ∈ before ++ new :: after ->
      id ∈ state.plane.resources.processIds := by
    intro before after client new whole different present
    rcases List.mem_append.mp present with earlier | rest
    · exact old (whole ▸ List.mem_append_left _ earlier)
    · rcases List.mem_cons.mp rest with same | later
      · exact False.elim (different same.symm)
      · exact old (whole ▸ List.mem_append_right _ (List.mem_cons_of_mem _ later))
  cases moved with
  | call =>
      rcases List.mem_append.mp member with earlier | last
      · exact old earlier
      · cases List.mem_singleton.mp last
  | quiet whole quiet =>
      refine middle whole ?_ member
      cases quiet <;> exact nofun
  | takeSwapped whole | recordDetails whole | allBusy whole | markAlive whole | addExisting whole
  | addProcess whole | writeRequest whole | allocateProcess whole =>
      refine middle whole ?_ member
      exact nofun
  | @reserve before after other process uuid whole found =>
      by_cases same : Client.addExisting other process.processId = .addExisting placement id
      · cases same
        exact List.mem_map_of_mem (List.mem_of_find?_eq_some found)
      · exact middle whole same member
  | _ => exact old member

theorem mem_processIds_of_getProcess {resources : Resources} {id : Bytes} {process : Process}
    (found : resources.getProcess id = some process) : id ∈ resources.processIds := by
  rw [← Resources.processId_of_getProcess found]
  exact List.mem_map_of_mem (Resources.mem_of_getProcess found)

theorem looping_step (registered : Registered state) (grounded : Grounded state)
    (moved : Transition state action next) (id : Bytes) (index : Nat)
    (held : next.mutex = some (.sendPending id index)) :
    id ∈ next.plane.resources.processIds := by
  apply mem_processIds_step registered moved
  cases moved with
  | enterPending found =>
      cases held
      exact mem_processIds_of_getProcess found
  | sendPending _ found =>
      cases held
      exact mem_processIds_of_getProcess found
  | addExisting | addProcess | writeRequest | addSession | allocateProcess | poll => cases held
  | _ => exact grounded.looping id index held

theorem starting_step (registered : Registered state) (grounded : Grounded state)
    (moved : Transition state action next) (owner : Nat) (placement : Placement) (id : Bytes)
    (held : next.mutex = some (.allocateProcess owner placement id)) :
    id ∈ next.plane.resources.processIds := by
  apply mem_processIds_step registered moved
  cases moved with
  | addSession _ opened =>
      cases held
      exact registered.opened _ _ _ opened
  | addExisting | addProcess | writeRequest | allocateProcess | enterPending | sendPending | poll =>
      cases held
  | _ => exact grounded.starting owner placement id held

/-- The backend is only asked for processes of the table. -/
theorem asked_step (registered : Registered state) (grounded : Grounded state)
    (moved : Transition state action next) (id : Bytes)
    (member : id ∈ next.plane.started.map Prod.fst) : id ∈ next.plane.resources.processIds := by
  apply mem_processIds_step registered moved
  cases moved with
  | writeRequest =>
      rw [Plane.started_writeRequest] at member
      exact grounded.asked id member
  | allocateProcess _ held =>
      rw [Plane.allocateProcess, List.map_append] at member
      rcases List.mem_append.mp member with old | new
      · exact grounded.asked id old
      · rw [List.mem_singleton.mp new]
        exact grounded.starting _ _ _ held
  | @sendPending processId sessionId =>
      rcases state.plane.sendPending_cases processId sessionId with ⟨_, same⟩ | ⟨_, same⟩
      · rw [same, Plane.started_writeRequest] at member
        exact grounded.asked id member
      · rw [same] at member
        exact grounded.asked id member
  | _ => exact grounded.asked id member

/-- Outside the two sections of a new process, all of them were asked for. -/
theorem asked_of_covered {id : Bytes} (covered : Covered state id)
    (adding : forall owner placement, state.mutex ≠ some (.addSession owner placement id))
    (starting : forall owner placement, state.mutex ≠ some (.allocateProcess owner placement id)) :
    id ∈ state.plane.started.map Prod.fst := by
  rcases covered with asked | ⟨owner, placement, held | held⟩
  · exact asked
  · exact False.elim (adding owner placement held)
  · exact False.elim (starting owner placement held)

theorem covered_step (registered : Registered state)
    (covered : forall id, id ∈ state.plane.resources.processIds -> Covered state id)
    (moved : Transition state action next) (id : Bytes)
    (member : id ∈ next.plane.resources.processIds) : Covered next id := by
  have free : forall {held : Option Section}, state.mutex = held ->
      (forall owner placement, held ≠ some (.addSession owner placement id)) ->
      (forall owner placement, held ≠ some (.allocateProcess owner placement id)) ->
      id ∈ state.plane.resources.processIds -> id ∈ state.plane.started.map Prod.fst := by
    rintro held rfl adding starting old
    exact asked_of_covered (covered id old) adding starting
  cases moved with
  | reserve =>
      rw [State.setResources, Resources.processIds_getFreeProcess] at member
      exact covered id member
  | addExisting _ idle =>
      rw [Plane.processIds_addSession] at member
      exact Or.inl (free idle (by simp) (by simp) member)
  | @addProcess before _ placement uuid _ idle unused =>
      rw [Plane.processIds_addProcess (registered.absent unused)] at member
      rcases List.mem_append.mp member with old | new
      · exact Or.inl (free idle (by simp) (by simp) old)
      · rw [List.mem_singleton.mp new]
        exact Or.inr ⟨before.length, placement, Or.inl rfl⟩
  | writeRequest _ held =>
      rw [Plane.processIds_writeRequest] at member
      left
      rw [Plane.started_writeRequest]
      exact free held (by simp) (by simp) member
  | @addSession before _ placement processId _ _ held =>
      rw [Plane.processIds_addSession] at member
      rcases covered id member with asked | ⟨owner, other, same | same⟩
      · exact Or.inl asked
      · rw [held] at same
        cases same
        exact Or.inr ⟨before.length, placement, Or.inr rfl⟩
      · rw [held] at same
        cases same
  | @allocateProcess before _ placement processId _ _ held =>
      left
      rw [Plane.allocateProcess, List.map_append]
      rcases covered id member with asked | ⟨owner, other, same | same⟩
      · exact List.mem_append_left _ asked
      · rw [held] at same
        cases same
      · rw [held] at same
        cases same
        exact List.mem_append_right _ List.mem_cons_self
  | connect =>
      rw [Plane.processIds_connect] at member
      exact covered id member
  | enterPending _ idle => exact Or.inl (free idle (by simp) (by simp) member)
  | @sendPending processId sessionId index process held =>
      left
      rcases state.plane.sendPending_cases processId sessionId with ⟨_, same⟩ | ⟨_, same⟩
      · rw [same, Plane.processIds_writeRequest] at member
        rw [same, Plane.started_writeRequest]
        exact free held (by simp) (by simp) member
      · rw [same] at member
        rw [same]
        exact free held (by simp) (by simp) member
  | poll held =>
      rw [Plane.processIds_poll] at member
      exact Or.inl (free held (by simp) (by simp) member)
  | remove =>
      rw [State.setResources, Resources.processIds_removeSession] at member
      exact covered id member
  | reorder permuted =>
      exact covered id ((permuted.map Process.processId).mem_iff.mp member)
  | _ => exact covered id member

/-! ## Connections -/

theorem asked_of_found {started : List (Bytes × Int)} {id : Bytes} {entry : Bytes × Int}
    (found : started.find? (fun entry => decide (entry.1 = id)) = some entry) :
    id ∈ started.map Prod.fst := by
  have named := List.find?_some found
  exact List.mem_map.mpr ⟨entry, List.mem_of_find?_eq_some found, of_decide_eq_true named⟩

theorem up_step (moved : Transition state action next) (id : Bytes) :
    (next.nodes id).up = (state.nodes id).up ∨
      Exists fun swapper => action = .connect id swapper ∧ (next.nodes id).up = true := by
  have same : forall {processId : Bytes} {node : Node},
      node.up = (state.nodes processId).up ->
      (Function.update state.nodes processId node id).up = (state.nodes id).up := by
    intro processId node kept
    by_cases own : id = processId
    · rw [own, Function.update_self, kept]
    · rw [Function.update_of_ne own]
  cases moved with
  | @connect processId swapper =>
      by_cases own : id = processId
      · subst own
        refine Or.inr ⟨swapper, rfl, ?_⟩
        change (Function.update state.nodes id _ id).up = true
        rw [Function.update_self]
      · left
        change (Function.update state.nodes processId _ id).up = _
        rw [Function.update_of_ne own]
  | receive | answer | touch | sessionDeleted | writeClosure | deliverAnswer | deliverClosure =>
      left
      apply same
      rfl
  | _ => exact Or.inl rfl

/-- A step other than a connection keeps the processes with their sockets, or
adds a process without one. -/
theorem sockets_step (registered : Registered state) (moved : Transition state action next)
    (apart : forall processId swapper, action ≠ .connect processId swapper) {process : Process}
    (member : process ∈ next.plane.resources.processes) :
    (Exists fun old => old ∈ state.plane.resources.processes ∧
        old.processId = process.processId ∧ old.connected = process.connected) ∨
      (process.processId ∉ state.plane.resources.processIds ∧ process.connected = false) := by
  have listed : process ∈ state.plane.resources.processes ->
      (Exists fun old => old ∈ state.plane.resources.processes ∧
        old.processId = process.processId ∧ old.connected = process.connected) ∨
      (process.processId ∉ state.plane.resources.processIds ∧ process.connected = false) :=
    fun old => Or.inl ⟨process, old, rfl, rfl⟩
  have changed : forall {test : Process -> Bool} {change : Process -> Process},
      process ∈ updateFirst test change state.plane.resources.processes ->
      (forall old, (change old).processId = old.processId ∧
        (change old).connected = old.connected) ->
      (Exists fun old => old ∈ state.plane.resources.processes ∧
        old.processId = process.processId ∧ old.connected = process.connected) ∨
      (process.processId ∉ state.plane.resources.processIds ∧ process.connected = false) := by
    intro test change inside kept
    rcases mem_or_of_mem_updateFirst inside with old | ⟨old, present, rfl⟩
    · exact listed old
    · exact Or.inl ⟨old, present, (kept old).1.symm, (kept old).2.symm⟩
  cases moved with
  | reserve _ found =>
      simp only [State.setResources, Resources.getFreeProcess, found] at member
      exact changed member (fun _ => ⟨rfl, rfl⟩)
  | addExisting | addSession => exact changed member (fun _ => ⟨rfl, rfl⟩)
  | addProcess whole free unused =>
      have absent := registered.absent unused
      rw [Plane.resources_addProcess absent] at member
      rcases List.mem_append.mp member with old | new
      · exact listed old
      · rw [List.mem_singleton.mp new]
        exact Or.inr ⟨absent, rfl⟩
  | writeRequest =>
      rw [Plane.processes_writeRequest] at member
      exact listed member
  | connect => exact False.elim (apart _ _ rfl)
  | sendPending =>
      rw [(state.plane.processes_sendPending _ _).1] at member
      exact listed member
  | poll => exact changed member (fun _ => ⟨rfl, rfl⟩)
  | remove =>
      refine changed member (fun old => ?_)
      unfold Process.removeSession
      split <;> exact ⟨rfl, rfl⟩
  | reorder permuted => exact listed (permuted.mem_iff.mp member)
  | _ => exact listed member

theorem connected_step (registered : Registered state) (grounded : Grounded state)
    (moved : Transition state action next) (process : Process)
    (member : process ∈ next.plane.resources.processes) :
    process.connected = (next.nodes process.processId).up := by
  by_cases connects : Exists fun processId => Exists fun swapper =>
      action = .connect processId swapper
  · rcases connects with ⟨processId, swapper, rfl⟩
    cases moved with
    | connect found down =>
        rcases Resources.exists_getProcess (grounded.asked processId (asked_of_found found)) with
          ⟨known, located⟩
        have named := Resources.processId_of_getProcess located
        change process ∈ updateFirst _ _ _ at member
        rcases Resources.mem_updateFirst registered.distinct located member with
          rfl | ⟨old, different⟩
        · change true = (Function.update state.nodes processId _ known.processId).up
          rw [named, Function.update_self]
        · change _ = (Function.update state.nodes processId _ process.processId).up
          rw [Function.update_of_ne (named ▸ different)]
          exact grounded.connected process old
  · have apart : forall processId swapper, action ≠ .connect processId swapper :=
      fun processId swapper same => connects ⟨processId, swapper, same⟩
    have kept : (next.nodes process.processId).up = (state.nodes process.processId).up := by
      rcases up_step moved process.processId with same | ⟨swapper, same, _⟩
      · exact same
      · exact False.elim (apart _ _ same)
    rw [kept]
    rcases sockets_step registered moved apart member with ⟨old, present, same, socket⟩ | ⟨new, entered⟩
    · rw [← same, ← socket]
      exact grounded.connected old present
    · rw [entered]
      cases running : (state.nodes process.processId).up with
      | false => rfl
      | true => exact False.elim (new (grounded.known _ running))

theorem known_step (registered : Registered state) (grounded : Grounded state)
    (moved : Transition state action next) (id : Bytes) (running : (next.nodes id).up = true) :
    id ∈ next.plane.resources.processIds := by
  apply mem_processIds_step registered moved
  rcases up_step moved id with same | ⟨swapper, rfl, _⟩
  · exact grounded.known id (same ▸ running)
  · cases moved with
    | connect found down => exact grounded.asked id (asked_of_found found)

/-- Nothing is written to a process that has not connected. -/
theorem written_down (grounded : Grounded state) {id : Bytes} (down : (state.nodes id).up = false)
    (sessionId : Bytes) : state.plane.written id sessionId = [] := by
  unfold Plane.written
  rw [if_neg]
  unfold Resources.isConnected
  cases found : state.plane.resources.getProcess id with
  | none => exact Bool.false_ne_true
  | some process =>
      have connected := grounded.connected process (Resources.mem_of_getProcess found)
      rw [Resources.processId_of_getProcess found, down] at connected
      dsimp only
      rw [connected]
      exact Bool.false_ne_true

theorem silent_step (grounded : Grounded state) (moved : Transition state action next) (id : Bytes)
    (down : (next.nodes id).up = false) :
    next.plane.outgoing id = [] ∧ Silent (next.nodes id) := by
  have before : (state.nodes id).up = false := by
    rcases up_step moved id with same | ⟨_, _, running⟩
    · rw [← same, down]
    · rw [down] at running
      cases running
  have old := grounded.silent id before
  have unwritten : forall processId sessionId,
      (state.plane.writeRequest processId sessionId).outgoing id = [] := by
    intro processId sessionId
    rw [Plane.outgoing_writeRequest]
    by_cases own : id = processId
    · subst own
      rw [Function.update_self, old.1, written_down grounded before]
      rfl
    · rw [Function.update_of_ne own, old.1]
  have elsewhere : forall {processId : Bytes} {node : Node},
      (id = processId -> Silent node) ->
      Silent (Function.update state.nodes processId node id) := by
    intro processId node own
    by_cases same : id = processId
    · rw [same, Function.update_self]
      exact own same
    · rw [Function.update_of_ne same]
      exact old.2
  cases moved with
  | writeRequest => exact ⟨unwritten _ _, old.2⟩
  | @sendPending processId sessionId =>
      refine ⟨?_, old.2⟩
      rcases state.plane.sendPending_cases processId sessionId with ⟨_, same⟩ | ⟨_, same⟩
      · rw [same]
        exact unwritten _ _
      · rw [same]
        exact old.1
  | @connect processId swapper entry =>
      refine ⟨old.1, elsewhere ?_⟩
      rintro rfl
      exact ⟨old.2.answering, old.2.closing, old.2.outbox⟩
  | @receive processId calls request up pending =>
      refine ⟨old.1, elsewhere ?_⟩
      rintro rfl
      rw [before] at up
      cases up
  | @answer processId sessionId result waiting =>
      refine ⟨old.1, elsewhere ?_⟩
      rintro rfl
      rw [old.2.answering] at waiting
      cases waiting
  | touch =>
      refine ⟨old.1, elsewhere ?_⟩
      rintro rfl
      exact ⟨old.2.answering, old.2.closing, old.2.outbox⟩
  | @sessionDeleted processId pid putObject entry message up =>
      refine ⟨old.1, elsewhere ?_⟩
      rintro rfl
      rw [before] at up
      cases up
  | @writeClosure processId earlier later message whole =>
      refine ⟨old.1, elsewhere ?_⟩
      rintro rfl
      rw [old.2.closing] at whole
      cases earlier <;> cases whole
  | @deliverAnswer processId message rest queued | @deliverClosure processId _ message rest _ queued =>
      refine ⟨old.1, elsewhere ?_⟩
      rintro rfl
      rw [old.2.outbox] at queued
      cases queued
  | _ => exact old

theorem grounded_initial : Grounded State.initial where
  inside := fun _ => ⟨nofun, fun never => False.elim never⟩
  reserved := nofun
  looping := nofun
  starting := nofun
  asked := nofun
  covered := nofun
  connected := nofun
  known := nofun
  silent := fun _ _ => ⟨rfl, rfl, rfl, rfl⟩

theorem grounded_of_run {trace : List (State × Action)} {final : State} (run : Run trace final) :
    Grounded final := by
  apply run.traced_invariant (fun _ state => Grounded state) grounded_initial
  intro earlier source action target reached grounded stepped
  have moved := step_transition stepped
  have registered := (placed_of_run reached).registered
  exact ⟨inside_step grounded moved, reserved_step registered grounded moved,
    looping_step registered grounded moved, starting_step registered grounded moved,
    asked_step registered grounded moved, covered_step registered grounded.covered moved,
    connected_step registered grounded moved, known_step registered grounded moved,
    silent_step grounded moved⟩

/-- A process is polled, or its loop runs, only when its worker has connected. -/
structure Armed (state : State) : Prop where
  entered : forall id index, state.mutex = some (.sendPending id index) ->
    (state.nodes id).up = true
  polled : forall process, process ∈ state.plane.resources.processes -> process.polled = true ->
    (state.nodes process.processId).up = true

theorem up_kept (moved : Transition state action next) {id : Bytes}
    (running : (state.nodes id).up = true) : (next.nodes id).up = true := by
  rcases up_step moved id with same | ⟨_, _, connected⟩
  · exact same.trans running
  · exact connected

theorem entered_step (grounded : Grounded state) (armed : Armed state)
    (moved : Transition state action next) (id : Bytes) (index : Nat)
    (held : next.mutex = some (.sendPending id index)) : (next.nodes id).up = true := by
  apply up_kept moved
  cases moved with
  | enterPending found _ connected =>
      cases held
      rw [← Resources.processId_of_getProcess found,
        ← grounded.connected _ (Resources.mem_of_getProcess found)]
      exact connected
  | sendPending entered =>
      cases held
      exact armed.entered _ _ entered
  | addExisting | addProcess | writeRequest | addSession | allocateProcess | poll => cases held
  | _ => exact armed.entered id index held

theorem polled_step (placed : Placed state) (armed : Armed state)
    (moved : Transition state action next) (process : Process)
    (member : process ∈ next.plane.resources.processes) (waiting : process.polled = true) :
    (next.nodes process.processId).up = true := by
  apply up_kept moved
  have old : forall {other : Process}, other ∈ state.plane.resources.processes ->
      other.processId = process.processId -> process.polled = other.polled ->
      (state.nodes process.processId).up = true := by
    intro other inside named same
    rw [← named]
    exact armed.polled other inside (same.symm.trans waiting)
  cases processStep_of_transition placed moved member with
  | kept other inside named _ _ same => exact old inside named same
  | polled other index _ _ _ held => exact armed.entered _ index held
  | listing other _ _ inside named _ same => exact old inside named same
  | created _ _ _ unpolled =>
      rw [unpolled] at waiting
      cases waiting
  | removal other inside named _ same => exact old inside named same

theorem armed_initial : Armed State.initial where
  entered := nofun
  polled := nofun

theorem armed_of_run {trace : List (State × Action)} {final : State} (run : Run trace final) :
    Armed final := by
  apply run.traced_invariant (fun _ state => Armed state) armed_initial
  intro earlier source action target reached armed stepped
  have moved := step_transition stepped
  exact ⟨entered_step (grounded_of_run reached) armed moved,
    polled_step (placed_of_run reached) armed moved⟩

/-! ## What can go on -/

theorem exists_unused (used : List Bytes) : Exists fun id => id ∉ used := by
  rcases Infinite.exists_notMem_finset used.toFinset with ⟨id, unused⟩
  exact ⟨id, fun member => unused (List.mem_toFinset.mpr member)⟩

/-- The section that holds the mutex has a next step. -/
theorem section_enabled (grounded : Grounded state) {index : Nat}
    (opened : Opened index state.mutex) :
    Exists fun next => step state (.client index []) = some next := by
  have present := (grounded.inside index).mpr opened
  apply Option.isSome_iff_exists.mp
  simp only [step, present, clientStep]
  cases held : state.mutex with
  | none =>
      rw [held] at opened
      exact False.elim opened
  | some entered =>
      rw [held] at opened
      cases entered with
      | sendPending => exact False.elim opened
      | writeRequest owner | addSession owner | allocateProcess owner =>
          have own : owner = index := opened
          simp only [own, if_true, Option.isSome_some]

/-- Without a section, every client that has not returned has a next step. -/
theorem client_enabled (grounded : Grounded state) (free : state.mutex = none) {index : Nat}
    {client : Client} (present : state.clients[index]? = some client)
    (unreturned : forall reply, client ≠ .returned reply) :
    Exists fun uuid => Exists fun next => step state (.client index uuid) = some next := by
  rcases exists_unused state.used with ⟨uuid, unused⟩
  refine ⟨uuid, Option.isSome_iff_exists.mp ?_⟩
  simp only [step, present]
  cases client with
  | addExisting placement id =>
      have listed := grounded.reserved placement id (List.mem_of_getElem? present)
      rcases Resources.exists_getProcess listed with ⟨process, found⟩
      simp only [clientStep, free, found, Option.isSome_none, Option.isNone_some,
        Bool.false_eq_true, or_self, if_false, Option.isSome_some]
  | inSection =>
      have opened := (grounded.inside index).mp present
      exact False.elim (not_opened_of_free free opened)
  | recordDetails | addProcess =>
      simp only [clientStep, free, unused, Option.isSome_none, Bool.false_eq_true, or_self, if_false,
        Option.isSome_some]
  | returned reply => exact False.elim (unreturned reply rfl)
  | getProcess | checkAlive | takeSwapped | readDetails | findProcess =>
      simp only [clientStep]
      repeat' split
      all_goals rfl
  | markAlive => rfl

/-- No section is open and every client has returned. -/
structure Returned (state : State) : Prop where
  free : state.mutex = none
  clients : forall client, client ∈ state.clients -> Exists fun reply => client = .returned reply

theorem closure_enabled (free : state.mutex = none) {index : Nat} {closure : Closure}
    (present : state.closures[index]? = some closure) (unfinished : closure.stage ≠ .finished) :
    Exists fun next => step state (.closure index) = some next := by
  apply Option.isSome_iff_exists.mp
  simp only [step, present, closureStep, free]
  cases stage : closure.stage with
  | finished => exact False.elim (unfinished stage)
  | _ => rfl

/-- Moreover every closure is finished. -/
structure Finished (state : State) : Prop where
  returned : Returned state
  closures : forall closure, closure ∈ state.closures -> closure.stage = .finished

def unread (state : State) (id : Bytes) : List SessionRequest :=
  (state.plane.outgoing id).drop (state.nodes id).consumed

/-- The system is at rest, where the workers `absent` are those that never start:
every call has returned, every closure is handled, every worker is polled by the
control plane or is one that never starts, and no request or message is left on
any connection. -/
structure Rested (absent : Bytes -> Prop) (state : State) : Prop where
  finished : Finished state
  workers : forall process, process ∈ state.plane.resources.processes ->
    (process.polled = true ∧ (state.nodes process.processId).up = true) ∨
      (absent process.processId ∧ (state.nodes process.processId).up = false)
  requests : forall id, unread state id = []
  silent : forall id, Silent (state.nodes id)

/-- With all closures finished, the connection of no process is disarmed. -/
theorem handling_of_finished (finished : Finished state) (id : Bytes) :
    handling state id = false := by
  unfold handling
  rw [List.any_eq_false]
  intro closure member handled
  exact (of_decide_eq_true handled).2 (finished.closures closure member)

end Progress
end System
end Praas
