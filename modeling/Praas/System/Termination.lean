import Praas.System.Progress

namespace Praas
namespace System

open Library
open ControlPlane
open Praas.Runtime

/-!
# Every run comes to rest

A call is paid for once, when it is made, and every step that a thread, a
process worker or a connection takes afterwards uses up a part of it.  The steps
of a run are therefore bounded by its calls, however the threads are scheduled,
and a state in which none of them can take a step is at rest.  So from every
reachable state the system can be brought to rest, by any of these steps in any
order.

Some workers may never start.  The sessions that were placed on them wait for
ever, and nothing else does.  No connection between the control plane and a
worker ends or fails, no write to one waits for its reader, and the pool of the
control plane has a thread for every task.
-/

namespace Termination

open Progress

variable {state next : State} {action : Action}

/-- The steps that the threads, the process workers and the connections take by
themselves. -/
def driven : Action -> Bool
  | .client _ _ => true
  | .connect _ _ => true
  | .enterPending _ => true
  | .sendPending => true
  | .receive _ _ => true
  | .answer _ => true
  | .writeClosure _ _ => true
  | .deliver _ => true
  | .closure _ => true
  | _ => false

/-- The steps that are counted: those, and the ends of children that a worker
has in its list. -/
def works (state : State) : Action -> Bool
  | .sessionDeleted processId pid _ => ((state.nodes processId).worker.deletedEntry pid).isSome
  | action => driven action

def calls (_state : State) : Action -> Bool
  | .call _ => true
  | _ => false

/-! ## What is left to do -/

def stageSteps : ClosureStage -> Nat
  | .remove => 4
  | .unmarkOwn => 3
  | .addSwapped => 2
  | .unmark => 1
  | .finished => 0

def closureSteps (state : State) : Nat :=
  total (fun closure => stageSteps closure.stage) state.closures

/-- A message is read, and the closure that it may announce is handled. -/
def messageWork : Nat := 1 + stageSteps .remove

/-- An answer or a closure is written. -/
def writingWork : Nat := 1 + messageWork

def childWork : Nat := 1 + writingWork

/-- A request is read and answered, and the child that it may start ends. -/
def requestWork : Nat := 1 + (writingWork + childWork)

/-- The loop of `process_process` comes to a session and sends its request. -/
def listedWork : Nat := 1 + requestWork

/-- A process waits for its loop. -/
def waitingWork (process : Process) : Nat :=
  if process.polled then 0 else 2 + listedWork * process.sessions.length

/-- The loop may run for the process. -/
def processWork : Option Section -> Process -> Nat
  | some (.sendPending id index), process =>
      if process.processId = id then 1 + listedWork * (process.sessions.length - index)
      else waitingWork process
  | _, process => waitingWork process

/-- A worker that was asked for connects. -/
def startedWork (nodes : Bytes -> Node) (entry : Bytes × Int) : Nat :=
  if (nodes entry.1).up then 0 else 1

/-- The section of a client up to its end, and `markAlive`. -/
def sectionWork : Option Section -> Nat
  | some (.writeRequest _ _ _) => 1 + requestWork + 1
  | some (.addSession _ _ _) => 1 + listedWork + (1 + 1 + 1)
  | some (.allocateProcess _ _ _) => 1 + 1 + 1
  | _ => 0

def clientWork : Client -> Nat
  | .getProcess _ => 7 + listedWork + requestWork + 1
  | .checkAlive _ _ => 6 + listedWork + requestWork + 1
  | .takeSwapped _ _ => 5 + listedWork + requestWork + 1
  | .readDetails _ _ => 4 + listedWork + requestWork + 1
  | .recordDetails _ _ => 4 + listedWork + requestWork + 1
  | .findProcess _ => 3 + listedWork + requestWork + 1
  | .addExisting _ _ => 2 + listedWork + requestWork + 1
  | .addProcess _ => 7 + listedWork
  | .inSection => 0
  | .markAlive _ => 1
  | .returned _ => 0

def callWork : Nat := 7 + listedWork + requestWork + 1

/-- The children of a worker, and both directions of its connection. -/
def nodeWork (node : Node) (outgoing : List SessionRequest) : Nat :=
  requestWork * (outgoing.drop node.consumed).length +
    writingWork * node.answering.toList.length + writingWork * node.closing.length +
    messageWork * node.outbox.length +
    if node.up then childWork * node.worker.sessions.length else 0

def nodesWork (nodes : Bytes -> Node) (outgoing : Bytes -> List SessionRequest)
    (ids : List Bytes) : Nat :=
  total (fun id => nodeWork (nodes id) (outgoing id)) ids

/-- The work that the tables and the connections stand for: requests and messages
that are on the way, sessions that wait for a worker, and workers that have not
connected. -/
def planeWork (nodes : Bytes -> Node) (mutex : Option Section) (plane : Plane) : Nat :=
  total (processWork mutex) plane.resources.processes + total (startedWork nodes) plane.started +
    nodesWork nodes plane.outgoing plane.resources.processIds

/-- The work of the whole system: an upper bound on the number of steps that it
can take by itself.  Every such step lowers it by at least one, the end of a
child does not raise it, and a call raises it by `callWork`. -/
def remainingWork (state : State) : Nat :=
  total clientWork state.clients + sectionWork state.mutex +
    planeWork state.nodes state.mutex state.plane + closureSteps state

/-! ## The tables -/

theorem waitingWork_of_sessions (process : Process) {sessions : List Bytes} (extra : Nat)
    (longer : sessions.length ≤ process.sessions.length + extra) :
    waitingWork { process with sessions := sessions } ≤ waitingWork process + listedWork * extra := by
  unfold waitingWork
  dsimp only
  split
  · exact Nat.zero_le _
  · have scaled := Nat.mul_le_mul_left listedWork longer
    rw [Nat.mul_add] at scaled
    omega

/-- Neither the counter of a process nor its socket is looked at. -/
theorem processWork_congr (mutex : Option Section) {process other : Process}
    (processId : other.processId = process.processId) (polled : other.polled = process.polled)
    (sessions : other.sessions = process.sessions) :
    processWork mutex other = processWork mutex process := by
  have waiting : waitingWork other = waitingWork process := by
    unfold waitingWork
    rw [polled, sessions]
  unfold processWork
  split
  · rw [processId, sessions, waiting]
  · exact waiting

theorem processWork_getFreeProcess (mutex : Option Section) (resources : Resources) (id : Bytes) :
    total (processWork mutex) (resources.getFreeProcess id).2.processes =
      total (processWork mutex) resources.processes := by
  unfold Resources.getFreeProcess
  split
  · rfl
  · apply total_updateFirst
    intro process
    exact processWork_congr mutex rfl rfl rfl

theorem processWork_connect (mutex : Option Section) (plane : Plane) (id : Bytes) :
    total (processWork mutex) (plane.connect id).resources.processes =
      total (processWork mutex) plane.resources.processes := by
  apply total_updateFirst
  intro process
  exact processWork_congr mutex rfl rfl rfl

/-- Outside the loop only the processes that wait for it count. -/
theorem processWork_unlooped {mutex : Option Section}
    (unlooped : forall id index, mutex ≠ some (.sendPending id index)) :
    processWork mutex = waitingWork := by
  funext process
  unfold processWork
  split
  · exact False.elim (unlooped _ _ rfl)
  · rfl

/-- Two sections that treat the other processes alike. -/
theorem processWork_exchange {resources : Resources} (distinct : resources.processIds.Nodup)
    {id : Bytes} {process : Process} (found : resources.getProcess id = some process)
    (first second : Option Section)
    (agree : forall other : Process, other.processId ≠ id ->
      processWork first other = processWork second other) :
    total (processWork first) resources.processes + processWork second process =
      total (processWork second) resources.processes + processWork first process := by
  apply total_exchange distinct (Resources.mem_of_getProcess found)
  intro other different
  rw [Resources.processId_of_getProcess found] at different
  exact agree other different

theorem processWork_enter {resources : Resources} (distinct : resources.processIds.Nodup)
    {id : Bytes} {process : Process} (found : resources.getProcess id = some process)
    (waiting : process.polled = false) :
    total (processWork (some (.sendPending id 0))) resources.processes + 1 =
      total (processWork none) resources.processes := by
  have exchanged := processWork_exchange distinct found (some (.sendPending id 0)) none
    (fun other different => if_neg different)
  simp only [processWork, waitingWork, waiting, Resources.processId_of_getProcess found, if_true,
    Bool.false_eq_true, if_false, Nat.sub_zero] at exchanged
  omega

theorem processWork_next {resources : Resources} (distinct : resources.processIds.Nodup)
    {id : Bytes} {process : Process} (found : resources.getProcess id = some process)
    {index : Nat} (more : index < process.sessions.length) :
    total (processWork (some (.sendPending id (index + 1)))) resources.processes + listedWork =
      total (processWork (some (.sendPending id index))) resources.processes := by
  have exchanged := processWork_exchange distinct found (some (.sendPending id (index + 1)))
    (some (.sendPending id index))
    (fun other different => (if_neg different).trans (if_neg different).symm)
  have left : process.sessions.length - index = process.sessions.length - (index + 1) + 1 := by
    omega
  simp only [processWork, Resources.processId_of_getProcess found, if_true] at exchanged
  rw [left, Nat.mul_add, Nat.mul_one] at exchanged
  omega

theorem processWork_poll {plane : Plane} (distinct : plane.resources.processIds.Nodup)
    {id : Bytes} {process : Process} (found : plane.resources.getProcess id = some process)
    (index : Nat) :
    total (processWork none) (plane.poll id).resources.processes + 1 ≤
      total (processWork (some (.sendPending id index))) plane.resources.processes := by
  have polled := total_updateFirst_found (processWork none)
    (fun process : Process => { process with polled := true }) found
  have exchanged := processWork_exchange distinct found (some (.sendPending id index)) none
    (fun other different => if_neg different)
  have entered : 1 ≤ processWork (some (.sendPending id index)) process := by
    simp only [processWork, Resources.processId_of_getProcess found, if_true]
    exact Nat.le_add_right _ _
  have done : processWork none { process with polled := true } = 0 := by
    simp only [processWork, waitingWork, if_true]
  change total _ (updateFirst _ _ _) + 1 ≤ _
  omega

/-! ## The workers -/

theorem nodesWork_exchange {ids : List Bytes} (distinct : ids.Nodup) {id : Bytes} (member : id ∈ ids)
    (nodes moved : Bytes -> Node) (outgoing written : Bytes -> List SessionRequest)
    (others : forall other, other ≠ id -> moved other = nodes other ∧ written other = outgoing other) :
    nodesWork moved written ids + nodeWork (nodes id) (outgoing id) =
      nodesWork nodes outgoing ids + nodeWork (moved id) (written id) := by
  apply total_exchange (by rw [List.map_id']; exact distinct) member
  intro other different
  rw [(others other different).1, (others other different).2]

theorem nodesWork_setNode {ids : List Bytes} (distinct : ids.Nodup) {id : Bytes} (member : id ∈ ids)
    (nodes : Bytes -> Node) (node : Node) (outgoing : Bytes -> List SessionRequest) :
    nodesWork (Function.update nodes id node) outgoing ids + nodeWork (nodes id) (outgoing id) =
      nodesWork nodes outgoing ids + nodeWork node (outgoing id) := by
  have exchanged := nodesWork_exchange distinct member nodes (Function.update nodes id node) outgoing
    outgoing
    (fun other different => ⟨Function.update_of_ne different _ _, rfl⟩)
  rw [Function.update_self] at exchanged
  exact exchanged

/-- A request adds its work when it is written. -/
theorem nodesWork_writeRequest {plane : Plane} (distinct : plane.resources.processIds.Nodup)
    (nodes : Bytes -> Node) (id sessionId : Bytes) :
    nodesWork nodes (plane.writeRequest id sessionId).outgoing plane.resources.processIds ≤
      nodesWork nodes plane.outgoing plane.resources.processIds + requestWork := by
  rw [Plane.outgoing_writeRequest]
  cases found : plane.resources.getProcess id with
  | none =>
      have unwritten : plane.written id sessionId = [] := by
        unfold Plane.written Resources.isConnected
        rw [found]
        exact if_neg Bool.false_ne_true
      rw [unwritten, List.append_nil, Function.update_eq_self]
      exact Nat.le_add_right _ _
  | some process =>
      have exchanged := nodesWork_exchange distinct (mem_processIds_of_getProcess found) nodes nodes
        plane.outgoing
        (Function.update plane.outgoing id (plane.outgoing id ++ plane.written id sessionId))
        (fun other different => ⟨rfl, Function.update_of_ne different _ _⟩)
      have short : (plane.written id sessionId).length ≤ 1 := by
        unfold Plane.written
        repeat' split
        all_goals simp only [List.length_nil, List.length_singleton, Nat.zero_le, Nat.le_refl]
      have longer : ((plane.outgoing id ++ plane.written id sessionId).drop
          (nodes id).consumed).length ≤ ((plane.outgoing id).drop (nodes id).consumed).length + 1 := by
        simp only [List.length_drop, List.length_append]
        omega
      have scaled := Nat.mul_le_mul_left requestWork longer
      rw [Nat.mul_add, Nat.mul_one] at scaled
      rw [Function.update_self] at exchanged
      unfold nodeWork at exchanged
      omega

theorem planeWork_congr {nodes moved : Bytes -> Node} {mutex : Option Section} {plane : Plane}
    (same : forall id, (moved id).up = (nodes id).up ∧
      nodeWork (moved id) (plane.outgoing id) = nodeWork (nodes id) (plane.outgoing id)) :
    planeWork moved mutex plane = planeWork nodes mutex plane := by
  have started : startedWork moved = startedWork nodes := by
    funext entry
    unfold startedWork
    rw [(same entry.1).1]
  have connections : (fun id => nodeWork (moved id) (plane.outgoing id)) =
      fun id => nodeWork (nodes id) (plane.outgoing id) := funext (fun id => (same id).2)
  unfold planeWork nodesWork
  rw [started, connections]

theorem planeWork_setNode {nodes : Bytes -> Node} (mutex : Option Section) {plane : Plane}
    (distinct : plane.resources.processIds.Nodup) {id : Bytes}
    (member : id ∈ plane.resources.processIds) {node : Node} (same : node.up = (nodes id).up) :
    planeWork (Function.update nodes id node) mutex plane + nodeWork (nodes id) (plane.outgoing id) =
      planeWork nodes mutex plane + nodeWork node (plane.outgoing id) := by
  have exchanged := nodesWork_setNode distinct member nodes node plane.outgoing
  have started : startedWork (Function.update nodes id node) = startedWork nodes := by
    funext entry
    unfold startedWork
    by_cases own : entry.1 = id
    · rw [own, Function.update_self, same]
    · rw [Function.update_of_ne own]
  unfold planeWork
  rw [started]
  omega

theorem planeWork_connect {nodes : Bytes -> Node} (mutex : Option Section) {plane : Plane}
    (distinct : plane.resources.processIds.Nodup) {id : Bytes}
    (member : id ∈ plane.resources.processIds) {entry : Bytes × Int}
    (asked : entry ∈ plane.started) (named : entry.1 = id) (down : (nodes id).up = false)
    {node : Node} (up : node.up = true)
    (same : nodeWork node (plane.outgoing id) = nodeWork (nodes id) (plane.outgoing id)) :
    planeWork (Function.update nodes id node) mutex (plane.connect id) + 1 ≤
      planeWork nodes mutex plane := by
  have exchanged := nodesWork_setNode distinct member nodes node plane.outgoing
  have started : total (startedWork (Function.update nodes id node)) plane.started <
      total (startedWork nodes) plane.started := by
    apply total_lt asked
    · simp only [startedWork, named, Function.update_self, down, up, if_true, Bool.false_eq_true,
        if_false]
      exact Nat.zero_lt_one
    · intro other
      unfold startedWork
      by_cases own : other.1 = id
      · rw [own, Function.update_self, if_pos up]
        exact Nat.zero_le _
      · rw [Function.update_of_ne own]
  unfold planeWork
  rw [processWork_connect, Plane.processIds_connect]
  change _ + total _ plane.started + nodesWork _ plane.outgoing _ + 1 ≤ _
  omega

/-! ## The operations -/

/-- The mutex matters while it is held by the loop. -/
theorem planeWork_unlooped (nodes : Bytes -> Node) (plane : Plane) {mutex other : Option Section}
    (unlooped : forall id index, mutex ≠ some (.sendPending id index))
    (apart : forall id index, other ≠ some (.sendPending id index)) :
    planeWork nodes mutex plane = planeWork nodes other plane := by
  unfold planeWork
  rw [processWork_unlooped unlooped, processWork_unlooped apart]

/-- A listed session is work for the loop, unless the loop has run. -/
theorem planeWork_addSession (nodes : Bytes -> Node) (plane : Plane) {mutex : Option Section}
    (unlooped : forall id index, mutex ≠ some (.sendPending id index)) (placement : Placement)
    (id : Bytes) :
    planeWork nodes mutex (plane.addSession placement id) ≤
      planeWork nodes mutex plane + listedWork := by
  have listed : total waitingWork (plane.addSession placement id).resources.processes ≤
      total waitingWork plane.resources.processes + listedWork := by
    apply total_updateFirst_le
    intro process
    have more : (process.sessions ++ [placement.sessionId]).length ≤ process.sessions.length + 1 :=
      Nat.le_of_eq List.length_append
    have work := waitingWork_of_sessions process 1 more
    rw [Nat.mul_one] at work
    exact work
  unfold planeWork
  rw [processWork_unlooped unlooped, Plane.processIds_addSession]
  change _ + total (startedWork nodes) plane.started + nodesWork nodes plane.outgoing _ ≤ _
  omega

theorem planeWork_removeSession (nodes : Bytes -> Node) (plane : Plane) {mutex : Option Section}
    (unlooped : forall id index, mutex ≠ some (.sendPending id index)) (id sessionId : Bytes) :
    planeWork nodes mutex { plane with resources := plane.resources.removeSession id sessionId } ≤
      planeWork nodes mutex plane := by
  have shorter : total waitingWork (plane.resources.removeSession id sessionId).processes ≤
      total waitingWork plane.resources.processes := by
    change _ ≤ _ + 0
    apply total_updateFirst_le
    intro process
    unfold Process.removeSession
    split
    · exact waitingWork_of_sessions process 0 List.length_erase_le
    · exact Nat.le_refl _
  unfold planeWork
  rw [processWork_unlooped unlooped, Resources.processIds_removeSession]
  dsimp only
  omega

theorem planeWork_getFreeProcess (nodes : Bytes -> Node) (mutex : Option Section) (plane : Plane)
    (id : Bytes) :
    planeWork nodes mutex { plane with resources := (plane.resources.getFreeProcess id).2 } =
      planeWork nodes mutex plane := by
  unfold planeWork
  dsimp only
  rw [processWork_getFreeProcess, Resources.processIds_getFreeProcess]

theorem planeWork_writeRequest (nodes : Bytes -> Node) (mutex : Option Section) {plane : Plane}
    (distinct : plane.resources.processIds.Nodup) (id sessionId : Bytes) :
    planeWork nodes mutex (plane.writeRequest id sessionId) ≤
      planeWork nodes mutex plane + requestWork := by
  have written := nodesWork_writeRequest distinct nodes id sessionId
  unfold planeWork
  rw [Plane.processes_writeRequest, Plane.started_writeRequest, Plane.processIds_writeRequest]
  omega

theorem planeWork_addProcess {nodes : Bytes -> Node} {plane : Plane} {mutex : Option Section}
    (unlooped : forall id index, mutex ≠ some (.sendPending id index)) {id : Bytes}
    (absent : id ∉ plane.resources.processIds) (down : (nodes id).up = false)
    (unwritten : plane.outgoing id = []) (silent : Silent (nodes id)) (placement : Placement) :
    planeWork nodes mutex (plane.addProcess placement id) ≤ planeWork nodes mutex plane + 2 := by
  have idle : nodeWork (nodes id) (plane.outgoing id) = 0 := by
    simp only [nodeWork, unwritten, silent.answering, silent.closing, silent.outbox, down,
      List.drop_nil, List.length_nil, Option.toList_none, Nat.mul_zero, Bool.false_eq_true, if_false]
  have ids := Plane.processIds_addProcess absent placement
  have processes : (plane.addProcess placement id).resources.processes =
      plane.resources.processes ++ [Plane.newProcess placement id] := by
    rw [Plane.resources_addProcess absent]
  unfold planeWork
  rw [ids, processes, processWork_unlooped unlooped]
  change _ + total (startedWork nodes) plane.started + nodesWork nodes plane.outgoing _ ≤ _
  simp only [nodesWork, total_append, total_cons, total_nil, idle]
  change _ + 2 + 0 + _ + _ ≤ _
  omega

theorem planeWork_allocateProcess (nodes : Bytes -> Node) (mutex : Option Section) (plane : Plane)
    (id : Bytes) :
    planeWork nodes mutex (plane.allocateProcess id) ≤ planeWork nodes mutex plane + 1 := by
  have started : total (startedWork nodes) (plane.allocateProcess id).started ≤
      total (startedWork nodes) plane.started + 1 := by
    unfold Plane.allocateProcess
    rw [total_append, total_cons, total_nil]
    unfold startedWork
    split <;> omega
  unfold planeWork
  change total _ plane.resources.processes + _ + nodesWork nodes plane.outgoing
    plane.resources.processIds ≤ _
  omega

/-! ## Every step uses up work -/

theorem unlooped_of_free {mutex : Option Section} (free : mutex = none) (id : Bytes) (index : Nat) :
    mutex ≠ some (.sendPending id index) := by
  rw [free]
  exact nofun

/-- A section of a client is not the loop. -/
theorem unlooped_of_opened {mutex : Option Section} {owner : Nat} (opened : Opened owner mutex)
    (id : Bytes) (index : Nat) : mutex ≠ some (.sendPending id index) := by
  rintro rfl
  exact opened

theorem remainingWork_client (registered : Registered state) (grounded : Grounded state)
    {index : Nat} {uuid : Bytes} (moved : Transition state (.client index uuid) next) :
    remainingWork next + 1 ≤ remainingWork state := by
  cases moved with
  | quiet whole quiet =>
      simp only [remainingWork, closureSteps, whole, total_append, total_cons]
      cases quiet <;> simp only [clientWork] <;> omega
  | takeSwapped whole | recordDetails whole =>
      simp only [remainingWork, closureSteps, State.setRedis, whole, total_append, total_cons,
        clientWork]
      change _ + planeWork state.nodes state.mutex state.plane + _ + _ ≤ _
      omega
  | allBusy whole =>
      have enough : 4 ≤ requestWork := by decide
      simp only [remainingWork, closureSteps, whole, total_append, total_cons, clientWork]
      omega
  | markAlive whole =>
      simp only [remainingWork, closureSteps, whole, total_append, total_cons, clientWork]
      change _ + planeWork state.nodes state.mutex state.plane + _ + _ ≤ _
      omega
  | @reserve before after placement process _ whole =>
      have kept := planeWork_getFreeProcess state.nodes state.mutex state.plane placement.processId
      simp only [remainingWork, closureSteps, State.setResources, whole, total_append, total_cons,
        clientWork]
      omega
  | @addExisting before after placement processId uuid whole free found =>
      have listed := planeWork_addSession state.nodes state.plane
        (unlooped_of_free free) placement processId
      have entering : Opened before.length
        (some (.writeRequest before.length placement processId)) := rfl
      have entered := planeWork_unlooped state.nodes (state.plane.addSession placement processId)
        (unlooped_of_opened entering) (unlooped_of_free free)
      simp only [remainingWork, closureSteps, whole, total_append, total_cons, clientWork,
        sectionWork, entered]
      omega
  | @addProcess before after placement uuid whole free unused =>
      have absent := registered.absent unused
      have down : (state.nodes uuid).up = false :=
        Bool.eq_false_iff.mpr (fun running => absent (grounded.known uuid running))
      have silent := grounded.silent uuid down
      have added := planeWork_addProcess (unlooped_of_free free) absent down silent.1 silent.2
        placement
      have entering : Opened before.length (some (.addSession before.length placement uuid)) := rfl
      have entered := planeWork_unlooped state.nodes (state.plane.addProcess placement uuid)
        (unlooped_of_opened entering) (unlooped_of_free free)
      simp only [remainingWork, closureSteps, whole, total_append, total_cons, clientWork,
        sectionWork, entered]
      omega
  | @writeRequest before after placement processId _ whole held =>
      have opened : Opened before.length state.mutex := held ▸ rfl
      have written := planeWork_writeRequest state.nodes none registered.distinct processId placement.sessionId
      have left := planeWork_unlooped state.nodes state.plane (unlooped_of_free rfl)
        (unlooped_of_opened opened)
      simp only [remainingWork, closureSteps, whole, total_append, total_cons, clientWork]
      simp only [held, sectionWork] at left ⊢
      omega
  | @addSession before after placement processId _ whole held =>
      have opened : Opened before.length state.mutex := held ▸ rfl
      have listed := planeWork_addSession state.nodes state.plane
        (unlooped_of_opened opened) placement processId
      have entering : Opened before.length
        (some (.allocateProcess before.length placement processId)) := rfl
      have moved := planeWork_unlooped state.nodes (state.plane.addSession placement processId)
        (unlooped_of_opened entering) (unlooped_of_opened opened)
      simp only [remainingWork, closureSteps, moved]
      simp only [held, sectionWork] at listed ⊢
      omega
  | @allocateProcess before after placement processId _ whole held =>
      have opened : Opened before.length state.mutex := held ▸ rfl
      have asked := planeWork_allocateProcess state.nodes none state.plane processId
      have left := planeWork_unlooped state.nodes state.plane (unlooped_of_free rfl)
        (unlooped_of_opened opened)
      simp only [remainingWork, closureSteps, whole, total_append, total_cons, clientWork]
      simp only [held, sectionWork] at left ⊢
      omega

/-- A request starts at most one child. -/
theorem length_allocateSession_le (worker : Worker) (store : ObjectStore)
    (request : SessionRequest) (calls : Syscalls) :
    (worker.allocateSession store request calls).2.sessions.length ≤ worker.sessions.length + 1 := by
  unfold Worker.allocateSession
  split
  · exact Nat.le_add_right _ _
  · split
    · exact Nat.le_add_right _ _
    · exact Nat.le_of_eq List.length_append

theorem length_sessionDeleted {worker : Worker} {pid : Int} {entry : SessionFork}
    (found : worker.deletedEntry pid = some entry) (store : ObjectStore) (putObject : Bool) :
    (worker.sessionDeleted store pid putObject).1.sessions.length + 1 = worker.sessions.length := by
  have member := List.mem_of_find?_eq_some found
  have removed := List.length_eraseP_of_mem member (List.find?_some found)
  have positive := List.length_pos_of_mem member
  simp only [Worker.sessionDeleted, found, eraseFork_kept]
  omega

theorem up_of_busy (grounded : Grounded state) {id : Bytes} (busy : ¬ Silent (state.nodes id)) :
    id ∈ state.plane.resources.processIds := by
  apply grounded.known
  by_contra down
  exact busy (grounded.silent id (Bool.eq_false_iff.mpr down)).2

/-- A process worker or its connection takes a step. -/
theorem remainingWork_worker (registered : Registered state) (spent announced : Nat) {id : Bytes}
    {node : Node} (plane : next.plane = state.plane) (mutex : next.mutex = state.mutex)
    (clients : next.clients = state.clients)
    (nodes : next.nodes = Function.update state.nodes id node)
    (handled : closureSteps next = closureSteps state + announced)
    (member : id ∈ state.plane.resources.processIds) (same : node.up = (state.nodes id).up)
    (less : spent + nodeWork node (state.plane.outgoing id) + announced ≤
      nodeWork (state.nodes id) (state.plane.outgoing id)) :
    spent + remainingWork next ≤ remainingWork state := by
  have moved := planeWork_setNode state.mutex registered.distinct member same
  unfold remainingWork
  rw [plane, mutex, clients, nodes, handled]
  omega

theorem remainingWork_receive (registered : Registered state) (grounded : Grounded state)
    {processId : Bytes} {calls : Syscalls} (moved : Transition state (.receive processId calls) next) :
    1 + remainingWork next ≤ remainingWork state := by
  cases moved with
  | @receive _ _ request up pending =>
      have children := Nat.mul_le_mul_left childWork (length_allocateSession_le
        (state.nodes processId).worker state.store request calls)
      have unread : ((state.plane.outgoing processId).drop
          (state.nodes processId).consumed).length = ((state.plane.outgoing processId).drop
          ((state.nodes processId).consumed + 1)).length + 1 := by
        have more := (List.getElem?_eq_some_iff.mp pending).1
        simp only [List.length_drop]
        omega
      have costs : requestWork = 1 + (writingWork + childWork) := rfl
      refine remainingWork_worker registered 1 0 rfl rfl rfl rfl rfl (grounded.known processId up)
        rfl ?_
      simp only [nodeWork, unread, up, if_true, Option.toList_some, List.length_singleton,
        Nat.mul_add, Nat.mul_one] at children ⊢
      omega

theorem remainingWork_answer (registered : Registered state) (grounded : Grounded state)
    {processId : Bytes} (moved : Transition state (.answer processId) next) :
    1 + remainingWork next ≤ remainingWork state := by
  cases moved with
  | answer waiting =>
      have busy : ¬ Silent (state.nodes processId) := by
        intro silent
        rw [silent.answering] at waiting
        cases waiting
      have costs : writingWork = 1 + messageWork := rfl
      refine remainingWork_worker registered 1 0 rfl rfl rfl rfl rfl (up_of_busy grounded busy) rfl ?_
      simp only [nodeWork, waiting, Option.toList_some, Option.toList_none, List.length_append,
        List.length_singleton, List.length_nil, Nat.mul_add, Nat.mul_one, Nat.mul_zero]
      omega

/-- The end of a child that the worker knows. -/
theorem remainingWork_sessionDeleted (registered : Registered state) (grounded : Grounded state)
    {processId : Bytes} {pid : Int} {putObject : Bool}
    (moved : Transition state (.sessionDeleted processId pid putObject) next) :
    (works state (.sessionDeleted processId pid putObject)).toNat + remainingWork next ≤
      remainingWork state := by
  cases moved with
  | deletedNothing absent =>
      simp only [works, absent, Option.isSome_none, Bool.toNat_false, Nat.zero_add, Nat.le_refl]
  | @sessionDeleted _ _ _ entry message up found closing =>
      have children := length_sessionDeleted found state.store putObject
      have costs : childWork = 1 + writingWork := rfl
      simp only [works, found, Option.isSome_some, Bool.toNat_true]
      refine remainingWork_worker registered 1 0 rfl rfl rfl rfl rfl (grounded.known processId up)
        rfl ?_
      simp only [nodeWork, up, if_true, ← children, List.length_append, List.length_singleton,
        Nat.mul_add, Nat.mul_one]
      omega

theorem remainingWork_writeClosure (registered : Registered state) (grounded : Grounded state)
    {processId : Bytes} {index : Nat} (moved : Transition state (.writeClosure processId index) next) :
    1 + remainingWork next ≤ remainingWork state := by
  cases moved with
  | writeClosure whole =>
      have busy : ¬ Silent (state.nodes processId) := by
        intro silent
        rw [silent.closing] at whole
        simp at whole
      have costs : writingWork = 1 + messageWork := rfl
      refine remainingWork_worker registered 1 0 rfl rfl rfl rfl rfl (up_of_busy grounded busy) rfl ?_
      simp only [nodeWork, whole, List.length_append, List.length_cons, List.length_nil,
        Nat.mul_add, Nat.mul_one, Nat.mul_zero]
      omega

theorem remainingWork_deliver (registered : Registered state) (grounded : Grounded state)
    {processId : Bytes} (moved : Transition state (.deliver processId) next) :
    1 + remainingWork next ≤ remainingWork state := by
  have busy : forall {message : StatusMessage} {rest : List StatusMessage},
      (state.nodes processId).outbox = message :: rest -> ¬ Silent (state.nodes processId) := by
    intro message rest queued silent
    rw [silent.outbox] at queued
    cases queued
  have costs : messageWork = 1 + stageSteps .remove := rfl
  cases moved with
  | deliverAnswer queued =>
      refine remainingWork_worker registered 1 0 rfl rfl rfl rfl rfl
        (up_of_busy grounded (busy queued)) rfl ?_
      simp only [nodeWork, queued, List.length_cons, Nat.mul_add, Nat.mul_one]
      omega
  | deliverClosure found queued =>
      refine remainingWork_worker registered 1 (stageSteps .remove) rfl rfl rfl rfl ?_
        (up_of_busy grounded (busy queued)) rfl ?_
      · simp only [closureSteps, total_append, total_cons, total_nil, Nat.add_zero]
      · simp only [nodeWork, queued, List.length_cons, Nat.mul_add, Nat.mul_one]
        omega

/-- Every step of a closure brings it closer to its end and leaves the clients
and the mutex alone. -/
theorem closureSteps_lt {index : Nat} (moved : Transition state (.closure index) next) :
    closureSteps next < closureSteps state ∧ next.clients = state.clients ∧
      next.mutex = state.mutex := by
  cases moved with
  | remove whole stage | unmarkOwn whole stage | addSwapped whole stage | unmark whole stage =>
      refine ⟨?_, rfl, rfl⟩
      simp only [closureSteps, State.setResources, State.setRedis, whole, total_append, total_cons,
        stage, stageSteps]
      omega

theorem remainingWork_closure {index : Nat} (moved : Transition state (.closure index) next) :
    1 + remainingWork next ≤ remainingWork state := by
  have less := closureSteps_lt moved
  have plane : planeWork next.nodes next.mutex next.plane ≤
      planeWork state.nodes state.mutex state.plane := by
    cases moved with
    | remove whole stage free =>
        exact planeWork_removeSession state.nodes state.plane (unlooped_of_free free) _ _
    | unmarkOwn | addSwapped | unmark => exact Nat.le_refl _
  unfold remainingWork
  rw [less.2.1, less.2.2]
  rw [less.2.2] at plane
  omega

theorem remainingWork_connect (registered : Registered state) (grounded : Grounded state)
    {processId : Bytes} {swapper : S3Swapper}
    (moved : Transition state (.connect processId swapper) next) :
    1 + remainingWork next ≤ remainingWork state := by
  cases moved with
  | @connect _ _ entry found down =>
      have asked := List.mem_of_find?_eq_some found
      have named : entry.1 = processId := by
        have matched := List.find?_some found
        exact of_decide_eq_true matched
      -- the worker has no children yet
      have same : nodeWork { state.nodes processId with
          up := true, worker := Worker.start entry.2 swapper } (state.plane.outgoing processId) =
          nodeWork (state.nodes processId) (state.plane.outgoing processId) := by
        simp only [nodeWork, down, Worker.start, List.length_nil, Nat.mul_zero, if_true,
          Bool.false_eq_true, if_false]
      have less := planeWork_connect state.mutex registered.distinct
        (grounded.asked processId (asked_of_found found)) asked named down rfl same
      dsimp only [remainingWork, closureSteps, State.setNode] at less ⊢
      omega

theorem remainingWork_enterPending (registered : Registered state) {processId : Bytes}
    (moved : Transition state (.enterPending processId) next) :
    1 + remainingWork next ≤ remainingWork state := by
  cases moved with
  | enterPending found free connected waiting =>
      have less := processWork_enter registered.distinct found waiting
      simp only [remainingWork, closureSteps, planeWork, free, sectionWork]
      omega

theorem remainingWork_sendPending (registered : Registered state)
    (moved : Transition state .sendPending next) : 1 + remainingWork next ≤ remainingWork state := by
  cases moved with
  | @sendPending processId sessionId index process held found present =>
      have more := (List.getElem?_eq_some_iff.mp present).1
      have less := processWork_next registered.distinct found more
      have written : planeWork state.nodes (some (.sendPending processId (index + 1)))
          (state.plane.sendPending processId sessionId) ≤ planeWork state.nodes
          (some (.sendPending processId (index + 1))) state.plane + requestWork := by
        rcases state.plane.sendPending_cases processId sessionId with ⟨_, same⟩ | ⟨_, same⟩
        · rw [same]
          exact planeWork_writeRequest _ _ registered.distinct processId sessionId
        · rw [same]
          exact Nat.le_add_right _ _
      have costs : listedWork = 1 + requestWork := rfl
      simp only [remainingWork, closureSteps, planeWork, held, sectionWork] at written ⊢
      omega
  | @poll processId index process held found ended =>
      have less := processWork_poll registered.distinct found index
      have ids := Plane.processIds_poll state.plane processId
      simp only [remainingWork, closureSteps, planeWork, held, sectionWork, ids]
      change _ + (_ + (_ + total _ state.plane.started + nodesWork _ state.plane.outgoing _) + _) ≤ _
      omega

theorem remainingWork_touch {processId path contents : Bytes}
    (moved : Transition state (.touch processId path contents) next) :
    remainingWork next = remainingWork state := by
  cases moved with
  | touch =>
      refine congrArg₂ Nat.add (congrArg₂ Nat.add rfl (planeWork_congr ?_)) rfl
      intro id
      dsimp only [State.setNode]
      by_cases own : id = processId
      · rw [own, Function.update_self]
        exact ⟨rfl, rfl⟩
      · rw [Function.update_of_ne own]
        exact ⟨rfl, rfl⟩

theorem remainingWork_reorder {processes : List Process}
    (moved : Transition state (.reorder processes) next) :
    remainingWork next = remainingWork state := by
  cases moved with
  | reorder permuted =>
      have tables := total_perm (processWork state.mutex) permuted
      have nodes := total_perm (fun id => nodeWork (state.nodes id) (state.plane.outgoing id))
        (permuted.map Process.processId)
      simp only [remainingWork, planeWork, nodesWork, closureSteps, State.setResources,
        Resources.processIds, tables, nodes]

/-- Every step that works uses up a part of what is left, and only a call adds
to it. -/
theorem remainingWork_step (registered : Registered state) (grounded : Grounded state)
    (moved : Transition state action next) :
    (works state action).toNat + remainingWork next ≤
      remainingWork state + callWork * (calls state action).toNat := by
  have working : 1 + remainingWork next ≤ remainingWork state ->
      (works state action).toNat + remainingWork next ≤
        remainingWork state + callWork * (calls state action).toNat := by
    intro less
    have one := Bool.toNat_le (works state action)
    omega
  cases action with
  | call call =>
      cases moved
      simp only [works, driven, calls, Bool.toNat_false, Bool.toNat_true, remainingWork, total_append,
        total_cons, total_nil, clientWork, callWork]
      change _ + (_ + sectionWork state.mutex + planeWork state.nodes state.mutex state.plane +
        closureSteps state) ≤ _
      omega
  | client index uuid =>
      exact working (Nat.add_comm _ _ ▸ remainingWork_client registered grounded moved)
  | connect processId swapper => exact working (remainingWork_connect registered grounded moved)
  | enterPending processId => exact working (remainingWork_enterPending registered moved)
  | sendPending => exact working (remainingWork_sendPending registered moved)
  | receive processId calls => exact working (remainingWork_receive registered grounded moved)
  | answer processId => exact working (remainingWork_answer registered grounded moved)
  | sessionDeleted processId pid putObject =>
      exact remainingWork_sessionDeleted registered grounded moved
  | writeClosure processId index =>
      exact working (remainingWork_writeClosure registered grounded moved)
  | deliver processId => exact working (remainingWork_deliver registered grounded moved)
  | closure index => exact working (remainingWork_closure moved)
  | allocate =>
      cases moved
      exact Nat.le_of_eq (Nat.zero_add _)
  | touch processId path contents =>
      exact Nat.le_of_eq ((Nat.zero_add _).trans (remainingWork_touch moved))
  | reorder processes =>
      exact Nat.le_of_eq ((Nat.zero_add _).trans (remainingWork_reorder moved))

/-- A step that the system takes by itself uses up work. -/
theorem remainingWork_lt (registered : Registered state) (grounded : Grounded state)
    (moves : driven action = true) (moved : Transition state action next) :
    remainingWork next < remainingWork state := by
  have paid := remainingWork_step registered grounded moved
  have counted : works state action = true := by
    cases action with
    | sessionDeleted => cases moves
    | _ => exact moves
  have free : calls state action = false := by
    cases action with
    | call => cases moves
    | _ => rfl
  rw [counted, free, Bool.toNat_true, Bool.toNat_false, Nat.mul_zero] at paid
  omega

/-! ## Nothing is left when no step is possible -/

/-- The step is not the start of a worker that never starts. -/
def spares (absent : Bytes -> Prop) : Action -> Prop
  | .connect processId _ => ¬ absent processId
  | _ => True

/-- A state in which no driven step is possible, unless a worker starts that
never does. -/
def Stuck (absent : Bytes -> Prop) (state : State) : Prop :=
  forall action, driven action = true -> spares absent action -> step state action = none

variable {absent : Bytes -> Prop}

theorem Stuck.never (stuck : Stuck absent state) (action : Action) (moves : driven action = true)
    (spared : spares absent action) {property : Prop}
    (stepped : Exists fun next => step state action = some next) : property := by
  rcases stepped with ⟨next, stepped⟩
  rw [stuck action moves spared] at stepped
  cases stepped

theorem free_of_stuck (grounded : Grounded state) (stuck : Stuck absent state) :
    state.mutex = none := by
  cases held : state.mutex with
  | none => rfl
  | some entered =>
      cases entered with
      | writeRequest owner | addSession owner | allocateProcess owner =>
          exact stuck.never (.client owner []) rfl trivial
            (section_enabled grounded (held ▸ rfl : Opened owner state.mutex))
      | sendPending id index =>
          rcases Resources.exists_getProcess (grounded.looping id index held) with ⟨process, found⟩
          refine stuck.never .sendPending rfl trivial (Option.isSome_iff_exists.mp ?_)
          simp only [step, pendingStep, held, found]
          split <;> rfl

theorem finished_of_stuck (grounded : Grounded state) (stuck : Stuck absent state) :
    Finished state := by
  have free := free_of_stuck grounded stuck
  refine ⟨⟨free, fun client member => ?_⟩, fun closure member => ?_⟩
  · by_contra unreturned
    rcases List.getElem?_of_mem member with ⟨index, present⟩
    rcases client_enabled grounded free present
      (fun reply same => unreturned ⟨reply, same⟩) with ⟨uuid, stepped⟩
    exact stuck.never (.client index uuid) rfl trivial stepped
  · by_contra unfinished
    rcases List.getElem?_of_mem member with ⟨index, present⟩
    exact stuck.never (.closure index) rfl trivial (closure_enabled free present unfinished)

/-- A process that waits for its loop can connect, or its loop can be entered,
unless its worker never starts. -/
theorem workers_of_stuck (registered : Registered state) (grounded : Grounded state)
    (armed : Armed state) (stuck : Stuck absent state) (process : Process)
    (member : process ∈ state.plane.resources.processes) :
    (process.polled = true ∧ (state.nodes process.processId).up = true) ∨
      (absent process.processId ∧ (state.nodes process.processId).up = false) := by
  have free := free_of_stuck grounded stuck
  have found := Resources.getProcess_of_mem registered.distinct member
  cases waiting : process.polled with
  | true => exact Or.inl ⟨rfl, armed.polled process member waiting⟩
  | false =>
      cases running : (state.nodes process.processId).up with
      | true =>
          have connected := (grounded.connected process member).trans running
          refine stuck.never (.enterPending process.processId) rfl trivial
            (Option.isSome_iff_exists.mp ?_)
          simp only [step, found, free, connected, waiting, Option.isSome_none, Bool.false_eq_true,
            Bool.true_eq_false, or_self, if_false, Option.isSome_some]
      | false =>
          refine Or.inr ⟨?_, rfl⟩
          by_contra starts
          have listed : process.processId ∈ state.plane.resources.processIds :=
            List.mem_map_of_mem member
          have asked := asked_of_covered (grounded.covered _ listed) (by simp [free])
            (by simp [free])
          have expected : (state.plane.started.find?
              (fun entry => decide (entry.1 = process.processId))).isSome := by
            rcases List.mem_map.mp asked with ⟨entry, inside, same⟩
            exact List.find?_isSome.mpr ⟨entry, inside, decide_eq_true same⟩
          rcases Option.isSome_iff_exists.mp expected with ⟨entry, first⟩
          refine stuck.never (.connect process.processId S3Swapper.new) rfl starts
            (Option.isSome_iff_exists.mp ?_)
          simp only [step, first, running, Bool.false_eq_true, if_false, Option.isSome_some]

/-- A worker that owes something can write it, and a message can be read. -/
theorem silent_of_stuck (registered : Registered state) (grounded : Grounded state)
    (armed : Armed state) (stuck : Stuck absent state) (id : Bytes) : Silent (state.nodes id) := by
  refine ⟨?_, ?_, ?_⟩
  · cases waiting : (state.nodes id).answering with
    | none => rfl
    | some answer =>
        refine stuck.never (.answer id) rfl trivial (Option.isSome_iff_exists.mp ?_)
        simp only [step, waiting, Option.isSome_some]
  · cases closing : (state.nodes id).closing with
    | nil => rfl
    | cons message rest =>
        refine stuck.never (.writeClosure id 0) rfl trivial (Option.isSome_iff_exists.mp ?_)
        simp only [step, closing, List.getElem?_cons_zero, Option.isSome_some]
  · cases queued : (state.nodes id).outbox with
    | nil => rfl
    | cons message rest =>
        have loud : ¬ Silent (state.nodes id) := by
          intro silent
          rw [silent.outbox] at queued
          cases queued
        have running : (state.nodes id).up = true := by
          by_contra down
          exact loud (grounded.silent id (Bool.eq_false_iff.mpr down)).2
        rcases Resources.exists_getProcess (up_of_busy grounded loud) with ⟨process, found⟩
        have member := Resources.mem_of_getProcess found
        have named := Resources.processId_of_getProcess found
        have polled : process.polled = true := by
          rcases workers_of_stuck registered grounded armed stuck process member with on | off
          · exact on.1
          · rw [named, running] at off
            cases off.2
        have idle := handling_of_finished (finished_of_stuck grounded stuck) id
        refine stuck.never (.deliver id) rfl trivial (Option.isSome_iff_exists.mp ?_)
        simp only [step, deliverStep, found, queued, polled, idle, Bool.true_eq_false,
          Bool.false_eq_true, or_self, if_false]
        split <;> rfl

theorem rested_of_stuck (registered : Registered state) (grounded : Grounded state)
    (armed : Armed state) (stuck : Stuck absent state) : Rested absent state := by
  have silent := silent_of_stuck registered grounded armed stuck
  refine ⟨finished_of_stuck grounded stuck, workers_of_stuck registered grounded armed stuck,
    fun id => ?_, silent⟩
  cases pending : unread state id with
  | nil => rfl
  | cons request rest =>
      have running : (state.nodes id).up = true := by
        by_contra down
        have nothing := (grounded.silent id (Bool.eq_false_iff.mpr down)).1
        unfold unread at pending
        rw [nothing, List.drop_nil] at pending
        cases pending
      have present : (state.plane.outgoing id)[(state.nodes id).consumed]? = some request := by
        rw [← List.head?_drop]
        exact congrArg List.head? pending
      refine stuck.never (.receive id succeedingCalls) rfl trivial (Option.isSome_iff_exists.mp ?_)
      simp only [step, receiveStep, running, (silent id).answering, present, Bool.true_eq_false,
        Option.isSome_none, Bool.false_eq_true, or_self, if_false, Option.isSome_some]

/-- At rest nothing moves by itself. -/
theorem stuck_of_rested (grounded : Grounded state) (rested : Rested absent state) :
    Stuck absent state := by
  have finished := rested.finished
  intro action moves spared
  cases action with
  | client index uuid =>
      simp only [step]
      split
      · rfl
      · rename_i client present
        rcases finished.returned.clients client (List.mem_of_getElem? present) with ⟨reply, rfl⟩
        rfl
  | connect processId swapper =>
      simp only [step]
      split
      · rfl
      · rename_i entry found
        rcases List.mem_map.mp (grounded.asked processId (asked_of_found found)) with
          ⟨process, member, rfl⟩
        rcases rested.workers process member with ⟨_, running⟩ | ⟨never, _⟩
        · rw [if_pos running]
        · exact False.elim (spared never)
  | enterPending processId =>
      simp only [step]
      split
      · rfl
      · rename_i process found
        have member := Resources.mem_of_getProcess found
        rcases rested.workers process member with ⟨polled, _⟩ | ⟨_, down⟩
        · rw [if_pos (Or.inr (Or.inr polled))]
        · rw [if_pos (Or.inr (Or.inl ((grounded.connected process member).trans down)))]
  | sendPending => simp only [step, pendingStep, finished.returned.free]
  | receive processId calls =>
      simp only [step, receiveStep]
      split
      · rfl
      · have nothing := rested.requests processId
        rw [unread, List.drop_eq_nil_iff] at nothing
        rw [List.getElem?_eq_none nothing]
  | answer processId => simp only [step, (rested.silent processId).answering]
  | writeClosure processId index =>
      simp only [step, (rested.silent processId).closing, List.getElem?_nil]
  | deliver processId =>
      simp only [step, deliverStep]
      split
      · rename_i queued
        rw [(rested.silent processId).outbox] at queued
        cases queued
      · rfl
  | closure index =>
      simp only [step]
      split
      · rfl
      · rename_i closure present
        simp only [closureStep, finished.closures closure (List.mem_of_getElem? present)]
  | allocate | call | touch | sessionDeleted | reorder => cases moves

/-- Every run comes to rest by itself, whichever workers never start.  However
the threads, the workers and the connections are scheduled, and whatever else
happens, they take no more than `callWork` steps for each call.  None of them
can take a step, apart from the start of a worker that never starts, exactly
when the system is at rest: every call has returned, every closure is handled,
and every other worker is polled and has no message left. -/
theorem comes_to_rest {trace : List (State × Action)} {final : State} (run : Run trace final)
    (absent : Bytes -> Prop) :
    TransitionSystem.count works trace ≤ callWork * TransitionSystem.count calls trace ∧
      (Stuck absent final ↔ Rested absent final) := by
  constructor
  · have bounded := run.paid works calls callWork remainingWork (by
      intro trace source action target reached stepped
      exact remainingWork_step (placed_of_run reached).registered (grounded_of_run reached)
        (step_transition stepped))
    have nothing : remainingWork State.initial = 0 := rfl
    omega
  · have grounded := grounded_of_run run
    exact ⟨rested_of_stuck (placed_of_run run).registered grounded (armed_of_run run),
      stuck_of_rested grounded⟩

/-- From every reachable state the system can come to rest without any of the
workers that never start, and without another call or the end of another child:
it is enough that threads, workers and connections go on, in any order. -/
theorem can_come_to_rest {trace : List (State × Action)} {final : State} (run : Run trace final)
    (absent : Bytes -> Prop) :
    Exists fun onward => Exists fun reached =>
      TransitionSystem.Run system final onward reached ∧
      TransitionSystem.Guarded (fun _ action => driven action = true ∧ spares absent action) onward ∧
      Rested absent reached := by
  refine TransitionSystem.descend (fun state => Exists fun trace => Run trace state)
    (Rested absent) remainingWork ?_ ⟨trace, run⟩
  rintro state ⟨earlier, reached⟩ busy
  have registered := (placed_of_run reached).registered
  have grounded := grounded_of_run reached
  by_contra none
  refine busy (rested_of_stuck registered grounded (armed_of_run reached) ?_)
  intro action moves spared
  cases stepped : step state action with
  | none => rfl
  | some next =>
      refine False.elim (none ⟨action, next, ⟨moves, spared⟩, stepped,
        ⟨_, reached.extend stepped⟩, ?_⟩)
      exact remainingWork_lt registered grounded moves (step_transition stepped)

/-- The session of the first client is placed on a worker that never starts. -/
theorem can_come_to_rest_first :
    Exists fun trace => Exists fun final => Run trace final ∧
      final.plane.started = [([3], 4)] ∧ Exists fun onward => Exists fun reached =>
        TransitionSystem.Run system final onward reached ∧
        TransitionSystem.Guarded
          (fun _ action => driven action = true ∧ spares (fun id => id = [3]) action) onward ∧
        Rested (fun id => id = [3]) reached := by
  have found := TransitionSystem.exists_run system State.initial placeSession
    (fun _ final => decide (final.plane.started = [([3], 4)])) (by decide +kernel)
  rcases found with ⟨trace, final, run, tested⟩
  exact ⟨trace, final, run, of_decide_eq_true tested, can_come_to_rest run _⟩

/-- One call, from its beginning to the record of the session that has ended. -/
def wholeLife : List Action :=
  placeSession ++ .client 0 [] :: connectWorker ++ runSession true ++ handleClosure

theorem returned_of_clientWork {client : Client} (done : clientWork client = 0)
    (outside : client ≠ .inSection) : Exists fun reply => client = .returned reply := by
  cases client with
  | returned reply => exact ⟨reply, rfl⟩
  | inSection => exact False.elim (outside rfl)
  | _ => simp only [clientWork, Nat.add_eq_zero_iff, OfNat.ofNat_ne_zero, one_ne_zero, false_and,
      and_false] at done

theorem finished_of_closureSteps (done : closureSteps state = 0) (closure : Closure)
    (member : closure ∈ state.closures) : closure.stage = .finished := by
  have bounded : stageSteps closure.stage ≤ closureSteps state :=
    le_total (fun closure : Closure => stageSteps closure.stage) member
  rw [done, Nat.le_zero] at bounded
  cases stage : closure.stage with
  | finished => rfl
  | _ =>
      rw [stage] at bounded
      cases bounded

/-- A test of a state with one process worker. -/
def atRest (id : Bytes) (state : State) : Bool :=
  state.mutex.isNone && state.clients.all (fun client => decide (clientWork client = 0 ∧
      client ≠ .inSection)) &&
    decide (closureSteps state = 0 ∧ state.plane.resources.processIds = [id]) &&
    state.plane.resources.processes.all Process.polled && (state.nodes id).up &&
    decide (unread state id = [] ∧ (state.nodes id).answering = none ∧
      (state.nodes id).closing = [] ∧ (state.nodes id).outbox = [])

theorem rested_of_atRest (grounded : Grounded state) {id : Bytes} (tested : atRest id state = true) :
    Rested absent state := by
  simp only [atRest, Bool.and_eq_true, Option.isNone_iff_eq_none, List.all_eq_true,
    decide_eq_true_eq] at tested
  rcases tested with ⟨⟨⟨⟨⟨free, clients⟩, finished, only⟩, polled⟩, running⟩, read, answering,
    closing, outbox⟩
  have elsewhere : forall other, other ≠ id ->
      state.plane.outgoing other = [] ∧ Silent (state.nodes other) := by
    intro other different
    apply grounded.silent
    by_contra up
    have listed := grounded.known other (Bool.not_eq_false _ ▸ up)
    rw [only] at listed
    exact different (List.mem_singleton.mp listed)
  refine ⟨⟨⟨free, fun client member => ?_⟩, finished_of_closureSteps finished⟩, ?_, ?_, ?_⟩
  · exact returned_of_clientWork (clients client member).1 (clients client member).2
  · intro process member
    have listed : process.processId ∈ state.plane.resources.processIds :=
      List.mem_map_of_mem member
    rw [only] at listed
    refine Or.inl ⟨polled process member, ?_⟩
    rw [List.mem_singleton.mp listed]
    exact running
  · intro other
    by_cases own : other = id
    · rw [own]
      exact read
    · rw [unread, (elsewhere other own).1, List.drop_nil]
  · intro other
    by_cases own : other = id
    · rw [own]
      exact ⟨answering, closing, outbox⟩
    · exact (elsewhere other own).2

/-- The system stops after the life of one session. -/
theorem whole_life_comes_to_rest :
    Exists fun trace => Exists fun final => Run trace final ∧
      TransitionSystem.count works trace = 21 ∧ TransitionSystem.count works trace ≤ callWork ∧
      Rested (fun _ => False) final ∧ Stuck (fun _ => False) final := by
  have found := TransitionSystem.exists_run system State.initial wholeLife
    (fun trace final => decide (TransitionSystem.count works trace = 21 ∧
      TransitionSystem.count calls trace = 1) && atRest [3] final) (by decide +kernel)
  rcases found with ⟨trace, final, run, tested⟩
  rw [Bool.and_eq_true, decide_eq_true_eq] at tested
  have rested : Rested (fun _ => False) final := rested_of_atRest (grounded_of_run run) tested.2
  have rests := comes_to_rest run (fun _ => False)
  rw [tested.1.2, Nat.mul_one] at rests
  exact ⟨trace, final, run, tested.1.1, rests.1, rested, rests.2.mpr rested⟩

end Termination
end System
end Praas
