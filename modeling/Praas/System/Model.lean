import Praas.Library.TransitionSystem
import Praas.ControlPlane.Operations
import Praas.Runtime.Process

namespace Praas
namespace System

open Library
open ControlPlane
open Praas.Runtime

/-!
# One control plane and its process workers, interleaved

The control plane runs any number of threads.  A thread of `process_client` or
`handle_session_closure` is represented by its program counter and locals, and
a step executes one Redis command, one method of `Resources` or one message.
A section that holds `_sessions_mutex` keeps its locals in `mutex`, so that
two such sections can never be open at once.

A process worker exists from the moment the backend is asked for it.  It
connects once, reads the requests of the control plane in order, and runs
`allocate_session` and `session_deleted`; its messages are read by the control
plane in the order in which they were written.  Which system calls succeed,
which children end, what a session leaves in its memory and in which order the
map of processes is iterated are chosen by the action.  Ends and failures of a
connection are no steps.

Every generated identifier is new: `used` records those handed out so far.
-/

/-- A thread of `process_client`, by the next step it takes, with the locals that
this step and the later ones need.  A thread whose section is open has its
locals in `mutex`. -/
inductive Client
  | getProcess (call : ClientCall)
  | checkAlive (call : ClientCall) (processName : Bytes)
  | takeSwapped (call : ClientCall) (processName : Bytes)
  | readDetails (call : ClientCall) (processName : Bytes)
  | recordDetails (call : ClientCall) (processName : Bytes)
  | findProcess (placement : Placement)
  | addExisting (placement : Placement) (processId : Bytes)
  | addProcess (placement : Placement)
  | inSection
  | markAlive (placement : Placement)
  | returned (reply : Reply)
  deriving DecidableEq

/-- The section that holds `_sessions_mutex`.  The first three belong to
`process_client`, whose thread is the owner; the last is the loop of
`process_process` over the sessions of a worker that has connected. -/
inductive Section
  | writeRequest (owner : Nat) (placement : Placement) (processId : Bytes)
  | addSession (owner : Nat) (placement : Placement) (processId : Bytes)
  | allocateProcess (owner : Nat) (placement : Placement) (processId : Bytes)
  | sendPending (processId : Bytes) (index : Nat)
  deriving DecidableEq

/-- How far a thread of `handle_session_closure` has come: one method of
`Resources`, and then three commands to the database, which other threads may
interrupt. -/
inductive ClosureStage
  | remove
  | unmarkOwn
  | addSwapped
  | unmark
  | finished
  deriving DecidableEq

/-- A thread of `handle_session_closure`, with the two identifiers that it uses
for the process: that of the worker, and that of the global process. -/
structure Closure where
  processId : Bytes
  globalProcessId : Bytes
  sessionId : Bytes
  stage : ClosureStage
  deriving DecidableEq

/-- A process worker with its link to the control plane.  `consumed` counts the
requests it has read; `closing` holds the messages of `session_deleted` that
are not written yet and `outbox` those not yet read by the control plane. -/
structure Node where
  up : Bool
  worker : Worker
  consumed : Nat
  answering : Option (ErrorCode × Bytes)
  closing : List StatusMessage
  outbox : List StatusMessage

def Node.idle : Node := ⟨false, Worker.start 0 S3Swapper.new, 0, none, [], []⟩

/-- The state of the system: the control plane, the section that is open, the
threads of both kinds in the order in which they began, the process workers by
their identifier, and the object store.  Threads that are done stay in their
list, so that an index names the same thread in the whole run. -/
structure State where
  plane : Plane
  mutex : Option Section
  clients : List Client
  closures : List Closure
  nodes : Bytes -> Node
  store : ObjectStore
  used : List Bytes

def State.initial : State :=
  ⟨Plane.empty, none, [], [], fun _ => Node.idle, fun _ => none, []⟩

/-- The actions.  `client` and `closure` run the next step of a thread;
`uuid` is the identifier that step generates, if it generates one. -/
inductive Action
  | allocate (processName uuid : Bytes)
  | call (call : ClientCall)
  | client (index : Nat) (uuid : Bytes)
  | connect (processId : Bytes) (swapper : S3Swapper)
  | enterPending (processId : Bytes)
  | sendPending
  | receive (processId : Bytes) (calls : Syscalls)
  | answer (processId : Bytes)
  | touch (processId path contents : Bytes)
  | sessionDeleted (processId : Bytes) (pid : Int) (putObject : Bool)
  | writeClosure (processId : Bytes) (index : Nat)
  | deliver (processId : Bytes)
  | closure (index : Nat)
  | reorder (processes : List Process)

namespace State

def setNode (state : State) (processId : Bytes) (node : Node) : State :=
  { state with nodes := Function.update state.nodes processId node }

def setResources (state : State) (resources : Resources) : State :=
  { state with plane := { state.plane with resources := resources } }

def setRedis (state : State) (redis : Redis) : State :=
  { state with plane := { state.plane with redis := redis } }

end State

/-- The next step of a thread of `process_client`.  It is the program text between
two points at which another thread can come in: a command to the database, a
call of `Resources`, or a step inside a section.  A step that needs the mutex is
not possible while a section is open, and neither is one that would generate an
identifier already in use. -/
def clientStep (state : State) (index : Nat) (uuid : Bytes) (client : Client) : Option State :=
  let goTo := fun next => { state with clients := state.clients.set index next }
  match client with
  | .getProcess call =>
      match state.plane.redis.get (.process call.processId) with
      | none => some (goTo (.returned .processMissing))
      | some processName =>
          if call.sessionId ≠ [] then some (goTo (.checkAlive call processName))
          else some (goTo (.recordDetails call processName))
  | .checkAlive call processName =>
      if state.plane.redis.sismember (.sessionsAlive call.processId) call.sessionId then
        some (goTo (.returned .alreadyAlive))
      else some (goTo (.takeSwapped call processName))
  | .takeSwapped call processName =>
      let removed := state.plane.redis.srem (.sessionsSwapped call.processId) call.sessionId
      if removed.1 = 1 then some ((goTo (.readDetails call processName)).setRedis removed.2)
      else some ((goTo (.returned .sessionUnknown)).setRedis removed.2)
  | .readDetails call processName =>
      match state.plane.redis.get (.session call.sessionId) with
      | none => some (goTo (.returned .detailsMissing))
      | some details => some (goTo (.findProcess (call.restored processName details)))
  | .recordDetails call processName =>
      if uuid ∈ state.used then none
      else some { (goTo (.findProcess (call.created processName uuid))).setRedis
          (state.plane.redis.set (.session uuid) call.details) with used := uuid :: state.used }
  | .findProcess placement =>
      let free := state.plane.resources.getFreeProcess placement.processId
      match free.1 with
      | some processId => some ((goTo (.addExisting placement processId)).setResources free.2)
      | none => some ((goTo (.addProcess placement)).setResources free.2)
  | .addExisting placement processId =>
      if state.mutex.isSome ∨ (state.plane.resources.getProcess processId).isNone then none
      else some { goTo .inSection with
        plane := state.plane.addSession placement processId
        mutex := some (.writeRequest index placement processId) }
  | .addProcess placement =>
      if state.mutex.isSome ∨ uuid ∈ state.used then none
      else some { goTo .inSection with
        plane := state.plane.addProcess placement uuid
        mutex := some (.addSession index placement uuid)
        used := uuid :: state.used }
  | .inSection =>
      match state.mutex with
      | some (.writeRequest owner placement processId) =>
          if owner = index then some { goTo (.markAlive placement) with
            plane := state.plane.writeRequest processId placement.sessionId
            mutex := none }
          else none
      | some (.addSession owner placement processId) =>
          if owner = index then some { state with
            plane := state.plane.addSession placement processId
            mutex := some (.allocateProcess owner placement processId) }
          else none
      | some (.allocateProcess owner placement processId) =>
          if owner = index then some { goTo (.markAlive placement) with
            plane := state.plane.allocateProcess processId
            mutex := none }
          else none
      | _ => none
  | .markAlive placement =>
      some { goTo (.returned (.session placement.sessionId)) with
        plane := state.plane.markAlive placement }
  | .returned _ => none

/-- The next step of a thread of `handle_session_closure`.  Only the removal from
the list of the worker needs the mutex.  The first command to the database uses
the identifier of the worker, under which no set is kept, and the others that
of the global process. -/
def closureStep (state : State) (index : Nat) (closure : Closure) : Option State :=
  let goTo := fun stage =>
    { state with closures := state.closures.set index { closure with stage := stage } }
  match closure.stage with
  | .remove =>
      if state.mutex.isSome then none
      else some ((goTo .unmarkOwn).setResources
        (state.plane.resources.removeSession closure.processId closure.sessionId))
  | .unmarkOwn =>
      some ((goTo .addSwapped).setRedis
        (state.plane.redis.srem (.sessionsAlive closure.processId) closure.sessionId).2)
  | .addSwapped =>
      some ((goTo .unmark).setRedis
        (state.plane.redis.sadd (.sessionsSwapped closure.globalProcessId) closure.sessionId))
  | .unmark =>
      some ((goTo .finished).setRedis
        (state.plane.redis.srem (.sessionsAlive closure.globalProcessId) closure.sessionId).2)
  | .finished => none

/-- A turn of the loop of `process_process`, or its end.  The loop runs over the
list that the process has at each turn, and at its end the socket is registered
for polling and the mutex is released. -/
def pendingStep (state : State) : Option State :=
  match state.mutex with
  | some (.sendPending processId index) =>
      match state.plane.resources.getProcess processId with
      | none => none
      | some process =>
          match process.sessions[index]? with
          | some sessionId => some { state with
              plane := state.plane.sendPending processId sessionId
              mutex := some (.sendPending processId (index + 1)) }
          | none => some { state with plane := state.plane.poll processId, mutex := none }
  | _ => none

/-- The process worker reads its next request and runs `allocate_session`.  It
reads no other one before it has answered this one. -/
def receiveStep (state : State) (processId : Bytes) (calls : Syscalls) : Option State :=
  let node := state.nodes processId
  if node.up = false ∨ node.answering.isSome then none
  else match (state.plane.outgoing processId)[node.consumed]? with
    | none => none
    | some request =>
        let allocated := node.worker.allocateSession state.store request calls
        some (state.setNode processId { node with
          worker := allocated.2
          consumed := node.consumed + 1
          answering := some (allocated.1, request.sessionId) })

/-- The process worker runs `session_deleted` for a child that has ended.  The
message is written in a later step, since the thread that handles the signal
can be overtaken. -/
def deletedStep (state : State) (processId : Bytes) (pid : Int) (putObject : Bool) : Option State :=
  let node := state.nodes processId
  if node.up = false then none
  else
    let deleted := node.worker.sessionDeleted state.store pid putObject
    some { state.setNode processId { node with
        worker := deleted.1
        closing := node.closing ++ deleted.2.2.toList } with
      store := deleted.2.1 }

/-- A closure reported by the process is still being handled.  The socket of
the process is polled for one message at a time and armed again afterwards. -/
def handling (state : State) (processId : Bytes) : Bool :=
  state.closures.any (fun closure =>
    decide (closure.processId = processId ∧ closure.stage ≠ .finished))

/-- The control plane reads the next message of a process worker, which is
possible while its socket is armed.  A closure begins a thread of
`handle_session_closure`; any other message changes nothing. -/
def deliverStep (state : State) (processId : Bytes) : Option State :=
  let node := state.nodes processId
  match state.plane.resources.getProcess processId, node.outbox with
  | some process, message :: rest =>
      if process.polled = false ∨ handling state processId then none
      else
        let read := state.setNode processId { node with outbox := rest }
        if message.isClosure then some { read with
          closures := state.closures ++
            [⟨process.processId, process.globalProcessId, message.sessionId, .remove⟩] }
        else some read
  | _, _ => none

/-- The step function of the system.  Calls, ends of children, the contents of
memory and the order of the map come from the environment; everything else is a
step that the control plane, a process worker or a connection takes by itself.
Connections are reliable and ordered, a write never waits, every registration
with epoll succeeds, and the pool has a thread for every task; that a connection
ends or fails is not among the steps. -/
def step (state : State) : Action -> Option State
  | .allocate processName uuid =>
      if uuid ∈ state.used then none
      else some { state with
        plane := state.plane.processAllocation processName uuid
        used := uuid :: state.used }
  | .call call => some { state with clients := state.clients ++ [.getProcess call] }
  | .client index uuid =>
      match state.clients[index]? with
      | none => none
      | some client => clientStep state index uuid client
  | .connect processId swapper =>
      match state.plane.started.find? (fun entry => decide (entry.1 = processId)) with
      | none => none
      | some entry =>
          if (state.nodes processId).up then none
          else some { state.setNode processId { state.nodes processId with
              up := true
              worker := Worker.start entry.2 swapper } with
            plane := state.plane.connect processId }
  | .enterPending processId =>
      match state.plane.resources.getProcess processId with
      | none => none
      | some process =>
          if state.mutex.isSome ∨ process.connected = false ∨ process.polled then none
          else some { state with mutex := some (.sendPending processId 0) }
  | .sendPending => pendingStep state
  | .receive processId calls => receiveStep state processId calls
  | .answer processId =>
      match (state.nodes processId).answering with
      | none => none
      | some (result, sessionId) => some (state.setNode processId { state.nodes processId with
          answering := none
          outbox := (state.nodes processId).outbox ++ [StatusMessage.answer result sessionId] })
  | .touch processId path contents =>
      if ((state.nodes processId).worker.objects path).map List.length = some contents.length then
        some (state.setNode processId { state.nodes processId with
          worker := { (state.nodes processId).worker with
            objects := Function.update (state.nodes processId).worker.objects path
              (some contents) } })
      else none
  | .sessionDeleted processId pid putObject => deletedStep state processId pid putObject
  | .writeClosure processId index =>
      match (state.nodes processId).closing[index]? with
      | none => none
      | some message => some (state.setNode processId { state.nodes processId with
          closing := (state.nodes processId).closing.eraseIdx index
          outbox := (state.nodes processId).outbox ++ [message] })
  | .deliver processId => deliverStep state processId
  | .closure index =>
      match state.closures[index]? with
      | none => none
      | some closure => closureStep state index closure
  | .reorder processes =>
      if processes.isPerm state.plane.resources.processes then
        some (state.setResources { state.plane.resources with processes := processes })
      else none

def system : TransitionSystem State Action where
  initial := State.initial
  step := step

/-- The runs of the system from its initial state, with every state and action on
the way.  A property of all interleavings is a property of all runs. -/
abbrev Run (trace : List (State × Action)) (final : State) : Prop :=
  TransitionSystem.Run system State.initial trace final

/-! ## Short runs

A client of the process `[1]` creates the session `[2]` on the new process
worker `[3]`. -/

def succeedingCalls : Syscalls := ⟨3, true, true, true, 100⟩

def newSessionCall : ClientCall := ⟨[1], [], [], [], 1, 1, []⟩

def swapInCall : ClientCall := { newSessionCall with sessionId := [2] }

/-- The first client reaches its last step. -/
def placeSession : List Action :=
  [.allocate [] [1], .call newSessionCall, .client 0 [], .client 0 [2], .client 0 [], .client 0 [3],
    .client 0 [], .client 0 []]

/-- The process worker connects, and the loop of `process_process` sends it the
request of the session that was placed on it. -/
def connectWorker : List Action :=
  [.connect [3] (S3Swapper.enableSwapping none), .enterPending [3], .sendPending, .sendPending]

/-- The session starts and ends, the worker stores its memory, if the transfer
succeeds, and reports the closure, and the control plane reads both messages. -/
def runSession (putObject : Bool) : List Action :=
  [.receive [3] succeedingCalls, .answer [3], .sessionDeleted [3] 100 putObject,
    .writeClosure [3] 0, .deliver [3], .deliver [3]]

/-- The first closure is handled. -/
def handleClosure : List Action :=
  [.closure 0, .closure 0, .closure 0, .closure 0]

end System
end Praas
