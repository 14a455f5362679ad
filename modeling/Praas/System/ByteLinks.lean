import Praas.Library.Simulation
import Praas.Runtime.SessionList
import Praas.System.FailedStart
import Praas.System.SentRequests

namespace Praas
namespace System

open Library
open ControlPlane
open Praas.Runtime
open Wire

/-!
# The system on the bytes of its connections

In `System.Model` a process worker reads whole requests and the control plane
reads whole status messages.  Here both ends move bytes.  The control plane
writes packets of 39 bytes and the worker answers with packets of 24; each
reader collects bytes in its buffer, any number at a time, and acts on the
buffer once it is full, by the parser of its own message library.

The control plane and its threads are those of `System.Model`; the requests
that it has written are kept in `Plane.outgoing`, and the bytes on the
connection are their packets.  The identifiers that it generates and the
numbers of the calls have the form that the source gives them.
-/

namespace Link

def requestPacket (request : SessionRequest) : Bytes :=
  (Wire.SessionRequest.fill Request.new request.sessionId request.maxFunctions
    request.memorySize).data

/-- Everything that the control plane has written to a worker. -/
def requestBytes (requests : List SessionRequest) : Bytes :=
  requests.flatMap requestPacket

/-- Everything that a worker has written in a sequence of messages. -/
def statusBytes (messages : List StatusMessage) : Bytes :=
  messages.flatMap (fun message => (packet message).data)

/-- A process worker with its connection: `taken` counts the bytes that it has
taken off, `request` holds those of the request that it is reading, `written`
the bytes that it has sent, and `header` those that the control plane has read
of the next packet. -/
structure Node where
  up : Bool
  worker : Worker
  taken : Nat
  request : Bytes
  answering : Option (ErrorCode × Bytes)
  closing : List StatusMessage
  written : Bytes
  header : Bytes

def Node.idle : Node := ⟨false, Worker.start 0 S3Swapper.new, 0, [], none, [], [], []⟩

/-- The state of the system, with the connections as bytes.  Each of the two ends
keeps the part of a packet that it has read so far; what has been written and
not read is the rest of the stream. -/
structure State where
  plane : Plane
  mutex : Option Section
  clients : List Client
  closures : List Closure
  nodes : Bytes -> Node
  store : ObjectStore
  used : List Bytes

def State.initial : State :=
  ⟨Plane.empty, none, [], [], fun _ => Node.idle, fun _ => none, []⟩

/-- The steps of the control plane's own threads, which the connections have no
part in.  They are taken over from the model on messages as they are. -/
inductive Control
  | allocate (processName uuid : Bytes)
  | call (call : ClientCall)
  | client (index : Nat) (uuid : Bytes)
  | enterPending (processId : Bytes)
  | sendPending
  | closure (index : Nat)
  | reorder (processes : List Process)

def Control.action : Control -> System.Action
  | .allocate processName uuid => .allocate processName uuid
  | .call asked => .call asked
  | .client index uuid => .client index uuid
  | .enterPending processId => .enterPending processId
  | .sendPending => .sendPending
  | .closure index => .closure index
  | .reorder processes => .reorder processes

/-- The actions.  `readRequest` and `readHeader` move bytes into the buffers of
the two readers; `receive` and `deliver` act on a full buffer. -/
inductive Action
  | control (control : Control)
  | connect (processId : Bytes) (swapper : S3Swapper)
  | readRequest (processId : Bytes) (size : Nat)
  | receive (processId : Bytes) (calls : Syscalls)
  | answer (processId : Bytes)
  | touch (processId path contents : Bytes)
  | sessionDeleted (processId : Bytes) (pid : Int) (putObject : Bool)
  | writeClosure (processId : Bytes) (index : Nat)
  | readHeader (processId : Bytes) (size : Nat)
  | deliver (processId : Bytes)

namespace State

def setNode (state : State) (processId : Bytes) (node : Node) : State :=
  { state with nodes := Function.update state.nodes processId node }

/-- The control plane alone. -/
def front (state : State) : System.State :=
  ⟨state.plane, state.mutex, state.clients, state.closures, fun _ => System.Node.idle, state.store,
    state.used⟩

/-- The system after a step of the control plane. -/
def adopt (state : State) (front : System.State) : State :=
  { state with
    plane := front.plane
    mutex := front.mutex
    clients := front.clients
    closures := front.closures
    used := front.used }

end State

/-! ## The worker's end -/

/-- `read_n` of the worker takes more bytes of a request. -/
def readRequestStep (state : State) (processId : Bytes) (size : Nat) : Option State :=
  let node := state.nodes processId
  let bytes := ((requestBytes (state.plane.outgoing processId)).drop node.taken).take size
  if node.up = false ∨ node.answering.isSome ∨ bytes = [] ∨
      expectedLength < node.request.length + bytes.length then none
  else some (state.setNode processId { node with
    taken := node.taken + bytes.length
    request := node.request ++ bytes })

/-- `Process::start` on a full buffer: a message that is not a session request
is written to the log. -/
def receiveStep (state : State) (processId : Bytes) (calls : Syscalls) : Option State :=
  let node := state.nodes processId
  if full : node.request.length = expectedLength then
    if node.up = false ∨ node.answering.isSome then none
    else match parse ⟨node.request, full⟩ expectedLength with
      | some (.sessionRequest message) =>
          let allocated := node.worker.allocateSession state.store (requestOf message) calls
          some (state.setNode processId { node with
            worker := allocated.2
            request := []
            answering := some (allocated.1, message.sessionId) })
      | _ => some (state.setNode processId { node with request := [] })
  else none

/-- The status of a request is written. -/
def answerStep (state : State) (processId : Bytes) : Option State :=
  let node := state.nodes processId
  match node.answering with
  | none => none
  | some (result, sessionId) => some (state.setNode processId { node with
      answering := none
      written := node.written ++
        (SendMessage.fillSessionStatus SendMessage.new result.value sessionId).data })

/-- The worker runs `session_deleted`. -/
def deletedStep (state : State) (processId : Bytes) (pid : Int) (putObject : Bool) : Option State :=
  let node := state.nodes processId
  if node.up = false then none
  else
    let deleted := node.worker.sessionDeleted state.store pid putObject
    some { state.setNode processId { node with
        worker := deleted.1
        closing := node.closing ++ deleted.2.2.toList } with
      store := deleted.2.1 }

/-- The message of a `session_deleted` is written. -/
def writeClosureStep (state : State) (processId : Bytes) (index : Nat) : Option State :=
  let node := state.nodes processId
  match node.closing[index]? with
  | none => none
  | some message => some (state.setNode processId { node with
      closing := node.closing.eraseIdx index
      written := node.written ++ (packet message).data })

/-! ## The control plane's end -/

/-- The connection of a worker is armed: it was registered, and no message of
the worker is being handled. -/
def armed (state : State) (processId : Bytes) : Bool :=
  (state.plane.resources.getProcess processId).any (fun process => process.polled) &&
    !handling state.front processId

/-- `read_n` of the control plane takes more bytes of a packet. -/
def readHeaderStep (state : State) (processId : Bytes) (size : Nat) : Option State :=
  let node := state.nodes processId
  let bytes := node.written.take size
  if armed state processId = false ∨ bytes = [] ∨
      headerLength < node.header.length + bytes.length then none
  else some (state.setNode processId { node with
    written := node.written.drop bytes.length
    header := node.header ++ bytes })

/-- `handle_message` on a full buffer.  A packet of no known kind leaves the
connection unarmed; a closure starts a thread of `handle_session_closure`. -/
def deliverStep (state : State) (processId : Bytes) : Option State :=
  let node := state.nodes processId
  if full : node.header.length = headerLength then
    match state.plane.resources.getProcess processId with
    | none => none
    | some process =>
        if process.polled = false ∨ handling state.front processId then none
        else
          let read := state.setNode processId { node with header := [] }
          match Header.parse ⟨node.header, full⟩ with
          | none => some { read with
              plane := { state.plane with
                resources := state.plane.resources.modifyProcess processId
                  (fun process => { process with polled := false }) } }
          | some (.sessionStatus data) =>
              if Header.sessionStatus data = -1 then some { read with
                closures := state.closures ++ [⟨process.processId, process.globalProcessId,
                  Header.statusSessionId data, .remove⟩] }
              else some read
          | some _ => some read
  else none

/-! ## The system -/

def Generated (id : Bytes) : Prop := NulFree id ∧ id.length = 16

instance (id : Bytes) : Decidable (Generated id) := inferInstanceAs (Decidable (_ ∧ _))

/-- The values that the source's types and its generator allow. -/
def admissible : System.Action -> Bool
  | .allocate _ uuid => decide (Generated uuid)
  | .call call => Rejection.typed call
  | .client _ uuid => decide (Generated uuid)
  | _ => true

def step (state : State) : Action -> Option State
  | .control control =>
      if admissible control.action then (System.step state.front control.action).map state.adopt
      else none
  | .connect processId swapper =>
      match state.plane.started.find? (fun entry => decide (entry.1 = processId)) with
      | none => none
      | some entry =>
          if (state.nodes processId).up then none
          else some { state.setNode processId { state.nodes processId with
              up := true
              worker := Worker.start entry.2 swapper } with
            plane := state.plane.connect processId }
  | .readRequest processId size => readRequestStep state processId size
  | .receive processId calls => receiveStep state processId calls
  | .answer processId => answerStep state processId
  | .touch processId path contents =>
      if ((state.nodes processId).worker.objects path).map List.length = some contents.length then
        some (state.setNode processId { state.nodes processId with
          worker := { (state.nodes processId).worker with
            objects := Function.update (state.nodes processId).worker.objects path
              (some contents) } })
      else none
  | .sessionDeleted processId pid putObject => deletedStep state processId pid putObject
  | .writeClosure processId index => writeClosureStep state processId index
  | .readHeader processId size => readHeaderStep state processId size
  | .deliver processId => deliverStep state processId

def system : TransitionSystem State Action where
  initial := State.initial
  step := step

abbrev Run (trace : List (State × Action)) (final : State) : Prop :=
  TransitionSystem.Run system State.initial trace final

end Link
end System
end Praas
