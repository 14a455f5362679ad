import Praas.ControlPlane.Resources
import Praas.Library.Connection
import Praas.Runtime.Process
import Praas.Wire.Messages

namespace Praas
namespace Execution

open Library
open Wire
open ControlPlane (PendingAllocation)

/-!
# The receive loop of a session

A session process reads invocations and pushes a task for each of them to its
pool.  It calls `receive` once on its connection to the control plane, and
then on the data plane until that connection ends.  A payload is read into a
buffer taken from a queue; the threads of the pool give buffers back when they
are done.

`receive` logs the peer of its connection, and a task is recorded here with
that peer, so that the two sources of invocations can be told apart.
-/

/-! ## Buffers -/

/-- `Buffer`: an array of the given size, with the bytes last read into it. -/
structure Buffer where
  val : Bytes
  size : Nat
  deriving DecidableEq

def Buffer.null : Buffer := ⟨[], 0⟩

/-- The constructor of `BufferQueue`. -/
def newBuffers (elements elemSize : Nat) : List Buffer :=
  List.replicate elements ⟨[], elemSize⟩

/-- `retrieve_buffer`.  The requested size is compared with the number of
buffers in the queue; when it is larger, the array is allocated anew. -/
def retrieveBuffer (buffers : List Buffer) (size : Nat) : Buffer × List Buffer :=
  match buffers with
  | [] => (Buffer.null, [])
  | front :: rest => (if buffers.length < size then ⟨[], size⟩ else front, rest)

/-! ## The session -/

inductive Status
  | unknownRequest
  | outOfMemory
  deriving DecidableEq

/-- The arguments of a task pushed to the pool.  The payload is in the buffer, and
`payloadBytes` is what the read has returned, which is not the announced size
when the connection ends or fails. -/
structure Task where
  functionName : Bytes
  functionId : Bytes
  payloadBytes : Int
  buffer : Buffer
  deriving DecidableEq

def Task.invocation (task : Task) : PendingAllocation :=
  ⟨task.buffer.val.take task.payloadBytes.toNat, task.functionName, task.functionId⟩

/-- The other end of a connection. -/
inductive Peer
  | controlPlane
  | dataPlane
  deriving DecidableEq

/-- `Session`, with the tasks pushed to the pool and the errors sent to the
data plane. -/
structure Session where
  buffers : List Buffer
  pushed : List (Peer × Task)
  errors : List (Status × Bytes)
  deriving DecidableEq

namespace Session

def bufferCount (maxFunctions : Int) : Nat :=
  Runtime.Worker.toSize (int32 (2 * maxFunctions))

def new (maxFunctions : Int) : Session :=
  ⟨newBuffers (bufferCount maxFunctions) (6 * 1024 * 1024), [], []⟩

def pushTask (session : Session) (peer : Peer) (task : Task) : Session :=
  { session with pushed := session.pushed ++ [(peer, task)] }

def sendError (session : Session) (status : Status) (functionId : Bytes) : Session :=
  { session with errors := session.errors ++ [(status, functionId)] }

/-- The result of `receive`: the value returned, the session, the message
buffer and what is left on the connection. -/
structure Received where
  continues : Bool
  session : Session
  message : Frame expectedLength
  rest : List Arrival

/-- The part of `receive` after the message has been parsed as an invocation:
the session and what is left on the connection. -/
def accept (session : Session) (peer : Peer) (request : FunctionRequestMsg)
    (connection : List Arrival) : Session × List Arrival :=
  if request.functionName = [] then (session, connection)
  else if 0 < request.payload then
    let retrieved := retrieveBuffer session.buffers request.payload.toNat
    let taken := { session with buffers := retrieved.2 }
    if retrieved.1.size = 0 then (taken.sendError .outOfMemory request.functionId, connection)
    else
      let payload := readN request.payload.toNat connection
      (taken.pushTask peer ⟨request.functionName, request.functionId, payload.count,
        { retrieved.1 with val := payload.bytes }⟩, payload.rest)
  else
    (session.pushTask peer ⟨request.functionName, request.functionId, 0, Buffer.null⟩, connection)

/-- `Session::receive`.  A message of another size or type is answered with an
error. -/
def receive (session : Session) (peer : Peer) (message : Frame expectedLength)
    (connection : List Arrival) : Received :=
  let got := read expectedLength connection
  let message := message.store 0 got.bytes (by
    rw [Nat.zero_add]
    exact read_length_le _ _)
  if got.count = 0 then ⟨false, session, message, got.rest⟩
  else if got.count = -1 then ⟨true, session, message, got.rest⟩
  else match parse message got.count with
    | some (.invocationRequest request) =>
        let accepted := session.accept peer request got.rest
        ⟨true, accepted.1, message, accepted.2⟩
    | _ => ⟨true, session.sendError .unknownRequest [], message, got.rest⟩

theorem remaining_accept_le (session : Session) (peer : Peer) (request : FunctionRequestMsg)
    (connection : List Arrival) :
    remaining (session.accept peer request connection).2 ≤ remaining connection := by
  dsimp only [accept]
  split
  · exact Nat.le_refl _
  split
  · split
    · exact Nat.le_refl _
    · exact remaining_readN_le _ _
  · exact Nat.le_refl _

/-- A call of `receive` that does not end the loop uses something up. -/
theorem remaining_receive_lt {session : Session} {peer : Peer} {message : Frame expectedLength}
    {connection : List Arrival}
    (continues : (session.receive peer message connection).continues = true) :
    remaining (session.receive peer message connection).rest < remaining connection := by
  have used : (read expectedLength connection).count ≠ 0 ->
      remaining (read expectedLength connection).rest < remaining connection :=
    remaining_read_lt (by decide)
  dsimp only [receive] at continues ⊢
  split at continues
  · cases continues
  · rename_i unfinished
    rw [if_neg unfinished]
    split
    · exact used unfinished
    · split
      · exact Nat.lt_of_le_of_lt (remaining_accept_le _ _ _ _) (used unfinished)
      · exact used unfinished

/-- The loop on the data plane, until `receive` finds the end of the
connection.  Before each turn the threads of the pool may give back buffers. -/
def pollDataPlane (session : Session) (message : Frame expectedLength) (connection : List Arrival)
    (returned : Nat -> List Buffer) (turn : Nat) : Session :=
  let received := ({ session with buffers := session.buffers ++ returned turn } : Session).receive
    .dataPlane message connection
  if continues : received.continues = true then
    pollDataPlane received.session received.message received.rest returned (turn + 1)
  else received.session
termination_by remaining connection
decreasing_by exact remaining_receive_lt continues

/-- `Session::start` once the connections are open: one call of `receive` on the
connection to the control plane, whose result is not looked at, and then the
loop on the data plane.  Both use the same message buffer. -/
def start (session : Session) (control data : List Arrival) (returned : Nat -> List Buffer) :
    Session :=
  let first := session.receive .controlPlane (Frame.zeros expectedLength) control
  pollDataPlane first.session first.message data returned 0

/-! ## The tasks of one peer -/

/-- The tasks pushed for a peer, in order. -/
def tasks (session : Session) (peer : Peer) : List Task :=
  (session.pushed.filter (fun entry => decide (entry.1 = peer))).map Prod.snd

@[simp] theorem tasks_pushTask (session : Session) (peer source : Peer) (task : Task) :
    (session.pushTask source task).tasks peer =
      session.tasks peer ++ (if source = peer then [task] else []) := by
  simp only [tasks, pushTask, List.filter_append, List.map_append, List.filter_cons,
    List.filter_nil, decide_eq_true_eq]
  split <;> rfl

theorem tasks_accept_other (session : Session) {peer source : Peer} (different : source ≠ peer)
    (request : FunctionRequestMsg) (connection : List Arrival) :
    (session.accept source request connection).1.tasks peer = session.tasks peer := by
  dsimp only [accept]
  split
  · rfl
  split
  · split
    · rfl
    · rw [tasks_pushTask, if_neg different, List.append_nil]
      rfl
  · rw [tasks_pushTask, if_neg different, List.append_nil]

theorem tasks_receive_other (session : Session) {peer source : Peer} (different : source ≠ peer)
    (message : Frame expectedLength) (connection : List Arrival) :
    (session.receive source message connection).session.tasks peer = session.tasks peer := by
  dsimp only [receive]
  split
  · rfl
  split
  · rfl
  split
  · exact tasks_accept_other session different _ _
  · rfl

/-- The loop on the data plane pushes nothing for the control plane. -/
theorem tasks_pollDataPlane (session : Session) (message : Frame expectedLength)
    (connection : List Arrival) (returned : Nat -> List Buffer) (turn : Nat) :
    (session.pollDataPlane message connection returned turn).tasks .controlPlane =
      session.tasks .controlPlane := by
  fun_induction pollDataPlane session message connection returned turn with
  | case1 session message connection turn received continues inductionHypothesis =>
      rw [inductionHypothesis]
      exact tasks_receive_other _ (by decide) _ _
  | case2 session message connection turn received ended =>
      exact tasks_receive_other _ (by decide) _ _

/-- The tasks for the control plane are those of the one call of `receive` on
its connection. -/
theorem tasks_start (session : Session) (control data : List Arrival)
    (returned : Nat -> List Buffer) :
    (session.start control data returned).tasks .controlPlane =
      (session.receive .controlPlane (Frame.zeros expectedLength) control).session.tasks
        .controlPlane :=
  tasks_pollDataPlane _ _ _ _ _

end Session
end Execution
end Praas
