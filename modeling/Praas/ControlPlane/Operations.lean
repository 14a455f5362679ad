import Praas.ControlPlane.Redis
import Praas.ControlPlane.Resources
import Praas.Library.Decimal

namespace Praas
namespace ControlPlane

open Library

/-!
# The operations of a control plane worker

`process_allocation`, `process_client`, `process_process` and
`handle_session_closure`, over Redis, the resource tables and the sockets of
the process workers.  Every operation is assembled from the steps that other
threads can observe: one Redis command, one method of `Resources`, one message
sent.  The interleaved model of the system runs the same steps one at a time.

Identifiers generated by the source are arguments here.
-/

/-! ## The session record in Redis -/

def separator : UInt8 := 59

/-- The function `split`: the parts before and after the first separator, and
two empty parts when there is none. -/
def split (text : Bytes) (splitCharacter : UInt8) : Bytes × Bytes :=
  if splitCharacter ∈ text then
    (text.takeWhile (fun byte => byte != splitCharacter),
      (text.dropWhile (fun byte => byte != splitCharacter)).tail)
  else ([], [])

/-- The two parts of a text that is split at its first separator. -/
theorem split_append {front back : Bytes} {splitCharacter : UInt8}
    (absent : splitCharacter ∉ front) :
    split (front ++ splitCharacter :: back) splitCharacter = (front, back) := by
  have before : forall byte, byte ∈ front -> (byte != splitCharacter) = true := by
    intro byte member
    exact bne_iff_ne.mpr (fun same => absent (same ▸ member))
  unfold split
  rw [if_pos (List.mem_append_right _ List.mem_cons_self),
    List.takeWhile_append_of_pos before, List.dropWhile_append_of_pos before,
    List.takeWhile_cons_of_neg (by simp), List.dropWhile_cons_of_neg (by simp), List.append_nil,
    List.tail_cons]

/-! ## Arguments and results -/

/-- The arguments of `process_client`.  An empty session identifier asks for a new
session; otherwise the two numbers are those of its record, and these are not
looked at. -/
structure ClientCall where
  processId : Bytes
  sessionId : Bytes
  functionName : Bytes
  functionId : Bytes
  maxFunctions : Int
  memorySize : Int
  payload : Bytes
  deriving DecidableEq

/-- The result of `process_client`.  The errors are, in this order, "Process
doesn't exist!", "Session is already alive!", "Couldn't locate session
details!" and "Session ID unknown!"; the id of a session is sent as it is. -/
inductive Reply
  | processMissing
  | alreadyAlive
  | detailsMissing
  | sessionUnknown
  | session (id : Bytes)
  deriving DecidableEq

def Reply.code : Reply -> Nat
  | .session _ => 200
  | _ => 400

/-- The locals of `process_client` once the session is known, new or swapped out.
From here on both cases run the same statements. -/
structure Placement where
  processId : Bytes
  processName : Bytes
  sessionId : Bytes
  functionName : Bytes
  functionId : Bytes
  maxFunctions : Int
  memorySize : Int
  swapIn : Bool
  payload : Bytes
  deriving DecidableEq

/-- The record stored for a new session. -/
def ClientCall.details (call : ClientCall) : Bytes :=
  toDecimal call.memorySize ++ separator :: toDecimal call.maxFunctions

/-- Continue with a new session. -/
def ClientCall.created (call : ClientCall) (processName sessionId : Bytes) : Placement :=
  ⟨call.processId, processName, sessionId, call.functionName, call.functionId,
    call.maxFunctions, call.memorySize, false, call.payload⟩

/-- Continue with a swapped-out session: the numbers of its record replace
those of the call, and the memory size is negated. -/
def ClientCall.restored (call : ClientCall) (processName details : Bytes) : Placement :=
  let parts := split details separator
  ⟨call.processId, processName, call.sessionId, call.functionName, call.functionId,
    fromChars parts.2 call.maxFunctions, int32 (fromChars parts.1 call.memorySize * -1), true,
    call.payload⟩

/-- A request to start a session, as it is sent to a process worker. -/
structure SessionRequest where
  sessionId : Bytes
  maxFunctions : Int
  memorySize : Int
  deriving DecidableEq

/-- The state of a control plane.  `outgoing` holds every request written to
the open socket of a process worker, and `started` the process workers
requested from the backend. -/
structure Plane where
  redis : Redis
  resources : Resources
  outgoing : Bytes -> List SessionRequest
  started : List (Bytes × Int)

namespace Plane

def empty : Plane := ⟨Redis.empty, Resources.empty, fun _ => [], []⟩

/-- The number of sessions a new process worker takes. -/
def maxSessionsPerProcess : Int := 4

/-! ## The steps -/

/-- `process_allocation`, a single Redis command. -/
def processAllocation (plane : Plane) (processName id : Bytes) : Plane :=
  { plane with redis := plane.redis.set (.process id) processName }

/-- The assignments of `process_client` to the session it has just added. -/
def configure (placement : Placement) (session : Session) : Session :=
  { session with
    maxFunctions := placement.maxFunctions
    memorySize := placement.memorySize
    swapIn := placement.swapIn
    allocations := if placement.functionName = [] then session.allocations
      else session.allocations ++
        [⟨placement.payload, placement.functionName, placement.functionId⟩] }

/-- Add the session to a process and fill in its fields. -/
def addSession (plane : Plane) (placement : Placement) (processId : Bytes) : Plane :=
  { plane with
    resources := (plane.resources.addSession processId placement.sessionId).modifySession
      placement.sessionId (configure placement) }

/-- Write the request for a session to a process and mark it allocated.  A
write to a socket that is not connected delivers nothing. -/
def writeRequest (plane : Plane) (processId sessionId : Bytes) : Plane :=
  match plane.resources.getSession sessionId with
  | none => plane
  | some session =>
      { plane with
        resources := plane.resources.modifySession sessionId
          (fun session => { session with allocated := true })
        outgoing := if plane.resources.isConnected processId then
            Function.update plane.outgoing processId (plane.outgoing processId ++
              [⟨session.sessionId, session.maxFunctions, session.memorySize⟩])
          else plane.outgoing }

/-- The process object of the branch that finds no free worker; its first slot
is taken. -/
def newProcess (placement : Placement) (id : Bytes) : Process :=
  ⟨placement.processId, id, 1, maxSessionsPerProcess, false, false, []⟩

def addProcess (plane : Plane) (placement : Placement) (id : Bytes) : Plane :=
  { plane with resources := plane.resources.addProcess (newProcess placement id) }

def allocateProcess (plane : Plane) (id : Bytes) : Plane :=
  { plane with started := plane.started ++ [(id, maxSessionsPerProcess)] }

def markAlive (plane : Plane) (placement : Placement) : Plane :=
  { plane with
    redis := plane.redis.sadd (.sessionsAlive placement.processId) placement.sessionId }

def connect (plane : Plane) (processId : Bytes) : Plane :=
  { plane with
    resources := plane.resources.modifyProcess processId
      (fun process => { process with connected := true }) }

/-- One turn of the loop of `process_process`. -/
def sendPending (plane : Plane) (processId sessionId : Bytes) : Plane :=
  if plane.resources.isUnsent sessionId then plane.writeRequest processId sessionId else plane

/-- Register the socket of a process for polling. -/
def poll (plane : Plane) (processId : Bytes) : Plane :=
  { plane with
    resources := plane.resources.modifyProcess processId
      (fun process => { process with polled := true }) }

/-! ## The operations -/

/-- The second half of `process_client`, from `get_free_process` on.  A worker
with a free slot is sent the request at once; a new one is asked for, and gets
it when it connects. -/
def allocateSession (plane : Plane) (placement : Placement) (processUuid : Bytes) : Plane × Reply :=
  let free := plane.resources.getFreeProcess placement.processId
  let reserved := { plane with resources := free.2 }
  let placed := match free.1 with
    | some processId =>
        (reserved.addSession placement processId).writeRequest processId placement.sessionId
    | none =>
        ((reserved.addProcess placement processUuid).addSession placement processUuid).allocateProcess
          processUuid
  (placed.markAlive placement, .session placement.sessionId)

/-- `process_client` as one function, without other threads in between.  A call
for a session that exists takes it from the set of swapped-out sessions before
its record is read, and a call for a new one writes the record first. -/
def processClient (plane : Plane) (call : ClientCall) (sessionUuid processUuid : Bytes) :
    Plane × Reply :=
  match plane.redis.get (.process call.processId) with
  | none => (plane, .processMissing)
  | some processName =>
      if call.sessionId ≠ [] then
        if plane.redis.sismember (.sessionsAlive call.processId) call.sessionId then
          (plane, .alreadyAlive)
        else
          let removed := plane.redis.srem (.sessionsSwapped call.processId) call.sessionId
          let taken := { plane with redis := removed.2 }
          if removed.1 = 1 then
            match taken.redis.get (.session call.sessionId) with
            | none => (taken, .detailsMissing)
            | some details =>
                taken.allocateSession (call.restored processName details) processUuid
          else (taken, .sessionUnknown)
      else
        let recorded := { plane with
          redis := plane.redis.set (.session sessionUuid) call.details }
        recorded.allocateSession (call.created processName sessionUuid) processUuid

/-- `process_process`: a worker has identified itself.  An unknown one is refused;
the others get the requests that wait for them, and are polled from then on. -/
def processProcess (plane : Plane) (processId : Bytes) : Plane :=
  match plane.resources.getProcess processId with
  | none => plane
  | some process =>
      (process.sessions.foldl (fun plane sessionId => plane.sendPending processId sessionId)
        (plane.connect processId)).poll processId

/-- `handle_session_closure`.  The memory size reported by the worker is
ignored. -/
def handleSessionClosure (plane : Plane) (process : Process) (_memorySize : Int)
    (sessionId : Bytes) : Plane :=
  let redis := (plane.redis.srem (.sessionsAlive process.processId) sessionId).2
  let redis := redis.sadd (.sessionsSwapped process.globalProcessId) sessionId
  let redis := (redis.srem (.sessionsAlive process.globalProcessId) sessionId).2
  { plane with
    redis := redis
    resources := plane.resources.removeSession process.processId sessionId }

end Plane
end ControlPlane
end Praas
