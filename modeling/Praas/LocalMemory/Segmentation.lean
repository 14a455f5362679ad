import Praas.Library.CString
import Praas.LocalMemory.Server

namespace Praas
namespace LocalMemory

open Library
open SessionMessage

/-!
# The local memory and the segments of its connections

The server asks for the 38 bytes of a request with one read, and goes on with
whatever the read has returned, over what its buffer held before.  The worker
then asks for the payload with one read.  When that returns less, nothing is
answered, and the connection stays marked as busy and is not polled again.

Here one client sends its requests over one connection, each of them after the
answer to the one before.  The transport decides how much a read returns.  A
request whose header is cut can still be carried out, when the name ends in
the first part; the rest of the header, all of it zeros, is then taken for the
start of the next request.
-/

namespace Segmentation

/-! ## The client -/

/-- A request of a client.  Only `create` and `put` have a payload, and its
size fits its field. -/
structure ClientRequest where
  operation : Operation
  name : Bytes
  body : Bytes
  fits : body.length < 2 ^ 31
  bare : operation = .get ∨ operation = .delete -> body = []

namespace ClientRequest

def header (request : ClientRequest) : SessionMessage :=
  send (Frame.zeros bufSize) request.operation.type.code request.name request.body.length

def bytes (request : ClientRequest) : Bytes := request.header.data ++ request.body

/-- The reads that the server makes for the request. -/
def reads (request : ClientRequest) : Nat := if request.body = [] then 1 else 2

end ClientRequest

/-! ## The server -/

/-- How many bytes each read returns at most: some, unless there are none.  It
stands for the segments in which the bytes of a connection arrive. -/
structure Transport where
  size : Nat -> Nat
  positive : forall read, 0 < size read

def Transport.whole : Transport := ⟨fun _ => 2 ^ 31, fun _ => by decide⟩

/-- The call of the cache for a message: the operation, the name, and the
object with the size it is stored with.  Other messages make no call. -/
structure CacheCall where
  operation : Operation
  name : Bytes
  data : Bytes
  size : Int

def cacheCall (buffer : SessionMessage) (received : Bytes) : Option CacheCall :=
  match buffer.parseSessionType with
  | .create => some ⟨.create, buffer.objectName, received, buffer.payload⟩
  | .get => some ⟨.get, buffer.objectName, [], 0⟩
  | .put => some ⟨.put, buffer.objectName, received, buffer.payload⟩
  | .delete => some ⟨.delete, buffer.objectName, [], 0⟩
  | _ => none

/-- What the server does for a message. -/
abbrev Entry := Option CacheCall × Reply

/-- A connection: the memory, the bytes sent and not read, the requests that
the client still has to send, and the number of reads so far. -/
structure Session where
  memory : Memory
  stream : Bytes
  upcoming : List ClientRequest
  reads : Nat

namespace Session

/-- The client has an answer, or begins, and sends its next request. -/
def sendNext (session : Session) : Session :=
  match session.upcoming with
  | [] => session
  | request :: rest =>
      { session with stream := session.stream ++ request.bytes, upcoming := rest }

def start (memory : Memory) (requests : List ClientRequest) : Session :=
  sendNext ⟨memory, [], requests, 0⟩

def remaining (session : Session) : Nat :=
  session.stream.length + (session.upcoming.map (fun request => request.bytes.length)).sum

variable (transport : Transport) (buffers : Nat -> SessionMessage) (session : Session)

/-- How much the read for a header returns. -/
def headerCount : Nat := min (transport.size session.reads) bufSize

/-- The buffer after the read; `buffers` has what is on the stack where the
buffer of each read is. -/
def headerBuffer : SessionMessage :=
  (buffers session.reads).store 0 (session.stream.take (session.headerCount transport)) (by
    rw [Nat.zero_add, List.length_take, headerCount]
    omega)

/-- How much the read for a payload returns, if there is one. -/
def payloadCount (payload : Int) : Nat :=
  if 0 < payload then min (transport.size (session.reads + 1)) payload.toNat else 0

/-- One message: the header is read and the worker runs.  There is no result
when nothing is left to read, or when the payload is not complete. -/
def turn : Option (Entry × Session) :=
  if session.stream = [] then none
  else
    let buffer := session.headerBuffer transport buffers
    let rest := session.stream.drop (session.headerCount transport)
    let count := session.payloadCount transport buffer.payload
    match handleSessionMessage session.memory buffer (rest.take count) with
    | (_, none) => none
    | (memory, some reply) =>
        some ((cacheCall buffer (rest.take count), reply),
          sendNext ⟨memory, rest.drop count, session.upcoming,
            session.reads + if 0 < buffer.payload then 2 else 1⟩)

/-- What the server does in the given number of turns. -/
def serves : Nat -> Session -> List Entry
  | 0, _ => []
  | fuel + 1, session =>
      match session.turn transport buffers with
      | none => []
      | some (entry, next) => entry :: serves fuel next

/-- Everything the server does on the connection.  A turn reads at least one
byte. -/
def answers : List Entry := serves transport buffers session.remaining session

end Session

/-- Every header and every payload is returned by one read; `first` is the
number of the read for the first header. -/
def WholeReads (transport : Transport) : Nat -> List ClientRequest -> Prop
  | _, [] => True
  | first, request :: rest =>
      bufSize ≤ transport.size first ∧
        (request.body ≠ [] -> request.body.length ≤ transport.size (first + 1)) ∧
        WholeReads transport (first + request.reads) rest

/-! ## Turns -/

namespace Session

variable {transport : Transport} {buffers : Nat -> SessionMessage} {session : Session}

theorem remaining_sendNext (session : Session) : session.sendNext.remaining = session.remaining := by
  unfold sendNext
  cases upcoming : session.upcoming with
  | nil => rfl
  | cons request rest =>
      simp only [remaining, upcoming, List.length_append, List.map_cons, List.sum_cons]
      omega

theorem memory_sendNext (session : Session) : session.sendNext.memory = session.memory := by
  unfold sendNext
  cases session.upcoming with
  | nil => rfl
  | cons request rest => rfl

theorem turn_some {entry : Entry} {next : Session}
    (turned : session.turn transport buffers = some (entry, next)) :
    session.stream ≠ [] ∧ Exists fun received =>
      entry.1 = cacheCall (session.headerBuffer transport buffers) received ∧
        handleSessionMessage session.memory (session.headerBuffer transport buffers) received =
          (next.memory, some entry.2) ∧
        Exists fun left : Session => next = sendNext left ∧ left.upcoming = session.upcoming ∧
          left.stream.length ≤ session.stream.length - session.headerCount transport := by
  unfold turn at turned
  split at turned
  · cases turned
  · next present =>
    dsimp only at turned
    split at turned
    · cases turned
    · next memory reply handled =>
      cases turned
      rw [memory_sendNext]
      refine ⟨present, _, rfl, handled, _, rfl, rfl, ?_⟩
      rw [List.length_drop, List.length_drop]
      exact Nat.sub_le _ _

theorem headerCount_pos (transport : Transport) (session : Session) :
    0 < session.headerCount transport := by
  exact Nat.lt_min.mpr ⟨transport.positive session.reads, by decide⟩

theorem remaining_turn_lt {entry : Entry} {next : Session}
    (turned : session.turn transport buffers = some (entry, next)) :
    next.remaining < session.remaining := by
  rcases turn_some turned with ⟨present, received, -, -, left, rfl, upcoming, shorter⟩
  have some := List.length_pos_iff.mpr present
  have positive := headerCount_pos transport session
  rw [remaining_sendNext, remaining, remaining, upcoming]
  omega

theorem turn_of_nothing (nothing : session.remaining = 0) :
    session.turn transport buffers = none := by
  cases turned : session.turn transport buffers with
  | none => rfl
  | some result =>
      rcases result with ⟨entry, next⟩
      have fewer := remaining_turn_lt turned
      omega

/-- More turns than there are bytes do nothing more. -/
theorem serves_enough {fuel more : Nat} {session : Session} (enough : session.remaining ≤ fuel)
    (also : session.remaining ≤ more) :
    serves transport buffers fuel session = serves transport buffers more session := by
  induction fuel generalizing more session with
  | zero =>
      cases more with
      | zero => rfl
      | succ more => rw [serves, serves, turn_of_nothing (Nat.le_zero.mp enough)]
  | succ fuel inductionHypothesis =>
      cases more with
      | zero => rw [serves, serves, turn_of_nothing (Nat.le_zero.mp also)]
      | succ more =>
          rw [serves, serves]
          cases turned : session.turn transport buffers with
          | none => rfl
          | some result =>
              rcases result with ⟨entry, next⟩
              have fewer := remaining_turn_lt turned
              have same : serves transport buffers fuel next = serves transport buffers more next :=
                inductionHypothesis (by omega) (by omega)
              exact congrArg (List.cons entry) same

theorem answers_of_turn {entry : Entry} {next : Session}
    (turned : session.turn transport buffers = some (entry, next)) :
    session.answers transport buffers = entry :: next.answers transport buffers := by
  have fewer := remaining_turn_lt turned
  unfold answers
  have once : serves transport buffers session.remaining session =
      serves transport buffers (session.remaining + 1) session :=
    serves_enough (Nat.le_refl _) (Nat.le_succ _)
  rw [once, serves, turned]
  exact congrArg (List.cons entry) (serves_enough (Nat.le_of_lt fewer) (Nat.le_refl _))

theorem answers_of_stuck (stuck : session.turn transport buffers = none) :
    session.answers transport buffers = [] := by
  unfold answers
  cases session.remaining with
  | zero => rfl
  | succ fuel => rw [serves, stuck]

end Session

/-! ## The header of a request -/

theorem cacheCall_name {buffer : SessionMessage} {operation : Operation}
    (typed : buffer.parseSessionType = operation.type) (received : Bytes) :
    (cacheCall buffer received).map CacheCall.name = some buffer.objectName := by
  unfold cacheCall
  rw [typed]
  cases operation <;> rfl

/-- A call with an object is given the bytes received. -/
theorem cacheCall_data {buffer : SessionMessage} {operation : Operation}
    (typed : buffer.parseSessionType = operation.type) (stores : operation ≠ .get)
    (keeps : operation ≠ .delete) (received : Bytes) :
    (cacheCall buffer received).map CacheCall.data = some received := by
  unfold cacheCall
  rw [typed]
  cases operation with
  | create => rfl
  | put => rfl
  | get => exact False.elim (stores rfl)
  | delete => exact False.elim (keeps rfl)

/-- A message whose first byte is zero asks for nothing that the server
knows. -/
theorem cacheCall_of_zero {buffer : SessionMessage} (zero : buffer.load 0 1 = [0])
    (received : Bytes) : cacheCall buffer received = none := by
  have unknown : buffer.parseSessionType = .unknown := by
    have next : (buffer.load 1 1).length = 1 := Frame.load_length _ 1 1 (by decide)
    rcases List.length_eq_one_iff.mp next with ⟨byte, second⟩
    have code : decodeInt (buffer.load 0 2) = Int.bmod (256 * byte.toNat) 65536 := by
      rw [Frame.load_append _ 0 1 1, zero, second, decodeInt]
      simp [littleEndian]
    have multiple : ((65536 : Nat) : Int) ∣ Int.bmod (256 * byte.toNat) 65536 - 256 * byte.toNat :=
      Int.dvd_bmod_sub_self
    unfold parseSessionType
    rw [code, if_neg]
    simp only [SessionType.code]
    omega
  unfold cacheCall
  rw [unknown]

namespace ClientRequest

variable (request : ClientRequest)

theorem payload_header : request.header.payload = request.body.length := by
  have fits := request.fits
  apply payload_send
  unfold IsSigned
  omega

theorem type_header : request.header.parseSessionType = request.operation.type :=
  parseSessionType_send _ _ _ _

theorem name_header : request.header.objectName = (untilNul request.name).take 32 :=
  objectName_send _ _ _ _

theorem call_header (received : Bytes) :
    (cacheCall request.header received).map CacheCall.name =
      some ((untilNul request.name).take 32) := by
  rw [cacheCall_name request.type_header, name_header]

theorem data_header (present : request.body ≠ []) (received : Bytes) :
    (cacheCall request.header received).map CacheCall.data = some received := by
  apply cacheCall_data request.type_header
  · intro get
    exact present (request.bare (Or.inl get))
  · intro delete
    exact present (request.bare (Or.inr delete))

theorem bytes_length : request.bytes.length = bufSize + request.body.length := by
  rw [bytes, List.length_append, request.header.size_eq]

theorem reads_header (read : Nat) :
    (read + if 0 < request.header.payload then 2 else 1) = read + request.reads := by
  unfold reads
  rw [payload_header]
  cases request.body with
  | nil => rfl
  | cons byte rest =>
      rw [if_pos (by rw [List.length_cons]; omega), if_neg (List.cons_ne_nil _ _)]

end ClientRequest

theorem handle_complete (memory : Memory) {buffer : SessionMessage} {received : Bytes}
    (complete : buffer.payload ≤ received.length) :
    Exists fun after => Exists fun reply =>
      handleSessionMessage memory buffer received = (after, some reply) := by
  unfold handleSessionMessage
  rw [if_neg (by omega)]
  exact ⟨_, _, rfl⟩

theorem handle_incomplete (memory : Memory) {buffer : SessionMessage} {received : Bytes}
    (short : (received.length : Int) < buffer.payload) :
    (handleSessionMessage memory buffer received).2 = none := by
  unfold handleSessionMessage
  rw [if_pos (by omega)]

/-! ## Turns and the runs of the server

A turn is a run of the server in which the loop marks the connection as busy
and the task then runs without interruption. -/

/-- The server has nothing to do but to poll the socket of a slot: the slot is not
marked, and no task is left of any slot. -/
structure Idle (state : Server.State) (slot socket : Nat) : Prop where
  running : state.crashed = false
  connected : (state.slots slot).socket = some socket
  ready : (state.slots slot).busy = false
  unmarked : state.marking = none
  done : state.tasks = []

def replyWrites (socket : Nat) (reply : Reply) : List Server.Write :=
  Server.delivered (some socket) socket (some reply.header.data) ++
    (if 0 < reply.header.payload then Server.delivered (some socket) socket reply.body else [])

/-- A message that the loop reads from an idle slot is handled as a whole. -/
theorem message_runs {state : Server.State} {slot socket : Nat} (idle : Idle state slot socket)
    {buffer : SessionMessage} {received : Bytes} {memory : Memory} {reply : Reply}
    (handled : handleSessionMessage state.memory buffer received = (memory, some reply)) :
    Exists fun final => TransitionSystem.Leads Server.system state final ∧
      Idle final slot socket ∧ final.memory = memory ∧
      final.writes = state.writes ++ replyWrites socket reply := by
  have whole : buffer.payload ≤ received.length := by
    apply Int.le_of_not_gt
    intro short
    have unanswered := handle_incomplete state.memory short
    rw [handled] at unanswered
    cases unanswered
  let task : Server.Task := ⟨slot, socket, buffer, .queued⟩
  let polled := Server.pollStep state slot socket (.message buffer)
  have poll : Server.system.step state (.poll slot (.message buffer)) = some polled := by
    simp only [Server.system, Server.step, Server.Action.task, Server.loopStep, idle.running,
      idle.connected, idle.ready, idle.unmarked, Bool.false_eq_true, if_false, Option.isNone_none,
      and_self, if_true]
    rfl
  let marked : Server.State := { Server.setBusy polled slot true with marking := none }
  have mark : Server.system.step polled .markBusy = some marked := by
    have running : polled.crashed = false := idle.running
    simp only [Server.system, Server.step, Server.Action.task, running, Bool.false_eq_true,
      if_false]
    rfl
  have found : marked.tasks[0]? = some task := by
    change (state.tasks ++ [task])[0]? = some task
    rw [idle.done]
    rfl
  have socketOf : (marked.slots slot).socket = some socket :=
    (Server.socket_setBusy polled slot true slot).trans idle.connected
  have alive : marked.crashed = false := idle.running
  rcases Server.task_uninterrupted alive found rfl whole with
    ⟨final, same, computed, leads, running, tasks, marking, slots, writes⟩
  cases handled.symm.trans computed
  refine ⟨final, TransitionSystem.Leads.step poll (TransitionSystem.Leads.step mark leads), ?_, rfl,
    ?_⟩
  · refine ⟨running, ?_, ?_, marking, ?_⟩
    · rw [slots]
      exact (Server.socket_setBusy marked slot false slot).trans socketOf
    · rw [slots]
      change (Function.update marked.slots slot _ slot).busy = false
      rw [Function.update_self]
    · rw [tasks]
      change (state.tasks ++ [task]).eraseIdx 0 = []
      rw [idle.done]
      rfl
  · rw [writes]
    change state.writes ++ _ = _
    rw [show (marked.slots task.slot).socket = some socket from socketOf]
    rfl

/-- What a session does is done by a run of the server. -/
theorem session_runs (transport : Transport) (buffers : Nat -> SessionMessage) (fuel : Nat)
    {session : Session} {state : Server.State} {slot socket : Nat} (idle : Idle state slot socket)
    (memory : state.memory = session.memory) :
    Exists fun final => TransitionSystem.Leads Server.system state final ∧
      final.writes = state.writes ++
        (session.serves transport buffers fuel).flatMap
          (fun entry => replyWrites socket entry.2) := by
  induction fuel generalizing session state with
  | zero => exact ⟨state, .refl _, (List.append_nil _).symm⟩
  | succ fuel inductionHypothesis =>
      cases turned : session.turn transport buffers with
      | none =>
          refine ⟨state, .refl _, ?_⟩
          rw [Session.serves, turned]
          exact (List.append_nil _).symm
      | some result =>
          rcases result with ⟨entry, next⟩
          rcases Session.turn_some turned with ⟨-, received, -, handled, -⟩
          rw [← memory] at handled
          rcases message_runs idle handled with ⟨after, first, still, kept, writes⟩
          rcases inductionHypothesis still kept with ⟨final, later, more⟩
          refine ⟨final, first.trans later, ?_⟩
          rw [Session.serves, turned, more, writes, List.append_assoc]
          rfl

/-! ## Turns that find the header of a request -/

section Header

variable {transport : Transport} {buffers : Nat -> SessionMessage} {session : Session}
  {request : ClientRequest}

theorem payloadCount_header (transport : Transport) (session : Session) (request : ClientRequest) :
    session.payloadCount transport request.header.payload =
      min (transport.size (session.reads + 1)) request.body.length := by
  unfold Session.payloadCount
  rw [request.payload_header, Int.toNat_natCast]
  cases request.body with
  | nil => rw [if_neg (by decide), List.length_nil, Nat.min_zero]
  | cons byte rest => rw [if_pos (by rw [List.length_cons]; omega)]

/-- A payload that its read cuts is not answered, and nothing is after it. -/
theorem answers_of_short (found : session.headerBuffer transport buffers = request.header)
    (short : transport.size (session.reads + 1) < request.body.length) :
    session.answers transport buffers = [] := by
  apply Session.answers_of_stuck
  unfold Session.turn
  split
  · rfl
  · dsimp only
    rw [found, payloadCount_header, Nat.min_eq_left (Nat.le_of_lt short)]
    have cut : ((((session.stream.drop (session.headerCount transport)).take
        (transport.size (session.reads + 1))).length : Nat) : Int) < request.header.payload := by
      rw [request.payload_header, List.length_take]
      omega
    split
    · rfl
    · next after reply handled =>
      have unanswered := handle_incomplete session.memory cut
      rw [handled] at unanswered
      cases unanswered

/-- Otherwise the request is carried out with the bytes that follow. -/
theorem answers_of_header {rest : Bytes} (present : session.stream ≠ [])
    (found : session.headerBuffer transport buffers = request.header)
    (follows : session.stream.drop (session.headerCount transport) = rest)
    (enough : request.body.length ≤ rest.length)
    (returned : request.body ≠ [] ->
      request.body.length ≤ transport.size (session.reads + 1)) :
    Exists fun memory => Exists fun reply =>
      handleSessionMessage session.memory request.header (rest.take request.body.length) =
          (memory, some reply) ∧
        session.answers transport buffers =
          (cacheCall request.header (rest.take request.body.length), reply) ::
            (Session.sendNext ⟨memory, rest.drop request.body.length, session.upcoming,
              session.reads + request.reads⟩).answers transport buffers := by
  have count : session.payloadCount transport request.header.payload = request.body.length := by
    rw [payloadCount_header]
    cases body : request.body with
    | nil => rw [List.length_nil, Nat.min_zero]
    | cons byte bytes =>
        rw [← body]
        apply Nat.min_eq_right
        apply returned
        rw [body]
        exact List.cons_ne_nil _ _
  have complete : request.header.payload ≤ ((rest.take request.body.length).length : Int) := by
    rw [request.payload_header, List.length_take]
    omega
  rcases handle_complete session.memory complete with ⟨memory, reply, handled⟩
  refine ⟨memory, reply, handled, ?_⟩
  apply Session.answers_of_turn
  unfold Session.turn
  rw [if_neg present]
  dsimp only
  rw [found, follows, count, request.reads_header]
  split
  · next unanswered =>
    rw [handled] at unanswered
    cases unanswered
  · next after answer same =>
    cases handled.symm.trans same
    rfl

end Header

/-! ## Whole reads -/

/-- An answered message is recorded, and then come those after it. -/
def recorded (call : Option CacheCall) (handled : Memory × Option Reply)
    (later : Memory -> List Entry) : List Entry :=
  match handled with
  | (_, none) => []
  | (after, some reply) => (call, reply) :: later after

/-- What the server does when every header and every payload arrives whole. -/
def wholeAnswers : Memory -> List ClientRequest -> List Entry
  | _, [] => []
  | memory, request :: rest =>
      recorded (cacheCall request.header request.body)
        (handleSessionMessage memory request.header request.body)
        (fun after => wholeAnswers after rest)

theorem wholeAnswers_cons (memory : Memory) (request : ClientRequest) (rest : List ClientRequest) :
    Exists fun after => Exists fun reply =>
      handleSessionMessage memory request.header request.body = (after, some reply) ∧
        wholeAnswers memory (request :: rest) =
          (cacheCall request.header request.body, reply) :: wholeAnswers after rest := by
  have complete : request.header.payload ≤ (request.body.length : Int) := by
    rw [request.payload_header]
  rcases handle_complete memory complete with ⟨after, reply, handled⟩
  refine ⟨after, reply, handled, ?_⟩
  rw [wholeAnswers, handled, recorded]

section Requests

variable {transport : Transport} {buffers : Nat -> SessionMessage} {memory : Memory}
  {request : ClientRequest} {rest : List ClientRequest} {read : Nat}

theorem answers_nothing (transport : Transport) (buffers : Nat -> SessionMessage)
    (memory : Memory) (read : Nat) :
    (Session.sendNext ⟨memory, [], [], read⟩).answers transport buffers = [] := by
  apply Session.answers_of_stuck
  exact if_pos rfl

/-- The first `count` bytes of a request are at most those of its header. -/
theorem take_bytes {count : Nat} (inside : count ≤ bufSize) :
    request.bytes.take count = request.header.data.take count := by
  have within : count ≤ request.header.data.length := by
    rw [request.header.size_eq]
    exact inside
  rw [ClientRequest.bytes, List.take_append_of_le_length within]

theorem drop_bytes {count : Nat} (inside : count ≤ bufSize) :
    request.bytes.drop count = request.header.data.drop count ++ request.body := by
  have within : count ≤ request.header.data.length := by
    rw [request.header.size_eq]
    exact inside
  rw [ClientRequest.bytes, List.drop_append_of_le_length within]

/-- The session of a client that has sent a request. -/
abbrev sent (memory : Memory) (request : ClientRequest) (rest : List ClientRequest) (read : Nat) :
    Session :=
  ⟨memory, request.bytes, rest, read⟩

theorem sendNext_request (memory : Memory) (request : ClientRequest) (rest : List ClientRequest)
    (read : Nat) :
    Session.sendNext ⟨memory, [], request :: rest, read⟩ = sent memory request rest read := rfl

theorem stream_ne_nil : (sent memory request rest read).stream ≠ [] := by
  apply List.ne_nil_of_length_pos
  rw [request.bytes_length]
  exact Nat.add_pos_left (by decide) _

/-- The buffer after the first read of a request.  It is the header that
starts as the request does and goes on as the buffer did before. -/
theorem header_found {header : SessionMessage}
    (start : request.header.data.take (min (transport.size read) bufSize) =
      header.data.take (min (transport.size read) bufSize))
    (held : (buffers read).data.drop (min (transport.size read) bufSize) =
      header.data.drop (min (transport.size read) bufSize)) :
    (sent memory request rest read).headerBuffer transport buffers = header := by
  have inside : min (transport.size read) bufSize ≤ bufSize := Nat.min_le_right _ _
  have stored := (take_bytes inside).trans start
  have fits : 0 + (header.data.take (min (transport.size read) bufSize)).length ≤ bufSize := by
    rw [Nat.zero_add, List.length_take]
    omega
  rw [← (buffers read).store_take header inside held fits]
  unfold Session.headerBuffer
  congr 1

theorem header_whole (whole : bufSize ≤ transport.size read) :
    (sent memory request rest read).headerBuffer transport buffers = request.header ∧
      (sent memory request rest read).stream.drop
        ((sent memory request rest read).headerCount transport) = request.body := by
  have count : min (transport.size read) bufSize = bufSize := Nat.min_eq_right whole
  have nothing : forall message : SessionMessage, message.data.drop bufSize = [] := by
    intro message
    exact List.drop_of_length_le (Nat.le_of_eq message.size_eq)
  constructor
  · apply header_found rfl
    rw [count, nothing, nothing]
  · change request.bytes.drop (min (transport.size read) bufSize) = request.body
    rw [count, drop_bytes (Nat.le_refl _), nothing, List.nil_append]

/-- A request whose reads are whole is answered as it should be, and then come
the requests after it. -/
theorem answers_of_request (buffers : Nat -> SessionMessage) (memory : Memory)
    (rest : List ClientRequest) (header : bufSize ≤ transport.size read)
    (payload : request.body ≠ [] -> request.body.length ≤ transport.size (read + 1)) :
    Exists fun after => Exists fun reply =>
      handleSessionMessage memory request.header request.body = (after, some reply) ∧
        (sent memory request rest read).answers transport buffers =
          (cacheCall request.header request.body, reply) ::
            (Session.sendNext ⟨after, [], rest, read + request.reads⟩).answers transport buffers ∧
        wholeAnswers memory (request :: rest) =
          (cacheCall request.header request.body, reply) :: wholeAnswers after rest := by
  rcases header_whole header with ⟨found, follows⟩
  rcases answers_of_header stream_ne_nil found follows (Nat.le_refl _) payload with
    ⟨after, reply, handled, answered⟩
  rcases wholeAnswers_cons memory request rest with ⟨same, sameReply, reference, recorded⟩
  rw [List.take_length] at handled answered
  rw [List.drop_length] at answered
  cases reference.symm.trans handled
  exact ⟨after, reply, handled, answered, recorded⟩

end Requests

/-- With whole reads the server does what it should, whatever is on the
stack. -/
theorem answers_of_wholeReads {transport : Transport} (buffers : Nat -> SessionMessage)
    {memory : Memory} {requests : List ClientRequest} {read : Nat}
    (whole : WholeReads transport read requests) :
    (Session.sendNext ⟨memory, [], requests, read⟩).answers transport buffers =
      wholeAnswers memory requests := by
  induction requests generalizing memory read with
  | nil => exact answers_nothing transport buffers memory read
  | cons request rest inductionHypothesis =>
      rcases whole with ⟨header, payload, later⟩
      rcases answers_of_request buffers memory rest header payload with
        ⟨after, reply, -, answered, recorded⟩
      rw [sendNext_request, answered, recorded, inductionHypothesis later]

/-! ## Headers that are cut -/

theorem wholeAnswers_ne_nil (memory : Memory) (request : ClientRequest)
    (rest : List ClientRequest) : wholeAnswers memory (request :: rest) ≠ [] := by
  rcases wholeAnswers_cons memory request rest with ⟨after, reply, -, recorded⟩
  rw [recorded]
  exact List.cons_ne_nil _ _

/-- The server does what it should only if its first call is that of the first
request. -/
theorem call_of_answers {transport : Transport} {buffers : Nat -> SessionMessage}
    {session : Session} {memory : Memory} {request : ClientRequest} {rest : List ClientRequest}
    (same : session.answers transport buffers = wholeAnswers memory (request :: rest)) :
    Exists fun received =>
      cacheCall (session.headerBuffer transport buffers) received =
        cacheCall request.header request.body := by
  rcases wholeAnswers_cons memory request rest with ⟨after, reply, -, recorded⟩
  cases turned : session.turn transport buffers with
  | none =>
      rw [Session.answers_of_stuck turned] at same
      exact False.elim (wholeAnswers_ne_nil memory request rest same.symm)
  | some result =>
      rcases result with ⟨entry, next⟩
      rcases Session.turn_some turned with ⟨-, received, called, -, -⟩
      rw [Session.answers_of_turn turned, recorded] at same
      have first := congrArg Prod.fst (List.cons.inj same).1
      exact ⟨received, called.symm.trans first⟩

section Cut

variable {transport : Transport} {memory : Memory} {request : ClientRequest}
  {rest : List ClientRequest} {read : Nat}

/-- A header that is cut before its name ends is completed to one for another
object by what is on the stack. -/
theorem differs_of_name (cut : transport.size read < bufSize)
    (unended : transport.size read - 6 ≤ ((untilNul request.name).take 32).length) :
    Exists fun buffers =>
      (sent memory request rest read).answers transport buffers ≠
        wholeAnswers memory (request :: rest) := by
  have count : min (transport.size read) bufSize = transport.size read :=
    Nat.min_eq_left (Nat.le_of_lt cut)
  have inside : transport.size read - 6 < 32 := by
    change transport.size read < 38 at cut
    omega
  rcases exists_same_start request.name inside unended with ⟨other, start, different⟩
  let header : SessionMessage :=
    send (Frame.zeros bufSize) request.operation.type.code other request.body.length
  have begins : request.header.data.take (transport.size read) =
      header.data.take (transport.size read) := by
    rw [ClientRequest.header, take_send, take_send, start]
  refine ⟨fun _ => header, ?_⟩
  intro same
  have found : (sent memory request rest read).headerBuffer transport (fun _ => header) = header := by
    apply header_found
    · rw [count]
      exact begins
    · rfl
  rcases call_of_answers same with ⟨received, call⟩
  rw [found] at call
  have names := congrArg (Option.map CacheCall.name) call
  rw [request.call_header, cacheCall_name (parseSessionType_send _ _ _ _), objectName_send] at names
  exact different (Option.some.inj names)

/-- A text that returns after zeros before it and the same number of bytes
off its end is all zeros. -/
theorem zeros_of_shift {body : Bytes} {count : Nat} (positive : 0 < count)
    (same : (List.replicate count 0 ++ body).take body.length = body) :
    forall byte, byte ∈ body -> byte = 0 := by
  have every : forall place, place < body.length -> body[place]? = some 0 := by
    intro place
    induction place using Nat.strongRecOn with
    | ind place inductionHypothesis =>
        intro inside
        rw [← same, List.getElem?_take_of_lt inside]
        by_cases early : place < count
        · rw [List.getElem?_append_left (by rw [List.length_replicate]; exact early),
            List.getElem?_replicate_of_lt early]
        · rw [List.getElem?_append_right (by rw [List.length_replicate]; omega),
            List.length_replicate]
          exact inductionHypothesis (place - count) (by omega) (by omega)
  intro byte member
  rcases List.getElem?_of_mem member with ⟨place, found⟩
  have inside : place < body.length := (List.getElem?_eq_some_iff.mp found).1
  exact Option.some.inj (found.symm.trans (every place inside))

theorem data_headerBuffer (transport : Transport) (buffers : Nat -> SessionMessage)
    (session : Session) :
    (session.headerBuffer transport buffers).data =
      session.stream.take (session.headerCount transport) ++
        (buffers session.reads).data.drop
          (session.stream.take (session.headerCount transport)).length := by
  unfold Session.headerBuffer Frame.store
  dsimp only
  rw [Nat.zero_add, List.take_zero, List.nil_append]

/-- The first byte of the buffer is the first one that was read. -/
theorem load_headerBuffer {buffers : Nat -> SessionMessage} {session : Session} {byte : UInt8}
    {more : Bytes} (stream : session.stream = byte :: more) :
    (session.headerBuffer transport buffers).load 0 1 = [byte] := by
  rcases Nat.exists_eq_succ_of_ne_zero (Nat.ne_of_gt (session.headerCount_pos transport)) with
    ⟨count, positive⟩
  rw [Frame.load, data_headerBuffer, stream, positive, List.take_succ_cons]
  rfl

theorem headerBuffer_zeros {session : Session}
    (zeros : forall byte, byte ∈ session.stream -> byte = 0) :
    session.headerBuffer transport (fun _ => Frame.zeros bufSize) = Frame.zeros bufSize := by
  apply Frame.ext
  apply List.eq_replicate_iff.mpr
  refine ⟨(session.headerBuffer transport _).size_eq, ?_⟩
  rw [data_headerBuffer]
  intro byte member
  rcases List.mem_append.mp member with read | kept
  · exact zeros byte (List.mem_of_mem_take read)
  · exact List.eq_of_mem_replicate (List.mem_of_mem_drop kept)

theorem turn_of_bare {buffers : Nat -> SessionMessage} {session : Session}
    (present : session.stream ≠ [])
    (bare : (session.headerBuffer transport buffers).payload ≤ 0) :
    session.turn transport buffers ≠ none := by
  intro stuck
  unfold Session.turn at stuck
  rw [if_neg present] at stuck
  dsimp only at stuck
  generalize session.headerBuffer transport buffers = buffer at bare stuck
  generalize ((session.stream.drop (session.headerCount transport)).take
    (session.payloadCount transport buffer.payload)) = received at stuck
  have complete : buffer.payload ≤ (received.length : Int) := by omega
  rcases handle_complete session.memory complete with ⟨after, reply, handled⟩
  rw [handled] at stuck
  cases stuck

/-- The rest of a header that was carried out is answered as a message of its
own, or blocks the connection. -/
theorem differs_of_rest {left : Bytes} (present : left ≠ [])
    (zeros : forall byte, byte ∈ left -> byte = 0) (requests : List ClientRequest) :
    (Session.sendNext ⟨memory, left, requests, read⟩).answers transport
        (fun _ => Frame.zeros bufSize) ≠ wholeAnswers memory requests := by
  intro same
  cases requests with
  | nil =>
      have bare : ((Session.mk memory left [] read).headerBuffer transport
          (fun _ => Frame.zeros bufSize)).payload ≤ 0 := by
        rw [headerBuffer_zeros zeros, payload, Frame.load_zeros 2 4 (by decide)]
        decide
      have going := turn_of_bare present bare
      rcases Option.ne_none_iff_exists'.mp going with ⟨⟨entry, next⟩, turned⟩
      cases (Session.answers_of_turn turned).symm.trans same
  | cons request rest =>
      rcases call_of_answers same with ⟨received, call⟩
      cases left with
      | nil => exact present rfl
      | cons byte more =>
          have first : byte = 0 := zeros byte List.mem_cons_self
          have stream : (Session.sendNext ⟨memory, byte :: more, request :: rest, read⟩).stream =
              0 :: (more ++ request.bytes) := by
            rw [← first]
            rfl
          rw [cacheCall_of_zero (load_headerBuffer stream)] at call
          have named := request.call_header request.body
          rw [← call] at named
          cases named

/-- A header that is cut after its name has ended is carried out, over a
cleared buffer, with the rest of it in front of the payload. -/
theorem differs_of_padding (cut : transport.size read < bufSize)
    (ended : ((untilNul request.name).take 32).length < transport.size read - 6) :
    (sent memory request rest read).answers transport (fun _ => Frame.zeros bufSize) ≠
      wholeAnswers memory (request :: rest) := by
  have count : min (transport.size read) bufSize = transport.size read :=
    Nat.min_eq_left (Nat.le_of_lt cut)
  have padding : request.header.data.drop (transport.size read) =
      List.replicate (bufSize - transport.size read) 0 := by
    rw [ClientRequest.header, drop_send _ _ _ _ (by omega), drop_paddedField (Nat.le_of_lt ended)]
    have width : 32 - (transport.size read - 6) = 38 - transport.size read := by omega
    rw [width]
  have found : (sent memory request rest read).headerBuffer transport
      (fun _ => Frame.zeros bufSize) = request.header := by
    apply header_found rfl
    rw [count, padding]
    exact List.drop_replicate
  have follows : (sent memory request rest read).stream.drop
      ((sent memory request rest read).headerCount transport) =
        List.replicate (bufSize - transport.size read) 0 ++ request.body := by
    change request.bytes.drop (min (transport.size read) bufSize) = _
    rw [count, drop_bytes (Nat.le_of_lt cut), padding]
  intro same
  by_cases short : transport.size (read + 1) < request.body.length
  · rw [answers_of_short found short] at same
    exact wholeAnswers_ne_nil memory request rest same.symm
  · have enough : request.body.length ≤
        (List.replicate (bufSize - transport.size read) 0 ++ request.body).length := by
      rw [List.length_append]
      omega
    rcases answers_of_header stream_ne_nil found follows enough (fun _ => Nat.le_of_not_lt short)
      with ⟨after, reply, handled, answered⟩
    rcases wholeAnswers_cons memory request rest with ⟨other, otherReply, reference, recorded⟩
    rw [answered, recorded] at same
    have parts := List.cons.inj same
    -- the payload taken is the payload sent, so both are zeros
    have taken : (List.replicate (bufSize - transport.size read) 0 ++ request.body).take
        request.body.length = request.body := by
      by_cases empty : request.body = []
      · rw [empty]
        rfl
      · have data := congrArg (Option.map CacheCall.data) (congrArg Prod.fst parts.1)
        dsimp only at data
        rw [request.data_header empty, request.data_header empty] at data
        exact Option.some.inj data
    rw [taken] at handled
    cases reference.symm.trans handled
    have zeros := zeros_of_shift (Nat.sub_pos_of_lt cut) taken
    refine differs_of_rest ?_ ?_ rest parts.2
    · apply List.ne_nil_of_length_pos
      rw [List.length_drop, List.length_append, List.length_replicate, Nat.add_sub_cancel]
      exact Nat.sub_pos_of_lt cut
    · intro byte member
      rcases List.mem_append.mp (List.mem_of_mem_drop member) with pad | own
      · exact List.eq_of_mem_replicate pad
      · exact zeros byte own

/-- The reads of the first request are whole when the server does what it
should. -/
theorem whole_of_answers
    (same : forall buffers, (sent memory request rest read).answers transport buffers =
      wholeAnswers memory (request :: rest)) :
    bufSize ≤ transport.size read ∧
      (request.body ≠ [] -> request.body.length ≤ transport.size (read + 1)) := by
  have header : bufSize ≤ transport.size read := by
    apply Nat.le_of_not_lt
    intro cut
    rcases Nat.lt_or_ge ((untilNul request.name).take 32).length (transport.size read - 6) with
      ended | unended
    · exact differs_of_padding cut ended (same _)
    · rcases differs_of_name cut unended with ⟨buffers, different⟩
      exact different (same buffers)
  refine ⟨header, ?_⟩
  intro _
  apply Nat.le_of_not_lt
  intro short
  have stuck : (sent memory request rest read).answers transport
      (fun _ => Frame.zeros bufSize) = [] := answers_of_short (header_whole header).1 short
  exact wholeAnswers_ne_nil memory request rest ((same _).symm.trans stuck)

end Cut

theorem wholeReads_of_answers {transport : Transport} {memory : Memory}
    {requests : List ClientRequest} {read : Nat}
    (same : forall buffers,
      (Session.sendNext ⟨memory, [], requests, read⟩).answers transport buffers =
        wholeAnswers memory requests) :
    WholeReads transport read requests := by
  induction requests generalizing memory read with
  | nil => trivial
  | cons request rest inductionHypothesis =>
      rcases whole_of_answers same with ⟨header, payload⟩
      rcases wholeAnswers_cons memory request rest with ⟨other, otherReply, reference, recorded⟩
      suffices tail : forall buffers,
          (Session.sendNext ⟨other, [], rest, read + request.reads⟩).answers transport buffers =
            wholeAnswers other rest from ⟨header, payload, inductionHypothesis tail⟩
      intro buffers
      rcases answers_of_request buffers memory rest header payload with
        ⟨after, reply, handled, answered, -⟩
      cases reference.symm.trans handled
      have all := (answered.symm.trans (same buffers)).trans recorded
      exact (List.cons.inj all).2

/-! ## Independence of the segments -/

theorem wholeReads_whole (read : Nat) (requests : List ClientRequest) :
    WholeReads Transport.whole read requests := by
  induction requests generalizing read with
  | nil => trivial
  | cons request rest inductionHypothesis =>
      have large : bufSize ≤ 2 ^ 31 := by decide
      exact ⟨large, fun _ => Nat.le_of_lt request.fits, inductionHypothesis _⟩

/-- Whatever is on the stack, the server makes the calls and sends the replies
that it makes and sends when every read returns all that is asked for, exactly
when the transport cuts no header and no payload. -/
theorem independent_of_segments_iff (transport : Transport) (memory : Memory)
    (requests : List ClientRequest) :
    (forall buffers others,
      (Session.start memory requests).answers transport buffers =
        (Session.start memory requests).answers Transport.whole others) ↔
      WholeReads transport 0 requests := by
  have reference : forall others, (Session.start memory requests).answers Transport.whole others =
      wholeAnswers memory requests := by
    intro others
    exact answers_of_wholeReads others (wholeReads_whole 0 requests)
  constructor
  · intro same
    apply wholeReads_of_answers
    intro buffers
    exact (same buffers buffers).trans (reference buffers)
  · intro whole buffers others
    rw [reference]
    exact answers_of_wholeReads buffers whole

/-- A transport that returns at most 20 bytes. -/
def shortReads : Transport := ⟨fun _ => 20, fun _ => by decide⟩

def getRequest : ClientRequest := ⟨.get, ascii "/obj1", [], by decide, fun _ => rfl⟩

/-- A header that arrives in 20 and 18 bytes is answered twice. -/
theorem cut_header_answered_twice :
    ((Session.start Memory.empty [getRequest]).answers shortReads
        (fun _ => Frame.zeros bufSize)).length = 2 ∧
      ((Session.start Memory.empty [getRequest]).answers Transport.whole
        (fun _ => Frame.zeros bufSize)).length = 1 ∧
      ¬ forall buffers others,
        (Session.start Memory.empty [getRequest]).answers shortReads buffers =
          (Session.start Memory.empty [getRequest]).answers Transport.whole others := by
  have twice : ((Session.start Memory.empty [getRequest]).answers shortReads
      (fun _ => Frame.zeros bufSize)).length = 2 := by decide +kernel
  have once : ((Session.start Memory.empty [getRequest]).answers Transport.whole
      (fun _ => Frame.zeros bufSize)).length = 1 := by decide +kernel
  refine ⟨twice, once, ?_⟩
  intro same
  rw [same _ (fun _ => Frame.zeros bufSize), once] at twice
  cases twice

end Segmentation
end LocalMemory
end Praas
