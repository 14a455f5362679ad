import Praas.Execution.PendingInvocations

namespace Praas
namespace Execution

open Library
open Wire
open ControlPlane (PendingAllocation)

/-!
# A stream of invocation requests

A client sends requests one after the other, each a header of 39 bytes and the
payload that it announces.  `receive` takes a header off the connection with
one read and then, on some of its paths, the payload.  A request without a name
and a request for which there is no buffer leave their payload on the
connection, and the next call takes it for a header.
-/

/-! ## Requests on the wire -/

/-- A well-formed invocation request with its payload: the type is that of an
invocation, and the size that the packet announces is that of what follows it. -/
structure Packet where
  header : Frame expectedLength
  payload : Bytes
  typed : decodeInt (header.load 0 2) = invocationRequestCode
  announced : (FunctionRequestMsg.mk header).payload = payload.length

namespace Packet

def request (packet : Packet) : FunctionRequestMsg := ⟨packet.header⟩

def bytes (packet : Packet) : Bytes := packet.header.data ++ packet.payload

/-- The invocation that the request asks for. -/
def invocation (packet : Packet) : PendingAllocation :=
  ⟨packet.payload, packet.request.functionName, packet.request.functionId⟩

theorem parse_header (packet : Packet) :
    parse packet.header expectedLength = some (.invocationRequest packet.request) := by
  simp only [parse, packet.typed, sessionRequestCode, invocationRequestCode, ne_eq,
    not_true_eq_false, if_false, Int.reduceEq, if_true]
  rfl

theorem bytes_length (packet : Packet) :
    packet.bytes.length = expectedLength + packet.payload.length := by
  rw [bytes, List.length_append, packet.header.size_eq]

end Packet

def requestStream (packets : List Packet) : Bytes := packets.flatMap Packet.bytes

theorem requestStream_bytes (packet : Packet) (packets : List Packet) :
    requestStream (packet :: packets) = packet.bytes ++ requestStream packets :=
  List.flatMap_cons

theorem requestStream_cons (packet : Packet) (packets : List Packet) :
    requestStream (packet :: packets) =
      packet.header.data ++ (packet.payload ++ requestStream packets) := by
  rw [requestStream_bytes, Packet.bytes, List.append_assoc]

/-! ## One call of `receive` -/

/-- The queue hands out a buffer: the front one is not empty, or a new one is
allocated. -/
def offers (buffers : List Buffer) (size : Nat) : Bool :=
  match buffers with
  | [] => false
  | front :: _ => decide (buffers.length < size ∨ front.size ≠ 0)

theorem offers_iff (buffers : List Buffer) {size : Nat} (positive : 0 < size) :
    offers buffers size = true ↔ (retrieveBuffer buffers size).1.size ≠ 0 := by
  unfold offers retrieveBuffer
  cases buffers with
  | nil => simp [Buffer.null]
  | cons front rest =>
      dsimp only
      rw [decide_eq_true_eq]
      split
      · rename_i replaced
        simp only [replaced, true_or, true_iff]
        omega
      · rename_i kept
        simp only [kept, false_or]

/-- The payload of the request is taken off the connection: there is none, or
the request is named and finds a buffer. -/
def takesPayload (buffers : List Buffer) (packet : Packet) : Bool :=
  decide (packet.payload = [] ∨
    (packet.request.functionName ≠ [] ∧ offers buffers packet.payload.length = true))

/-- The task that is pushed for a request whose payload is taken. -/
def Packet.task (packet : Packet) (buffers : List Buffer) : Task :=
  ⟨packet.request.functionName, packet.request.functionId, packet.payload.length,
    if packet.payload = [] then Buffer.null
    else { (retrieveBuffer buffers packet.payload.length).1 with val := packet.payload }⟩

/-- The buffers that are left when the payload of a request has been taken. -/
def Packet.leftBuffers (packet : Packet) (buffers : List Buffer) : List Buffer :=
  if packet.payload = [] then buffers else (retrieveBuffer buffers packet.payload.length).2

section Receive

variable (session : Session) (peer : Peer) (message : Frame expectedLength) (packet : Packet)

/-- `receive` on a header that arrives whole goes on with the rest of the
connection. -/
theorem receive_whole {segments : List Bytes} {tail : Bytes}
    (stream : segments.flatten = packet.header.data ++ tail)
    (whole : (read expectedLength (delivered segments)).count = expectedLength) :
    Exists fun rest => rest.flatten = tail ∧
      (read expectedLength (delivered segments)).rest = delivered rest ∧
      session.receive peer message (delivered segments) =
        ⟨true, (session.accept peer packet.request (delivered rest)).1, packet.header,
          (session.accept peer packet.request (delivered rest)).2⟩ := by
  rcases read_whole stream whole with ⟨rest, result, flat⟩
  refine ⟨rest, flat, by rw [result], ?_⟩
  unfold Session.receive
  simp only [result, Frame.store_whole]
  rw [if_neg (by decide), if_neg (by decide), packet.parse_header]

/-- A request whose payload is taken: it is off the connection, and a named
one has been pushed with it. -/
theorem accept_taken {segments : List Bytes} {tail : Bytes}
    (stream : segments.flatten = packet.payload ++ tail)
    (taken : takesPayload session.buffers packet = true) :
    session.accept peer packet.request (delivered segments) =
      (if packet.request.functionName = [] then session
        else ({ session with buffers := packet.leftBuffers session.buffers } : Session).pushTask peer
          (packet.task session.buffers),
        (readN packet.payload.length (delivered segments)).rest) := by
  have announced : packet.request.payload = packet.payload.length := packet.announced
  dsimp only [Session.accept]
  rw [announced]
  by_cases unnamed : packet.request.functionName = []
  · have empty : packet.payload = [] :=
      (of_decide_eq_true taken).resolve_right (fun both => both.1 unnamed)
    rw [if_pos unnamed, if_pos unnamed, empty, List.length_nil, readN_zero]
  rw [if_neg unnamed, if_neg unnamed]
  unfold Packet.leftBuffers Packet.task
  by_cases empty : packet.payload = []
  · rw [if_pos empty, if_pos empty, empty, if_neg (by decide), List.length_nil, readN_zero]
    rfl
  · have positive : 0 < packet.payload.length := List.length_pos_iff.mpr empty
    have found : (retrieveBuffer session.buffers packet.payload.length).1.size ≠ 0 :=
      (offers_iff _ positive).mp ((of_decide_eq_true taken).resolve_left empty).2
    rcases readN_split packet.payload.length segments with ⟨rest, result, _⟩
    rw [stream, List.take_left] at result
    rw [if_neg empty, if_neg empty, if_pos (by omega), Int.toNat_natCast, if_neg found, result]

theorem accept_left (connection : List Arrival)
    (left : takesPayload session.buffers packet = false) :
    (session.accept peer packet.request connection).2 = connection ∧
      (session.accept peer packet.request connection).1.tasks peer = session.tasks peer := by
  have announced : packet.request.payload = packet.payload.length := packet.announced
  have refused := not_or.mp (of_decide_eq_false left)
  dsimp only [Session.accept]
  rw [announced]
  split
  · exact ⟨rfl, rfl⟩
  · rename_i named
    have positive : 0 < packet.payload.length := List.length_pos_iff.mpr refused.1
    have none : (retrieveBuffer session.buffers packet.payload.length).1.size = 0 := by
      by_contra some
      exact refused.2 ⟨named, (offers_iff _ positive).mpr some⟩
    rw [if_pos (by omega), Int.toNat_natCast, if_pos none]
    exact ⟨rfl, rfl⟩

end Receive

/-! ## Staying in step -/

/-- Every header arrives whole: where the connection stands after the requests
before it, one read returns all of it. -/
def headersWhole : List Packet -> List Arrival -> Prop
  | [], _ => True
  | packet :: packets, connection =>
      (read expectedLength connection).count = expectedLength ∧
        headersWhole packets
          (readN packet.payload.length (read expectedLength connection).rest).rest

/-- Calls of `receive` on a stream of requests, with any buffers available at
each call: a call that returns `true` leaves the connection at the first byte
of the next request. -/
def InStep (peer : Peer) (available : Nat -> List Buffer) :
    List Packet -> Session -> Frame expectedLength -> List Arrival -> Nat -> Prop
  | [], _, _, _, _ => True
  | _ :: packets, session, message, connection, turn =>
      let received := ({ session with buffers := available turn } : Session).receive peer message
        connection
      received.continues = true ->
        (Exists fun segments => received.rest = delivered segments ∧
          segments.flatten = requestStream packets) ∧
        InStep peer available packets received.session received.message received.rest (turn + 1)

/-- A request whose payload is not taken leaves the connection at its payload,
and not at the next request. -/
theorem not_at_next {packet : Packet} {packets : List Packet} {rest segments : List Bytes}
    (present : packet.payload ≠ []) (flat : rest.flatten = packet.payload ++ requestStream packets)
    (position : delivered rest = delivered segments) :
    segments.flatten ≠ requestStream packets := by
  intro next
  rw [← delivered_injective position, flat, List.append_left_eq_self] at next
  exact present next

theorem inStep_iff (peer : Peer) (available : Nat -> List Buffer) (packets : List Packet)
    (session : Session) (message : Frame expectedLength) {segments : List Bytes} (turn : Nat)
    (stream : segments.flatten = requestStream packets)
    (whole : headersWhole packets (delivered segments)) :
    InStep peer available packets session message (delivered segments) turn ↔
      forall index packet, packets[index]? = some packet ->
        takesPayload (available (turn + index)) packet = true := by
  induction packets generalizing session message segments turn with
  | nil => simp [InStep]
  | cons packet packets inductionHypothesis =>
      rw [requestStream_cons] at stream
      rcases receive_whole { session with buffers := available turn } peer message packet stream
        whole.1 with ⟨rest, flat, position, result⟩
      have later := whole.2
      rw [position] at later
      simp only [InStep, result, true_imp_iff]
      rw [forall_getElem?_cons, Nat.add_zero]
      cases taken : takesPayload (available turn) packet with
      | true =>
          have accepted := congrArg Prod.snd
            (accept_taken { session with buffers := available turn } peer packet flat taken)
          rcases readN_split packet.payload.length rest with ⟨after, split, remains⟩
          rw [flat, List.drop_left] at remains
          rw [split] at accepted later
          have next := inductionHypothesis
            ({ session with buffers := available turn }.accept peer packet.request
              (delivered rest)).1 packet.header (turn + 1) remains later
          simp only [Nat.add_assoc, Nat.add_comm 1] at next
          rw [accepted]
          dsimp only
          rw [next]
          constructor
          · rintro ⟨_, others⟩
            exact ⟨rfl, others⟩
          · rintro ⟨_, others⟩
            exact ⟨⟨after, rfl, remains⟩, others⟩
      | false =>
          have accepted : ({ session with buffers := available turn }.accept peer packet.request
              (delivered rest)).2 = delivered rest :=
            (accept_left { session with buffers := available turn } peer packet _ taken).1
          have present : packet.payload ≠ [] := (not_or.mp (of_decide_eq_false taken)).1
          constructor
          · rintro ⟨⟨after, same, next⟩, _⟩
            exact False.elim (not_at_next present flat (accepted.symm.trans same) next)
          · rintro ⟨first, _⟩
            cases first

/-- Receive keeps the connection in step with a stream of requests whose
headers arrive whole exactly when the payload of every request is taken:
it is empty, or the request has a name and the queue of that call offers a
buffer.  A request that is refused or ignored leaves its payload behind. -/
theorem requests_in_step_iff (peer : Peer) (available : Nat -> List Buffer)
    (packets : List Packet) (session : Session) (message : Frame expectedLength)
    (segments : List Bytes) (stream : segments.flatten = requestStream packets)
    (whole : headersWhole packets (delivered segments)) :
    InStep peer available packets session message (delivered segments) 0 ↔
      forall index packet, packets[index]? = some packet ->
        takesPayload (available index) packet = true := by
  have every := inStep_iff peer available packets session message 0 stream whole
  simp only [Nat.zero_add] at every
  exact every

/-- An invocation of the function `f` with the given payload. -/
def functionPacket (functionId payload : Bytes) (small : payload.length < 65536) : Packet where
  header := FunctionRequest.fill Request.new (ascii "f") functionId payload.length
  payload := payload
  typed := by
    rw [FunctionRequest.load_type_fill, decodeInt_encodeInt]
    rfl
  announced := by
    have seen := payload_fill ⟨ascii "f", functionId, payload.length⟩ Request.new (refilled_gap [])
    refine seen.trans ?_
    change (payload.length : Int) % 65536 = payload.length
    omega

def twoPackets : List Packet :=
  [functionPacket (ascii "1") [7, 8] (by decide), functionPacket (ascii "2") [] (by decide)]

theorem twoPackets_whole :
    headersWhole twoPackets (delivered [requestStream twoPackets]) :=
  ⟨by decide +kernel, by decide +kernel, trivial⟩

/-- With a buffer for the first request the session stays in step. -/
theorem two_packets_in_step :
    InStep .dataPlane (fun _ => [⟨[], 16⟩]) twoPackets (Session.new 1) (Frame.zeros expectedLength)
      (delivered [requestStream twoPackets]) 0 := by
  refine (requests_in_step_iff _ _ _ _ _ _ List.flatten_singleton twoPackets_whole).mpr ?_
  have each : forall packet, packet ∈ twoPackets -> takesPayload [⟨[], 16⟩] packet = true := by
    decide +kernel
  intro index packet present
  exact each packet (List.mem_of_getElem? present)

/-- Without one, the payload of the first request is left on the connection. -/
theorem refused_payload_left :
    ¬ forall (peer : Peer) (available : Nat -> List Buffer) (packets : List Packet)
      (session : Session) (message : Frame expectedLength) (segments : List Bytes),
      segments.flatten = requestStream packets ->
      headersWhole packets (delivered segments) ->
      InStep peer available packets session message (delivered segments) 0 := by
  intro always
  have kept := always .dataPlane (fun _ => []) twoPackets (Session.new 1)
    (Frame.zeros expectedLength) [requestStream twoPackets] List.flatten_singleton twoPackets_whole
  have taken := (inStep_iff .dataPlane (fun _ => []) twoPackets (Session.new 1)
    (Frame.zeros expectedLength) 0 List.flatten_singleton twoPackets_whole).mp kept 0 _ rfl
  exact absurd taken (by decide +kernel)

end Execution
end Praas
