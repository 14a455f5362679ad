import Praas.Wire.Messages

namespace Praas
namespace Wire

open Library

/-!
# The links of the control plane with process workers and sessions

Process workers and sessions identify themselves to the control plane and
report the state of sessions in packets of 24 bytes.  They are filled by
`SendMessage` in the runtime and read through `Header` in `system/common`,
with offsets that are written down on each side separately.  In the other
direction a session request travels in a packet of 39 bytes.

A packet object is filled many times.  An identification writes the first 18
bytes only, and a status report all of them, so what a fill leaves of earlier
contents depends on its kind; the receiver of a kind reads no byte that its
fill has not written.
-/

/-! ## The sender: `praas::messages::SendMessage` -/

/-- The size of a packet to the control plane. -/
abbrev headerLength : Nat := 24

inductive SendType
  | processIdentification
  | sessionIdentification
  | sessionStatus
  deriving DecidableEq

def SendType.code : SendType -> Int
  | .processIdentification => 1
  | .sessionIdentification => 2
  | .sessionStatus => 3

/-- A message object of the runtime's library.  Its constructor clears its
bytes, and every fill writes into what an earlier one has left. -/
abbrev SendMessage := Frame headerLength

namespace SendMessage

def new : SendMessage := Frame.zeros headerLength

def fillIdentification (type : SendType) (message : SendMessage) (id : Bytes) : SendMessage :=
  (message.store 0 (encodeInt 2 type.code) (by simp [headerLength])).store 2 (paddedField 16 id)
    (by simp [headerLength])

/-- `fill_process_identification`. -/
def fillProcessIdentification (message : SendMessage) (processId : Bytes) : SendMessage :=
  fillIdentification .processIdentification message processId

/-- `fill_session_identification`. -/
def fillSessionIdentification (message : SendMessage) (sessionId : Bytes) : SendMessage :=
  fillIdentification .sessionIdentification message sessionId

def fillStatus (message : SendMessage) (memorySize status : Int) (sessionId : Bytes) :
    SendMessage :=
  (((message.store 0 (encodeInt 2 SendType.sessionStatus.code)
      (by simp [headerLength])).store 2 (encodeInt 4 memorySize)
      (by simp [headerLength])).store 6 (encodeInt 2 status)
      (by simp [headerLength])).store 8 (paddedField 16 sessionId) (by simp [headerLength])

def fillSessionClose (message : SendMessage) (memorySize : Int) (sessionId : Bytes) : SendMessage :=
  fillStatus message memorySize (-1) sessionId

def fillSessionStatus (message : SendMessage) (status : Int) (sessionId : Bytes) : SendMessage :=
  fillStatus message 0 status sessionId

end SendMessage

/-! ## The receiver: `praas::common::Header` -/

abbrev Header := Frame headerLength

/-- `praas::common::MessageType`: a view of a received packet.  The message of
a client is recognised and no longer read. -/
inductive MessageType
  | client (data : Header)
  | process (data : Header)
  | session (data : Header)
  | sessionStatus (data : Header)

namespace Header

/-- `Header::parse`: the two bytes of the type decide which view of the packet is
returned.  The codes of the sender and of the reader are declared apart. -/
def parse (header : Header) : Option MessageType :=
  let type := decodeInt (header.load 0 2)
  if type = 0 then some (.client header)
  else if type = 1 then some (.process header)
  else if type = 2 then some (.session header)
  else if type = 3 then some (.sessionStatus header)
  else none

def processId (header : Header) : Bytes := header.load 2 16

def sessionId (header : Header) : Bytes := header.load 2 16

def memorySize (header : Header) : Int := decodeInt (header.load 2 4)

def sessionStatus (header : Header) : Int := decodeInt (header.load (2 + 4) 2)

/-- `SessionStatusMessage::session_id`. -/
def statusSessionId (header : Header) : Bytes := header.load (2 + 6) 16

end Header

/-! ## What a fill leaves in the packet -/

namespace SendMessage

variable (message : SendMessage) (type : SendType) (id : Bytes) (memorySize status : Int)

theorem load_type_identification :
    (fillIdentification type message id).load 0 2 = encodeInt 2 type.code := by
  unfold fillIdentification
  rw [Frame.load_store_disjoint _ 0 2 2 _ _ (by omega),
    Frame.load_store_same _ 0 2 _ _ (encodeInt_length _ _)]

theorem load_id_identification :
    (fillIdentification type message id).load 2 16 = paddedField 16 id := by
  unfold fillIdentification
  rw [Frame.load_store_same _ 2 16 _ _ (paddedField_length _ _)]

theorem load_type_status :
    (fillStatus message memorySize status id).load 0 2 = encodeInt 2 SendType.sessionStatus.code := by
  unfold fillStatus
  rw [Frame.load_store_disjoint _ 0 2 8 _ _ (by omega),
    Frame.load_store_disjoint _ 0 2 6 _ _ (by omega),
    Frame.load_store_disjoint _ 0 2 2 _ _ (by omega),
    Frame.load_store_same _ 0 2 _ _ (encodeInt_length _ _)]

theorem load_memory_status :
    (fillStatus message memorySize status id).load 2 4 = encodeInt 4 memorySize := by
  unfold fillStatus
  rw [Frame.load_store_disjoint _ 2 4 8 _ _ (by omega),
    Frame.load_store_disjoint _ 2 4 6 _ _ (by omega),
    Frame.load_store_same _ 2 4 _ _ (encodeInt_length _ _)]

theorem load_status_status :
    (fillStatus message memorySize status id).load 6 2 = encodeInt 2 status := by
  unfold fillStatus
  rw [Frame.load_store_disjoint _ 6 2 8 _ _ (by omega),
    Frame.load_store_same _ 6 2 _ _ (encodeInt_length _ _)]

theorem load_id_status :
    (fillStatus message memorySize status id).load 8 16 = paddedField 16 id := by
  unfold fillStatus
  rw [Frame.load_store_same _ 8 16 _ _ (paddedField_length _ _)]

/-- A status report overwrites every byte of the packet. -/
theorem fillStatus_reused (other : SendMessage) :
    fillStatus message memorySize status id = fillStatus other memorySize status id := by
  have whole : forall frame : SendMessage, frame.data =
      frame.load 0 2 ++ (frame.load 2 4 ++ (frame.load 6 2 ++ frame.load 8 16)) := by
    intro frame
    rw [← Frame.load_append frame 6 2 16, ← Frame.load_append frame 2 4 (2 + 16),
      ← Frame.load_append frame 0 2 (4 + (2 + 16))]
    exact frame.load_whole.symm
  apply Frame.ext
  rw [whole, whole (fillStatus other memorySize status id), load_type_status, load_memory_status,
    load_status_status, load_id_status, load_type_status, load_memory_status, load_status_status,
    load_id_status]

end SendMessage

namespace SessionRequest

variable (request : Request) (sessionId : Bytes) (maxFunctions memorySize : Int)

theorem load_type_fill :
    (fill request sessionId maxFunctions memorySize).load 0 2 =
      encodeInt 2 RequestType.sessionAllocation.code := by
  unfold fill
  rw [Frame.load_store_disjoint _ 0 2 10 _ _ (by omega),
    Frame.load_store_disjoint _ 0 2 6 _ _ (by omega),
    Frame.load_store_disjoint _ 0 2 2 _ _ (by omega),
    Frame.load_store_same _ 0 2 _ _ (encodeInt_length _ _)]

theorem load_functions_fill :
    (fill request sessionId maxFunctions memorySize).load 2 4 = encodeInt 4 maxFunctions := by
  unfold fill
  rw [Frame.load_store_disjoint _ 2 4 10 _ _ (by omega),
    Frame.load_store_disjoint _ 2 4 6 _ _ (by omega),
    Frame.load_store_same _ 2 4 _ _ (encodeInt_length _ _)]

theorem load_memory_fill :
    (fill request sessionId maxFunctions memorySize).load 6 4 = encodeInt 4 memorySize := by
  unfold fill
  rw [Frame.load_store_disjoint _ 6 4 10 _ _ (by omega),
    Frame.load_store_same _ 6 4 _ _ (encodeInt_length _ _)]

theorem load_id_fill :
    (fill request sessionId maxFunctions memorySize).load 10 16 = paddedField 16 sessionId := by
  unfold fill
  rw [Frame.load_store_same _ 10 16 _ _ (paddedField_length _ _)]

end SessionRequest

/-! ## The messages of the links -/

/-- An identifier as the control plane generates it: 16 bytes, none of them
the terminator. -/
structure Identifier where
  text : Bytes
  free : NulFree text
  full : text.length = 16

/-- A packet field that was filled with an identifier holds its text. -/
theorem Identifier.padded (id : Identifier) : paddedField 16 id.text = id.text :=
  paddedField_full id.free id.full

theorem Identifier.ext {first second : Identifier} (same : first.text = second.text) :
    first = second := by
  cases first
  cases second
  cases same
  rfl

/-- The messages to the control plane.  A status is a 16-bit number other than
the one that marks a closure, and a memory size is a 32-bit number. -/
inductive LinkMessage
  | processIdentification (processId : Identifier)
  | sessionIdentification (sessionId : Identifier)
  | sessionStatus (status : Int) (fits : IsSigned 2 status) (answer : status ≠ -1)
      (sessionId : Identifier)
  | sessionClosure (memorySize : Int) (fits : IsSigned 4 memorySize) (sessionId : Identifier)

namespace LinkMessage

def fill (message : LinkMessage) (packet : SendMessage) : SendMessage :=
  match message with
  | .processIdentification processId => SendMessage.fillProcessIdentification packet processId.text
  | .sessionIdentification sessionId => SendMessage.fillSessionIdentification packet sessionId.text
  | .sessionStatus status _ _ sessionId => SendMessage.fillSessionStatus packet status sessionId.text
  | .sessionClosure memorySize _ sessionId =>
      SendMessage.fillSessionClose packet memorySize sessionId.text

/-- The message is the announcement of a closure. -/
def isClosure : LinkMessage -> Bool
  | .sessionClosure _ _ _ => true
  | _ => false

/-- The control plane reads the packet as this message: the type that `parse`
selects and what the accessors of that type return. -/
def ReadFrom (message : LinkMessage) (header : Header) : Prop :=
  match message with
  | .processIdentification processId =>
      Header.parse header = some (.process header) ∧ Header.processId header = processId.text
  | .sessionIdentification sessionId =>
      Header.parse header = some (.session header) ∧ Header.sessionId header = sessionId.text
  | .sessionStatus status _ _ sessionId =>
      Header.parse header = some (.sessionStatus header) ∧ Header.memorySize header = 0 ∧
        Header.sessionStatus header = status ∧ Header.statusSessionId header = sessionId.text
  | .sessionClosure memorySize _ sessionId =>
      Header.parse header = some (.sessionStatus header) ∧
        Header.memorySize header = memorySize ∧ Header.sessionStatus header = -1 ∧
        Header.statusSessionId header = sessionId.text

end LinkMessage

theorem parse_of_type {header : Header} {type : SendType}
    (filled : header.load 0 2 = encodeInt 2 type.code) :
    Header.parse header = some (match type with
      | .processIdentification => .process header
      | .sessionIdentification => .session header
      | .sessionStatus => .sessionStatus header) := by
  have decoded : decodeInt (header.load 0 2) = type.code := by
    rw [filled]
    exact decodeInt_encodeInt_of_signed (by cases type <;> decide)
  cases type <;> simp only [Header.parse, decoded, SendType.code, Int.reduceEq, if_true, if_false]

theorem read_identification (type : SendType) (packet : SendMessage) (id : Identifier) :
    (SendMessage.fillIdentification type packet id.text).load 2 16 = id.text := by
  rw [SendMessage.load_id_identification, id.padded]

theorem read_status (packet : SendMessage) {memorySize status : Int} (id : Identifier)
    (memoryFits : IsSigned 4 memorySize) (statusFits : IsSigned 2 status) :
    let header := SendMessage.fillStatus packet memorySize status id.text
    Header.parse header = some (.sessionStatus header) ∧ Header.memorySize header = memorySize ∧
      Header.sessionStatus header = status ∧ Header.statusSessionId header = id.text := by
  refine ⟨parse_of_type (SendMessage.load_type_status _ _ _ _), ?_, ?_, ?_⟩
  · rw [Header.memorySize, SendMessage.load_memory_status, decodeInt_encodeInt_of_signed memoryFits]
  · rw [Header.sessionStatus, SendMessage.load_status_status,
      decodeInt_encodeInt_of_signed statusFits]
  · rw [Header.statusSessionId, SendMessage.load_id_status, id.padded]

/-- Every message is read as it was filled in, whatever the packet held
before. -/
theorem LinkMessage.readFrom_fill (message : LinkMessage) (packet : SendMessage) :
    message.ReadFrom (message.fill packet) := by
  cases message with
  | processIdentification processId =>
      exact ⟨parse_of_type (SendMessage.load_type_identification _ _ _),
        read_identification _ packet processId⟩
  | sessionIdentification sessionId =>
      exact ⟨parse_of_type (SendMessage.load_type_identification _ _ _),
        read_identification _ packet sessionId⟩
  | sessionStatus status fits answer sessionId =>
      exact read_status packet sessionId (by decide) fits
  | sessionClosure memorySize fits sessionId =>
      exact read_status packet sessionId fits (by decide)

/-- A packet is read as one message only. -/
theorem LinkMessage.readFrom_unique {first second : LinkMessage} {header : Header}
    (left : first.ReadFrom header) (right : second.ReadFrom header) : first = second := by
  cases first with
  | processIdentification processId =>
      cases second with
      | processIdentification other =>
          exact congrArg _ (Identifier.ext (left.2.symm.trans right.2))
      | _ => cases left.1.symm.trans right.1
  | sessionIdentification sessionId =>
      cases second with
      | sessionIdentification other =>
          exact congrArg _ (Identifier.ext (left.2.symm.trans right.2))
      | _ => cases left.1.symm.trans right.1
  | sessionStatus status fits answer sessionId =>
      cases second with
      | sessionStatus other _ _ otherId =>
          cases left.2.2.1.symm.trans right.2.2.1
          cases Identifier.ext (left.2.2.2.symm.trans right.2.2.2)
          rfl
      | sessionClosure memorySize _ otherId =>
          exact False.elim (answer (left.2.2.1.symm.trans right.2.2.1))
      | _ => cases left.1.symm.trans right.1
  | sessionClosure memorySize fits sessionId =>
      cases second with
      | sessionStatus other _ otherAnswer otherId =>
          exact False.elim (otherAnswer (right.2.2.1.symm.trans left.2.2.1))
      | sessionClosure other _ otherId =>
          cases left.2.1.symm.trans right.2.1
          cases Identifier.ext (left.2.2.2.symm.trans right.2.2.2)
          rfl
      | _ => cases left.1.symm.trans right.1

/-- The test of `handle_message` finds exactly the closures among the messages
that it is made on. -/
theorem LinkMessage.closed_iff {message : LinkMessage} {header : Header}
    (received : message.ReadFrom header) :
    (Header.parse header = some (.sessionStatus header) ∧ Header.sessionStatus header = -1) ↔
      message.isClosure = true := by
  cases message with
  | processIdentification processId =>
      constructor
      · intro test
        cases received.1.symm.trans test.1
      · intro impossible
        cases impossible
  | sessionIdentification sessionId =>
      constructor
      · intro test
        cases received.1.symm.trans test.1
      · intro impossible
        cases impossible
  | sessionStatus status fits answer sessionId =>
      constructor
      · intro test
        exact False.elim (answer (received.2.2.1.symm.trans test.2))
      · intro impossible
        cases impossible
  | sessionClosure memorySize fits sessionId =>
      exact ⟨fun _ => rfl, fun _ => ⟨received.1, received.2.2.1⟩⟩

/-- A session request; the numbers are 32-bit numbers. -/
structure SessionAllocation where
  sessionId : Identifier
  maxFunctions : Int
  memorySize : Int
  functionsFit : IsSigned 4 maxFunctions
  memoryFits : IsSigned 4 memorySize

namespace SessionAllocation

def fill (allocation : SessionAllocation) (request : Request) : Request :=
  SessionRequest.fill request allocation.sessionId.text allocation.maxFunctions
    allocation.memorySize

/-- The process worker reads the packet as this request. -/
def ReadFrom (allocation : SessionAllocation) (packet : Frame expectedLength) : Prop :=
  Exists fun message : SessionRequestMsg =>
    parse packet expectedLength = some (.sessionRequest message) ∧
      message.sessionId = allocation.sessionId.text ∧
      message.maxFunctions = allocation.maxFunctions ∧
      message.memorySize = allocation.memorySize

theorem readFrom_fill (allocation : SessionAllocation) (request : Request) :
    allocation.ReadFrom (allocation.fill request) := by
  have type : decodeInt ((allocation.fill request).load 0 2) = 12 := by
    rw [fill, SessionRequest.load_type_fill]
    exact decodeInt_encodeInt_of_signed (by decide)
  refine ⟨⟨allocation.fill request⟩, ?_, ?_, ?_, ?_⟩
  · simp only [parse, type, sessionRequestCode, ne_eq, not_true_eq_false, if_false, if_true]
  · rw [SessionRequestMsg.sessionId, fill, SessionRequest.load_id_fill, allocation.sessionId.padded]
  · rw [SessionRequestMsg.maxFunctions, fill, SessionRequest.load_functions_fill,
      decodeInt_encodeInt_of_signed allocation.functionsFit]
  · rw [SessionRequestMsg.memorySize, fill, SessionRequest.load_memory_fill,
      decodeInt_encodeInt_of_signed allocation.memoryFits]

theorem readFrom_unique {first second : SessionAllocation} {packet : Frame expectedLength}
    (left : first.ReadFrom packet) (right : second.ReadFrom packet) : first = second := by
  rcases left with ⟨message, parsed, id, functions, memory⟩
  rcases right with ⟨other, otherParsed, otherId, otherFunctions, otherMemory⟩
  cases parsed.symm.trans otherParsed
  cases first
  cases second
  cases Identifier.ext (id.symm.trans otherId)
  cases functions.symm.trans otherFunctions
  cases memory.symm.trans otherMemory
  rfl

end SessionAllocation

/-- Both links: every message is read as it was filled in, whatever the packet
object held before; the control plane takes exactly the closures for closures;
and messages of one link that differ in kind or in a field have different
bytes. -/
theorem process_link_codec :
    (forall (message : LinkMessage) (packet : SendMessage),
      message.ReadFrom (message.fill packet) ∧
        ((Header.parse (message.fill packet) = some (.sessionStatus (message.fill packet)) ∧
            Header.sessionStatus (message.fill packet) = -1) ↔ message.isClosure = true)) ∧
    (forall (first second : LinkMessage) (packet other : SendMessage),
      (first.fill packet).data = (second.fill other).data -> first = second) ∧
    (forall (allocation : SessionAllocation) (request : Request),
      allocation.ReadFrom (allocation.fill request)) ∧
    forall (first second : SessionAllocation) (request other : Request),
      (first.fill request).data = (second.fill other).data -> first = second := by
  refine ⟨?_, ?_, SessionAllocation.readFrom_fill, ?_⟩
  · intro message packet
    have received := message.readFrom_fill packet
    exact ⟨received, LinkMessage.closed_iff received⟩
  · intro first second packet other same
    have received := first.readFrom_fill packet
    rw [Frame.ext same] at received
    exact LinkMessage.readFrom_unique received (second.readFrom_fill other)
  · intro first second request other same
    have received := first.readFrom_fill request
    rw [Frame.ext same] at received
    exact SessionAllocation.readFrom_unique received (second.readFrom_fill other)

end Wire
end Praas
