import Praas.Library.Bytes

namespace Praas
namespace Wire

open Library

/-!
# Requests of the control plane and their parser in the runtime

The control plane fills a 39-byte request buffer in `system/common`, and the
runtime reads it with the separately written parser of `runtime/lib`.  Both
sides address the buffer by constant offsets: the accessors of the runtime
count from the third byte, after the two bytes of the type field.

The buffer of a request object is cleared by its constructor only.  A later
`fill` of the same object overwrites the bytes it names and no others.
-/

/-! ## The sender: `praas::common` -/

/-- The packet size shared by every request of the control plane, so that a reader
can wait for this number of bytes before it knows the type. -/
abbrev expectedLength : Nat := 39

inductive RequestType
  | processAllocation
  | sessionAllocation
  | functionInvocation
  deriving DecidableEq

def RequestType.code : RequestType -> Int
  | .processAllocation => 11
  | .sessionAllocation => 12
  | .functionInvocation => 13

/-- A request object of the control plane's message library.  The constructor
clears its bytes, and every fill writes into what an earlier one has left. -/
abbrev Request := Frame expectedLength

def Request.new : Request := Frame.zeros expectedLength

def ProcessRequest.fill (request : Request) (sessions port : Int) (ipAddress processId : Bytes) :
    Request :=
  ((((request.store 0 (encodeInt 2 RequestType.processAllocation.code)
      (by simp [expectedLength])).store 2 (encodeInt 2 sessions)
      (by simp [expectedLength])).store 4 (encodeInt 4 port)
      (by simp [expectedLength])).store 8 (paddedField 15 ipAddress)
      (by simp [expectedLength])).store 23 (paddedField 16 processId) (by simp [expectedLength])

def SessionRequest.fill (request : Request) (sessionId : Bytes)
    (maxFunctions memorySize : Int) : Request :=
  (((request.store 0 (encodeInt 2 RequestType.sessionAllocation.code)
      (by simp [expectedLength])).store 2 (encodeInt 4 maxFunctions)
      (by simp [expectedLength])).store 6 (encodeInt 4 memorySize)
      (by simp [expectedLength])).store 10 (paddedField 16 sessionId) (by simp [expectedLength])

/-- `FunctionRequest::fill`.  The payload size is stored through a 16-bit
pointer, although the parser reads 32 bits from the same place. -/
def FunctionRequest.fill (request : Request) (functionName functionId : Bytes)
    (payloadSize : Int) : Request :=
  (((request.store 0 (encodeInt 2 RequestType.functionInvocation.code)
      (by simp [expectedLength])).store 2 (encodeInt 2 payloadSize)
      (by simp [expectedLength])).store 6 (paddedField 16 functionName)
      (by simp [expectedLength])).store 22 (paddedField 16 functionId) (by simp [expectedLength])

/-! ## The receiver: `praas::messages` -/

structure SessionRequestMsg where
  data : Frame expectedLength

def SessionRequestMsg.sessionId (message : SessionRequestMsg) : Bytes :=
  message.data.load (2 + 8) 16

def SessionRequestMsg.maxFunctions (message : SessionRequestMsg) : Int :=
  decodeInt (message.data.load 2 4)

def SessionRequestMsg.memorySize (message : SessionRequestMsg) : Int :=
  decodeInt (message.data.load (2 + 4) 4)

/-- `FunctionRequestMsg`, a view of a received buffer. -/
structure FunctionRequestMsg where
  data : Frame expectedLength

/-- The name ends at its first terminator or at the end of the field. -/
def FunctionRequestMsg.functionName (message : FunctionRequestMsg) : Bytes :=
  untilNul (message.data.load (2 + 4) 16)

def FunctionRequestMsg.functionId (message : FunctionRequestMsg) : Bytes :=
  untilNul (message.data.load (2 + 20) 16)

def FunctionRequestMsg.payload (message : FunctionRequestMsg) : Int :=
  decodeInt (message.data.load 2 4)

/-- The two messages a runtime can receive. -/
inductive RecvMessage
  | sessionRequest (message : SessionRequestMsg)
  | invocationRequest (message : FunctionRequestMsg)

/-- The type codes tested by the parser, `RecvMessage::Type`. -/
def sessionRequestCode : Int := 12

def invocationRequestCode : Int := 13

/-- `RecvMessageBuffer::parse`: a read of the wrong size and an unknown type
both give no message. -/
def parse (buffer : Frame expectedLength) (dataSize : Int) : Option RecvMessage :=
  if dataSize ≠ expectedLength then none
  else if decodeInt (buffer.load 0 2) = sessionRequestCode then some (.sessionRequest ⟨buffer⟩)
  else if decodeInt (buffer.load 0 2) = invocationRequestCode then
    some (.invocationRequest ⟨buffer⟩)
  else none

/-! ## What a filled invocation request contains -/

namespace FunctionRequest

variable (request : Request) (functionName functionId : Bytes) (payloadSize : Int)

theorem load_type_fill :
    (fill request functionName functionId payloadSize).load 0 2 =
      encodeInt 2 RequestType.functionInvocation.code := by
  unfold fill
  rw [Frame.load_store_disjoint _ 0 2 22 _ _ (by omega),
    Frame.load_store_disjoint _ 0 2 6 _ _ (by omega),
    Frame.load_store_disjoint _ 0 2 2 _ _ (by omega),
    Frame.load_store_same _ 0 2 _ _ (encodeInt_length _ _)]

theorem load_payload_fill :
    (fill request functionName functionId payloadSize).load 2 2 = encodeInt 2 payloadSize := by
  unfold fill
  rw [Frame.load_store_disjoint _ 2 2 22 _ _ (by omega),
    Frame.load_store_disjoint _ 2 2 6 _ _ (by omega),
    Frame.load_store_same _ 2 2 _ _ (encodeInt_length _ _)]

/-- The two bytes between the payload size and the name are never written. -/
theorem load_gap_fill :
    (fill request functionName functionId payloadSize).load 4 2 = request.load 4 2 := by
  unfold fill
  rw [Frame.load_store_disjoint _ 4 2 22 _ _ (by omega),
    Frame.load_store_disjoint _ 4 2 6 _ _ (by omega),
    Frame.load_store_disjoint _ 4 2 2 _ _ (by simp),
    Frame.load_store_disjoint _ 4 2 0 _ _ (by simp)]

theorem load_name_fill :
    (fill request functionName functionId payloadSize).load 6 16 = paddedField 16 functionName := by
  unfold fill
  rw [Frame.load_store_disjoint _ 6 16 22 _ _ (by omega),
    Frame.load_store_same _ 6 16 _ _ (paddedField_length _ _)]

theorem load_id_fill :
    (fill request functionName functionId payloadSize).load 22 16 = paddedField 16 functionId := by
  unfold fill
  rw [Frame.load_store_same _ 22 16 _ _ (paddedField_length _ _)]

theorem parse_fill :
    parse (fill request functionName functionId payloadSize) expectedLength =
      some (.invocationRequest ⟨fill request functionName functionId payloadSize⟩) := by
  have typeField : decodeInt ((fill request functionName functionId payloadSize).load 0 2) = 13 := by
    rw [load_type_fill, decodeInt_encodeInt]
    rfl
  simp only [parse, typeField, sessionRequestCode, invocationRequestCode, ne_eq, not_true_eq_false,
    if_false, if_true, Int.reduceEq]

end FunctionRequest

end Wire
end Praas
