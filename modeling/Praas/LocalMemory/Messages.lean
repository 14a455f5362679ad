import Praas.Library.Bytes

namespace Praas
namespace LocalMemory

open Library

/-!
# Messages between a session and the local memory

A session asks the local memory for an operation on a named object with a
message of 38 bytes: a code, a payload size and the name in a padded field.
A reply has the same layout, and a negative payload size marks a failure.
The reader of the server and that of the client are written twice in the
source, with the same body.
-/

abbrev bufSize : Nat := 38

inductive SessionType
  | unknown
  | create
  | get
  | put
  | delete
  | createReply
  | getReply
  | putReply
  | deleteReply
  deriving DecidableEq

def SessionType.code : SessionType -> Int
  | .unknown => -1
  | .create => 100
  | .get => 101
  | .put => 102
  | .delete => 103
  | .createReply => 104
  | .getReply => 105
  | .putReply => 106
  | .deleteReply => 107

def replyOffset : Int := SessionType.createReply.code - SessionType.create.code

/-- `SessionMessage::reply`: the code of the reply, which need not be one of
the named codes. -/
def SessionType.replyCode (type : SessionType) : Int := type.code + replyOffset

/-- The named value of a code between those of `create` and `deleteReply`. -/
def SessionType.ofCode (code : Int) : SessionType :=
  if code = 100 then .create
  else if code = 101 then .get
  else if code = 102 then .put
  else if code = 103 then .delete
  else if code = 104 then .createReply
  else if code = 105 then .getReply
  else if code = 106 then .putReply
  else .deleteReply

abbrev SessionMessage := Frame bufSize

namespace SessionMessage

/-- `SessionMessage::send`.  All bytes of the buffer are written. -/
def send (message : SessionMessage) (code : Int) (objectId : Bytes) (payload : Int) :
    SessionMessage :=
  ((message.store 0 (encodeInt 2 code) (by simp [bufSize])).store 2 (encodeInt 4 payload)
    (by simp [bufSize])).store 6 (paddedField 32 objectId) (by simp [bufSize])

def parseSessionType (message : SessionMessage) : SessionType :=
  let type := decodeInt (message.load 0 2)
  if SessionType.create.code ≤ type ∧ type ≤ SessionType.deleteReply.code then
    SessionType.ofCode type
  else .unknown

def payload (message : SessionMessage) : Int :=
  decodeInt (message.load 2 4)

def isError (message : SessionMessage) : Bool :=
  decide (message.payload < 0)

/-- The name ends at its first terminator or at the end of the field. -/
def objectName (message : SessionMessage) : Bytes :=
  untilNul (message.load 6 32)

section Sent

variable (message : SessionMessage) (code : Int) (objectId : Bytes) (value : Int)

theorem load_type_send : (send message code objectId value).load 0 2 = encodeInt 2 code := by
  unfold send
  rw [Frame.load_store_disjoint _ 0 2 6 _ _ (by omega),
    Frame.load_store_disjoint _ 0 2 2 _ _ (by omega),
    Frame.load_store_same _ 0 2 _ _ (encodeInt_length _ _)]

theorem load_payload_send : (send message code objectId value).load 2 4 = encodeInt 4 value := by
  unfold send
  rw [Frame.load_store_disjoint _ 2 4 6 _ _ (by omega),
    Frame.load_store_same _ 2 4 _ _ (encodeInt_length _ _)]

theorem load_name_send :
    (send message code objectId value).load 6 32 = paddedField 32 objectId := by
  unfold send
  rw [Frame.load_store_same _ 6 32 _ _ (paddedField_length _ _)]

theorem data_send :
    (send message code objectId value).data =
      (encodeInt 2 code ++ encodeInt 4 value) ++ paddedField 32 objectId := by
  rw [← Frame.load_whole, Frame.load_append _ 0 6 32, Frame.load_append _ 0 2 4, load_type_send,
    load_payload_send, load_name_send]

theorem take_send (count : Nat) :
    (send message code objectId value).data.take count =
      (encodeInt 2 code ++ encodeInt 4 value).take count ++
        (paddedField 32 objectId).take (count - 6) := by
  rw [data_send, List.take_append, List.length_append, encodeInt_length, encodeInt_length]

theorem drop_send {count : Nat} (after : 6 ≤ count) :
    (send message code objectId value).data.drop count =
      (paddedField 32 objectId).drop (count - 6) := by
  have numbers : (encodeInt 2 code ++ encodeInt 4 value).length = 6 := by
    rw [List.length_append, encodeInt_length, encodeInt_length]
  rw [data_send, List.drop_append, List.drop_of_length_le (by omega), numbers, List.nil_append]

/-- Every named type is read back. -/
theorem parseSessionType_send (type : SessionType) :
    (send message type.code objectId value).parseSessionType = type := by
  have decoded : decodeInt ((send message type.code objectId value).load 0 2) = type.code := by
    rw [load_type_send]
    exact decodeInt_encodeInt_of_signed (by cases type <;> decide)
  unfold parseSessionType
  rw [decoded]
  cases type <;> rfl

theorem payload_send {value : Int} (fits : IsSigned 4 value) :
    (send message code objectId value).payload = value := by
  rw [payload, load_payload_send, decodeInt_encodeInt_of_signed fits]

/-- The name that is read back ends at the first terminator or after 32
bytes. -/
theorem objectName_send :
    (send message code objectId value).objectName = (untilNul objectId).take 32 := by
  rw [objectName, load_name_send, untilNul_paddedField_take]

end Sent

/-- A received payload size is one of a 32-bit integer. -/
theorem payload_signed (message : SessionMessage) : IsSigned 4 message.payload := by
  have width : (message.load 2 4).length = 4 := message.load_length 2 4 (by decide)
  exact width ▸ decodeInt_signed (message.load 2 4)

end SessionMessage
end LocalMemory
end Praas
