import Praas.Library.CString
import Praas.LocalMemory.Store

namespace Praas
namespace LocalMemory

open Library
open SessionMessage

/-!
# The names of objects in the messages of a client

The client of the local memory, `praas::global::Memory`, takes an object name
of any length and an object size of 64 bits.  Its messages have 32 bytes for
the name, copied as a C string, and 32 bits for the size.  The server knows an
object by the name that it reads from the message.

Two names stay apart when `strncmp` would tell them apart within these 32
bytes.  Names that only differ later, or behind a terminator, become one: a
`create` of the one writes over the object of the other.
-/

/-- A call of `praas::global::Memory` on an object name.  `erase` and `put` of
the client send nothing. -/
inductive Call
  | create (size : UInt64)
  | get

namespace Call

def type : Call -> SessionType
  | .create _ => .create
  | .get => .get

/-- The number of bytes the call writes after its message. -/
def size : Call -> Nat
  | .create size => size.toNat
  | .get => 0

/-- The message of `Memory::create` and `Memory::get`, written over whatever
its buffer held.  The size of an object is narrowed at the call of `send`. -/
def message (call : Call) (buffer : SessionMessage) (id : Bytes) : SessionMessage :=
  match call with
  | .create size => buffer.send SessionType.create.code id (int32 size.toNat)
  | .get => buffer.send SessionType.get.code id 0

variable (call : Call) (buffer : SessionMessage) (id : Bytes)

theorem parseSessionType_message : (call.message buffer id).parseSessionType = call.type := by
  cases call with
  | create size => exact parseSessionType_send _ _ _ .create
  | get => exact parseSessionType_send _ _ _ .get

theorem objectName_message : (call.message buffer id).objectName = (untilNul id).take 32 := by
  cases call with
  | create size => exact objectName_send _ _ _ _
  | get => exact objectName_send _ _ _ _

theorem payload_message : (call.message buffer id).payload = int32 call.size := by
  cases call with
  | create size => exact payload_send _ _ _ (int32_signed _)
  | get => exact payload_send _ _ _ (by decide)

/-- The size survives the narrowing exactly when it fits a signed 32-bit
number. -/
theorem payload_message_iff :
    (call.message buffer id).payload = call.size ↔ call.size < 2 ^ 31 := by
  rw [payload_message]
  constructor
  · intro kept
    have fits : -2 ^ 32 ≤ 2 * int32 call.size ∧ 2 * int32 call.size < 2 ^ 32 := int32_signed _
    omega
  · intro small
    exact int32_of_range (by omega) (by omega)

end Call

/-! ## Objects that stay apart -/

/-- Handling the message neither writes nor reads the object of another name:
the object and the blocks that were there before stay, and the answer does not
depend on the object. -/
structure LeavesAlone (buffer : SessionMessage) (name : Bytes) : Prop where
  kept : forall memory received,
    (handleSessionMessage memory buffer received).1.cache name = memory.cache name
  blocks : forall memory received block, block < memory.heap.next ->
    (handleSessionMessage memory buffer received).1.heap.blocks block = memory.heap.blocks block
  unread : forall memory received object,
    (handleSessionMessage ⟨memory.heap, Function.update memory.cache name object⟩ buffer
        received).2 =
      (handleSessionMessage memory buffer received).2

/-- The result of an operation comes from its own name. -/
theorem operate_update_other (cache : Cache) (buffer : SessionMessage) (data : Option Nat)
    {name : Bytes} (different : name ≠ buffer.objectName) (object : Option Object) :
    (operate (Function.update cache name object) buffer data).1 = (operate cache buffer data).1 ∧
      (operate (Function.update cache name object) buffer data).2.2 =
        (operate cache buffer data).2.2 := by
  have own : Function.update cache name object buffer.objectName = cache buffer.objectName :=
    Function.update_of_ne (Ne.symm different) _ _
  unfold operate
  cases buffer.parseSessionType with
  | create =>
      refine ⟨?_, rfl⟩
      dsimp only [Cache.create]
      rw [own]
  | get =>
      dsimp only
      rw [own]
      exact ⟨rfl, rfl⟩
  | put =>
      refine ⟨?_, rfl⟩
      dsimp only [Cache.put]
      rw [own]
      cases (cache buffer.objectName).isSome <;> rfl
  | delete =>
      refine ⟨?_, rfl⟩
      dsimp only [Cache.erase]
      rw [own]
  | _ => exact ⟨rfl, rfl⟩

theorem blocks_receivePayload (heap : Heap Bytes) (buffer : SessionMessage) (received : Bytes)
    {block : Nat} (old : block < heap.next) :
    (receivePayload heap buffer received).1.blocks block = heap.blocks block ∧
      ((receivePayload heap buffer received).1.release
        (receivePayload heap buffer received).2).blocks block = heap.blocks block := by
  unfold receivePayload
  split
  · exact ⟨heap.blocks_allocate received old,
      heap.blocks_release_allocate received (Nat.ne_of_lt old)⟩
  · exact ⟨rfl, rfl⟩

/-- A message leaves every name alone but its own. -/
theorem leavesAlone_of_ne {buffer : SessionMessage} {name : Bytes}
    (different : name ≠ buffer.objectName) : LeavesAlone buffer name where
  kept := by
    intro memory received
    unfold handleSessionMessage
    split
    · rfl
    · exact operate_other _ _ _ different
  blocks := by
    intro memory received block old
    have same := blocks_receivePayload memory.heap buffer received old
    unfold handleSessionMessage
    split
    · exact same.1
    · exact same.2
  unread := by
    intro memory received object
    have same := operate_update_other memory.cache buffer
      (receivePayload memory.heap buffer received).2 different object
    unfold handleSessionMessage
    split
    · rfl
    · dsimp only
      rw [same.1, same.2]

/-- What a client may expect of two calls on different names: the server reads
the type and the size of each, gives the objects different names, and the first
call leaves the object of the second alone. -/
structure KeptApart (call : Call) (id : Bytes) (other : Call) (otherId : Bytes) : Prop where
  decoded : forall buffer, (call.message buffer id).parseSessionType = call.type ∧
    (call.message buffer id).payload = call.size
  otherDecoded : forall buffer, (other.message buffer otherId).parseSessionType = other.type ∧
    (other.message buffer otherId).payload = other.size
  named : forall buffer otherBuffer,
    (call.message buffer id).objectName ≠ (other.message otherBuffer otherId).objectName
  separate : forall buffer otherBuffer,
    LeavesAlone (call.message buffer id) (other.message otherBuffer otherId).objectName

/-- Two calls are kept apart exactly when their sizes are below 2^31 and their
names differ within 32 bytes, before any terminator. -/
theorem calls_kept_apart_iff (call : Call) (id : Bytes) (other : Call) (otherId : Bytes) :
    KeptApart call id other otherId ↔
      call.size < 2 ^ 31 ∧ other.size < 2 ^ 31 ∧ DiffersWithin 32 id otherId := by
  constructor
  · intro apart
    refine ⟨?_, ?_, ?_⟩
    · exact (call.payload_message_iff _ id).mp (apart.decoded (Frame.zeros bufSize)).2
    · exact (other.payload_message_iff _ otherId).mp (apart.otherDecoded (Frame.zeros bufSize)).2
    · have named := apart.named (Frame.zeros bufSize) (Frame.zeros bufSize)
      rw [call.objectName_message, other.objectName_message] at named
      exact (take_untilNul_ne_iff 32 id otherId).mp named
  · rintro ⟨small, otherSmall, differ⟩
    have named : forall buffer otherBuffer,
        (call.message buffer id).objectName ≠ (other.message otherBuffer otherId).objectName := by
      intro buffer otherBuffer
      rw [call.objectName_message, other.objectName_message]
      exact (take_untilNul_ne_iff 32 id otherId).mpr differ
    refine ⟨?_, ?_, named, ?_⟩
    · intro buffer
      exact ⟨call.parseSessionType_message _ _, (call.payload_message_iff _ _).mpr small⟩
    · intro buffer
      exact ⟨other.parseSessionType_message _ _, (other.payload_message_iff _ _).mpr otherSmall⟩
    · intro buffer otherBuffer
      exact leavesAlone_of_ne (Ne.symm (named buffer otherBuffer))

def longName (last : UInt8) : Bytes := List.replicate 32 97 ++ [last]

/-- Two names that differ in their last byte only have one object: the second
`create` replaces what the first one has made. -/
theorem long_names_collide :
    longName 1 ≠ longName 2 ∧
      ¬ KeptApart (.create 2) (longName 2) .get (longName 1) ∧
      let name := ((Call.get).message (Frame.zeros bufSize) (longName 1)).objectName
      let first := (handleSessionMessage Memory.empty
        ((Call.create 1).message (Frame.zeros bufSize) (longName 1)) [7]).1
      let second := (handleSessionMessage first
        ((Call.create 2).message (Frame.zeros bufSize) (longName 2)) [8, 9]).1
      (first.cache name).map Object.size = some 1 ∧
        (second.cache name).map Object.size = some 2 := by
  refine ⟨by decide, ?_, by decide +kernel, by decide +kernel⟩
  intro apart
  apply apart.named (Frame.zeros bufSize) (Frame.zeros bufSize)
  rw [Call.objectName_message, Call.objectName_message]
  rfl

end LocalMemory
end Praas
