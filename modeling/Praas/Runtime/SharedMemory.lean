import Mathlib.Logic.Function.Basic
import Praas.Library.Bytes

namespace Praas
namespace Runtime

open Library

/-!
# Shared memory of a session and its swapping to an object store

`SharedMemory::create` opens the named shared-memory object of a session,
sizes and maps it, and for a swapped-out session fills it from the object
store.  A negative size marks a swapped-out session.  `S3Swapper::swap` writes
the memory of an ended session to the store.

The object store is a map from bucket and key to bytes.  Whether a system call
or a transfer succeeds is decided outside the program and is an argument.  An
object that is longer than the receiving stream buffer makes the download fail.
-/

/-- The objects of the store, by bucket and key.  A transfer is atomic, and the
last one that succeeds is what a later one finds. -/
abbrev ObjectStore := Bytes × Bytes -> Option Bytes

abbrev SharedObjects := Bytes -> Option Bytes

/-- The outcomes of the system calls and transfers made while a session is
started. -/
structure Syscalls where
  shmOpen : Int
  ftruncate : Bool
  mmap : Bool
  getObject : Bool
  vfork : Int
  deriving DecidableEq

/-- `S3Swapper`.  `client` says that the S3 client has been constructed. -/
structure S3Swapper where
  client : Bool
  enabled : Bool
  userBucket : Option Bytes
  deriving DecidableEq

namespace S3Swapper

def new : S3Swapper := ⟨false, false, none⟩

def enableSwapping (bucket : Option Bytes) : S3Swapper := ⟨true, true, bucket⟩

def defaultBucket : Bytes := ascii "praas-swapping"

def bucket (swapper : S3Swapper) : Bytes :=
  swapper.userBucket.getD defaultBucket

/-- `S3Swapper::swap`: the memory of a session is stored under its identifier.
Without a client, or when the transfer fails, nothing is stored. -/
def swap (swapper : S3Swapper) (store : ObjectStore) (sessionId memory : Bytes) (size : Int)
    (putObject : Bool) : Bool × ObjectStore :=
  if swapper.client = false then (false, store)
  else if putObject = false then (false, store)
  else (true, Function.update store (swapper.bucket, sessionId) (some (memory.take size.toNat)))

/-- `S3Swapper::swap_in`: the object is written over the start of the memory. -/
def swapIn (swapper : S3Swapper) (store : ObjectStore) (sessionId memory : Bytes)
    (getObject : Bool) : Bool × Bytes :=
  if swapper.client = false then (false, memory)
  else match store (swapper.bucket, sessionId) with
    | none => (false, memory)
    | some object =>
        if getObject = true ∧ object.length ≤ memory.length then
          (true, object ++ memory.drop object.length)
        else (false, memory)

end S3Swapper

/-- `SharedMemory`.  `mapped` says that the pointer is not null. -/
structure SharedMemory where
  size : Int
  fd : Int
  path : Bytes
  mapped : Bool
  owned : Bool
  deriving DecidableEq

namespace SharedMemory

/-- The default constructor; a moved-from object is left in the same state. -/
def empty : SharedMemory := ⟨-1, -1, [], false, false⟩

/-- The name of a session's shared-memory object. -/
def pathOf (sessionId : Bytes) : Bytes :=
  ascii "/" ++ sessionId

/-- The contents of an object after `ftruncate`: cut to the size, or continued by
zeros.  A new object is empty before. -/
def resize (size : Nat) (bytes : Bytes) : Bytes :=
  bytes.take size ++ List.replicate (size - bytes.length) 0

@[simp] theorem resize_length (size : Nat) (bytes : Bytes) : (resize size bytes).length = size := by
  simp only [resize, List.length_append, List.length_take, List.length_replicate]
  omega

/-- The number of bytes `create` asks for, in 32-bit arithmetic. -/
def byteSize (size : Int) : Int :=
  int32 (int32 (size * (if size < 0 then -1 else 1)) * 1024)

/-- `SharedMemory::create`.  A negative size cannot be set and an empty object
cannot be mapped; only a failed swap-in unlinks the object again. -/
def create (objects : SharedObjects) (swapper : S3Swapper) (store : ObjectStore)
    (sessionId : Bytes) (size : Int) (calls : Syscalls) : SharedObjects × Option SharedMemory :=
  let path := pathOf sessionId
  let bytes := byteSize size
  let found := (objects path).getD []
  let blank := resize bytes.toNat found
  let mapping : SharedMemory := ⟨bytes, calls.shmOpen, path, true, true⟩
  if calls.shmOpen = -1 then (objects, none)
  else if calls.ftruncate = false ∨ bytes < 0 then
    (Function.update objects path (some found), none)
  else if calls.mmap = false ∨ bytes = 0 then
    (Function.update objects path (some blank), none)
  else if size < 0 then
    let loaded := swapper.swapIn store path blank calls.getObject
    if loaded.1 = true then (Function.update objects path (some loaded.2), some mapping)
    else (Function.update objects path none, none)
  else (Function.update objects path (some blank), some mapping)

/-- The destructor: an owned object with a descriptor is unlinked. -/
def destroy (objects : SharedObjects) (memory : SharedMemory) : SharedObjects :=
  if memory.owned = true ∧ memory.fd ≠ -1 then Function.update objects memory.path none
  else objects

/-- The bytes visible through the mapping. -/
def image (objects : SharedObjects) (memory : SharedMemory) : Bytes :=
  if memory.mapped = true then (objects memory.path).getD [] else []

end SharedMemory
end Runtime
end Praas
