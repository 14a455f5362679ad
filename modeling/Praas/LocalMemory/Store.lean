import Mathlib.Data.List.Induction
import Praas.Library.Heap
import Praas.LocalMemory.Messages
import Praas.Runtime.Process

namespace Praas
namespace LocalMemory

open Library
open SessionMessage
open Runtime.Worker (toSize)

/-!
# The object store of the local memory

`handle_session_message` reads the payload of a message into a new block of
the heap, runs the operation on a hash map from names to objects, answers, and
releases the block.  An object in the map is a pointer to a block and a size.
`Cache::create` writes the object also when the name is taken and the
operation is answered as failed.

A block has contents from its allocation to its release, and blocks are never
given out twice.  A write of a block without contents to a socket has no
defined bytes.
-/

/-! ## Objects and the cache -/

structure Object where
  data : Option Nat
  size : Nat

/-- The constructor of `Object`, which takes the size as a `size_t`. -/
def Object.new (data : Option Nat) (payload : Int) : Object := ⟨data, toSize payload⟩

abbrev Cache := Bytes -> Option Object

namespace Cache

/-- `Cache::create`: the object is written whether or not the key was new. -/
def create (cache : Cache) (key : Bytes) (object : Object) : Bool × Cache :=
  ((cache key).isNone, Function.update cache key (some object))

def put (cache : Cache) (key : Bytes) (object : Object) : Bool × Cache :=
  if (cache key).isSome then (true, Function.update cache key (some object)) else (false, cache)

def erase (cache : Cache) (key : Bytes) : Bool × Cache :=
  ((cache key).isSome, Function.update cache key none)

end Cache

/-! ## The handler -/

structure Memory where
  heap : Heap Bytes
  cache : Cache

def Memory.empty : Memory := ⟨Heap.empty, fun _ => none⟩

/-- The result of the operation of a message, and the object it was given
access to. -/
def operate (cache : Cache) (buffer : SessionMessage) (data : Option Nat) :
    Bool × Cache × Option Object :=
  match buffer.parseSessionType with
  | .create =>
      let created := cache.create buffer.objectName (Object.new data buffer.payload)
      (created.1, created.2, none)
  | .get => ((cache buffer.objectName).isSome, cache, cache buffer.objectName)
  | .put =>
      let put := cache.put buffer.objectName (Object.new data buffer.payload)
      (put.1, put.2, none)
  | .delete =>
      let erased := cache.erase buffer.objectName
      (erased.1, erased.2, none)
  | _ => (false, cache, none)

/-- The payload size of the reply. -/
def retPayload (result : Bool) (accessor : Option Object) : Int :=
  if result then
    match accessor with
    | none => 0
    | some object => int32 object.size
  else -1

/-- A reply.  The body is `none` when the bytes written are not defined. -/
structure Reply where
  header : SessionMessage
  body : Option Bytes

/-- The bytes written after the header of a reply. -/
def replyBody (heap : Heap Bytes) (accessor : Option Object) (size : Int) : Option Bytes :=
  if 0 < size then
    accessor.bind (fun object => object.data.bind (fun block =>
      (heap.blocks block).map (fun bytes => bytes.take size.toNat)))
  else some []

def replyHeader (buffer : SessionMessage) (size : Int) : SessionMessage :=
  send (Frame.zeros bufSize) buffer.parseSessionType.replyCode buffer.objectName size

/-- The heap and the pointer once the payload has been read.  A request without a
payload is handled with a null pointer. -/
def receivePayload (heap : Heap Bytes) (buffer : SessionMessage) (received : Bytes) :
    Heap Bytes × Option Nat :=
  if 0 < buffer.payload then (heap.allocate received, some heap.next) else (heap, none)

/-- `Worker::handle_session_message`, where one read returns `received`.  A
payload that is too short is dropped without an answer, and its block is not
released. -/
def handleSessionMessage (memory : Memory) (buffer : SessionMessage) (received : Bytes) :
    Memory × Option Reply :=
  let read := receivePayload memory.heap buffer received
  if 0 < buffer.payload ∧ (received.length : Int) < buffer.payload then
    ({ memory with heap := read.1 }, none)
  else
    let done := operate memory.cache buffer read.2
    let size := retPayload done.1 done.2.2
    (⟨read.1.release read.2, done.2.1⟩,
      some ⟨replyHeader buffer size, replyBody read.1 done.2.2 size⟩)

/-! ## Sequences of requests -/

inductive Operation
  | create
  | get
  | put
  | delete
  deriving DecidableEq

def Operation.type : Operation -> SessionType
  | .create => .create
  | .get => .get
  | .put => .put
  | .delete => .delete

/-- A request of a session whose payload is delivered whole. -/
structure Request where
  buffer : SessionMessage
  operation : Operation
  typed : buffer.parseSessionType = operation.type
  received : Bytes
  whole : received.length = buffer.payload.toNat

theorem typed_of_operation {request : Request} {operation : Operation}
    (asked : request.operation = operation) :
    request.buffer.parseSessionType = operation.type := by
  rw [request.typed, asked]

def Request.name (request : Request) : Bytes := request.buffer.objectName

/-- A request with its answer, if there was one. -/
abbrev Served := Request × Option Reply

def serve (state : Memory × List Served) (request : Request) : Memory × List Served :=
  let handled := handleSessionMessage state.1 request.buffer request.received
  (handled.1, state.2 ++ [(request, handled.2)])

/-- The memory and the record after a sequence of requests. -/
def serveAll (requests : List Request) : Memory × List Served :=
  requests.foldl serve (Memory.empty, [])

theorem serveAll_append (requests : List Request) (request : Request) :
    serveAll (requests ++ [request]) = serve (serveAll requests) request := by
  unfold serveAll
  rw [List.foldl_append]
  rfl

/-! ## What a session expects -/

/-- The answer does not mark a failure. -/
def succeeded (answer : Option Reply) : Bool :=
  answer.any (fun reply => !reply.header.isError)

/-- What a served request means for the contents of a name. -/
def latestStep (name : Bytes) (latest : Option Bytes) (served : Served) : Option Bytes :=
  if served.1.name = name then
    match served.1.operation with
    | .create => if succeeded served.2 then some served.1.received else latest
    | .put => if succeeded served.2 then some served.1.received else latest
    | .delete => none
    | .get => latest
  else latest

/-- The payload of the latest successful `create` or `put` of a name since its
last `delete`. -/
def latest (name : Bytes) (record : List Served) : Option Bytes :=
  record.foldl (latestStep name) none

/-- The answer to a `get` is an error exactly when there is nothing to return,
and otherwise returns the latest payload. -/
def GetCorrect (record : List Served) (request : Request) (answer : Option Reply) : Prop :=
  Exists fun reply => answer = some reply ∧
    (reply.header.isError = true ↔ latest request.name record = none) ∧
    (reply.header.isError = false -> reply.body = latest request.name record)

/-- Every `get` of a sequence is answered correctly, in the memory that the
requests before it have left. -/
def AllCorrect (requests : List Request) : Prop :=
  forall before request after, requests = before ++ request :: after -> request.operation = .get ->
    GetCorrect (serveAll before).2 request
      (handleSessionMessage (serveAll before).1 request.buffer request.received).2

/-- The payload sizes of a name that exists: that of the last `create` or `put`
message, and that of the last one which took effect for the session. -/
structure Written where
  last : Int
  accepted : Int
  deriving DecidableEq

/-- What a request means for the sizes of a name. -/
def writtenStep (name : Bytes) (written : Option Written) (request : Request) : Option Written :=
  if request.name = name then
    match request.operation, written with
    | .create, none => some ⟨request.buffer.payload, request.buffer.payload⟩
    | .create, some sizes => some { sizes with last := request.buffer.payload }
    | .put, none => none
    | .put, some _ => some ⟨request.buffer.payload, request.buffer.payload⟩
    | .delete, _ => none
    | .get, _ => written
  else written

def written (name : Bytes) (requests : List Request) : Option Written :=
  requests.foldl (writtenStep name) none

/-- At every `get` of a name that exists, the last message that wrote it had
no payload, and neither had the last one that took effect. -/
def OnlyEmpty (requests : List Request) : Prop :=
  forall before request after, requests = before ++ request :: after -> request.operation = .get ->
    forall sizes, written request.name before = some sizes -> sizes.last = 0 ∧ sizes.accepted ≤ 0

/-! ## What a request does -/

theorem retPayload_signed (result : Bool) (accessor : Option Object) :
    IsSigned 4 (retPayload result accessor) := by
  unfold retPayload
  split
  · cases accessor with
    | none => decide
    | some object => exact int32_signed _
  · decide

theorem isError_replyHeader (buffer : SessionMessage) {size : Int} (fits : IsSigned 4 size) :
    (replyHeader buffer size).isError = decide (size < 0) := by
  unfold replyHeader isError
  rw [payload_send _ _ _ fits]

theorem int32_toSize {value : Int} (fits : IsSigned 4 value) : int32 (toSize value) = value := by
  unfold IsSigned at fits
  have positive : 0 ≤ value % 2 ^ 64 := Int.emod_nonneg _ (by decide)
  unfold int32 toSize
  rw [Int.toNat_of_nonneg positive, Int.bmod_eq_iff (by decide)]
  omega

/-- The operation of a message writes no other name. -/
theorem operate_other (cache : Cache) (buffer : SessionMessage) (data : Option Nat) {name : Bytes}
    (different : name ≠ buffer.objectName) : (operate cache buffer data).2.1 name = cache name := by
  unfold operate
  cases buffer.parseSessionType with
  | create => exact Function.update_of_ne different _ _
  | put =>
      dsimp only [Cache.put]
      split
      · exact Function.update_of_ne different _ _
      · rfl
  | delete => exact Function.update_of_ne different _ _
  | _ => rfl

section Handling

variable (memory : Memory) (request : Request)

/-- The heap and the pointer after the payload of a request has been read. -/
abbrev payloadOf : Heap Bytes × Option Nat :=
  receivePayload memory.heap request.buffer request.received

abbrev resultOf : Bool × Cache × Option Object :=
  operate memory.cache request.buffer (payloadOf memory request).2

theorem handle_whole :
    handleSessionMessage memory request.buffer request.received =
      (⟨(payloadOf memory request).1.release (payloadOf memory request).2,
          (resultOf memory request).2.1⟩,
        some ⟨replyHeader request.buffer
            (retPayload (resultOf memory request).1 (resultOf memory request).2.2),
          replyBody (payloadOf memory request).1 (resultOf memory request).2.2
            (retPayload (resultOf memory request).1 (resultOf memory request).2.2)⟩) := by
  have enough : ¬ (0 < request.buffer.payload ∧
      (request.received.length : Int) < request.buffer.payload) := by
    rw [request.whole]
    omega
  simp only [handleSessionMessage, enough, if_false]

/-- The answer of a request marks a success exactly when its operation has
succeeded, apart from the size that a `get` reports. -/
theorem succeeded_handle :
    succeeded (handleSessionMessage memory request.buffer request.received).2 =
      decide (0 ≤ retPayload (resultOf memory request).1 (resultOf memory request).2.2) := by
  have fits := retPayload_signed (resultOf memory request).1 (resultOf memory request).2.2
  rw [handle_whole]
  generalize retPayload (resultOf memory request).1 (resultOf memory request).2.2 = size at fits ⊢
  unfold succeeded
  rw [Option.any_some, isError_replyHeader _ fits]
  by_cases negative : size < 0
  · rw [decide_eq_true negative, decide_eq_false (Int.not_le.mpr negative)]
    rfl
  · rw [decide_eq_false negative, decide_eq_true (Int.not_lt.mp negative)]
    rfl

/-- An operation other than `get` is answered with its result. -/
theorem succeeded_result (noObject : (resultOf memory request).2.2 = none) :
    succeeded (handleSessionMessage memory request.buffer request.received).2 =
      (resultOf memory request).1 := by
  rw [succeeded_handle, noObject]
  cases (resultOf memory request).1 <;> rfl

theorem blocks_handle (freed : forall block, memory.heap.blocks block = none) (block : Nat) :
    (handleSessionMessage memory request.buffer request.received).1.heap.blocks block = none := by
  rw [handle_whole]
  unfold payloadOf receivePayload
  split
  · by_cases own : block = memory.heap.next
    · rw [own]
      exact Function.update_self _ _ _
    · exact (memory.heap.blocks_release_allocate _ own).trans (freed block)
  · exact freed block

theorem next_handle :
    memory.heap.next ≤
      (handleSessionMessage memory request.buffer request.received).1.heap.next := by
  rw [handle_whole]
  unfold payloadOf receivePayload
  split
  · exact Nat.le_succ _
  · exact Nat.le_refl _

theorem pointer_payload (positive : 0 < request.buffer.payload) :
    Exists fun block => (payloadOf memory request).2 = some block ∧
      block < (handleSessionMessage memory request.buffer request.received).1.heap.next := by
  rw [handle_whole]
  unfold payloadOf receivePayload
  rw [if_pos positive]
  exact ⟨memory.heap.next, rfl, Nat.lt_succ_self _⟩

theorem cache_handle_other {name : Bytes} (different : name ≠ request.name) :
    (handleSessionMessage memory request.buffer request.received).1.cache name =
      memory.cache name := by
  rw [handle_whole]
  exact operate_other _ _ _ different

end Handling

/-! ## The state of a name -/

/-- The memory has the object of the last message for the name, whose block is
from an earlier request, and the latest payload has the accepted size. -/
structure Stored (memory : Memory) (name : Bytes) (current : Option Bytes) (sizes : Written) :
    Prop where
  object : Exists fun data => memory.cache name = some (Object.new data sizes.last) ∧
    (0 < sizes.last -> Exists fun block => data = some block ∧ block < memory.heap.next)
  signed : IsSigned 4 sizes.last
  payload : Exists fun bytes => current = some bytes ∧ bytes.length = sizes.accepted.toNat

/-- What the memory holds of a name with the given sizes.  The object points to a
block that was given out before, and so is released by now, unless it was
written without a payload. -/
def Holds (memory : Memory) (name : Bytes) (current : Option Bytes) (sizes : Option Written) :
    Prop :=
  match sizes with
  | none => memory.cache name = none ∧ current = none
  | some sizes => Stored memory name current sizes

theorem holds_frame {source target : Memory} {name : Bytes} {current : Option Bytes}
    {sizes : Option Written} (holds : Holds source name current sizes)
    (cache : target.cache name = source.cache name) (next : source.heap.next ≤ target.heap.next) :
    Holds target name current sizes := by
  cases sizes with
  | none => exact ⟨cache.trans holds.1, holds.2⟩
  | some sizes =>
      rcases holds.object with ⟨data, found, pointer⟩
      refine ⟨⟨data, cache.trans found, ?_⟩, holds.signed, holds.payload⟩
      intro positive
      rcases pointer positive with ⟨block, points, old⟩
      exact ⟨block, points, Nat.lt_of_lt_of_le old next⟩

theorem stored_object {memory : Memory} {request : Request}
    (written : (handleSessionMessage memory request.buffer request.received).1.cache request.name =
      some (Object.new (payloadOf memory request).2 request.buffer.payload))
    (accepted : Int) {after : Option Bytes}
    (payload : Exists fun bytes => after = some bytes ∧ bytes.length = accepted.toNat) :
    Stored (handleSessionMessage memory request.buffer request.received).1 request.name after
      ⟨request.buffer.payload, accepted⟩ :=
  ⟨⟨_, written, pointer_payload memory request⟩, payload_signed request.buffer, payload⟩

theorem holds_delete (memory : Memory) {request : Request} (current : Option Bytes)
    (sizes : Option Written) (operation : request.operation = .delete) :
    Holds (handleSessionMessage memory request.buffer request.received).1 request.name
      (latestStep request.name current
        (request, (handleSessionMessage memory request.buffer request.received).2))
      (writtenStep request.name sizes request) := by
  have typed : request.buffer.parseSessionType = .delete := typed_of_operation operation
  unfold latestStep writtenStep
  simp only [if_true, operation]
  refine ⟨?_, rfl⟩
  rw [handle_whole]
  unfold resultOf operate
  rw [typed]
  exact Function.update_self _ _ _

section Step

variable {memory : Memory} {request : Request} {current : Option Bytes} {sizes : Option Written}
  (holds : Holds memory request.name current sizes)

include holds

theorem holds_create (operation : request.operation = .create) :
    Holds (handleSessionMessage memory request.buffer request.received).1 request.name
      (latestStep request.name current
        (request, (handleSessionMessage memory request.buffer request.received).2))
      (writtenStep request.name sizes request) := by
  have typed : request.buffer.parseSessionType = .create := typed_of_operation operation
  have result : resultOf memory request = ((memory.cache request.name).isNone,
      Function.update memory.cache request.name
        (some (Object.new (payloadOf memory request).2 request.buffer.payload)), none) := by
    unfold resultOf operate
    rw [typed]
    rfl
  have object : (handleSessionMessage memory request.buffer request.received).1.cache
      request.name = some (Object.new (payloadOf memory request).2 request.buffer.payload) := by
    rw [handle_whole, result]
    exact Function.update_self _ _ _
  have success : succeeded (handleSessionMessage memory request.buffer request.received).2 =
      (memory.cache request.name).isNone := by
    rw [succeeded_result memory request (by rw [result]), result]
  unfold latestStep writtenStep
  simp only [if_true, operation, success]
  cases sizes with
  | none =>
      rw [holds.1]
      exact stored_object object _ ⟨_, rfl, request.whole⟩
  | some sizes =>
      rcases holds.object with ⟨data, found, _⟩
      rw [found]
      exact stored_object object _ holds.payload

theorem holds_put (operation : request.operation = .put) :
    Holds (handleSessionMessage memory request.buffer request.received).1 request.name
      (latestStep request.name current
        (request, (handleSessionMessage memory request.buffer request.received).2))
      (writtenStep request.name sizes request) := by
  have typed : request.buffer.parseSessionType = .put := typed_of_operation operation
  have result : resultOf memory request =
      ((memory.cache.put request.name
          (Object.new (payloadOf memory request).2 request.buffer.payload)).1,
        (memory.cache.put request.name
          (Object.new (payloadOf memory request).2 request.buffer.payload)).2, none) := by
    unfold resultOf operate
    rw [typed]
    rfl
  have success : succeeded (handleSessionMessage memory request.buffer request.received).2 =
      (memory.cache request.name).isSome := by
    rw [succeeded_result memory request (by rw [result]), result]
    unfold Cache.put
    cases (memory.cache request.name).isSome <;> rfl
  unfold Cache.put at result
  unfold latestStep writtenStep
  simp only [if_true, operation, success]
  cases sizes with
  | none =>
      rw [holds.1] at result ⊢
      refine ⟨?_, holds.2⟩
      rw [handle_whole, result]
      exact holds.1
  | some sizes =>
      rcases holds.object with ⟨data, found, _⟩
      rw [found] at result ⊢
      have object : (handleSessionMessage memory request.buffer request.received).1.cache
          request.name = some (Object.new (payloadOf memory request).2 request.buffer.payload) := by
        rw [handle_whole, result]
        exact Function.update_self _ _ _
      exact stored_object object _ ⟨_, rfl, request.whole⟩

theorem holds_get (operation : request.operation = .get) :
    Holds (handleSessionMessage memory request.buffer request.received).1 request.name
      (latestStep request.name current
        (request, (handleSessionMessage memory request.buffer request.received).2))
      (writtenStep request.name sizes request) := by
  have typed : request.buffer.parseSessionType = .get := typed_of_operation operation
  unfold latestStep writtenStep
  simp only [if_true, operation]
  refine holds_frame holds ?_ (next_handle memory request)
  rw [handle_whole]
  unfold resultOf operate
  rw [typed]

end Step

/-- One request keeps the state of every name. -/
theorem holds_handle {memory : Memory} {name : Bytes} {current : Option Bytes}
    {sizes : Option Written} (holds : Holds memory name current sizes) (request : Request) :
    Holds (handleSessionMessage memory request.buffer request.received).1 name
      (latestStep name current
        (request, (handleSessionMessage memory request.buffer request.received).2))
      (writtenStep name sizes request) := by
  by_cases own : request.name = name
  · subst own
    cases operation : request.operation with
    | create => exact holds_create holds operation
    | get => exact holds_get holds operation
    | put => exact holds_put holds operation
    | delete => exact holds_delete memory current sizes operation
  · unfold latestStep writtenStep
    rw [if_neg own, if_neg own]
    exact holds_frame holds (cache_handle_other memory request (Ne.symm own))
      (next_handle memory request)

/-- After every sequence of requests all blocks are released, and the names
are as the sequence has left them. -/
theorem holds_serveAll (requests : List Request) :
    (forall block, (serveAll requests).1.heap.blocks block = none) ∧
      forall name, Holds (serveAll requests).1 name (latest name (serveAll requests).2)
        (written name requests) := by
  induction requests using List.reverseRecOn with
  | nil => exact ⟨fun _ => rfl, fun _ => ⟨rfl, rfl⟩⟩
  | append_singleton requests request inductionHypothesis =>
      rcases inductionHypothesis with ⟨freed, holds⟩
      rw [serveAll_append]
      refine ⟨blocks_handle (serveAll requests).1 request freed, ?_⟩
      intro name
      have kept := holds_handle (holds name) request
      unfold latest written serve
      rw [List.foldl_append, List.foldl_append]
      exact kept

/-! ## When a `get` is answered correctly -/

/-- The bytes written for an object from an earlier request. -/
theorem replyBody_stored {memory : Memory} {request : Request}
    (freed : forall block, memory.heap.blocks block = none) {object : Object} {size : Int}
    (pointer : 0 < size -> Exists fun block => object.data = some block ∧ block < memory.heap.next) :
    replyBody (payloadOf memory request).1 (some object) size =
      if 0 < size then none else some [] := by
  unfold replyBody
  split
  · rename_i positive
    rcases pointer positive with ⟨block, points, old⟩
    rw [Option.bind_some, points, Option.bind_some]
    have released : (payloadOf memory request).1.blocks block = none := by
      unfold payloadOf receivePayload
      split
      · exact (memory.heap.blocks_allocate _ old).trans (freed block)
      · exact freed block
    rw [released, Option.map_none]
  · rfl

theorem getCorrect_present {record : List Served} {request : Request} {bytes : Bytes}
    (current : latest request.name record = some bytes) (reply : Reply) :
    GetCorrect record request (some reply) ↔
      reply.header.isError = false ∧ reply.body = some bytes := by
  unfold GetCorrect
  rw [current]
  constructor
  · rintro ⟨_, same, failed, returned⟩
    cases same
    have success : reply.header.isError = false :=
      Bool.eq_false_iff.mpr (fun error => Option.some_ne_none bytes (failed.mp error))
    exact ⟨success, returned success⟩
  · rintro ⟨success, returned⟩
    refine ⟨reply, rfl, ?_, fun _ => returned⟩
    rw [success]
    exact iff_of_false Bool.false_ne_true (Option.some_ne_none bytes)

theorem getCorrect_iff {memory : Memory} {record : List Served} {request : Request}
    {sizes : Option Written} (freed : forall block, memory.heap.blocks block = none)
    (holds : Holds memory request.name (latest request.name record) sizes)
    (operation : request.operation = .get) :
    GetCorrect record request (handleSessionMessage memory request.buffer request.received).2 ↔
      forall known, sizes = some known -> known.last = 0 ∧ known.accepted ≤ 0 := by
  have typed : request.buffer.parseSessionType = .get := typed_of_operation operation
  have result : resultOf memory request =
      ((memory.cache request.name).isSome, memory.cache, memory.cache request.name) := by
    unfold resultOf operate
    rw [typed]
    rfl
  rw [handle_whole, result]
  cases sizes with
  | none =>
      rw [holds.1]
      refine iff_of_true ⟨_, rfl, ?_, ?_⟩ (fun known absent => by cases absent)
      · rw [isError_replyHeader _ (retPayload_signed _ _)]
        exact iff_of_true rfl holds.2
      · rw [isError_replyHeader _ (retPayload_signed _ _)]
        intro succeeded
        cases succeeded
  | some sizes =>
      rcases holds.object with ⟨data, found, pointer⟩
      rcases holds.payload with ⟨bytes, current, length⟩
      have size : retPayload true (some (Object.new data sizes.last)) = sizes.last := by
        simp only [retPayload, if_true, Object.new, int32_toSize holds.signed]
      have body : replyBody (payloadOf memory request).1 (some (Object.new data sizes.last))
          sizes.last = if 0 < sizes.last then none else some [] := replyBody_stored freed pointer
      rw [found]
      dsimp only [Option.isSome_some]
      rw [size, body]
      rw [getCorrect_present current, isError_replyHeader request.buffer holds.signed]
      constructor
      · rintro ⟨success, returned⟩ known same
        cases same
        have nonnegative := of_decide_eq_false success
        by_cases positive : 0 < sizes.last
        · rw [if_pos positive] at returned
          cases returned
        · rw [if_neg positive] at returned
          cases returned
          rw [List.length_nil] at length
          omega
      · intro empty
        rcases empty sizes rfl with ⟨zero, small⟩
        have nothing : bytes = [] := by
          apply List.eq_nil_of_length_eq_zero
          omega
        rw [zero, nothing]
        exact ⟨rfl, rfl⟩

/-- For every sequence of requests, all `get` requests are answered correctly
exactly when every object that is read has been written without payload. -/
theorem gets_correct_iff (requests : List Request) : AllCorrect requests ↔ OnlyEmpty requests := by
  unfold AllCorrect OnlyEmpty
  refine forall_congr' (fun before => forall_congr' (fun request => forall_congr' (fun _ =>
    imp_congr_right (fun _ => imp_congr_right (fun operation => ?_)))))
  rcases holds_serveAll before with ⟨freed, holds⟩
  exact getCorrect_iff freed (holds request.name) operation

def exampleName : Bytes := ascii "/obj1"

/-- The message that creates it, with a payload of ten bytes. -/
def createExample : Request :=
  ⟨send (Frame.zeros bufSize) SessionType.create.code exampleName 10, .create, by decide +kernel,
    ascii "MY SECRET" ++ [0], by decide +kernel⟩

/-- The message that asks for it. -/
def getExample : Request :=
  ⟨send (Frame.zeros bufSize) SessionType.get.code exampleName 0, .get, by decide +kernel, [],
    by decide +kernel⟩

/-- The bytes of an object that has just been created cannot be returned. -/
theorem created_object_not_returned : ¬ forall requests, AllCorrect requests := by
  intro always
  have correct := always [createExample, getExample] [createExample] getExample [] rfl rfl
  rcases holds_serveAll [createExample] with ⟨freed, holds⟩
  have sizes : written getExample.name [createExample] = some ⟨10, 10⟩ := by decide +kernel
  have empty := (getCorrect_iff freed (holds getExample.name) rfl).mp correct ⟨10, 10⟩ sizes
  cases empty.1

end LocalMemory
end Praas
