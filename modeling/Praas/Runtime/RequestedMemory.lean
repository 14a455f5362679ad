import Praas.Runtime.FailedAllocation
import Praas.Runtime.SessionList
import Praas.Runtime.SwapRoundTrip
import Praas.Wire.ProcessLink

namespace Praas

open Library

/-!
# The memory that a new session gets

A client names the size of the memory of a new session in kilobytes.  The
number is read from the request as a 64-bit integer and assigned to a 32-bit
one.  It is recorded, placed and sent unchanged, and `create` multiplies it by
1024, in 32 bits.  Nothing on the way looks at the range.  A number from `2 ^ 21`
on may therefore be taken for a small one, and a negative one for a session
that was swapped out.
-/

namespace ControlPlane

/-- The fields of the JSON body of a request; its numbers are 64-bit integers. -/
structure SessionBody where
  processId : Bytes
  sessionId : Bytes
  maxFunctions : Int
  memorySize : Int

/-- The two numbers that a handler passes on.  They are read for a new session
only. -/
def SessionBody.numbers (body : SessionBody) : Int × Int :=
  if body.sessionId = [] then (int32 body.maxFunctions, int32 body.memorySize) else (0, 0)

/-- The two requests that start a session. -/
inductive HttpRequest
  | addSession (body : SessionBody)
  | invoke (body : SessionBody) (functionName functionId payload : Bytes)

namespace HttpRequest

def body : HttpRequest -> SessionBody
  | .addSession body => body
  | .invoke body _ _ _ => body

/-- The call of `process_client` made by the handlers of `/add_session` and
`/invoke`. -/
def call : HttpRequest -> ClientCall
  | .addSession body =>
      ⟨body.processId, body.sessionId, [], [], body.numbers.1, body.numbers.2, []⟩
  | .invoke body functionName functionId payload =>
      ⟨body.processId, body.sessionId, functionName, functionId, body.numbers.1, body.numbers.2,
        payload⟩

theorem memorySize_call (request : HttpRequest) (new : request.body.sessionId = []) :
    request.call.memorySize = int32 request.body.memorySize := by
  cases request with
  | addSession body => exact congrArg Prod.snd (if_pos new)
  | invoke body functionName functionId payload => exact congrArg Prod.snd (if_pos new)

end HttpRequest

def ClientCall.request (call : ClientCall) (processName sessionId : Bytes) : SessionRequest :=
  let session := Plane.configure (call.created processName sessionId) (Session.new sessionId)
  ⟨session.sessionId, session.maxFunctions, session.memorySize⟩

end ControlPlane

namespace Runtime

open ControlPlane (SessionRequest HttpRequest)

/-- The request as the process worker reads it, from a packet object with any
earlier contents. -/
def received (packet : Wire.Request) (request : SessionRequest) : SessionRequest :=
  requestOf ⟨Wire.SessionRequest.fill packet request.sessionId request.maxFunctions
    request.memorySize⟩

theorem received_numbers (packet : Wire.Request) {request : SessionRequest}
    (functionsFit : IsSigned 4 request.maxFunctions) (memoryFits : IsSigned 4 request.memorySize) :
    (received packet request).maxFunctions = request.maxFunctions ∧
      (received packet request).memorySize = request.memorySize := by
  constructor
  · change decodeInt (Frame.load _ 2 4) = _
    rw [Wire.SessionRequest.load_functions_fill, decodeInt_encodeInt_of_signed functionsFit]
  · change decodeInt (Frame.load _ 6 4) = _
    rw [Wire.SessionRequest.load_memory_fill, decodeInt_encodeInt_of_signed memoryFits]

/-- The worker reads the number of the client, narrowed to 32 bits. -/
theorem memorySize_received (http : HttpRequest) (new : http.body.sessionId = [])
    (processName uuid : Bytes) (packet : Wire.Request) :
    (received packet (http.call.request processName uuid)).memorySize =
      int32 http.body.memorySize := by
  change decodeInt (Frame.load _ 6 4) = _
  rw [Wire.SessionRequest.load_memory_fill, ← http.memorySize_call new]
  refine decodeInt_encodeInt_of_signed ?_
  change IsSigned 4 http.call.memorySize
  rw [http.memorySize_call new]
  exact int32_signed _

namespace SharedMemory

/-! ## The number of bytes -/

theorem byteSize_lt (size : Int) : byteSize size < 2 ^ 31 := by
  have signed := int32_signed (int32 (size * (if size < 0 then -1 else 1)) * 1024)
  unfold IsSigned at signed
  unfold byteSize
  omega

theorem byteSize_of_fits {value : Int} (positive : 0 < value) (small : value < 2 ^ 21) :
    byteSize (int32 value) = value * 1024 := by
  have narrowed : int32 value = value := int32_of_range (by omega) (by omega)
  unfold byteSize
  rw [narrowed, if_neg (by omega), Int.mul_one, narrowed, int32_of_range (by omega) (by omega)]

/-- No number out of the range is given its size. -/
theorem fits_of_byteSize {value : Int} (positive : 0 < byteSize (int32 value))
    (equal : byteSize (int32 value) = value * 1024) : 0 < value ∧ value < 2 ^ 21 := by
  have below := byteSize_lt (int32 value)
  constructor <;> omega

/-- The local `swap_in` of `create`: the test that tells a swapped-out session
from a new one. -/
def swapsIn (size : Int) : Bool :=
  decide (size < 0)

/-- The memory of a new session does not come from the object store. -/
theorem create_fresh (objects : SharedObjects) (swapper : S3Swapper) (store other : ObjectStore)
    (sessionId : Bytes) {size : Int} (fresh : swapsIn size = false) (calls : Syscalls) :
    create objects swapper store sessionId size calls =
      create objects swapper other sessionId size calls := by
  have unsigned : ¬ size < 0 := of_decide_eq_false fresh
  simp only [create, unsigned, if_false]

/-- A swap-in puts the object at the start of the memory. -/
theorem prefix_of_swapIn {swapper : S3Swapper} {store : ObjectStore} {key memory bytes : Bytes}
    {getObject : Bool} (loaded : swapper.swapIn store key memory getObject = (true, bytes)) :
    Exists fun object => store (swapper.bucket, key) = some object ∧ object <+: bytes := by
  unfold S3Swapper.swapIn at loaded
  split at loaded
  · cases loaded
  split at loaded
  · cases loaded
  rename_i object found
  split at loaded
  · cases loaded
    exact ⟨object, found, List.prefix_append _ _⟩
  · cases loaded

/-- The memory of a swapped-out session starts with the object that was
downloaded for it, or there is none. -/
theorem downloaded_of_created {objects after : SharedObjects} {swapper : S3Swapper}
    {store : ObjectStore} {sessionId : Bytes} {size : Int} {calls : Syscalls} {memory : SharedMemory}
    (swapped : swapsIn size = true)
    (created : create objects swapper store sessionId size calls = (after, some memory)) :
    Exists fun object => downloaded swapper store sessionId = some object ∧
      object <+: memory.image after := by
  have negative : size < 0 := of_decide_eq_true swapped
  unfold create at created
  dsimp only at created
  split at created
  · cases created
  split at created
  · cases created
  split at created
  · cases created
  split at created
  · rename_i success
    cases created
    rcases prefix_of_swapIn (Prod.ext success rfl) with ⟨object, found, start⟩
    refine ⟨object, found, ?_⟩
    unfold image
    rw [if_pos rfl, Function.update_self]
    exact start
  · cases created

/-- The memory has the size asked for, or there is none and nothing is linked. -/
def SizedAs (value : Int) (path : Bytes) (result : SharedObjects × Option SharedMemory) : Prop :=
  match result.2 with
  | some memory => memory.size = value * 1024 ∧
      (result.1 path).map (fun contents => (contents.length : Int)) = some (value * 1024)
  | none => result.1 path = none

theorem not_sizedAs {value bytes : Int} {path : Bytes} {result : SharedObjects × Option SharedMemory}
    (made : result.2.map SharedMemory.size = some bytes) (different : bytes ≠ value * 1024) :
    ¬ SizedAs value path result := by
  rcases Option.map_eq_some_iff.mp made with ⟨memory, found, rfl⟩
  intro sized
  simp only [SizedAs, found] at sized
  exact different sized.1

end SharedMemory

namespace Worker

open SharedMemory

/-- The session is given what was asked for: there is nothing to clean up when
the object cannot be opened, and otherwise the object is mapped, and either the
number is in the range or it is taken for that of a swapped-out session, which
is not found. -/
def grantsSize (worker : Worker) (store : ObjectStore) (sessionId : Bytes) (value : Int)
    (calls : Syscalls) : Prop :=
  if calls.shmOpen = -1 then worker.objects (pathOf sessionId) = none
  else calls.ftruncate = true ∧ calls.mmap = true ∧
    ((0 < value ∧ value < 2 ^ 21) ∨
      (int32 value < 0 ∧ 0 < byteSize (int32 value) ∧
        restorable worker.swapper store sessionId (byteSize (int32 value)) calls = false))

/-- What `create` makes of the number. -/
theorem sizedAs_create_iff (worker : Worker) (store : ObjectStore) (sessionId : Bytes) (value : Int)
    (calls : Syscalls) :
    SizedAs value (pathOf sessionId)
        (create worker.objects worker.swapper store sessionId (int32 value) calls) ↔
      worker.grantsSize store sessionId value calls := by
  have restored := swapIn_iff worker.swapper store sessionId
    (resize (byteSize (int32 value)).toNat ((worker.objects (pathOf sessionId)).getD []))
    (resize_length _ _) calls
  have creation := create_creation worker.objects worker.swapper store sessionId (int32 value) calls
  generalize create worker.objects worker.swapper store sessionId (int32 value) calls = result
    at creation ⊢
  cases creation with
  | closed failed => simp only [SizedAs, grantsSize, failed, if_true]
  | unmapped contents opened failed =>
      simp only [SizedAs, grantsSize, opened, if_false, Function.update_self, reduceCtorEq, false_iff]
      rintro ⟨sized, mapped, fits | ⟨_, positive, _⟩⟩
      · have equal := byteSize_of_fits fits.1 fits.2
        exact failed ⟨opened, sized, mapped, by omega⟩
      · exact failed ⟨opened, sized, mapped, positive⟩
  | missing maps negative absent =>
      have lost : restorable worker.swapper store sessionId (byteSize (int32 value)) calls = false :=
        Bool.eq_false_iff.mpr (mt restored.mpr (Bool.eq_false_iff.mp absent))
      simp only [SizedAs, grantsSize, maps.opened, maps.sized, maps.mapped, maps.positive, negative,
        lost, Function.update_self, if_false, and_self, or_true]
  | loaded contents maps negative found length =>
      -- A number that is taken for a swapped-out session is never in the range.
      have outside : ¬ (0 < value ∧ value < 2 ^ 21) := by
        intro fits
        rw [int32_of_range (by omega) (by omega)] at negative
        omega
      simp only [SizedAs, grantsSize, maps.opened, restored.mp found, outside, if_false, false_or,
        Bool.true_eq_false, and_false, iff_false, not_and]
      intro equal
      exact False.elim (outside (fits_of_byteSize maps.positive equal))
  | fresh contents maps unsigned length =>
      have sized : (contents.length : Int) = byteSize (int32 value) := by
        rw [length, Int.toNat_of_nonneg (Int.le_of_lt maps.positive)]
      simp only [SizedAs, grantsSize, maps.opened, maps.sized, maps.mapped, Int.not_lt.mpr unsigned,
        Function.update_self, Option.map_some, sized, Option.some.injEq, if_false, true_and,
        false_and, or_false, and_self]
      exact ⟨fits_of_byteSize maps.positive, fun fits => byteSize_of_fits fits.1 fits.2⟩

/-- The number that a client asks for is the size that the session gets, or
nothing is left of the request, exactly under `grantsSize`. -/
theorem requested_memory_iff (http : HttpRequest) (new : http.body.sessionId = [])
    (processName uuid : Bytes) (packet : Wire.Request) (worker : Worker) (store : ObjectStore)
    (calls : Syscalls) :
    let request := received packet (http.call.request processName uuid)
    SizedAs http.body.memorySize (pathOf request.sessionId)
        (create worker.objects worker.swapper store request.sessionId request.memorySize calls) ↔
      worker.grantsSize store request.sessionId http.body.memorySize calls := by
  dsimp only
  rw [memorySize_received http new]
  exact sizedAs_create_iff worker store _ http.body.memorySize calls

/-- A request for a new session with the given number of kilobytes, and system
calls that succeed. -/
def sessionOf (kbytes : Int) : HttpRequest := .addSession ⟨[1], [], 1, kbytes⟩

def succeeding : Syscalls := ⟨3, true, true, true, 100⟩

theorem requested_memory_one :
    let request := received Wire.Request.new ((sessionOf 1).call.request [] (ascii "AAAA"))
    let worker := start 4 S3Swapper.new
    SizedAs 1 (pathOf request.sessionId) (create worker.objects worker.swapper (fun _ => none)
      request.sessionId request.memorySize succeeding) := by
  refine (requested_memory_iff (sessionOf 1) rfl [] (ascii "AAAA") Wire.Request.new
    (start 4 S3Swapper.new) (fun _ => none) succeeding).mpr ?_
  exact ⟨rfl, rfl, Or.inl (by decide)⟩

/-- A request for four gigabytes and one kilobyte gets one kilobyte. -/
theorem huge_request_gets_kilobyte :
    let request := received Wire.Request.new ((sessionOf 4194305).call.request [] (ascii "AAAA"))
    let worker := start 4 S3Swapper.new
    let result := create worker.objects worker.swapper (fun _ => none) request.sessionId
      request.memorySize succeeding
    result.2.map SharedMemory.size = some 1024 ∧
      ¬ SizedAs 4194305 (pathOf request.sessionId) result := by
  exact ⟨by decide +kernel,
    not_sizedAs (by decide +kernel : _ = some (1024 : Int)) (by decide)⟩

end Worker

end Runtime
end Praas
