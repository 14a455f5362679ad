import Praas.Runtime.RequestedMemory
import Praas.System.Configuration

namespace Praas
namespace System

open Library
open ControlPlane
open Praas.Runtime

/-!
# The requests sent for a session

A request says nothing about swapping.  The memory size of a session that is
swapped in is sent as a negative number, and `create` takes every negative
number for that of a swapped-out session.  The requests carry the numbers that
were recorded when the session was created, and so whether a session is taken
for what it is depends on the number of that call alone.
-/

namespace Foreign

variable {state next final : State} {event : Event} {request : SessionRequest} {session : Session}
  {trace : List (State × Event)}

/-- The step sends the request to a process worker. -/
def Sends (state : State) (event : Event) (request : SessionRequest) : Prop :=
  Exists fun next => Exists fun processId => respond state event = some next ∧
    next.plane.outgoing processId = state.plane.outgoing processId ++ [request]

/-! ## A request carries the numbers of the call -/

theorem outgoing_happens (happens : Happens state event next) :
    next.plane.outgoing = state.plane.outgoing ∨
      Exists fun processId => Exists fun sessionId =>
        next.plane.outgoing = (state.plane.writeRequest processId sessionId).outgoing := by
  cases happens with
  | close sessionId found => exact Or.inl rfl
  | own fits moved =>
      cases moved with
      | @writeRequest _ _ placement processId _ whole held =>
          exact Or.inr ⟨processId, placement.sessionId, rfl⟩
      | @sendPending processId sessionId index process held found pending =>
          rcases Plane.sendPending_cases state.plane processId sessionId with ⟨_, sent⟩ | ⟨_, same⟩
          · exact Or.inr ⟨processId, sessionId, congrArg Plane.outgoing sent⟩
          · exact Or.inl (congrArg Plane.outgoing same)
      | _ => exact Or.inl rfl

/-- A request is filled from the entry of its session. -/
theorem entry_of_sends (registered : Registered state) (sends : Sends state event request) :
    Exists fun session => state.plane.resources.sessions request.sessionId = some session ∧
      request = ⟨session.sessionId, session.maxFunctions, session.memorySize⟩ := by
  rcases sends with ⟨next, processId, stepped, sent⟩
  have unchanged : next.plane.outgoing processId ≠ state.plane.outgoing processId := by
    rw [sent]
    simp
  rcases outgoing_happens (respond_happens stepped) with same | ⟨target, sessionId, written⟩
  · exact absurd (congrFun same processId) unchanged
  · rw [written, Plane.outgoing_writeRequest] at sent unchanged
    by_cases own : processId = target
    · subst own
      rw [Function.update_self] at sent
      have filled := List.append_cancel_left sent
      unfold Plane.written at filled
      split at filled
      · split at filled
        · cases filled
        · rename_i session entry
          cases filled
          refine ⟨session, ?_, rfl⟩
          rw [registered.keyed _ _ entry]
          exact entry
      · cases filled
    · rw [Function.update_of_ne own] at unchanged
      exact absurd rfl unchanged

theorem numbers_of_sends (run : Run trace final) {call : ClientCall}
    (created : Created trace request.sessionId call) (sends : Sends final event request)
    (entry : final.plane.resources.sessions request.sessionId = some session) :
    Rejection.typed call = true ∧ request.maxFunctions = call.maxFunctions ∧
      request.memorySize = sentSize session.swapIn call.memorySize := by
  rcases recorded_of_created run created with ⟨fits, recorded⟩
  rcases entry_of_sends (counted_of_run run).1 sends with ⟨sender, found, filled⟩
  cases entry.symm.trans found
  rcases (consistent_of_run run).entries _ session entry with
    ⟨creation, creationFits, details, functions, memory⟩
  have same := details_injective fits creationFits
    (Option.some.inj (recorded.symm.trans details))
  rw [same.1, same.2, filled]
  exact ⟨fits, functions, memory⟩

/-- The request of a new session is that of the call that created it. -/
theorem request_of_creation (run : Run trace final) {call : ClientCall}
    (created : Created trace request.sessionId call) (sends : Sends final event request)
    (entry : final.plane.resources.sessions request.sessionId = some session)
    (fresh : session.swapIn = false) (processName : Bytes) :
    request = call.request processName request.sessionId := by
  rcases numbers_of_sends run created sends entry with ⟨_, functions, memory⟩
  rw [fresh] at memory
  cases request
  cases functions
  cases memory
  rfl

/-- So what a client asks for is followed from its request to the shared memory,
along every run. -/
theorem sizedAs_of_creation (run : Run trace final) (http : HttpRequest)
    (new : http.body.sessionId = []) (created : Created trace request.sessionId http.call)
    (sends : Sends final event request)
    (entry : final.plane.resources.sessions request.sessionId = some session)
    (fresh : session.swapIn = false) (packet : Wire.Request) (worker : Worker)
    (store : ObjectStore) (calls : Syscalls) :
    SharedMemory.SizedAs http.body.memorySize
        (SharedMemory.pathOf (received packet request).sessionId)
        (SharedMemory.create worker.objects worker.swapper store (received packet request).sessionId
          (received packet request).memorySize calls) ↔
      worker.grantsSize store (received packet request).sessionId http.body.memorySize calls := by
  have narrowed : (received packet request).memorySize = int32 http.body.memorySize := by
    rw [request_of_creation run created sends entry fresh []]
    exact memorySize_received http new [] _ packet
  rw [narrowed]
  exact Worker.sizedAs_create_iff worker store _ http.body.memorySize calls

/-! ## The sign of the memory size -/

theorem sentSize_signed {memorySize : Int} (signed : IsSigned 4 memorySize) (swapIn : Bool) :
    IsSigned 4 (sentSize swapIn memorySize) := by
  cases swapIn with
  | true => exact int32_signed _
  | false => exact signed

theorem sentSize_swapIn {memorySize : Int} (signed : IsSigned 4 memorySize)
    (ordinary : memorySize ≠ -2 ^ 31) : sentSize true memorySize = -memorySize := by
  unfold IsSigned at signed
  have negated : int32 (memorySize * -1) = memorySize * -1 := int32_of_range (by omega) (by omega)
  simp only [sentSize, negated, if_true]
  omega

/-- The sign of the number sent tells a new session from one that is swapped
in.  The smallest number is its own negation. -/
def tellsApart (swapIn : Bool) (memorySize : Int) : Prop :=
  if swapIn then 0 < memorySize ∨ memorySize = -2 ^ 31 else 0 ≤ memorySize

theorem swapsIn_sentSize_iff {memorySize : Int} (signed : IsSigned 4 memorySize) (swapIn : Bool) :
    SharedMemory.swapsIn (sentSize swapIn memorySize) = swapIn ↔ tellsApart swapIn memorySize := by
  cases swapIn with
  | true =>
      by_cases smallest : memorySize = -2 ^ 31
      · subst smallest
        exact iff_of_true (by decide) (Or.inr rfl)
      · rw [sentSize_swapIn signed smallest]
        simp only [SharedMemory.swapsIn, tellsApart, smallest, decide_eq_true_eq, if_true, or_false]
        omega
  | false =>
      simp only [SharedMemory.swapsIn, tellsApart, sentSize, decide_eq_false_iff_not,
        Bool.false_eq_true, if_false]
      omega

/-- The worker reads the numbers of the call. -/
theorem received_of_sends (run : Run trace final) {call : ClientCall}
    (created : Created trace request.sessionId call) (sends : Sends final event request)
    (entry : final.plane.resources.sessions request.sessionId = some session)
    (packet : Wire.Request) :
    (received packet request).maxFunctions = call.maxFunctions ∧
      (received packet request).memorySize = sentSize session.swapIn call.memorySize := by
  rcases numbers_of_sends run created sends entry with ⟨fits, functions, memory⟩
  have signed := of_decide_eq_true fits
  have functionsFit : IsSigned 4 request.maxFunctions := by
    rw [functions]
    exact signed.1
  have memoryFits : IsSigned 4 request.memorySize := by
    rw [memory]
    exact sentSize_signed signed.2 session.swapIn
  have read := received_numbers packet functionsFit memoryFits
  exact ⟨read.1.trans functions, read.2.trans memory⟩

/-! ## Two short runs -/

/-- The session `[2]` is about to be swapped in by the second client. -/
def beforeSwapIn : List Event :=
  let actions : List Action :=
    placeSession ++ .client 0 [] :: connectWorker ++ runSession true ++ handleClosure ++
      .call swapInCall :: List.replicate 6 (.client 1 [])
  actions.map .own

/-- A session with a negative memory size waits for its worker, which has
connected. -/
def beforeNegative : List Event :=
  [.allocate [] [1], .call { newSessionCall with memorySize := -1 }, .client 0 [], .client 0 [2],
    .client 0 [], .client 0 [3], .client 0 [], .client 0 [],
    .connect [3] (S3Swapper.enableSwapping none), .enterPending [3]].map .own

/-- The event sends the request for the session to the worker `[3]`. -/
def aboutToSend (event : Event) (request : SessionRequest) (swapIn : Bool) (final : State) : Bool :=
  (respond final event).any (fun next =>
      decide (next.plane.outgoing [3] = final.plane.outgoing [3] ++ [request])) &&
    (final.plane.resources.sessions request.sessionId).any (fun session =>
      decide (session.swapIn = swapIn))

theorem sends_of_aboutToSend {swapIn : Bool} (ready : aboutToSend event request swapIn final = true) :
    Sends final event request ∧
      Exists fun session => final.plane.resources.sessions request.sessionId = some session ∧
        session.swapIn = swapIn := by
  simp only [aboutToSend, Bool.and_eq_true, Option.any_eq_true, decide_eq_true_eq] at ready
  rcases ready with ⟨⟨next, stepped, sent⟩, session, entry, flag⟩
  exact ⟨⟨next, [3], stepped, sent⟩, session, entry, flag⟩

/-- The request for the session that is swapped in. -/
def swapInRequest : SessionRequest := ⟨[2], 1, -1⟩

theorem exists_swapIn :
    Exists fun trace => Exists fun final => Exists fun session => Exists fun call =>
      Run trace final ∧ Sends final (.own (.client 1 [])) swapInRequest ∧
        final.plane.resources.sessions [2] = some session ∧ session.swapIn = true ∧
        Created trace [2] call ∧ call.memorySize = 1 := by
  have found := TransitionSystem.exists_run foreign State.initial beforeSwapIn (fun _ final =>
    aboutToSend (.own (.client 1 [])) swapInRequest true final &&
      decide (final.plane.redis.get (.session [2]) = some newSessionCall.details))
    (by decide +kernel)
  rcases found with ⟨trace, final, run, tested⟩
  rw [Bool.and_eq_true, decide_eq_true_eq] at tested
  rcases tested with ⟨ready, recorded⟩
  rcases sends_of_aboutToSend ready with ⟨sends, session, entry, flag⟩
  rcases created_of_recorded run [2] (by rw [recorded]; exact Option.some_ne_none _) with
    ⟨call, created⟩
  rcases recorded_of_created run created with ⟨fits, details⟩
  have same := details_injective fits (by decide : Rejection.typed newSessionCall = true)
    (Option.some.inj (details.symm.trans recorded))
  exact ⟨trace, final, session, call, run, sends, entry, flag, created, same.1⟩

/-! ## Along every run -/

/-- The record of a session is read back as the two numbers of the call that
created it and is never replaced, and every request for a swap-in carries the
number of functions and the negated memory size. -/
theorem configuration_survives (run : Run trace final) {sessionId : Bytes} {call : ClientCall}
    (created : Created trace sessionId call) :
    final.plane.redis.get (.session sessionId) = some call.details ∧
      (forall old, fromChars (split call.details separator).1 old = call.memorySize ∧
        fromChars (split call.details separator).2 old = call.maxFunctions) ∧
      (call.memorySize ≠ -2 ^ 31 ->
        forall event request session, Sends final event request -> request.sessionId = sessionId ->
          final.plane.resources.sessions sessionId = some session -> session.swapIn = true ->
          request.maxFunctions = call.maxFunctions ∧ request.memorySize = -call.memorySize ∧
            forall packet, (received packet request).maxFunctions = call.maxFunctions ∧
              (received packet request).memorySize = -call.memorySize) := by
  rcases recorded_of_created run created with ⟨fits, recorded⟩
  refine ⟨recorded, details_read fits, ?_⟩
  intro ordinary event request session sends named entry swapIn
  subst named
  have negated : sentSize session.swapIn call.memorySize = -call.memorySize := by
    rw [swapIn]
    exact sentSize_swapIn (of_decide_eq_true fits).2 ordinary
  rcases numbers_of_sends run created sends entry with ⟨_, functions, memory⟩
  refine ⟨functions, memory.trans negated, ?_⟩
  intro packet
  have read := received_of_sends run created sends entry packet
  exact ⟨read.1, read.2.trans negated⟩

theorem configuration_survives_swapIn :
    Exists fun trace => Exists fun final => Exists fun request : SessionRequest =>
      Exists fun call => Run trace final ∧ Sends final (.own (.client 1 [])) request ∧
        Created trace request.sessionId call ∧ call.memorySize = 1 ∧
        request.memorySize = -call.memorySize := by
  rcases exists_swapIn with ⟨trace, final, session, call, run, sends, entry, flag, created, one⟩
  have ordinary : call.memorySize ≠ -2 ^ 31 := by
    rw [one]
    decide
  have carried := (configuration_survives run created).2.2 ordinary _ swapInRequest session sends rfl
    entry flag
  exact ⟨trace, final, swapInRequest, call, run, sends, created, one, carried.2.1⟩

/-- Every request is for a session of the table that was created by a call, and
the worker takes the session for what it is exactly if the number of that call
tells it apart. -/
theorem swap_in_test_agrees_iff (run : Run trace final) (sends : Sends final event request) :
    Exists fun session => final.plane.resources.sessions request.sessionId = some session ∧
      (Exists fun call => Created trace request.sessionId call) ∧
      forall call packet, Created trace request.sessionId call ->
        (SharedMemory.swapsIn (received packet request).memorySize = session.swapIn ↔
          tellsApart session.swapIn call.memorySize) := by
  rcases entry_of_sends (counted_of_run run).1 sends with ⟨session, entry, filled⟩
  rcases (consistent_of_run run).entries _ session entry with ⟨_, _, recorded, _⟩
  have written : final.plane.redis.get (.session request.sessionId) ≠ none := by
    rw [recorded]
    exact Option.some_ne_none _
  refine ⟨session, entry, created_of_recorded run _ written, ?_⟩
  intro call packet created
  have fits := (recorded_of_created run created).1
  rw [(received_of_sends run created sends entry packet).2]
  exact swapsIn_sentSize_iff (of_decide_eq_true fits).2 session.swapIn

theorem swap_in_test_agrees_swapIn :
    Exists fun trace => Exists fun final => Exists fun request => Exists fun session : Session =>
      Run trace final ∧ Sends final (.own (.client 1 [])) request ∧ session.swapIn = true ∧
        SharedMemory.swapsIn (received Wire.Request.new request).memorySize = session.swapIn := by
  rcases exists_swapIn with ⟨trace, final, session, call, run, sends, entry, flag, created, one⟩
  rcases swap_in_test_agrees_iff run sends with ⟨known, found, _, agrees⟩
  cases entry.symm.trans found
  refine ⟨trace, final, swapInRequest, session, run, sends, flag, ?_⟩
  apply (agrees call Wire.Request.new created).mpr
  rw [flag, one]
  exact Or.inl (by decide)

/-- A new session with a negative memory size is taken for a swapped-out one. -/
theorem negative_size_taken_for_swap_in :
    ¬ forall (trace : List (State × Event)) (final : State) (event : Event)
      (request : SessionRequest) (session : Session) (packet : Wire.Request), Run trace final ->
      Sends final event request ->
      final.plane.resources.sessions request.sessionId = some session ->
      SharedMemory.swapsIn (received packet request).memorySize = session.swapIn := by
  intro always
  have found := TransitionSystem.exists_run foreign State.initial beforeNegative (fun _ final =>
    aboutToSend (.own .sendPending) ⟨[2], 1, -1⟩ false final) (by decide +kernel)
  rcases found with ⟨trace, final, run, ready⟩
  rcases sends_of_aboutToSend ready with ⟨sends, session, entry, flag⟩
  have agrees := always trace final _ _ session Wire.Request.new run sends entry
  rw [flag] at agrees
  revert agrees
  decide +kernel

/-! ## The memory that the worker creates -/

/-- What the process worker makes of a request that it takes for what it is: no
object of the store has a part in the memory of a new session, and the memory
of a session that is swapped in starts with the object downloaded for it. -/
theorem memory_of_sent_request (run : Run trace final) {call : ClientCall}
    (created : Created trace request.sessionId call) (sends : Sends final event request)
    (entry : final.plane.resources.sessions request.sessionId = some session)
    (apart : tellsApart session.swapIn call.memorySize) (packet : Wire.Request)
    (objects : SharedObjects) (swapper : S3Swapper) (store : ObjectStore) (calls : Syscalls) :
    (session.swapIn = false -> forall other,
      SharedMemory.create objects swapper store (received packet request).sessionId
          (received packet request).memorySize calls =
        SharedMemory.create objects swapper other (received packet request).sessionId
          (received packet request).memorySize calls) ∧
    (session.swapIn = true -> forall after memory,
      SharedMemory.create objects swapper store (received packet request).sessionId
          (received packet request).memorySize calls = (after, some memory) ->
        Exists fun object =>
          downloaded swapper store (received packet request).sessionId = some object ∧
            object <+: memory.image after) := by
  have fits := (recorded_of_created run created).1
  have test : SharedMemory.swapsIn (received packet request).memorySize = session.swapIn := by
    rw [(received_of_sends run created sends entry packet).2]
    exact (swapsIn_sentSize_iff (of_decide_eq_true fits).2 session.swapIn).mpr apart
  constructor
  · intro fresh other
    exact SharedMemory.create_fresh objects swapper store other _ (test.trans fresh) calls
  · intro swapped after memory made
    exact SharedMemory.downloaded_of_created (test.trans swapped) made

/-- A store with an object for the session `[2]`, where a swap-in looks for it. -/
def storeWithObject : ObjectStore :=
  Function.update (fun _ => none) (S3Swapper.defaultBucket, SharedMemory.pathOf (received
    Wire.Request.new swapInRequest).sessionId) (some [7])

/-- What the worker makes of the request when every system call succeeds. -/
def memoryOfSwapIn : SharedObjects × Option SharedMemory :=
  SharedMemory.create (fun _ => none) (S3Swapper.enableSwapping none) storeWithObject
    (received Wire.Request.new swapInRequest).sessionId
    (received Wire.Request.new swapInRequest).memorySize ⟨3, true, true, true, 0⟩

theorem memory_of_sent_request_swapIn :
    Exists fun trace => Exists fun final => Exists fun memory =>
      Run trace final ∧ Sends final (.own (.client 1 [])) swapInRequest ∧
        memoryOfSwapIn.2 = some memory ∧ [7] <+: memory.image memoryOfSwapIn.1 := by
  rcases exists_swapIn with ⟨trace, final, session, call, run, sends, entry, flag, created, one⟩
  have apart : tellsApart session.swapIn call.memorySize := by
    rw [flag, one]
    exact Or.inl (by decide)
  have mapped : memoryOfSwapIn.2.isSome = true := by decide +kernel
  rcases Option.isSome_iff_exists.mp mapped with ⟨memory, made⟩
  have whole : memoryOfSwapIn = (memoryOfSwapIn.1, some memory) := by rw [← made]
  rcases (memory_of_sent_request run created sends entry apart Wire.Request.new (fun _ => none)
    (S3Swapper.enableSwapping none) storeWithObject ⟨3, true, true, true, 0⟩).2 flag _ _ whole with
    ⟨object, found, start⟩
  have seven : downloaded (S3Swapper.enableSwapping none) storeWithObject
      (received Wire.Request.new swapInRequest).sessionId = some [7] := by decide +kernel
  cases seven.symm.trans found
  exact ⟨trace, final, memory, run, sends, made, start⟩

end Foreign
end System
end Praas
