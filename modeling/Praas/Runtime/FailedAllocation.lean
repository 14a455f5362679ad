import Praas.Runtime.WorkerMemory

namespace Praas
namespace Runtime

open Library
open ControlPlane (SessionRequest)

/-!
# What a session request leaves behind

`allocate_session` appends the entry of a session before it forks, and keeps
it when the fork fails.  The entry then occupies a place of the worker, and a
second request for the same session is refused as a conflict.  `fork` itself
looks at the shared memory only: a failed `vfork` is reported as a success
with the process identifier `-1`.
-/

namespace Worker

/-- What a request promises: a failure changes nothing, and a success adds one
entry with the session and the process identifier of a child. -/
def AllocatesWhole (worker : Worker) (store : ObjectStore) (request : SessionRequest)
    (calls : Syscalls) : Prop :=
  let allocated := worker.allocateSession store request calls
  (allocated.1 ≠ .success -> allocated.2.sessions = worker.sessions) ∧
    (allocated.1 = .success -> Exists fun entry =>
      allocated.2.sessions = worker.sessions ++ [entry] ∧
        entry.sessionId = request.sessionId ∧ 0 < entry.childPid)

/-- The image of a swapped-out session can be loaded into the given number of
bytes. -/
def restorable (swapper : S3Swapper) (store : ObjectStore) (sessionId : Bytes) (bytes : Int)
    (calls : Syscalls) : Bool :=
  swapper.client && calls.getObject &&
    (store (swapper.bucket, SharedMemory.pathOf sessionId)).any
      (fun object => decide (object.length ≤ bytes.toNat))

/-- The shared memory of the request can be created: the system calls succeed,
the size in bytes is positive, and a swapped-out session can be loaded. -/
def creatable (worker : Worker) (store : ObjectStore) (request : SessionRequest)
    (calls : Syscalls) : Bool :=
  decide (calls.shmOpen ≠ -1) && calls.ftruncate && calls.mmap &&
    decide (0 < SharedMemory.byteSize request.memorySize) &&
    (decide (0 ≤ request.memorySize) ||
      restorable worker.swapper store request.sessionId
        (SharedMemory.byteSize request.memorySize) calls)

/-- The request is refused before anything is started: the worker is full, or
it has the session. -/
def refuses (worker : Worker) (request : SessionRequest) : Bool :=
  decide (toSize worker.maxSessions ≤ worker.sessions.length) ||
    worker.sessions.any (fun entry => decide (entry.sessionId = request.sessionId))

theorem swapIn_iff (swapper : S3Swapper) (store : ObjectStore) (sessionId memory : Bytes)
    {bytes : Int} (sized : memory.length = bytes.toNat) (calls : Syscalls) :
    (swapper.swapIn store (SharedMemory.pathOf sessionId) memory calls.getObject).1 = true ↔
      restorable swapper store sessionId bytes calls = true := by
  unfold S3Swapper.swapIn restorable
  rw [← sized]
  cases swapper.client with
  | false => simp
  | true =>
      cases store (swapper.bucket, SharedMemory.pathOf sessionId) with
      | none => simp
      | some object =>
          by_cases fits : object.length ≤ memory.length <;> cases calls.getObject <;> simp [fits]

/-- `create` gives a mapping exactly for a request that is creatable. -/
theorem create_isSome_iff (worker : Worker) (store : ObjectStore) (request : SessionRequest)
    (calls : Syscalls) :
    (SharedMemory.create worker.objects worker.swapper store request.sessionId request.memorySize
      calls).2.isSome = true ↔ worker.creatable store request calls = true := by
  have loaded := swapIn_iff worker.swapper store request.sessionId
    (SharedMemory.resize (SharedMemory.byteSize request.memorySize).toNat
      ((worker.objects (SharedMemory.pathOf request.sessionId)).getD []))
    (SharedMemory.resize_length _ _) calls
  have creation := SharedMemory.create_creation worker.objects worker.swapper store
    request.sessionId request.memorySize calls
  generalize SharedMemory.create worker.objects worker.swapper store request.sessionId
    request.memorySize calls = result at creation ⊢
  simp only [creatable, Bool.and_eq_true, Bool.or_eq_true, decide_eq_true_eq]
  cases creation with
  | closed failed => simp [failed]
  | unmapped contents opened failed =>
      simp only [Option.isSome_none, Bool.false_eq_true, false_iff]
      rintro ⟨⟨⟨⟨_, sized⟩, mapped⟩, positive⟩, _⟩
      exact failed ⟨opened, sized, mapped, positive⟩
  | missing maps swapped absent =>
      have unsigned : ¬ 0 ≤ request.memorySize := Int.not_le.mpr swapped
      have lost := mt loaded.mpr (Bool.eq_false_iff.mp absent)
      simp [unsigned, lost]
  | loaded contents maps swapped found =>
      simp [maps.opened, maps.sized, maps.mapped, maps.positive, loaded.mp found]
  | fresh contents maps fresh => simp [maps.opened, maps.sized, maps.mapped, maps.positive, fresh]

/-- A request is answered truly, and leaves nothing of a failure behind,
exactly if it is refused at once or everything that it starts succeeds. -/
theorem allocation_whole_iff (worker : Worker) (store : ObjectStore) (request : SessionRequest)
    (calls : Syscalls) :
    worker.AllocatesWhole store request calls ↔
      (worker.refuses request = true ∨
        (worker.creatable store request calls = true ∧ 0 < calls.vfork)) := by
  rw [← create_isSome_iff]
  unfold AllocatesWhole allocateSession refuses
  by_cases full : toSize worker.maxSessions ≤ worker.sessions.length
  · simp [full]
  by_cases listed : worker.sessions.any
      (fun entry => decide (entry.sessionId = request.sessionId)) = true
  · simp only [full, listed, if_false, if_true]
    simp
  · simp only [full, listed, if_false, decide_false, Bool.false_or, Bool.false_eq_true, false_or]
    unfold fork
    cases created : SharedMemory.create worker.objects worker.swapper store request.sessionId
        request.memorySize calls with
    | mk objects result =>
        cases result with
        | none => simp [SessionFork.new, created]
        | some memory => simp [SessionFork.new, created]

/-- A session request, and the outcome of a start whose `shm_open` fails. -/
def someSession : SessionRequest := ⟨ascii "AAAAAAAAAAAAAAAA", 1, 1⟩

def shmOpenFails : Syscalls := ⟨-1, true, true, true, 100⟩

/-- The failed request stays in the list, and the request made again is a
conflict, although all system calls succeed. -/
theorem failed_allocation_kept :
    let worker := start 4 S3Swapper.new
    let failed := worker.allocateSession (fun _ => none) someSession shmOpenFails
    failed.1 = .unknownFailure ∧ failed.2.sessions.length = 1 ∧
      (failed.2.allocateSession (fun _ => none) someSession ⟨3, true, true, true, 100⟩).1 =
        .sessionConflict ∧
      ¬ worker.AllocatesWhole (fun _ => none) someSession shmOpenFails := by
  refine ⟨by decide, by decide, by decide, ?_⟩
  intro whole
  exact absurd (congrArg List.length (whole.1 (by decide))) (by decide)

end Worker
end Runtime
end Praas
