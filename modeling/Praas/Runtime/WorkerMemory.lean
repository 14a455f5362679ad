import Praas.Runtime.Process

namespace Praas
namespace Runtime

open Library
open ControlPlane (SessionRequest)

/-!
# The memory of the sessions of a process worker

`session_deleted` hands the mapping of a session and its size to the swapper,
which stores that many bytes.  The stored bytes are the whole image because a
mapping is never longer than the size recorded with it: `create` sizes the
object before it maps it, and no other session of the worker uses the same
object.
-/

namespace SharedMemory

theorem pathOf_injective : Function.Injective pathOf := fun _ _ same =>
  List.append_cancel_left same

theorem swapIn_length (swapper : S3Swapper) (store : ObjectStore) (key memory : Bytes)
    (getObject : Bool) : (swapper.swapIn store key memory getObject).2.length = memory.length := by
  unfold S3Swapper.swapIn
  split
  · rfl
  split
  · rfl
  split
  · rename_i fits
    simp only [List.length_append, List.length_drop]
    omega
  · rfl

/-- The object is opened, sized and mapped. -/
structure Maps (size : Int) (calls : Syscalls) : Prop where
  opened : calls.shmOpen ≠ -1
  sized : calls.ftruncate = true
  mapped : calls.mmap = true
  positive : 0 < byteSize size

/-- What `create` can do: it fails before the object is mapped, it maps the
object and loads it or not, or it maps the object of a new session. -/
inductive Creation (objects : SharedObjects) (swapper : S3Swapper) (store : ObjectStore)
    (sessionId : Bytes) (size : Int) (calls : Syscalls) :
    SharedObjects × Option SharedMemory -> Prop
  | closed : calls.shmOpen = -1 ->
      Creation objects swapper store sessionId size calls (objects, none)
  | unmapped (contents : Bytes) : calls.shmOpen ≠ -1 -> ¬ Maps size calls ->
      Creation objects swapper store sessionId size calls
        (Function.update objects (pathOf sessionId) (some contents), none)
  | missing : Maps size calls -> size < 0 ->
      (swapper.swapIn store (pathOf sessionId) (resize (byteSize size).toNat
        ((objects (pathOf sessionId)).getD [])) calls.getObject).1 = false ->
      Creation objects swapper store sessionId size calls
        (Function.update objects (pathOf sessionId) none, none)
  | loaded (contents : Bytes) : Maps size calls -> size < 0 ->
      (swapper.swapIn store (pathOf sessionId) (resize (byteSize size).toNat
        ((objects (pathOf sessionId)).getD [])) calls.getObject).1 = true ->
      contents.length = (byteSize size).toNat ->
      Creation objects swapper store sessionId size calls
        (Function.update objects (pathOf sessionId) (some contents),
          some ⟨byteSize size, calls.shmOpen, pathOf sessionId, true, true⟩)
  | fresh (contents : Bytes) : Maps size calls -> 0 ≤ size ->
      contents.length = (byteSize size).toNat ->
      Creation objects swapper store sessionId size calls
        (Function.update objects (pathOf sessionId) (some contents),
          some ⟨byteSize size, calls.shmOpen, pathOf sessionId, true, true⟩)

theorem create_creation (objects : SharedObjects) (swapper : S3Swapper) (store : ObjectStore)
    (sessionId : Bytes) (size : Int) (calls : Syscalls) :
    Creation objects swapper store sessionId size calls
      (create objects swapper store sessionId size calls) := by
  dsimp only [create]
  split
  · rename_i failed
    exact .closed failed
  rename_i opened
  split
  · rename_i failed
    refine .unmapped _ opened (fun maps => ?_)
    rcases failed with unsized | negative
    · cases unsized.symm.trans maps.sized
    · exact absurd maps.positive (Int.not_lt.mpr (Int.le_of_lt negative))
  rename_i sized
  split
  · rename_i failed
    refine .unmapped _ opened (fun maps => ?_)
    rcases failed with unmapped | empty
    · cases unmapped.symm.trans maps.mapped
    · exact absurd maps.positive (Int.not_lt.mpr (Int.le_of_eq empty))
  rename_i mapped
  simp only [not_or, Bool.not_eq_false] at sized mapped
  have maps : Maps size calls := ⟨opened, sized.1, mapped.1, by omega⟩
  split
  · rename_i swapped
    split
    · rename_i found
      exact .loaded _ maps swapped found ((swapIn_length _ _ _ _ _).trans (resize_length _ _))
    · rename_i absent
      exact .missing maps swapped (Bool.not_eq_true _ ▸ absent)
  · rename_i fresh
    exact .fresh _ maps (Int.not_lt.mp fresh) (resize_length _ _)

theorem create_other (objects : SharedObjects) (swapper : S3Swapper) (store : ObjectStore)
    (sessionId : Bytes) (size : Int) (calls : Syscalls) {path : Bytes}
    (different : path ≠ pathOf sessionId) :
    (create objects swapper store sessionId size calls).1 path = objects path := by
  have creation := create_creation objects swapper store sessionId size calls
  generalize create objects swapper store sessionId size calls = result at creation ⊢
  cases creation with
  | closed => rfl
  | _ => exact Function.update_of_ne different _ _

/-- A mapping made by `create` is that of its session, with the size asked for. -/
theorem create_mapped {objects after : SharedObjects} {swapper : S3Swapper} {store : ObjectStore}
    {sessionId : Bytes} {size : Int} {calls : Syscalls} {memory : SharedMemory}
    (created : create objects swapper store sessionId size calls = (after, some memory)) :
    memory.path = pathOf sessionId ∧
      ((after (pathOf sessionId)).getD []).length = memory.size.toNat := by
  have creation := create_creation objects swapper store sessionId size calls
  rw [created] at creation
  cases creation with
  | loaded contents maps swapped found sized | fresh contents maps fresh sized =>
      refine ⟨rfl, ?_⟩
      rw [Function.update_self, Option.getD_some]
      exact sized

theorem destroy_length_le (objects : SharedObjects) (memory : SharedMemory) (path : Bytes) :
    ((memory.destroy objects path).getD []).length ≤ ((objects path).getD []).length := by
  unfold destroy
  split
  · by_cases same : path = memory.path
    · rw [same, Function.update_self]
      exact Nat.zero_le _
    · rw [Function.update_of_ne same]
  · exact Nat.le_refl _

end SharedMemory

namespace Worker

open SharedMemory

/-- Every mapped session uses the object of its own name, and the object is
not longer than the recorded size. -/
def Mapped (worker : Worker) : Prop :=
  forall entry, entry ∈ worker.sessions -> entry.memory.mapped = true ->
    entry.memory.path = pathOf entry.sessionId ∧
      ((worker.objects entry.memory.path).getD []).length ≤ entry.memory.size.toNat

theorem mapped_start (maxSessions : Int) (swapper : S3Swapper) :
    (start maxSessions swapper).Mapped := fun _ member =>
  False.elim (List.not_mem_nil member)

theorem mapped_allocateSession {worker : Worker} (mapped : worker.Mapped) (store : ObjectStore)
    (request : SessionRequest) (calls : Syscalls) :
    (worker.allocateSession store request calls).2.Mapped := by
  unfold allocateSession
  split
  · exact mapped
  split
  · exact mapped
  · rename_i free
    have fresh : forall entry, entry ∈ worker.sessions -> entry.sessionId ≠ request.sessionId := by
      intro entry member same
      exact free (List.any_eq_true.mpr ⟨entry, member, decide_eq_true same⟩)
    intro entry member
    unfold fork at member ⊢
    cases created : create worker.objects worker.swapper store request.sessionId request.memorySize
        calls with
    | mk after result =>
        have old : entry ∈ worker.sessions -> entry.memory.mapped = true ->
            entry.memory.path = pathOf entry.sessionId ∧
              ((after entry.memory.path).getD []).length ≤ entry.memory.size.toNat := by
          intro inside isMapped
          rcases mapped entry inside isMapped with ⟨path, length⟩
          have different : entry.memory.path ≠ pathOf request.sessionId := by
            intro same
            exact fresh entry inside (pathOf_injective (path.symm.trans same))
          have kept : after entry.memory.path = worker.objects entry.memory.path := by
            rw [← create_other worker.objects worker.swapper store request.sessionId
              request.memorySize calls different, created]
          rw [kept]
          exact ⟨path, length⟩
        cases result with
        | none =>
            simp only [SessionFork.new, created] at member ⊢
            rcases List.mem_append.mp member with inside | last
            · exact old inside
            · intro isMapped
              rw [List.mem_singleton.mp last] at isMapped
              exact absurd isMapped Bool.false_ne_true
        | some memory =>
            simp only [SessionFork.new, created] at member ⊢
            rcases List.mem_append.mp member with inside | last
            · exact old inside
            · intro _
              rcases create_mapped created with ⟨path, length⟩
              rw [List.mem_singleton.mp last]
              refine ⟨path, ?_⟩
              rw [path]
              exact Nat.le_of_eq length

theorem mapped_sessionDeleted {worker : Worker} (mapped : worker.Mapped) (store : ObjectStore)
    (pid : Int) (putObject : Bool) : (worker.sessionDeleted store pid putObject).1.Mapped := by
  cases found : worker.deletedEntry pid with
  | none =>
      rw [sessionDeleted_none found]
      exact mapped
  | some deleted =>
      intro entry member isMapped
      simp only [sessionDeleted, found, eraseFork_kept] at member ⊢
      rcases mapped entry (List.mem_of_mem_eraseP member) isMapped with ⟨path, length⟩
      refine ⟨path, ?_⟩
      cases (eraseFork pid worker.sessions).2 with
      | none => exact length
      | some destroyed => exact Nat.le_trans (destroy_length_le _ destroyed.memory _) length

/-- A session that writes to its memory keeps the length of the object. -/
theorem mapped_touch {worker : Worker} (mapped : worker.Mapped) {path contents : Bytes}
    (sameLength : (worker.objects path).map List.length = some contents.length) :
    Mapped { worker with objects := Function.update worker.objects path (some contents) } := by
  intro entry member isMapped
  rcases mapped entry member isMapped with ⟨own, length⟩
  refine ⟨own, ?_⟩
  by_cases same : entry.memory.path = path
  · rcases Option.map_eq_some_iff.mp sameLength with ⟨before, present, equal⟩
    dsimp only
    rw [same, present] at length
    rw [same, Function.update_self, Option.getD_some, ← equal]
    exact length
  · dsimp only
    rw [Function.update_of_ne same]
    exact length

/-- The bytes handed to the swapper are the whole image. -/
theorem take_image {worker : Worker} (mapped : worker.Mapped) {entry : SessionFork}
    (member : entry ∈ worker.sessions) :
    (entry.memory.image worker.objects).take entry.memory.size.toNat =
      entry.memory.image worker.objects := by
  apply List.take_of_length_le
  unfold SharedMemory.image
  split
  · rename_i isMapped
    exact (mapped entry member isMapped).2
  · exact Nat.zero_le _

/-- A deletion by a worker that can swap, with a successful transfer, stores
the image of the session under its identifier. -/
theorem store_sessionDeleted {worker : Worker} (mapped : worker.Mapped) {pid : Int}
    {entry : SessionFork} (found : worker.deletedEntry pid = some entry) (store : ObjectStore)
    (enabled : worker.swapper.enabled = true) (client : worker.swapper.client = true) :
    (worker.sessionDeleted store pid true).2.1 =
      Function.update store (worker.swapper.bucket, entry.sessionId)
        (some (entry.memory.image worker.objects)) := by
  simp only [sessionDeleted, found, enabled, if_true, S3Swapper.swap, client, Bool.true_eq_false,
    if_false, take_image mapped (List.mem_of_find?_eq_some found)]

end Worker
end Runtime
end Praas
