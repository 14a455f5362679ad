import Praas.Runtime.SharedMemory

namespace Praas
namespace Runtime

open Library
open SharedMemory

/-!
# Swapping a session out and in again

`session_deleted` stores the memory under the session identifier.  `create`
prepends a slash to its copy of the identifier, for the name of the
shared-memory object, and passes the changed copy on to `swap_in`.  The two
sides therefore address different objects of the bucket, and the image comes
back exactly when the object under the identifier with the slash, written over
the new mapping, happens to give the image.
-/

/-- The object a swap-in of the session downloads: that under the identifier
with a slash in front of it. -/
def downloaded (swapper : S3Swapper) (store : ObjectStore) (sessionId : Bytes) : Option Bytes :=
  store (swapper.bucket, pathOf sessionId)

/-- The later swaps of other sessions into the same bucket. -/
def laterSwaps (bucket : Bytes) (store : ObjectStore) (others : List (Bytes × Bytes)) : ObjectStore :=
  others.foldl (fun store other => Function.update store (bucket, other.1) (some other.2)) store

/-- The call of `create` gives a mapping whose bytes are the image. -/
def Restores (result : SharedObjects × Option SharedMemory) (image : Bytes) : Prop :=
  Exists fun memory => result.2 = some memory ∧ memory.size = image.length ∧
    memory.image result.1 = image

theorem byteSize_neg {kbytes : Int} (positive : 0 < kbytes) (int32 : kbytes * 1024 < 2 ^ 31) :
    byteSize (-kbytes) = kbytes * 1024 := by
  have magnitude : Library.int32 (-kbytes * -1) = kbytes := by
    rw [int32_of_range (by omega) (by omega)]
    omega
  unfold byteSize
  rw [if_pos (by omega), magnitude, int32_of_range (by omega) int32]

/-- `create` for a swapped-out session, when every system call succeeds and
the swapper has a client. -/
theorem create_swapped (objects : SharedObjects) (loader : S3Swapper) (store : ObjectStore)
    (sessionId : Bytes) (kbytes : Int) (calls : Syscalls) (positive : 0 < kbytes)
    (int32 : kbytes * 1024 < 2 ^ 31) (client : loader.client = true)
    (opened : calls.shmOpen ≠ -1) (sized : calls.ftruncate = true) (mapped : calls.mmap = true)
    (transferred : calls.getObject = true) :
    create objects loader store sessionId (-kbytes) calls =
      match downloaded loader store sessionId with
      | none => (Function.update objects (pathOf sessionId) none, none)
      | some object =>
          if object.length ≤ (kbytes * 1024).toNat then
            (Function.update objects (pathOf sessionId)
              (some (object ++ (resize (kbytes * 1024).toNat
                ((objects (pathOf sessionId)).getD [])).drop object.length)),
              some ⟨kbytes * 1024, calls.shmOpen, pathOf sessionId, true, true⟩)
          else (Function.update objects (pathOf sessionId) none, none) := by
  unfold create
  simp only [byteSize_neg positive int32, opened, sized, mapped, if_false, Bool.true_eq_false,
    false_or]
  rw [if_neg (by omega), if_neg (by omega), if_pos (by omega)]
  unfold S3Swapper.swapIn downloaded
  simp only [client, Bool.true_eq_false, if_false, transferred, true_and, resize_length]
  cases store (loader.bucket, pathOf sessionId) with
  | none => rfl
  | some object =>
      by_cases fits : object.length ≤ (kbytes * 1024).toNat
      · simp only [fits, if_true]
      · simp only [fits, if_false, Bool.false_eq_true]

/-- The image comes back exactly from the object under the changed key. -/
theorem restores_iff (objects : SharedObjects) (loader : S3Swapper) (store : ObjectStore)
    (sessionId image : Bytes) (kbytes : Int) (calls : Syscalls) (positive : 0 < kbytes)
    (int32 : kbytes * 1024 < 2 ^ 31) (length : image.length = (kbytes * 1024).toNat)
    (client : loader.client = true) (opened : calls.shmOpen ≠ -1)
    (sized : calls.ftruncate = true) (mapped : calls.mmap = true)
    (transferred : calls.getObject = true) :
    Restores (create objects loader store sessionId (-kbytes) calls) image ↔
      Exists fun object => downloaded loader store sessionId = some object ∧
        object.length ≤ image.length ∧
        object ++ (resize image.length ((objects (pathOf sessionId)).getD [])).drop object.length =
          image := by
  rw [create_swapped objects loader store sessionId kbytes calls positive int32 client opened sized
    mapped transferred, ← length]
  cases found : downloaded loader store sessionId with
  | none =>
      constructor
      · rintro ⟨memory, impossible, _⟩
        cases impossible
      · rintro ⟨object, impossible, _⟩
        cases impossible
  | some object =>
      by_cases fits : object.length ≤ image.length
      · simp only [fits, if_true]
        constructor
        · rintro ⟨memory, same, _, bytes⟩
          refine ⟨object, rfl, fits, ?_⟩
          rw [← Option.some.inj same] at bytes
          simpa [SharedMemory.image] using bytes
        · rintro ⟨other, same, _, bytes⟩
          cases Option.some.inj same
          refine ⟨_, rfl, ?_, ?_⟩
          · change kbytes * 1024 = _
            omega
          · simpa [SharedMemory.image] using bytes
      · simp only [fits, if_false]
        constructor
        · rintro ⟨memory, impossible, _⟩
          cases impossible
        · rintro ⟨other, same, short, _⟩
          cases Option.some.inj same
          exact False.elim (fits short)

theorem swap_other (saver : S3Swapper) (store : ObjectStore) (sessionId memory : Bytes) (size : Int)
    (putObject : Bool) (bucket key : Bytes) (different : key ≠ sessionId) :
    (saver.swap store sessionId memory size putObject).2 (bucket, key) = store (bucket, key) := by
  unfold S3Swapper.swap
  split
  · rfl
  · split
    · rfl
    · apply Function.update_of_ne
      intro same
      exact different (congrArg Prod.snd same)

/-- What later swaps leave under a key depends on the earlier store only
through that key. -/
theorem laterSwaps_congr (bucket : Bytes) (others : List (Bytes × Bytes)) (key : Bytes × Bytes)
    {left right : ObjectStore} (same : left key = right key) :
    laterSwaps bucket left others key = laterSwaps bucket right others key := by
  unfold laterSwaps
  induction others generalizing left right with
  | nil => exact same
  | cons other rest inductionHypothesis =>
      apply inductionHypothesis
      dsimp only
      by_cases equal : key = (bucket, other.1)
      · rw [equal, Function.update_self, Function.update_self]
      · rw [Function.update_of_ne equal, Function.update_of_ne equal, same]

theorem pathOf_ne (sessionId : Bytes) : pathOf sessionId ≠ sessionId := by
  intro same
  have lengths := congrArg List.length same
  simp [pathOf, ascii] at lengths

/-- The swap of the session does not touch the object its swap-in downloads. -/
theorem downloaded_laterSwaps_swap (saver loader : S3Swapper) (store : ObjectStore)
    (sessionId memory : Bytes) (size : Int) (putObject : Bool) (others : List (Bytes × Bytes)) :
    downloaded loader
        (laterSwaps loader.bucket (saver.swap store sessionId memory size putObject).2 others)
        sessionId =
      laterSwaps loader.bucket store others (loader.bucket, pathOf sessionId) :=
  laterSwaps_congr _ _ _ (swap_other saver store sessionId memory size putObject _ _
    (pathOf_ne sessionId))

/-- After a successful swap of the session and any later swaps of other
sessions, the session is restored exactly when the bucket holds, under the
identifier with a slash in front of it, an object that laid over the new
mapping gives the image.

The proof has no use for `_swapped`, `_elsewhere` and `_sameBucket`: `create`
reads another key than the one that the swap has written, so neither what was
stored under the identifier nor what becomes of it plays a part.  The later
swaps of a process worker store sessions under identifiers of 16 bytes, while
the key with the slash has 17; they never bring about the condition. -/
theorem swapped_memory_restored_iff (objects : SharedObjects) (saver loader : S3Swapper)
    (store : ObjectStore) (sessionId image : Bytes) (kbytes : Int) (putObject : Bool)
    (others : List (Bytes × Bytes)) (calls : Syscalls) (positive : 0 < kbytes)
    (int32 : kbytes * 1024 < 2 ^ 31) (length : image.length = (kbytes * 1024).toNat)
    (_swapped : (saver.swap store sessionId image (kbytes * 1024) putObject).1 = true)
    (_elsewhere : forall other, other ∈ others -> other.1 ≠ sessionId)
    (_sameBucket : saver.bucket = loader.bucket) (client : loader.client = true)
    (opened : calls.shmOpen ≠ -1) (sized : calls.ftruncate = true) (mapped : calls.mmap = true)
    (transferred : calls.getObject = true) :
    Restores (create objects loader
        (laterSwaps loader.bucket (saver.swap store sessionId image (kbytes * 1024) putObject).2
          others) sessionId (-kbytes) calls) image ↔
      Exists fun object =>
        laterSwaps loader.bucket store others (loader.bucket, pathOf sessionId) = some object ∧
          object.length ≤ image.length ∧
          object ++ (resize image.length ((objects (pathOf sessionId)).getD [])).drop object.length =
            image := by
  rw [restores_iff objects loader _ sessionId image kbytes calls positive int32 length client opened
    sized mapped transferred, downloaded_laterSwaps_swap]

def allSucceed : Syscalls := ⟨3, true, true, true, 100⟩

def kilobyte : Bytes := List.replicate 1024 7

theorem kilobyte_length : kilobyte.length = ((1 : Int) * 1024).toNat :=
  List.length_replicate

/-- A store that holds the image under the identifier with a slash, as a
session of that name would leave it. -/
def slashStore : ObjectStore := fun key =>
  if key = (S3Swapper.defaultBucket, pathOf (ascii "s")) then some kilobyte else none

theorem slashStore_found :
    slashStore (S3Swapper.defaultBucket, pathOf (ascii "s")) = some kilobyte :=
  if_pos rfl

theorem slashStore_restores :
    Restores (create (fun _ => none) (S3Swapper.enableSwapping none)
      (laterSwaps S3Swapper.defaultBucket ((S3Swapper.enableSwapping none).swap slashStore
        (ascii "s") kilobyte (1 * 1024) true).2 []) (ascii "s") (-1) allSucceed) kilobyte :=
  (swapped_memory_restored_iff (fun _ => none) (S3Swapper.enableSwapping none)
    (S3Swapper.enableSwapping none) slashStore (ascii "s") kilobyte 1 true [] allSucceed (by decide)
    (by decide) kilobyte_length rfl (by simp) rfl rfl (by decide) rfl rfl rfl).mpr
    ⟨kilobyte, slashStore_found, Nat.le_refl _, by
      rw [List.drop_of_length_le (Nat.le_of_eq (resize_length _ _)), List.append_nil]⟩

/-- With an empty store the swapped-out session cannot be swapped in again. -/
theorem swapped_memory_lost :
    ¬ forall (objects : SharedObjects) (saver loader : S3Swapper) (store : ObjectStore)
      (sessionId image : Bytes) (kbytes : Int) (putObject : Bool) (others : List (Bytes × Bytes))
      (calls : Syscalls), 0 < kbytes -> kbytes * 1024 < 2 ^ 31 ->
      image.length = (kbytes * 1024).toNat ->
      (saver.swap store sessionId image (kbytes * 1024) putObject).1 = true ->
      (forall other, other ∈ others -> other.1 ≠ sessionId) -> saver.bucket = loader.bucket ->
      loader.client = true -> calls.shmOpen ≠ -1 -> calls.ftruncate = true -> calls.mmap = true ->
      calls.getObject = true ->
      Restores (create objects loader
        (laterSwaps loader.bucket (saver.swap store sessionId image (kbytes * 1024) putObject).2
          others) sessionId (-kbytes) calls) image := by
  intro always
  have restored := always (fun _ => none) (S3Swapper.enableSwapping none)
    (S3Swapper.enableSwapping none) (fun _ => none) (ascii "s") kilobyte 1 true [] allSucceed
    (by decide) (by decide) kilobyte_length rfl (by simp) rfl rfl (by decide) rfl rfl rfl
  rw [restores_iff _ _ _ _ _ 1 _ (by decide) (by decide) kilobyte_length rfl (by decide) rfl
    rfl rfl, downloaded_laterSwaps_swap] at restored
  rcases restored with ⟨object, impossible, _⟩
  cases impossible

end Runtime
end Praas
