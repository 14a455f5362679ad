import Mathlib.Data.List.Nodup
import Praas.Runtime.Process
import Praas.Wire.Messages

namespace Praas
namespace Runtime

open Library
open ControlPlane (SessionRequest)
open Wire (SessionRequestMsg)

/-!
# The list of sessions of a process worker

The bytes of a session request come from the network and are not checked, and
`session_deleted` runs in a thread of its own for every signal.  Both hold the
mutex of the list, so that the calls happen one after the other in some order.
An entry is appended before its child is forked and has the process identifier
`-1` when that fails.
-/

def requestOf (message : SessionRequestMsg) : SessionRequest :=
  ⟨message.sessionId, message.maxFunctions, message.memorySize⟩

/-- The calls that change the list, with the object store and the outcomes of
the system calls that they meet. -/
inductive ListCall
  | allocateSession (message : SessionRequestMsg) (store : ObjectStore) (calls : Syscalls)
  | sessionDeleted (pid : Int) (store : ObjectStore) (putObject : Bool)

namespace Worker

def perform (worker : Worker) : ListCall -> Worker
  | .allocateSession message store calls =>
      (worker.allocateSession store (requestOf message) calls).2
  | .sessionDeleted pid store putObject => (worker.sessionDeleted store pid putObject).1

def performed (worker : Worker) (calls : List ListCall) : Worker :=
  calls.foldl perform worker

/-- The list is within the capacity and has no session twice. -/
structure ListSound (worker : Worker) : Prop where
  bounded : (worker.sessions.length : Int) ≤ worker.maxSessions
  distinct : (worker.sessions.map SessionFork.sessionId).Nodup

/-- One entry is taken out, whose child has the process identifier, or none. -/
def RemovesChild (pid : Int) (before after : List SessionFork) : Prop :=
  after = before ∨ Exists fun front => Exists fun entry => Exists fun rest =>
    before = front ++ entry :: rest ∧ entry.childPid = pid ∧ after = front ++ rest

/-! ## One call -/

variable {worker : Worker}

/-- What a request does to the list: nothing, or an entry with its session is
appended for which there is room and no conflict. -/
theorem sessions_allocateSession (worker : Worker) (store : ObjectStore) (request : SessionRequest)
    (calls : Syscalls) :
    (worker.allocateSession store request calls).2.sessions = worker.sessions ∨
      (worker.sessions.length < toSize worker.maxSessions ∧
        request.sessionId ∉ worker.sessions.map SessionFork.sessionId ∧
        Exists fun entry => entry.sessionId = request.sessionId ∧
          (worker.allocateSession store request calls).2.sessions = worker.sessions ++ [entry]) := by
  unfold allocateSession
  split
  · exact Or.inl rfl
  · rename_i room
    split
    · exact Or.inl rfl
    · rename_i unlisted
      refine Or.inr ⟨Nat.not_le.mp room, ?_, _, ?_, rfl⟩
      · intro listed
        rcases List.mem_map.mp listed with ⟨entry, member, same⟩
        exact unlisted (List.any_eq_true.mpr ⟨entry, member, decide_eq_true same⟩)
      · unfold fork
        split <;> rfl

theorem removesChild_sessionDeleted (worker : Worker) (store : ObjectStore) (pid : Int)
    (putObject : Bool) :
    RemovesChild pid worker.sessions (worker.sessionDeleted store pid putObject).1.sessions := by
  cases found : worker.deletedEntry pid with
  | none =>
      rw [sessionDeleted_none found]
      exact Or.inl rfl
  | some entry =>
      simp only [sessionDeleted, found, eraseFork_kept]
      rcases List.exists_or_eq_self_of_eraseP
        (fun entry : SessionFork => decide (entry.childPid = pid)) worker.sessions with
        same | ⟨first, front, rest, _, named, whole, erased⟩
      · exact Or.inl same
      · exact Or.inr ⟨front, first, rest, whole, of_decide_eq_true named, erased⟩

/-- The size of a capacity that is not negative is not above it. -/
theorem toSize_le {value : Int} (positive : 0 ≤ value) : (toSize value : Int) ≤ value := by
  unfold toSize
  omega

/-- An entry taken out leaves a list that is still sound. -/
theorem ListSound.removed {next : Worker} (sound : worker.ListSound) {pid : Int}
    (removes : RemovesChild pid worker.sessions next.sessions)
    (same : next.maxSessions = worker.maxSessions) : next.ListSound := by
  have fewer : next.sessions.Sublist worker.sessions := by
    rcases removes with kept | ⟨front, entry, rest, whole, _, left⟩
    · rw [kept]
    · rw [whole, left]
      exact (List.sublist_cons_self entry rest).append_left front
  refine ⟨?_, sound.distinct.sublist (fewer.map _)⟩
  have bounded := sound.bounded
  have length := fewer.length_le
  omega

theorem listSound_perform (capacity : 0 ≤ worker.maxSessions) (sound : worker.ListSound)
    (call : ListCall) : (worker.perform call).ListSound := by
  cases call with
  | allocateSession message store calls =>
      have same := maxSessions_allocateSession worker store (requestOf message) calls
      rcases sessions_allocateSession worker store (requestOf message) calls with
        kept | ⟨room, unlisted, entry, named, added⟩
      · exact sound.removed (Or.inl kept : RemovesChild 0 _ _) same
      · have limit := toSize_le capacity
        refine ⟨?_, ?_⟩
        · unfold perform
          dsimp only
          rw [same, added, List.length_append, List.length_singleton]
          omega
        · unfold perform
          dsimp only
          rw [added, List.map_append, List.nodup_append]
          refine ⟨sound.distinct, List.nodup_singleton _, ?_⟩
          intro earlier member last ends
          rw [List.map_singleton, named] at ends
          rw [List.mem_singleton.mp ends]
          rintro rfl
          exact unlisted member
  | sessionDeleted pid store putObject =>
      exact sound.removed (removesChild_sessionDeleted worker store pid putObject)
        (maxSessions_sessionDeleted worker store pid putObject)

theorem maxSessions_perform (worker : Worker) (call : ListCall) :
    (worker.perform call).maxSessions = worker.maxSessions := by
  cases call with
  | allocateSession message store calls => exact maxSessions_allocateSession _ _ _ _
  | sessionDeleted pid store putObject => exact maxSessions_sessionDeleted _ _ _ _

theorem listSound_performed (capacity : 0 ≤ worker.maxSessions) (sound : worker.ListSound)
    (calls : List ListCall) : (worker.performed calls).ListSound := by
  induction calls generalizing worker with
  | nil => exact sound
  | cons call rest inductionHypothesis =>
      apply inductionHypothesis
      · rw [maxSessions_perform]
        exact capacity
      · exact listSound_perform capacity sound call

/-- After every sequence of calls on a worker with a capacity that is not
negative, the list is within the capacity and has no session twice, and
`session_deleted` takes out at most one entry, which has the given child. -/
theorem session_list_sound (maxSessions : Int) (capacity : 0 ≤ maxSessions) (swapper : S3Swapper)
    (calls : List ListCall) :
    ((start maxSessions swapper).performed calls).ListSound ∧
      ((start maxSessions swapper).performed calls).maxSessions = maxSessions ∧
      forall pid store putObject,
        RemovesChild pid ((start maxSessions swapper).performed calls).sessions
          (((start maxSessions swapper).performed calls).sessionDeleted store pid
            putObject).1.sessions := by
  have started : (start maxSessions swapper).ListSound := ⟨capacity, List.nodup_nil⟩
  refine ⟨listSound_performed capacity started calls, ?_, ?_⟩
  · have kept : forall worker : Worker,
        (worker.performed calls).maxSessions = worker.maxSessions := by
      induction calls with
      | nil => exact fun _ => rfl
      | cons call rest inductionHypothesis =>
          intro worker
          exact (inductionHypothesis _).trans (maxSessions_perform worker call)
    exact kept _
  · intro pid store putObject
    exact removesChild_sessionDeleted _ store pid putObject

/-- A message of zeros, which asks for a session named by sixteen NUL bytes. -/
def zeroMessage : SessionRequestMsg := ⟨Frame.zeros Wire.expectedLength⟩

/-- A request whose `shm_open` fails is repeated, and the entry without a child
is then deleted. -/
theorem session_list_sound_failing :
    (0 : Int) ≤ 2 ∧ ((start 2 S3Swapper.new).performed
      [.allocateSession zeroMessage (fun _ => none) ⟨-1, true, true, true, 100⟩,
        .allocateSession zeroMessage (fun _ => none) ⟨3, true, true, true, 100⟩,
        .sessionDeleted (-1) (fun _ => none) true]).ListSound :=
  ⟨by decide, (session_list_sound 2 (by decide) S3Swapper.new _).1⟩

end Worker
end Runtime
end Praas
