import Praas.ControlPlane.Operations
import Praas.Runtime.SharedMemory

namespace Praas
namespace Runtime

open Library
open ControlPlane (SessionRequest)

/-!
# The process worker

A process worker starts a child process for every session it is asked for and
learns from a signal that a child has ended.  `allocate_session` answers a
session request, and `session_deleted` runs for the process identifier carried
by the signal: it swaps the memory out, removes the entry and prepares the
closure message.

The sessions are a vector of objects that own their shared memory.  An entry
is removed by moving every later entry down by one place and destroying the
last one, so what happens to the memory of the removed entry depends on the
moves; `eraseFork` follows them.
-/

inductive ErrorCode
  | success
  | noMoreCapacity
  | sessionConflict
  | unknownFailure
  deriving DecidableEq

def ErrorCode.value : ErrorCode -> Int
  | .success => 0
  | .noMoreCapacity => 1
  | .sessionConflict => 2
  | .unknownFailure => 3

/-- `SessionFork`. -/
structure SessionFork where
  memory : SharedMemory
  sessionId : Bytes
  maxFunctions : Int
  memorySize : Int
  childPid : Int
  deriving DecidableEq

def SessionFork.new (sessionId : Bytes) (maxFunctions memorySize : Int) : SessionFork :=
  ⟨SharedMemory.empty, sessionId, maxFunctions, memorySize, -1⟩

/-- What a move leaves of an entry. -/
def SessionFork.movedFrom (entry : SessionFork) : SessionFork :=
  { entry with memory := SharedMemory.empty, sessionId := [] }

/-- Move the entries after a place down by one.  The slot takes over the next
entry, which is left empty, and so on; the last slot is what the vector
destroys.  The old contents of the first slot are overwritten and not
released. -/
def moveDown : SessionFork -> List SessionFork -> List SessionFork × SessionFork
  | slot, [] => ([], slot)
  | _, next :: rest =>
      let moved := moveDown next.movedFrom rest
      (next :: moved.1, moved.2)

/-- Remove the first entry with the given child from the vector: the entries
that remain and the object that is destroyed. -/
def eraseFork (pid : Int) : List SessionFork -> List SessionFork × Option SessionFork
  | [] => ([], none)
  | entry :: rest =>
      if entry.childPid = pid then
        let moved := moveDown entry rest
        (moved.1, some moved.2)
      else
        let erased := eraseFork pid rest
        (entry :: erased.1, erased.2)

theorem moveDown_kept (slot : SessionFork) (rest : List SessionFork) :
    (moveDown slot rest).1 = rest := by
  induction rest generalizing slot with
  | nil => rfl
  | cons next rest inductionHypothesis => simp only [moveDown, inductionHypothesis]

/-- The entries that remain are those of the list without the first match. -/
theorem eraseFork_kept (pid : Int) (entries : List SessionFork) :
    (eraseFork pid entries).1 = entries.eraseP (fun entry => decide (entry.childPid = pid)) := by
  induction entries with
  | nil => rfl
  | cons entry rest inductionHypothesis =>
      by_cases same : entry.childPid = pid
      · simp [eraseFork, same, moveDown_kept]
      · simp [eraseFork, same, inductionHypothesis]

/-- A status message of the process worker.  A status of `-1` announces that
the session is closed. -/
structure StatusMessage where
  memorySize : Int
  status : Int
  sessionId : Bytes
  deriving DecidableEq

def StatusMessage.answer (result : ErrorCode) (sessionId : Bytes) : StatusMessage :=
  ⟨0, result.value, sessionId⟩

def StatusMessage.closure (swappedMemory : Int) (sessionId : Bytes) : StatusMessage :=
  ⟨swappedMemory, -1, sessionId⟩

def StatusMessage.isClosure (message : StatusMessage) : Bool :=
  decide (message.status = -1)

@[simp] theorem isClosure_answer (result : ErrorCode) (sessionId : Bytes) :
    (StatusMessage.answer result sessionId).isClosure = false := by
  cases result <;> rfl

@[simp] theorem isClosure_closure (swappedMemory : Int) (sessionId : Bytes) :
    (StatusMessage.closure swappedMemory sessionId).isClosure = true := rfl

/-- The state of a process worker: the sessions in the order of its list, its
limit, the swapper, and the memory objects of the machine. -/
structure Worker where
  maxSessions : Int
  sessions : List SessionFork
  objects : SharedObjects
  swapper : S3Swapper

namespace Worker

def start (maxSessions : Int) (swapper : S3Swapper) : Worker :=
  ⟨maxSessions, [], fun _ => none, swapper⟩

/-- `static_cast<size_t>` of a signed number. -/
def toSize (value : Int) : Nat :=
  (value % 2 ^ 64).toNat

/-- `SessionFork::fork` on the entry that was just appended.  A failed `vfork`
is reported as a success. -/
def fork (worker : Worker) (store : ObjectStore) (entry : SessionFork) (calls : Syscalls) :
    Bool × SharedObjects × SessionFork :=
  match SharedMemory.create worker.objects worker.swapper store entry.sessionId entry.memorySize
      calls with
  | (objects, none) => (false, objects, entry)
  | (objects, some memory) => (true, objects, { entry with childPid := calls.vfork, memory := memory })

/-- `Process::allocate_session`.  The entry is kept when the fork fails. -/
def allocateSession (worker : Worker) (store : ObjectStore) (request : SessionRequest)
    (calls : Syscalls) : ErrorCode × Worker :=
  if toSize worker.maxSessions ≤ worker.sessions.length then (.noMoreCapacity, worker)
  else if worker.sessions.any (fun entry => decide (entry.sessionId = request.sessionId)) then
    (.sessionConflict, worker)
  else
    let forked := worker.fork store
      (SessionFork.new request.sessionId request.maxFunctions request.memorySize) calls
    (if forked.1 then .success else .unknownFailure,
      { worker with
        sessions := worker.sessions ++ [forked.2.2]
        objects := forked.2.1 })

/-- The entry that `session_deleted` finds for a child. -/
def deletedEntry (worker : Worker) (pid : Int) : Option SessionFork :=
  worker.sessions.find? (fun entry => decide (entry.childPid = pid))

/-- `Process::session_deleted` up to the closure message: the memory is
swapped out when swapping is enabled, whatever the swapper answers, and the
entry is removed.  The result is the closure message to send. -/
def sessionDeleted (worker : Worker) (store : ObjectStore) (pid : Int) (putObject : Bool) :
    Worker × ObjectStore × Option StatusMessage :=
  match worker.deletedEntry pid with
  | none => (worker, store, none)
  | some entry =>
      let swapped := if worker.swapper.enabled then
          (worker.swapper.swap store entry.sessionId (entry.memory.image worker.objects)
            entry.memory.size putObject).2
        else store
      let swappedMemory := if worker.swapper.enabled then entry.memory.size else 0
      let erased := eraseFork pid worker.sessions
      let objects := match erased.2 with
        | none => worker.objects
        | some destroyed => destroyed.memory.destroy worker.objects
      ({ worker with sessions := erased.1, objects := objects }, swapped,
        some (.closure swappedMemory entry.sessionId))

@[simp] theorem maxSessions_allocateSession (worker : Worker) (store : ObjectStore)
    (request : SessionRequest) (calls : Syscalls) :
    (worker.allocateSession store request calls).2.maxSessions = worker.maxSessions := by
  unfold allocateSession
  split
  · rfl
  · split <;> rfl

@[simp] theorem maxSessions_sessionDeleted (worker : Worker) (store : ObjectStore) (pid : Int)
    (putObject : Bool) :
    (worker.sessionDeleted store pid putObject).1.maxSessions = worker.maxSessions := by
  unfold sessionDeleted
  split <;> rfl

/-- How often a session is in the list of the worker. -/
def running (worker : Worker) (sessionId : Bytes) : Nat :=
  worker.sessions.countP (fun entry => decide (entry.sessionId = sessionId))

theorem running_allocateSession_le (worker : Worker) (store : ObjectStore)
    (request : SessionRequest) (calls : Syscalls) (sessionId : Bytes) :
    (worker.allocateSession store request calls).2.running sessionId ≤
      worker.running sessionId + (if request.sessionId = sessionId then 1 else 0) := by
  unfold allocateSession
  split
  · exact Nat.le_add_right _ _
  · split
    · exact Nat.le_add_right _ _
    · have named : (worker.fork store (SessionFork.new request.sessionId request.maxFunctions
          request.memorySize) calls).2.2.sessionId = request.sessionId := by
        unfold fork
        split <;> rfl
      simp only [running, List.countP_append, List.countP_singleton, named]
      split <;> simp_all

theorem sessionDeleted_none {worker : Worker} {pid : Int} (absent : worker.deletedEntry pid = none)
    (store : ObjectStore) (putObject : Bool) :
    worker.sessionDeleted store pid putObject = (worker, store, none) := by
  simp only [sessionDeleted, absent]

/-- A deletion that finds an entry takes its session out of the list. -/
theorem running_sessionDeleted {worker : Worker} {pid : Int} {entry : SessionFork}
    (found : worker.deletedEntry pid = some entry) (store : ObjectStore) (putObject : Bool)
    (sessionId : Bytes) :
    (worker.sessionDeleted store pid putObject).1.running sessionId +
        (if entry.sessionId = sessionId then 1 else 0) = worker.running sessionId := by
  simp only [sessionDeleted, found, running, eraseFork_kept]
  rcases List.find?_eq_some_iff_append.mp found with ⟨present, before, after, whole, earlier⟩
  rw [whole, List.eraseP_append_right _ (fun other member => by simpa using earlier other member)]
  simp only [List.eraseP_cons, present, cond_true, List.countP_append, List.countP_cons,
    decide_eq_true_eq]
  omega

/-- The closure message names the session that was removed. -/
theorem message_sessionDeleted {worker : Worker} {pid : Int} {entry : SessionFork}
    (found : worker.deletedEntry pid = some entry) (store : ObjectStore) (putObject : Bool) :
    Exists fun swappedMemory => (worker.sessionDeleted store pid putObject).2.2 =
      some (.closure swappedMemory entry.sessionId) := by
  simp only [sessionDeleted, found]
  exact ⟨_, rfl⟩

end Worker
end Runtime
end Praas
