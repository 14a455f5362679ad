import Praas.Library.Bytes
import Praas.Library.FirstMatch

namespace Praas
namespace ControlPlane

open Library

/-!
# The resource tables of the control plane

`Resources` owns every session and every process worker that the control
plane has created.  A process worker lists the sessions placed on it as
pointers into the table of sessions.  Entries of that table are never erased,
so a pointer is represented by the identifier under which its entry is found.

The table of processes is an unordered map.  It is a list in the map's current
iteration order, since `get_free_process` returns the first process with a
free slot in that order; the order itself is not a property of the program.
-/

/-- An invocation that waits for its session to connect. -/
structure PendingAllocation where
  payload : Bytes
  functionName : Bytes
  functionId : Bytes
  deriving DecidableEq

/-- A session known to the control plane.  `allocated` says that its request was
sent at some time, and is never reset; `swapIn` says whether the memory of the
session has to be loaded. -/
structure Session where
  sessionId : Bytes
  maxFunctions : Int
  memorySize : Int
  allocations : List PendingAllocation
  allocated : Bool
  swapIn : Bool
  deriving DecidableEq

/-- The constructor `Session::Session`.  It sets the identifier and the
allocation flag; the numbers are assigned by `process_client` before they are
read. -/
def Session.new (sessionId : Bytes) : Session :=
  ⟨sessionId, 0, 0, [], false, false⟩

/-- A process worker known to the control plane.  `connected` says that its
socket is open and `polled` that the socket is registered for polling. -/
structure Process where
  globalProcessId : Bytes
  processId : Bytes
  allocatedSessions : Int
  maxSessions : Int
  connected : Bool
  polled : Bool
  sessions : List Bytes
  deriving DecidableEq

/-- The test of `get_free_process`. -/
def Process.hasFreeSlot (process : Process) : Bool :=
  decide (process.allocatedSessions < process.maxSessions)

/-- The test by which a process is looked up. -/
def Process.isNamed (id : Bytes) (process : Process) : Bool :=
  decide (process.processId = id)

/-- The part of `remove_session` that acts on the process: its counter drops
only when the session was found. -/
def Process.removeSession (process : Process) (sessionId : Bytes) : Process :=
  if sessionId ∈ process.sessions then
    { process with
      allocatedSessions := process.allocatedSessions - 1
      sessions := process.sessions.erase sessionId }
  else process

structure Resources where
  sessions : Bytes -> Option Session
  processes : List Process

namespace Resources

def empty : Resources := ⟨fun _ => none, []⟩

/-- Apply a function to the process with the given identifier. -/
def modifyProcess (resources : Resources) (id : Bytes) (change : Process -> Process) : Resources :=
  { resources with processes := updateFirst (Process.isNamed id) change resources.processes }

def modifySession (resources : Resources) (id : Bytes) (change : Session -> Session) : Resources :=
  { resources with
    sessions := Function.update resources.sessions id ((resources.sessions id).map change) }

def getProcess (resources : Resources) (id : Bytes) : Option Process :=
  resources.processes.find? (Process.isNamed id)

/-- An assignment to the map entry: an entry with the same identifier is
overwritten. -/
def addProcess (resources : Resources) (process : Process) : Resources :=
  if (resources.getProcess process.processId).isSome then
    resources.modifyProcess process.processId (fun _ => process)
  else { resources with processes := resources.processes ++ [process] }

/-- The first process with a free slot, whatever global process it belongs
to: the argument of the source is not named there. -/
def getFreeProcess (resources : Resources) (_processId : Bytes) : Option Bytes × Resources :=
  match resources.processes.find? Process.hasFreeSlot with
  | none => (none, resources)
  | some process =>
      (some process.processId,
        { resources with
          processes := updateFirst Process.hasFreeSlot
            (fun process => { process with allocatedSessions := process.allocatedSessions + 1 })
            resources.processes })

/-- An existing entry of the session table is kept as it is: `emplace` does
not overwrite. -/
def addSession (resources : Resources) (processId sessionId : Bytes) : Resources :=
  { sessions := Function.update resources.sessions sessionId
      (some ((resources.sessions sessionId).getD (Session.new sessionId)))
    processes := updateFirst (Process.isNamed processId)
      (fun process => { process with sessions := process.sessions ++ [sessionId] })
      resources.processes }

def getSession (resources : Resources) (sessionId : Bytes) : Option Session :=
  resources.sessions sessionId

/-- The entry of the session table stays. -/
def removeSession (resources : Resources) (processId sessionId : Bytes) : Resources :=
  resources.modifyProcess processId (fun process => process.removeSession sessionId)

def isConnected (resources : Resources) (id : Bytes) : Bool :=
  match resources.getProcess id with
  | none => false
  | some process => process.connected

/-- A session whose request has been sent at some time. -/
def isAllocated (resources : Resources) (sessionId : Bytes) : Bool :=
  match resources.sessions sessionId with
  | none => false
  | some session => session.allocated

/-- A session whose entry waits for its request. -/
def isUnsent (resources : Resources) (sessionId : Bytes) : Bool :=
  match resources.sessions sessionId with
  | none => false
  | some session => !session.allocated

def processIds (resources : Resources) : List Bytes :=
  resources.processes.map Process.processId

/-! ## Where sessions are listed -/

/-- How often a session is listed, over all processes. -/
def listed (resources : Resources) (sessionId : Bytes) : Nat :=
  total (fun process => process.sessions.count sessionId) resources.processes

/-- How often a session is listed by the processes with one identifier. -/
def listedAt (resources : Resources) (id sessionId : Bytes) : Nat :=
  total (fun process => if process.processId = id then process.sessions.count sessionId else 0)
    resources.processes

theorem listedAt_le_listed (resources : Resources) (id sessionId : Bytes) :
    resources.listedAt id sessionId ≤ resources.listed sessionId := by
  apply total_mono
  intro process _
  split
  · exact Nat.le_refl _
  · exact Nat.zero_le _

/-- Two processes list a session independently. -/
theorem listedAt_add_le_listed (resources : Resources) {left right : Bytes} (different : left ≠ right)
    (sessionId : Bytes) :
    resources.listedAt left sessionId + resources.listedAt right sessionId ≤
      resources.listed sessionId := by
  unfold listedAt listed
  induction resources.processes with
  | nil => exact Nat.le_refl _
  | cons process rest inductionHypothesis =>
      simp only [total_cons]
      by_cases first : process.processId = left
      · have second : process.processId ≠ right := fun same => different (first.symm.trans same)
        rw [if_pos first, if_neg second]
        omega
      · rw [if_neg first]
        split <;> omega

theorem mem_of_listed_pos {resources : Resources} {sessionId : Bytes}
    (positive : 0 < resources.listed sessionId) :
    Exists fun process => process ∈ resources.processes ∧ sessionId ∈ process.sessions := by
  by_contra absent
  have zero : resources.listed sessionId = 0 := by
    apply total_eq_zero
    intro process member
    apply List.count_eq_zero.mpr
    intro found
    exact absent ⟨process, member, found⟩
  omega

theorem listed_pos_of_mem {resources : Resources} {sessionId : Bytes} {process : Process}
    (member : process ∈ resources.processes) (found : sessionId ∈ process.sessions) :
    0 < resources.listed sessionId := by
  have one := List.count_pos_iff.mpr found
  have part := le_total (fun process : Process => process.sessions.count sessionId) member
  unfold listed
  omega

theorem listedAt_pos_of_mem {resources : Resources} {sessionId : Bytes} {process : Process}
    (member : process ∈ resources.processes) (found : sessionId ∈ process.sessions) :
    0 < resources.listedAt process.processId sessionId := by
  have one := List.count_pos_iff.mpr found
  have part := le_total (fun other : Process =>
    if other.processId = process.processId then other.sessions.count sessionId else 0) member
  simp only [if_true] at part
  unfold listedAt
  omega

end Resources
end ControlPlane
end Praas
