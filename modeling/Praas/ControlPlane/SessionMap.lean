import Praas.ControlPlane.Listing
import Praas.Execution.PendingInvocations
import Praas.Library.Places

namespace Praas
namespace ControlPlane

open Library
open Execution (processSession)

/-!
# The map of sessions and the lists of the processes

A session is held twice: in the map of `Resources` and in the list of the
process it is placed on.  `remove_session` takes it out of the list only.  The
entry stays in the map with its flag and its pending invocations, and a
connection that names the closed session is answered as if it still ran.
-/

/-- The calls of the three methods.  A session is added to and removed from a
process of the table. -/
inductive Call
  | addProcess (globalProcessId processId : Bytes) (allocatedSessions maxSessions : Int)
  | addSession (processId sessionId : Bytes)
  | removeSession (processId sessionId : Bytes)

namespace Resources

/-- One call; without the process there is nothing to call it with. -/
def perform (resources : Resources) : Call -> Resources
  | .addProcess globalProcessId processId allocatedSessions maxSessions =>
      resources.addProcess
        ⟨globalProcessId, processId, allocatedSessions, maxSessions, false, false, []⟩
  | .addSession processId sessionId =>
      if (resources.getProcess processId).isSome then resources.addSession processId sessionId
      else resources
  | .removeSession processId sessionId => resources.removeSession processId sessionId

def performed (calls : List Call) : Resources :=
  calls.foldl perform empty

theorem performed_append (calls : List Call) (call : Call) :
    performed (calls ++ [call]) = (performed calls).perform call := by
  unfold performed
  rw [List.foldl_append]
  rfl

def IsListed (resources : Resources) (sessionId : Bytes) : Prop :=
  Exists fun process => process ∈ resources.processes ∧ sessionId ∈ process.sessions

theorem isListed_iff {resources : Resources} {sessionId : Bytes} :
    resources.IsListed sessionId ↔ 0 < resources.listed sessionId := by
  constructor
  · rintro ⟨process, member, found⟩
    exact listed_pos_of_mem member found
  · exact mem_of_listed_pos

/-- The map has exactly the sessions that are listed, and a connection that
names any other session is refused and changes nothing. -/
structure MapTidy (resources : Resources) : Prop where
  exact : forall sessionId,
    (resources.getSession sessionId).isSome = true ↔ resources.IsListed sessionId
  refused : forall sessionId, ¬ resources.IsListed sessionId ->
    resources.getSession sessionId = none ∧
      processSession resources sessionId = (none, resources)

theorem mapTidy_iff {resources : Resources} :
    MapTidy resources ↔ forall sessionId,
      (resources.sessions sessionId).isSome = true ↔ 0 < resources.listed sessionId := by
  constructor
  · intro tidy sessionId
    rw [← isListed_iff]
    exact tidy.exact sessionId
  · intro same
    have exact : forall sessionId,
        (resources.getSession sessionId).isSome = true ↔ resources.IsListed sessionId := by
      intro sessionId
      rw [isListed_iff]
      exact same sessionId
    refine ⟨exact, ?_⟩
    intro sessionId unlisted
    have absent : resources.getSession sessionId = none := by
      rw [← Option.not_isSome_iff_eq_none, exact]
      exact unlisted
    refine ⟨absent, ?_⟩
    unfold processSession
    rw [absent]

/-- The map is tidy after every call of a sequence. -/
def StaysTidy (calls : List Call) : Prop :=
  EveryPlace (fun before call => MapTidy (performed (before ++ [call]))) calls

/-- The call does not take a session out of the last list that has it: a
session that is removed is listed once more, and a process that is replaced
lists no session that is listed nowhere else. -/
def keepsListed (before : List Call) : Call -> Prop
  | .addProcess _ processId _ _ => forall process,
      (performed before).getProcess processId = some process ->
      forall sessionId, sessionId ∈ process.sessions ->
        process.sessions.count sessionId < (performed before).listed sessionId
  | .addSession _ _ => True
  | .removeSession processId sessionId => forall process,
      (performed before).getProcess processId = some process ->
      sessionId ∈ process.sessions -> 1 < (performed before).listed sessionId

/-! ## One call -/

section Perform

variable {resources : Resources}

theorem mapTidy_empty : MapTidy empty := by
  apply mapTidy_iff.mpr
  intro sessionId
  exact iff_of_false Bool.false_ne_true (Nat.lt_irrefl 0)

theorem listed_changed {id : Bytes} {process : Process}
    (found : resources.getProcess id = some process) (change : Process -> Process)
    (sessionId : Bytes) :
    (resources.modifyProcess id change).listed sessionId + process.sessions.count sessionId =
      resources.listed sessionId + (change process).sessions.count sessionId :=
  total_updateFirst_found (fun process : Process => process.sessions.count sessionId) change found

theorem tidy_addSession (tidy : MapTidy resources) {processId : Bytes} {process : Process}
    (found : resources.getProcess processId = some process) (sessionId : Bytes) :
    MapTidy (resources.addSession processId sessionId) := by
  rw [mapTidy_iff] at tidy ⊢
  intro other
  rw [listed_addSession found]
  unfold addSession
  dsimp only
  by_cases same : other = sessionId
  · rw [same, Function.update_self, if_pos rfl]
    exact iff_of_true rfl (Nat.succ_pos _)
  · rw [Function.update_of_ne same, if_neg (Ne.symm same), Nat.add_zero]
    exact tidy other

/-- A change of one process that leaves the map alone keeps it tidy exactly
when no session loses its last place. -/
theorem tidy_modifyProcess_iff (tidy : MapTidy resources) {id : Bytes} {process : Process}
    (found : resources.getProcess id = some process) {change : Process -> Process}
    (fewer : forall sessionId,
      (change process).sessions.count sessionId ≤ process.sessions.count sessionId) :
    MapTidy (resources.modifyProcess id change) ↔ forall sessionId,
      (change process).sessions.count sessionId < process.sessions.count sessionId ->
      process.sessions.count sessionId <
        resources.listed sessionId + (change process).sessions.count sessionId := by
  rw [mapTidy_iff] at tidy ⊢
  apply forall_congr'
  intro sessionId
  have changed := listed_changed found change sessionId
  have part := le_total (fun process : Process => process.sessions.count sessionId)
    (mem_of_getProcess found)
  have bound := fewer sessionId
  have same : (resources.modifyProcess id change).sessions sessionId =
      resources.sessions sessionId := rfl
  rw [same, tidy sessionId]
  change process.sessions.count sessionId ≤ resources.listed sessionId at part
  constructor
  · intro kept lost
    have positive := kept.mp (by omega)
    omega
  · intro kept
    by_cases lost : (change process).sessions.count sessionId < process.sessions.count sessionId
    · have left := kept lost
      constructor <;> intro _ <;> omega
    · constructor <;> intro _ <;> omega

theorem tidy_addProcess_iff (tidy : MapTidy resources) (globalProcessId processId : Bytes)
    (allocatedSessions maxSessions : Int) :
    MapTidy (resources.addProcess
        ⟨globalProcessId, processId, allocatedSessions, maxSessions, false, false, []⟩) ↔
      forall process, resources.getProcess processId = some process ->
        forall sessionId, sessionId ∈ process.sessions ->
          process.sessions.count sessionId < resources.listed sessionId := by
  unfold addProcess
  cases found : resources.getProcess processId with
  | none =>
      rw [Option.isSome_none, if_neg Bool.false_ne_true]
      refine iff_of_true ?_ (fun process impossible => by cases impossible)
      rw [mapTidy_iff] at tidy ⊢
      intro sessionId
      have same : total (fun process : Process => process.sessions.count sessionId)
          (resources.processes ++
            [⟨globalProcessId, processId, allocatedSessions, maxSessions, false, false, []⟩]) =
          resources.listed sessionId := by
        rw [total_append, total_cons, total_nil, List.count_nil]
        rfl
      unfold listed
      dsimp only
      rw [same]
      exact tidy sessionId
  | some process =>
      rw [Option.isSome_some, if_pos rfl]
      rw [tidy_modifyProcess_iff tidy found (fun sessionId => Nat.zero_le _)]
      constructor
      · intro kept other same sessionId member
        cases same
        exact kept sessionId (List.count_pos_iff.mpr member)
      · intro kept sessionId lost
        exact kept process rfl sessionId (List.count_pos_iff.mp lost)

theorem tidy_removeSession_iff (tidy : MapTidy resources) (processId sessionId : Bytes) :
    MapTidy (resources.removeSession processId sessionId) ↔
      forall process, resources.getProcess processId = some process ->
        sessionId ∈ process.sessions -> 1 < resources.listed sessionId := by
  unfold removeSession
  cases found : resources.getProcess processId with
  | none =>
      refine iff_of_true ?_ (fun process impossible => by cases impossible)
      have same : resources.modifyProcess processId
          (fun process => process.removeSession sessionId) = resources := by
        unfold modifyProcess
        rw [updateFirst_of_find_none found]
      rw [same]
      exact tidy
  | some process =>
      have counts := count_removeSession process sessionId
      rw [tidy_modifyProcess_iff tidy found (fun other => by rw [counts]; exact Nat.sub_le _ _)]
      constructor
      · intro kept other same member
        cases same
        have positive := List.count_pos_iff.mpr member
        have left := kept sessionId
        rw [counts, if_pos rfl] at left
        omega
      · intro kept other lost
        rw [counts] at lost ⊢
        by_cases same : sessionId = other
        · rw [if_pos same] at lost ⊢
          subst same
          have left := kept process rfl (List.count_pos_iff.mp (by omega))
          omega
        · rw [if_neg same] at lost
          omega

end Perform

/-- The map of sessions has exactly the listed sessions after each call of a
sequence exactly when no call takes a session out of its last list. -/
theorem map_stays_tidy_iff (calls : List Call) :
    StaysTidy calls ↔ EveryPlace keepsListed calls := by
  apply everyPlace_congr
  intro before call tidied _
  have tidy : MapTidy (performed before) := by
    rcases List.eq_nil_or_concat before with rfl | ⟨front, last, rfl⟩
    · exact mapTidy_empty
    · rw [List.concat_eq_append] at tidied ⊢
      exact (everyPlace_append.mp tidied).2
  rw [performed_append]
  cases call with
  | addProcess globalProcessId processId allocatedSessions maxSessions =>
      exact tidy_addProcess_iff tidy globalProcessId processId allocatedSessions maxSessions
  | addSession processId sessionId =>
      refine iff_of_true ?_ trivial
      unfold perform
      dsimp only
      split
      · rename_i present
        rcases Option.isSome_iff_exists.mp present with ⟨process, found⟩
        exact tidy_addSession tidy found sessionId
      · exact tidy
  | removeSession processId sessionId => exact tidy_removeSession_iff tidy processId sessionId

/-- The only session of a process is removed and stays in the map. -/
theorem removed_session_found :
    ¬ forall calls : List Call, StaysTidy calls := by
  intro always
  have tidy := always [.addProcess [1] [2] 1 4, .addSession [2] [3], .removeSession [2] [3]]
    [.addProcess [1] [2] 1 4, .addSession [2] [3]] (.removeSession [2] [3]) [] rfl
  have listed := (mapTidy_iff.mp tidy [3]).mp (by decide)
  exact absurd listed (by decide)

end Resources
end ControlPlane
end Praas
