import Praas.ControlPlane.Listing

namespace Praas
namespace ControlPlane

open Library

/-!
# What a whole operation does

The effects of `process_client`, `process_process` and
`handle_session_closure`, each run without interruption, on the listings and
on the sets of Redis.  A listing is counted for the global process that the
listing worker belongs to.
-/

namespace Resources

/-- How often a session is listed by the workers of a global process. -/
def listedFor (resources : Resources) (tenant sessionId : Bytes) : Nat :=
  total (fun process =>
    if process.globalProcessId = tenant then process.sessions.count sessionId else 0)
    resources.processes

theorem mem_of_listedFor_pos {resources : Resources} {tenant sessionId : Bytes}
    (positive : 0 < resources.listedFor tenant sessionId) :
    Exists fun process => process ∈ resources.processes ∧ process.globalProcessId = tenant ∧
      sessionId ∈ process.sessions := by
  by_contra absent
  have zero : resources.listedFor tenant sessionId = 0 := by
    apply total_eq_zero
    intro process member
    split
    · rename_i owned
      apply List.count_eq_zero.mpr
      intro found
      exact absent ⟨process, member, owned, found⟩
    · rfl
  omega

/-- A worker of another global process lists the session independently. -/
theorem listedFor_add_count_le {resources : Resources} {tenant : Bytes} {process : Process}
    (member : process ∈ resources.processes) (other : process.globalProcessId ≠ tenant)
    (sessionId : Bytes) :
    resources.listedFor tenant sessionId + process.sessions.count sessionId ≤
      resources.listed sessionId := by
  rcases List.append_of_mem member with ⟨before, after, whole⟩
  have bound : forall processes : List Process,
      total (fun process =>
          if process.globalProcessId = tenant then process.sessions.count sessionId else 0) processes ≤
        total (fun process => process.sessions.count sessionId) processes := by
    intro processes
    apply total_mono
    intro process _
    split
    · exact Nat.le_refl _
    · exact Nat.zero_le _
  have first := bound before
  have second := bound after
  simp only [listedFor, listed, whole, total_append, total_cons, if_neg other]
  omega

theorem listedFor_modifyProcess {change : Process -> Process}
    (kept : forall process, (change process).sessions = process.sessions)
    (owned : forall process, (change process).globalProcessId = process.globalProcessId)
    (resources : Resources) (id tenant sessionId : Bytes) :
    (resources.modifyProcess id change).listedFor tenant sessionId =
      resources.listedFor tenant sessionId :=
  total_updateFirst _ _ _ (fun process => by rw [kept, owned]) _

theorem listedFor_getFreeProcess (resources : Resources) (id tenant sessionId : Bytes) :
    (resources.getFreeProcess id).2.listedFor tenant sessionId =
      resources.listedFor tenant sessionId := by
  unfold getFreeProcess
  split
  · rfl
  · apply total_updateFirst
    intro process
    rfl

theorem listedFor_addSession {resources : Resources} {id : Bytes} {process : Process}
    (found : resources.getProcess id = some process) (sessionId tenant other : Bytes) :
    (resources.addSession id sessionId).listedFor tenant other =
      resources.listedFor tenant other +
        (if process.globalProcessId = tenant ∧ sessionId = other then 1 else 0) := by
  have changed := total_updateFirst_found
    (fun process : Process =>
      if process.globalProcessId = tenant then process.sessions.count other else 0)
    (fun process => { process with sessions := process.sessions ++ [sessionId] }) found
  simp only [List.count_append, List.count_singleton, beq_iff_eq] at changed
  unfold listedFor addSession
  dsimp only
  by_cases owned : process.globalProcessId = tenant
  · simp only [owned, if_true, true_and] at changed ⊢
    omega
  · simp only [owned, if_false, false_and] at changed ⊢
    omega

/-- The listings of one session are not touched by the removal of another. -/
theorem listedFor_removeSession_of_ne (resources : Resources) (id tenant : Bytes)
    {sessionId other : Bytes} (different : sessionId ≠ other) :
    (resources.removeSession id sessionId).listedFor tenant other =
      resources.listedFor tenant other := by
  apply total_updateFirst
  intro process
  have owned : (process.removeSession sessionId).globalProcessId = process.globalProcessId := by
    unfold Process.removeSession
    split <;> rfl
  rw [owned, count_removeSession, if_neg different, Nat.sub_zero]

theorem listedFor_reorder (resources : Resources) {processes : List Process}
    (same : processes.Perm resources.processes) (tenant sessionId : Bytes) :
    ({ resources with processes := processes } : Resources).listedFor tenant sessionId =
      resources.listedFor tenant sessionId :=
  total_perm _ same

/-- After a slot is taken, the process is still found under its identifier. -/
theorem getProcess_getFreeProcess {resources : Resources} (distinct : resources.processIds.Nodup)
    {process : Process} (found : resources.processes.find? Process.hasFreeSlot = some process)
    (id : Bytes) :
    (resources.getFreeProcess id).2.getProcess process.processId =
      some { process with allocatedSessions := process.allocatedSessions + 1 } := by
  have kept : (resources.getFreeProcess id).2.processIds.Nodup := by
    rw [processIds_getFreeProcess]
    exact distinct
  have member : { process with allocatedSessions := process.allocatedSessions + 1 } ∈
      (resources.getFreeProcess id).2.processes := by
    rcases split_of_find found with ⟨before, after, _, _, updated⟩
    simp only [getFreeProcess, found, updated]
    exact List.mem_append_right _ List.mem_cons_self
  exact getProcess_of_mem kept member

end Resources

namespace Plane

/-! ## `process_client` -/

/-- The call passes every check of `process_client` and places a session. -/
def admits (plane : Plane) (call : ClientCall) : Bool :=
  (plane.redis.get (.process call.processId)).isSome &&
    (decide (call.sessionId = []) ||
      (!plane.redis.sismember (.sessionsAlive call.processId) call.sessionId &&
        (plane.redis.sismember (.sessionsSwapped call.processId) call.sessionId &&
          (plane.redis.get (.session call.sessionId)).isSome)))

/-- The outcomes of `process_client`. -/
inductive ClientOutcome (plane : Plane) (call : ClientCall) (sessionUuid processUuid : Bytes) :
    Plane × Reply -> Prop
  | refused (reply : Reply) : (forall sessionId, reply ≠ .session sessionId) ->
      ClientOutcome plane call sessionUuid processUuid (plane, reply)
  | lost : plane.redis.get (.session call.sessionId) = none ->
      ClientOutcome plane call sessionUuid processUuid
        ({ plane with redis :=
          (plane.redis.srem (.sessionsSwapped call.processId) call.sessionId).2 }, .detailsMissing)
  | created (processName : Bytes) :
      plane.redis.get (.process call.processId) = some processName -> plane.admits call = true ->
      ClientOutcome plane call sessionUuid processUuid
        (({ plane with redis := plane.redis.set (.session sessionUuid) call.details } :
          Plane).allocateSession (call.created processName sessionUuid) processUuid)
  | restored (processName details : Bytes) :
      plane.redis.get (.process call.processId) = some processName -> plane.admits call = true ->
      call.sessionId ≠ [] ->
      (plane.redis.srem (.sessionsSwapped call.processId) call.sessionId).1 = 1 ->
      plane.redis.get (.session call.sessionId) = some details ->
      ClientOutcome plane call sessionUuid processUuid
        (({ plane with redis :=
          (plane.redis.srem (.sessionsSwapped call.processId) call.sessionId).2 } :
          Plane).allocateSession (call.restored processName details) processUuid)

theorem clientOutcome (plane : Plane) (call : ClientCall) (sessionUuid processUuid : Bytes) :
    ClientOutcome plane call sessionUuid processUuid
      (plane.processClient call sessionUuid processUuid) := by
  unfold processClient
  split
  · exact .refused _ (fun _ impossible => by cases impossible)
  · rename_i processName known
    split
    · rename_i named
      split
      · exact .refused _ (fun _ impossible => by cases impossible)
      · rename_i notAlive
        dsimp only
        split
        · rename_i removed
          have swapped := (plane.redis.srem_reply _ _).mp removed
          split
          · rename_i missing
            exact .lost missing
          · rename_i details found
            refine .restored processName details known ?_ named removed found
            have recorded : plane.redis.get (.session call.sessionId) = some details := found
            simp only [admits, known, recorded, Option.isSome_some, Bool.true_and, Bool.and_true,
              Bool.or_eq_true, Bool.and_eq_true, Bool.not_eq_true', Redis.sismember,
              decide_eq_true_eq]
            refine Or.inr ⟨?_, swapped⟩
            simpa [Redis.sismember] using notAlive
        · rename_i absent
          rw [Redis.srem_reply] at absent
          rw [Redis.srem_absent _ _ _ absent]
          exact .refused _ (fun _ impossible => by cases impossible)
    · rename_i unnamed
      refine .created processName known ?_
      simp only [admits, known, Option.isSome_some, Bool.true_and, Bool.or_eq_true,
        decide_eq_true_eq]
      exact Or.inl (not_not.mp unnamed)

/-! ## From `get_free_process` on -/

/-- The worker on which the second half of `process_client` lists the session:
the tables just before, in which the process is found, and the tables after. -/
theorem allocateSession_listing {plane : Plane} (distinct : plane.resources.processIds.Nodup)
    (placement : Placement) {processUuid : Bytes}
    (absent : processUuid ∉ plane.resources.processIds) :
    Exists fun before : Resources => Exists fun process => Exists fun id =>
      before.getProcess id = some process ∧
      (plane.allocateSession placement processUuid).1.resources.processes =
        (before.addSession id placement.sessionId).processes ∧
      (before.processIds = plane.resources.processIds ∨
        before.processIds = plane.resources.processIds ++ [processUuid]) ∧
      (forall sessionId, before.listed sessionId = plane.resources.listed sessionId) ∧
      (forall tenant sessionId,
        before.listedFor tenant sessionId = plane.resources.listedFor tenant sessionId) ∧
      ((plane.resources.processes.find? Process.hasFreeSlot).all
          (fun first => decide (first.globalProcessId = placement.processId)) = true ->
        process.globalProcessId = placement.processId) := by
  cases free : plane.resources.processes.find? Process.hasFreeSlot with
  | some process =>
      have taken : (plane.resources.getFreeProcess placement.processId).1 =
          some process.processId := by
        simp only [Resources.getFreeProcess, free]
      refine ⟨(plane.resources.getFreeProcess placement.processId).2, _, process.processId,
        Resources.getProcess_getFreeProcess distinct free _, ?_, Or.inl ?_, ?_, ?_, ?_⟩
      · simp only [allocateSession, taken, markAlive, processes_writeRequest]
        rfl
      · exact Resources.processIds_getFreeProcess _ _
      · exact Resources.listed_getFreeProcess _ _
      · exact Resources.listedFor_getFreeProcess _ _
      · intro own
        exact of_decide_eq_true own
  | none =>
      have untouched : plane.resources.getFreeProcess placement.processId =
          (none, plane.resources) := by
        simp only [Resources.getFreeProcess, free]
      refine ⟨(plane.addProcess placement processUuid).resources, newProcess placement processUuid,
        processUuid, ?_, ?_, Or.inr ?_, ?_, ?_, fun _ => rfl⟩
      · rw [resources_addProcess absent, Resources.getProcess, List.find?_append]
        rw [show plane.resources.processes.find? (Process.isNamed processUuid) = none from
          Resources.getProcess_none absent]
        simp [Process.isNamed, newProcess]
      · simp only [allocateSession, untouched, markAlive, allocateProcess]
        rfl
      · exact processIds_addProcess absent placement
      · exact listed_addProcess absent placement
      · intro tenant sessionId
        rw [resources_addProcess absent]
        simp [Resources.listedFor, newProcess]

theorem listed_allocateSession {plane : Plane} (distinct : plane.resources.processIds.Nodup)
    (placement : Placement) {processUuid : Bytes}
    (absent : processUuid ∉ plane.resources.processIds) (sessionId : Bytes) :
    (plane.allocateSession placement processUuid).1.resources.listed sessionId =
      plane.resources.listed sessionId + (if placement.sessionId = sessionId then 1 else 0) := by
  rcases allocateSession_listing distinct placement absent with
    ⟨before, process, id, found, processes, _, kept, _⟩
  unfold Resources.listed at kept ⊢
  rw [processes, ← kept]
  exact Resources.listed_addSession found placement.sessionId sessionId

/-- Where the first free worker, if there is one, belongs to the global process
of the call, the session is listed for that global process. -/
theorem listedFor_allocateSession {plane : Plane} (distinct : plane.resources.processIds.Nodup)
    {placement : Placement} {processUuid : Bytes}
    (absent : processUuid ∉ plane.resources.processIds)
    (own : (plane.resources.processes.find? Process.hasFreeSlot).all
      (fun first => decide (first.globalProcessId = placement.processId)) = true)
    (tenant sessionId : Bytes) :
    (plane.allocateSession placement processUuid).1.resources.listedFor tenant sessionId =
      plane.resources.listedFor tenant sessionId +
        (if placement.processId = tenant ∧ placement.sessionId = sessionId then 1 else 0) := by
  rcases allocateSession_listing distinct placement absent with
    ⟨before, process, id, found, processes, _, _, kept, owner⟩
  unfold Resources.listedFor at kept ⊢
  rw [processes, ← kept, ← owner own]
  exact Resources.listedFor_addSession found placement.sessionId tenant sessionId

theorem processIds_allocateSession {plane : Plane} (distinct : plane.resources.processIds.Nodup)
    (placement : Placement) {processUuid : Bytes}
    (absent : processUuid ∉ plane.resources.processIds) :
    (plane.allocateSession placement processUuid).1.resources.processIds =
        plane.resources.processIds ∨
      (plane.allocateSession placement processUuid).1.resources.processIds =
        plane.resources.processIds ++ [processUuid] := by
  rcases allocateSession_listing distinct placement absent with
    ⟨before, process, id, _, processes, identifiers, _⟩
  have same : (plane.allocateSession placement processUuid).1.resources.processIds =
      before.processIds := by
    rw [← before.processIds_addSession id placement.sessionId]
    unfold Resources.processIds
    rw [processes]
  rw [same]
  exact identifiers

@[simp] theorem redis_allocateSession (plane : Plane) (placement : Placement)
    (processUuid : Bytes) :
    (plane.allocateSession placement processUuid).1.redis =
      plane.redis.sadd (.sessionsAlive placement.processId) placement.sessionId := by
  unfold allocateSession markAlive
  dsimp only
  split
  · rw [redis_writeRequest]
    rfl
  · rfl

/-! ## `process_process` -/

theorem listedFor_connect (plane : Plane) (id tenant sessionId : Bytes) :
    (plane.connect id).resources.listedFor tenant sessionId =
      plane.resources.listedFor tenant sessionId := by
  apply Resources.listedFor_modifyProcess <;>
    · intro process
      rfl

theorem listedFor_poll (plane : Plane) (id tenant sessionId : Bytes) :
    (plane.poll id).resources.listedFor tenant sessionId =
      plane.resources.listedFor tenant sessionId := by
  apply Resources.listedFor_modifyProcess <;>
    · intro process
      rfl

theorem processes_sendPending (plane : Plane) (id sessionId : Bytes) :
    (plane.sendPending id sessionId).resources.processes = plane.resources.processes ∧
      (plane.sendPending id sessionId).redis = plane.redis := by
  rcases plane.sendPending_cases id sessionId with ⟨_, same⟩ | ⟨_, same⟩
  · rw [same]
    exact ⟨processes_writeRequest _ _ _, redis_writeRequest _ _ _⟩
  · rw [same]
    exact ⟨rfl, rfl⟩

theorem processes_sendAll (plane : Plane) (id : Bytes) (sessions : List Bytes) :
    (sessions.foldl (fun plane sessionId => plane.sendPending id sessionId) plane).resources.processes =
        plane.resources.processes ∧
      (sessions.foldl (fun plane sessionId => plane.sendPending id sessionId) plane).redis =
        plane.redis := by
  induction sessions generalizing plane with
  | nil => exact ⟨rfl, rfl⟩
  | cons sessionId rest inductionHypothesis =>
      have first := plane.processes_sendPending id sessionId
      have later := inductionHypothesis (plane.sendPending id sessionId)
      rw [List.foldl_cons]
      exact ⟨later.1.trans first.1, later.2.trans first.2⟩

/-- `process_process` leaves the listings and Redis as they are. -/
theorem processProcess_kept (plane : Plane) (id : Bytes) :
    (plane.processProcess id).redis = plane.redis ∧
      (plane.processProcess id).resources.processIds = plane.resources.processIds ∧
      (forall sessionId, (plane.processProcess id).resources.listed sessionId =
        plane.resources.listed sessionId) ∧
      forall tenant sessionId, (plane.processProcess id).resources.listedFor tenant sessionId =
        plane.resources.listedFor tenant sessionId := by
  unfold processProcess
  split
  · exact ⟨rfl, rfl, fun _ => rfl, fun _ _ => rfl⟩
  · rename_i process _
    have loop := (plane.connect id).processes_sendAll id process.sessions
    refine ⟨?_, ?_, ?_, ?_⟩
    · exact loop.2
    · rw [processIds_poll]
      unfold Resources.processIds
      rw [loop.1]
      exact processIds_connect plane id
    · intro sessionId
      rw [listed_poll]
      unfold Resources.listed
      rw [loop.1]
      exact listed_connect plane id sessionId
    · intro tenant sessionId
      rw [listedFor_poll]
      unfold Resources.listedFor
      rw [loop.1]
      exact listedFor_connect plane id tenant sessionId

/-! ## `handle_session_closure` -/

theorem mem_handleSessionClosure (plane : Plane) (process : Process) (memorySize : Int)
    (sessionId : Bytes) (entry : Key × Bytes) :
    entry ∈ (plane.handleSessionClosure process memorySize sessionId).redis.sets ↔
      (entry = (.sessionsSwapped process.globalProcessId, sessionId) ∨
          (entry ∈ plane.redis.sets ∧ entry ≠ (.sessionsAlive process.processId, sessionId))) ∧
        entry ≠ (.sessionsAlive process.globalProcessId, sessionId) := by
  simp only [handleSessionClosure, Redis.mem_srem, Redis.mem_sadd]

end Plane
end ControlPlane
end Praas
