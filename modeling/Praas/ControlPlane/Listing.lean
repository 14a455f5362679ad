import Praas.ControlPlane.Operations

namespace Praas
namespace ControlPlane

open Library

/-!
# How the operations change the lists of sessions

For every operation on the resource tables: what it does to the number of
times a session is listed, to the identifiers of the processes, and to the
flag that records whether the request of a session was sent.
-/

namespace Resources

/-! ## The process that a lookup finds -/

theorem processId_of_getProcess {resources : Resources} {id : Bytes} {process : Process}
    (found : resources.getProcess id = some process) : process.processId = id := by
  have named := List.find?_some found
  exact of_decide_eq_true named

theorem mem_of_getProcess {resources : Resources} {id : Bytes} {process : Process}
    (found : resources.getProcess id = some process) : process ∈ resources.processes :=
  List.mem_of_find?_eq_some found

theorem getProcess_none {resources : Resources} {id : Bytes} (absent : id ∉ resources.processIds) :
    resources.getProcess id = none := by
  apply List.find?_eq_none.mpr
  intro process member named
  exact absent (of_decide_eq_true named ▸ List.mem_map_of_mem member)

/-- With distinct identifiers, a process of the table is the one its
identifier finds. -/
theorem getProcess_of_mem {resources : Resources} (distinct : resources.processIds.Nodup)
    {process : Process} (member : process ∈ resources.processes) :
    resources.getProcess process.processId = some process := by
  unfold getProcess
  unfold processIds at distinct
  generalize resources.processes = processes at distinct member
  induction processes with
  | nil => exact False.elim (List.not_mem_nil member)
  | cons head rest inductionHypothesis =>
      rw [List.map_cons, List.nodup_cons] at distinct
      rcases List.mem_cons.mp member with rfl | later
      · exact List.find?_cons_of_pos (decide_eq_true rfl)
      · have different : head.processId ≠ process.processId := by
          intro same
          exact distinct.1 (same ▸ List.mem_map_of_mem later)
        rw [List.find?_cons_of_neg (by simpa [Process.isNamed] using different)]
        exact inductionHypothesis distinct.2 later

theorem exists_getProcess {resources : Resources} {id : Bytes} (member : id ∈ resources.processIds) :
    Exists fun process => resources.getProcess id = some process := by
  rcases List.mem_map.mp member with ⟨process, inside, named⟩
  apply Option.isSome_iff_exists.mp
  apply List.find?_isSome.mpr
  exact ⟨process, inside, decide_eq_true named⟩

/-- With distinct identifiers, only the process found lists anything under
its identifier. -/
theorem listedAt_of_getProcess {resources : Resources} (distinct : resources.processIds.Nodup)
    {id : Bytes} {process : Process} (found : resources.getProcess id = some process)
    (sessionId : Bytes) : resources.listedAt id sessionId = process.sessions.count sessionId := by
  have named := processId_of_getProcess found
  rcases split_of_find found with ⟨before, after, whole, _, _⟩
  unfold processIds at distinct
  unfold listedAt
  rw [whole] at distinct ⊢
  rw [List.map_append, List.map_cons, List.nodup_append, List.nodup_cons] at distinct
  have elsewhere : forall other, other ∈ before ∨ other ∈ after -> other.processId ≠ id := by
    rintro other (earlier | later) same
    · exact distinct.2.2 _ (List.mem_map_of_mem earlier) _ List.mem_cons_self (same.trans named.symm)
    · exact distinct.2.1.1 ((named.trans same.symm) ▸ List.mem_map_of_mem later)
  rw [total_append, total_cons, if_pos named,
    total_eq_zero (fun other earlier => if_neg (elsewhere other (Or.inl earlier))),
    total_eq_zero (fun other later => if_neg (elsewhere other (Or.inr later)))]
  omega

theorem listedAt_absent {resources : Resources} {id : Bytes} (absent : id ∉ resources.processIds)
    (sessionId : Bytes) : resources.listedAt id sessionId = 0 := by
  apply total_eq_zero
  intro process member
  apply if_neg
  intro same
  exact absent (same ▸ List.mem_map_of_mem member)

/-- After an update of the process that a lookup found, every process is the
updated one or an old one with another identifier. -/
theorem mem_updateFirst {resources : Resources} (distinct : resources.processIds.Nodup)
    {test : Process -> Bool} {process : Process}
    (found : resources.processes.find? test = some process) {change : Process -> Process}
    {other : Process} (member : other ∈ updateFirst test change resources.processes) :
    other = change process ∨
      (other ∈ resources.processes ∧ other.processId ≠ process.processId) := by
  rcases split_of_find found with ⟨before, after, whole, _, updated⟩
  unfold processIds at distinct
  rw [updated] at member
  rw [whole, List.map_append, List.map_cons, List.nodup_append, List.nodup_cons] at distinct
  rw [whole]
  rcases List.mem_append.mp member with earlier | rest
  · refine Or.inr ⟨List.mem_append.mpr (Or.inl earlier), ?_⟩
    exact distinct.2.2 _ (List.mem_map_of_mem earlier) _ List.mem_cons_self
  · rcases List.mem_cons.mp rest with same | later
    · exact Or.inl same
    · refine Or.inr ⟨List.mem_append.mpr (Or.inr (List.mem_cons_of_mem _ later)), ?_⟩
      intro same
      exact distinct.2.1.1 (same ▸ List.mem_map_of_mem later)

/-- Every process after a change of one is an old one or the changed one. -/
theorem mem_modifyProcess {resources : Resources} {id : Bytes} {change : Process -> Process}
    {other : Process} (member : other ∈ (resources.modifyProcess id change).processes) :
    other ∈ resources.processes ∨
      Exists fun process => resources.getProcess id = some process ∧ other = change process := by
  unfold modifyProcess at member
  cases found : resources.processes.find? (Process.isNamed id) with
  | none =>
      rw [updateFirst_of_find_none found] at member
      exact Or.inl member
  | some process =>
      rcases split_of_find found with ⟨before, after, whole, _, updated⟩
      rw [updated] at member
      rw [whole]
      rcases List.mem_append.mp member with earlier | rest
      · exact Or.inl (List.mem_append.mpr (Or.inl earlier))
      · rcases List.mem_cons.mp rest with same | later
        · exact Or.inr ⟨process, found, same⟩
        · exact Or.inl (List.mem_append.mpr (Or.inr (List.mem_cons_of_mem _ later)))

/-! ## Changes of a process that keep its list -/

theorem listed_modifyProcess {change : Process -> Process}
    (kept : forall process, (change process).sessions = process.sessions) (resources : Resources)
    (id sessionId : Bytes) :
    (resources.modifyProcess id change).listed sessionId = resources.listed sessionId :=
  total_updateFirst _ _ _ (fun process => by rw [kept]) resources.processes

theorem listedAt_modifyProcess {change : Process -> Process}
    (kept : forall process, (change process).sessions = process.sessions)
    (named : forall process, (change process).processId = process.processId)
    (resources : Resources) (id place sessionId : Bytes) :
    (resources.modifyProcess id change).listedAt place sessionId =
      resources.listedAt place sessionId :=
  total_updateFirst _ _ _ (fun process => by rw [kept, named]) resources.processes

theorem processIds_modifyProcess {change : Process -> Process}
    (named : forall process, (change process).processId = process.processId)
    (resources : Resources) (id : Bytes) :
    (resources.modifyProcess id change).processIds = resources.processIds :=
  map_updateFirst _ change Process.processId named resources.processes

/-! ## `get_free_process` -/

@[simp] theorem listed_getFreeProcess (resources : Resources) (id sessionId : Bytes) :
    (resources.getFreeProcess id).2.listed sessionId = resources.listed sessionId := by
  unfold getFreeProcess
  split
  · rfl
  · apply total_updateFirst
    intro process
    rfl

@[simp] theorem listedAt_getFreeProcess (resources : Resources) (id other sessionId : Bytes) :
    (resources.getFreeProcess id).2.listedAt other sessionId = resources.listedAt other sessionId := by
  unfold getFreeProcess
  split
  · rfl
  · apply total_updateFirst
    intro process
    rfl

@[simp] theorem processIds_getFreeProcess (resources : Resources) (id : Bytes) :
    (resources.getFreeProcess id).2.processIds = resources.processIds := by
  unfold getFreeProcess
  split
  · rfl
  · apply map_updateFirst
    intro process
    rfl

@[simp] theorem sessions_getFreeProcess (resources : Resources) (id : Bytes) :
    (resources.getFreeProcess id).2.sessions = resources.sessions := by
  unfold getFreeProcess
  split <;> rfl

/-! ## `add_process` -/

theorem addProcess_absent {resources : Resources} {process : Process}
    (absent : process.processId ∉ resources.processIds) :
    resources.addProcess process =
      { resources with processes := resources.processes ++ [process] } := by
  unfold addProcess
  rw [getProcess_none absent]
  rfl

/-! ## `add_session` and `remove_session` -/

@[simp] theorem processIds_addSession (resources : Resources) (id sessionId : Bytes) :
    (resources.addSession id sessionId).processIds = resources.processIds := by
  apply map_updateFirst
  intro process
  rfl

theorem listed_addSession {resources : Resources} {id : Bytes} {process : Process}
    (found : resources.getProcess id = some process) (sessionId other : Bytes) :
    (resources.addSession id sessionId).listed other =
      resources.listed other + (if sessionId = other then 1 else 0) := by
  have changed := total_updateFirst_found
    (fun process : Process => process.sessions.count other)
    (fun process => { process with sessions := process.sessions ++ [sessionId] }) found
  simp only [List.count_append, List.count_singleton, beq_iff_eq] at changed
  unfold addSession listed
  simp only
  omega

theorem listedAt_addSession {resources : Resources} {id : Bytes} {process : Process}
    (found : resources.getProcess id = some process) (sessionId place other : Bytes) :
    (resources.addSession id sessionId).listedAt place other =
      resources.listedAt place other + (if id = place ∧ sessionId = other then 1 else 0) := by
  have named := processId_of_getProcess found
  have changed := total_updateFirst_found
    (fun process : Process => if process.processId = place then process.sessions.count other else 0)
    (fun process => { process with sessions := process.sessions ++ [sessionId] }) found
  simp only [List.count_append, List.count_singleton, beq_iff_eq, named] at changed
  unfold addSession listedAt
  simp only
  by_cases here : id = place
  · simp only [here, if_true, true_and] at changed ⊢
    omega
  · simp only [here, if_false, false_and] at changed ⊢
    omega

@[simp] theorem processIds_removeSession (resources : Resources) (id sessionId : Bytes) :
    (resources.removeSession id sessionId).processIds = resources.processIds :=
  processIds_modifyProcess (fun process => by
    unfold Process.removeSession
    split <;> rfl) _ _

theorem count_removeSession (process : Process) (sessionId other : Bytes) :
    (process.removeSession sessionId).sessions.count other =
      process.sessions.count other - (if sessionId = other then 1 else 0) := by
  unfold Process.removeSession
  split
  · by_cases same : sessionId = other
    · rw [if_pos same, same, List.count_erase_self]
    · rw [if_neg same, List.count_erase_of_ne (Ne.symm same), Nat.sub_zero]
  · rename_i absent
    by_cases same : sessionId = other
    · rw [if_pos same, ← same, List.count_eq_zero.mpr absent]
    · rw [if_neg same, Nat.sub_zero]

theorem listed_removeSession_le (resources : Resources) (id sessionId other : Bytes) :
    (resources.removeSession id sessionId).listed other ≤ resources.listed other := by
  unfold removeSession modifyProcess listed
  cases found : resources.processes.find? (Process.isNamed id) with
  | none => rw [updateFirst_of_find_none found]
  | some process =>
      have changed := total_updateFirst_found
        (fun process : Process => process.sessions.count other)
        (fun process => process.removeSession sessionId) found
      simp only [count_removeSession] at changed
      simp only
      omega

theorem listed_removeSession_of_ne (resources : Resources) (id : Bytes) {sessionId other : Bytes}
    (different : sessionId ≠ other) :
    (resources.removeSession id sessionId).listed other = resources.listed other := by
  apply total_updateFirst
  intro process
  rw [count_removeSession, if_neg different, Nat.sub_zero]

/-- A session that the process lists is listed once less after its removal. -/
theorem listed_removeSession {resources : Resources} (distinct : resources.processIds.Nodup)
    {id sessionId : Bytes} (present : 0 < resources.listedAt id sessionId) :
    (resources.removeSession id sessionId).listed sessionId + 1 = resources.listed sessionId := by
  cases found : resources.getProcess id with
  | none =>
      have absent : id ∉ resources.processIds := by
        intro member
        rcases exists_getProcess member with ⟨process, present⟩
        rw [found] at present
        cases present
      rw [listedAt_absent absent] at present
      exact absurd present (Nat.lt_irrefl 0)
  | some process =>
      rw [listedAt_of_getProcess distinct found] at present
      have changed := total_updateFirst_found
        (fun process : Process => process.sessions.count sessionId)
        (fun process => process.removeSession sessionId) found
      simp only [count_removeSession, if_true] at changed
      unfold removeSession modifyProcess listed
      simp only
      omega

/-- A removal takes at most one session from one process. -/
theorem listedAt_removeSession (resources : Resources) (id sessionId place other : Bytes) :
    (resources.removeSession id sessionId).listedAt place other ≤ resources.listedAt place other ∧
      resources.listedAt place other ≤ (resources.removeSession id sessionId).listedAt place other +
        (if id = place ∧ sessionId = other then 1 else 0) := by
  unfold removeSession modifyProcess listedAt
  cases found : resources.processes.find? (Process.isNamed id) with
  | none =>
      rw [updateFirst_of_find_none found]
      exact ⟨Nat.le_refl _, Nat.le_add_right _ _⟩
  | some process =>
      have named := processId_of_getProcess found
      have sameId : (process.removeSession sessionId).processId = process.processId := by
        unfold Process.removeSession
        split <;> rfl
      have changed := total_updateFirst_found
        (fun process : Process =>
          if process.processId = place then process.sessions.count other else 0)
        (fun process => process.removeSession sessionId) found
      simp only [count_removeSession, sameId, named] at changed
      simp only
      by_cases here : id = place
      · simp only [here, if_true, true_and] at changed ⊢
        constructor <;> omega
      · simp only [here, if_false, false_and] at changed ⊢
        constructor <;> omega

/-! ## The order of the table -/

theorem listed_reorder (resources : Resources) {processes : List Process}
    (same : processes.Perm resources.processes) (sessionId : Bytes) :
    ({ resources with processes := processes } : Resources).listed sessionId =
      resources.listed sessionId :=
  total_perm _ same

theorem listedAt_reorder (resources : Resources) {processes : List Process}
    (same : processes.Perm resources.processes) (id sessionId : Bytes) :
    ({ resources with processes := processes } : Resources).listedAt id sessionId =
      resources.listedAt id sessionId :=
  total_perm _ same

/-! ## The table of sessions -/

/-- Every entry of the session table carries the identifier it is found
under. -/
def Keyed (resources : Resources) : Prop :=
  forall id session, resources.sessions id = some session -> session.sessionId = id

@[simp] theorem isUnsent_getFreeProcess (resources : Resources) (id sessionId : Bytes) :
    (resources.getFreeProcess id).2.isUnsent sessionId = resources.isUnsent sessionId := by
  unfold isUnsent
  rw [sessions_getFreeProcess]

theorem not_isUnsent_of_isAllocated {resources : Resources} {sessionId : Bytes}
    (allocated : resources.isAllocated sessionId = true) :
    resources.isUnsent sessionId = false := by
  unfold isAllocated at allocated
  unfold isUnsent
  cases entry : resources.sessions sessionId with
  | none => rfl
  | some session =>
      rw [entry] at allocated
      simp only [allocated, Bool.not_true]

end Resources

namespace Plane

/-! ## The steps of `process_client` -/

/-- The entry of a session after it has been added. -/
def added (plane : Plane) (placement : Placement) : Session :=
  configure placement
    ((plane.resources.sessions placement.sessionId).getD (Session.new placement.sessionId))

theorem sessions_addSession (plane : Plane) (placement : Placement) (id : Bytes) :
    (plane.addSession placement id).resources.sessions =
      Function.update plane.resources.sessions placement.sessionId (some (plane.added placement)) := by
  simp only [addSession, Resources.modifySession, Resources.addSession, Function.update_self,
    Option.map_some, Function.update_idem, added]

theorem keyed_addSession {plane : Plane} (keyed : plane.resources.Keyed) (placement : Placement)
    (id : Bytes) : (plane.addSession placement id).resources.Keyed := by
  intro sessionId session entry
  rw [sessions_addSession] at entry
  by_cases same : sessionId = placement.sessionId
  · rw [same, Function.update_self] at entry
    cases entry
    rw [same]
    change ((plane.resources.sessions placement.sessionId).getD _).sessionId = _
    cases old : plane.resources.sessions placement.sessionId with
    | none => rfl
    | some session => exact keyed _ _ old
  · rw [Function.update_of_ne same] at entry
    exact keyed _ _ entry

theorem isUnsent_addSession_of_ne (plane : Plane) (placement : Placement) (id : Bytes)
    {sessionId : Bytes} (different : sessionId ≠ placement.sessionId) :
    (plane.addSession placement id).resources.isUnsent sessionId =
      plane.resources.isUnsent sessionId := by
  unfold Resources.isUnsent
  rw [sessions_addSession, Function.update_of_ne different]

theorem listed_addSession {plane : Plane} {id : Bytes} {process : Process}
    (found : plane.resources.getProcess id = some process) (placement : Placement) (other : Bytes) :
    (plane.addSession placement id).resources.listed other =
      plane.resources.listed other + (if placement.sessionId = other then 1 else 0) :=
  Resources.listed_addSession found placement.sessionId other

theorem listedAt_addSession {plane : Plane} {id : Bytes} {process : Process}
    (found : plane.resources.getProcess id = some process) (placement : Placement)
    (place other : Bytes) :
    (plane.addSession placement id).resources.listedAt place other =
      plane.resources.listedAt place other +
        (if id = place ∧ placement.sessionId = other then 1 else 0) :=
  Resources.listedAt_addSession found placement.sessionId place other

@[simp] theorem processIds_addSession (plane : Plane) (placement : Placement) (id : Bytes) :
    (plane.addSession placement id).resources.processIds = plane.resources.processIds :=
  plane.resources.processIds_addSession id placement.sessionId

/-- The request for a session, when its entry exists and the socket of the
process is open. -/
def written (plane : Plane) (id sessionId : Bytes) : List SessionRequest :=
  if plane.resources.isConnected id then
    match plane.resources.sessions sessionId with
    | none => []
    | some session => [⟨session.sessionId, session.maxFunctions, session.memorySize⟩]
  else []

theorem outgoing_writeRequest (plane : Plane) (id sessionId : Bytes) :
    (plane.writeRequest id sessionId).outgoing =
      Function.update plane.outgoing id (plane.outgoing id ++ plane.written id sessionId) := by
  unfold writeRequest written Resources.getSession
  cases plane.resources.sessions sessionId with
  | none => simp only [ite_self, List.append_nil, Function.update_eq_self]
  | some session =>
      simp only
      split
      · rfl
      · rw [List.append_nil, Function.update_eq_self]

@[simp] theorem redis_writeRequest (plane : Plane) (id sessionId : Bytes) :
    (plane.writeRequest id sessionId).redis = plane.redis := by
  unfold writeRequest
  split <;> rfl

@[simp] theorem started_writeRequest (plane : Plane) (id sessionId : Bytes) :
    (plane.writeRequest id sessionId).started = plane.started := by
  unfold writeRequest
  split <;> rfl

@[simp] theorem processes_writeRequest (plane : Plane) (id sessionId : Bytes) :
    (plane.writeRequest id sessionId).resources.processes = plane.resources.processes := by
  unfold writeRequest
  split <;> rfl

@[simp] theorem listed_writeRequest (plane : Plane) (id sessionId other : Bytes) :
    (plane.writeRequest id sessionId).resources.listed other = plane.resources.listed other := by
  unfold Resources.listed
  rw [processes_writeRequest]

@[simp] theorem listedAt_writeRequest (plane : Plane) (id sessionId place other : Bytes) :
    (plane.writeRequest id sessionId).resources.listedAt place other =
      plane.resources.listedAt place other := by
  unfold Resources.listedAt
  rw [processes_writeRequest]

@[simp] theorem processIds_writeRequest (plane : Plane) (id sessionId : Bytes) :
    (plane.writeRequest id sessionId).resources.processIds = plane.resources.processIds := by
  unfold Resources.processIds
  rw [processes_writeRequest]

theorem sessions_writeRequest (plane : Plane) (id sessionId : Bytes) :
    (plane.writeRequest id sessionId).resources.sessions =
      Function.update plane.resources.sessions sessionId
        ((plane.resources.sessions sessionId).map
          (fun session => { session with allocated := true })) := by
  unfold writeRequest Resources.getSession
  cases entry : plane.resources.sessions sessionId with
  | none =>
      have same := Function.update_eq_self sessionId plane.resources.sessions
      rw [entry] at same
      exact same.symm
  | some session =>
      simp only [Resources.modifySession, entry]

theorem keyed_writeRequest {plane : Plane} (keyed : plane.resources.Keyed) (id sessionId : Bytes) :
    (plane.writeRequest id sessionId).resources.Keyed := by
  intro other session entry
  rw [sessions_writeRequest] at entry
  by_cases same : other = sessionId
  · rw [same, Function.update_self] at entry
    rcases Option.map_eq_some_iff.mp entry with ⟨old, present, rfl⟩
    rw [same]
    exact keyed _ old present
  · rw [Function.update_of_ne same] at entry
    exact keyed _ _ entry

theorem isUnsent_writeRequest_self (plane : Plane) (id sessionId : Bytes) :
    (plane.writeRequest id sessionId).resources.isUnsent sessionId = false := by
  unfold Resources.isUnsent
  rw [sessions_writeRequest, Function.update_self]
  cases plane.resources.sessions sessionId <;> rfl

theorem isUnsent_writeRequest_of_ne (plane : Plane) (id : Bytes) {sessionId other : Bytes}
    (different : other ≠ sessionId) :
    (plane.writeRequest id sessionId).resources.isUnsent other = plane.resources.isUnsent other := by
  unfold Resources.isUnsent
  rw [sessions_writeRequest, Function.update_of_ne different]

theorem isAllocated_writeRequest {plane : Plane} {other : Bytes}
    (allocated : plane.resources.isAllocated other = true) (id sessionId : Bytes) :
    (plane.writeRequest id sessionId).resources.isAllocated other = true := by
  unfold Resources.isAllocated at allocated ⊢
  rw [sessions_writeRequest]
  by_cases same : other = sessionId
  · subst same
    rw [Function.update_self]
    cases entry : plane.resources.sessions other with
    | none => rw [entry] at allocated; exact allocated
    | some session => rfl
  · rw [Function.update_of_ne same]
    exact allocated

/-! ## The other steps -/

theorem resources_addProcess {plane : Plane} {id : Bytes}
    (absent : id ∉ plane.resources.processIds) (placement : Placement) :
    (plane.addProcess placement id).resources =
      { plane.resources with
        processes := plane.resources.processes ++ [newProcess placement id] } :=
  Resources.addProcess_absent absent

theorem listed_addProcess {plane : Plane} {id : Bytes}
    (absent : id ∉ plane.resources.processIds) (placement : Placement) (sessionId : Bytes) :
    (plane.addProcess placement id).resources.listed sessionId =
      plane.resources.listed sessionId := by
  rw [resources_addProcess absent]
  simp [Resources.listed, newProcess]

theorem listedAt_addProcess {plane : Plane} {id : Bytes}
    (absent : id ∉ plane.resources.processIds) (placement : Placement) (place sessionId : Bytes) :
    (plane.addProcess placement id).resources.listedAt place sessionId =
      plane.resources.listedAt place sessionId := by
  rw [resources_addProcess absent]
  simp [Resources.listedAt, newProcess]

theorem processIds_addProcess {plane : Plane} {id : Bytes}
    (absent : id ∉ plane.resources.processIds) (placement : Placement) :
    (plane.addProcess placement id).resources.processIds = plane.resources.processIds ++ [id] := by
  rw [resources_addProcess absent]
  simp [Resources.processIds, newProcess]

@[simp] theorem listed_connect (plane : Plane) (id sessionId : Bytes) :
    (plane.connect id).resources.listed sessionId = plane.resources.listed sessionId := by
  apply Resources.listed_modifyProcess
  intro process
  rfl

@[simp] theorem listedAt_connect (plane : Plane) (id place sessionId : Bytes) :
    (plane.connect id).resources.listedAt place sessionId =
      plane.resources.listedAt place sessionId := by
  apply Resources.listedAt_modifyProcess <;>
    · intro process
      rfl

@[simp] theorem processIds_connect (plane : Plane) (id : Bytes) :
    (plane.connect id).resources.processIds = plane.resources.processIds := by
  apply Resources.processIds_modifyProcess
  intro process
  rfl

@[simp] theorem listed_poll (plane : Plane) (id sessionId : Bytes) :
    (plane.poll id).resources.listed sessionId = plane.resources.listed sessionId := by
  apply Resources.listed_modifyProcess
  intro process
  rfl

@[simp] theorem listedAt_poll (plane : Plane) (id place sessionId : Bytes) :
    (plane.poll id).resources.listedAt place sessionId =
      plane.resources.listedAt place sessionId := by
  apply Resources.listedAt_modifyProcess <;>
    · intro process
      rfl

@[simp] theorem processIds_poll (plane : Plane) (id : Bytes) :
    (plane.poll id).resources.processIds = plane.resources.processIds := by
  apply Resources.processIds_modifyProcess
  intro process
  rfl

/-- A turn of the loop of `process_process` either writes the request or
changes nothing. -/
theorem sendPending_cases (plane : Plane) (id sessionId : Bytes) :
    (plane.resources.isUnsent sessionId = true ∧
        plane.sendPending id sessionId = plane.writeRequest id sessionId) ∨
      (plane.resources.isUnsent sessionId = false ∧ plane.sendPending id sessionId = plane) := by
  unfold sendPending
  cases plane.resources.isUnsent sessionId with
  | true => exact Or.inl ⟨rfl, if_pos rfl⟩
  | false => exact Or.inr ⟨rfl, if_neg Bool.false_ne_true⟩

end Plane
end ControlPlane
end Praas
