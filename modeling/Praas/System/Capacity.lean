import Mathlib.Data.List.Perm.Subperm
import Praas.System.Placement

namespace Praas
namespace System

open Library
open ControlPlane
open Praas.Runtime

/-!
# The two levels agree on the capacity of a process

The control plane counts the slots of a process with `allocated_sessions`, and
the process worker counts the entries of its own list.  The counter equals the
number of sessions listed plus the slots that clients have reserved and not
used yet, and stays within `max_sessions`.  What the worker has or is about to
receive is, session by session, within what is listed, so that a request never
finds the worker full or the session already there.
-/

variable {state next : State} {action : Action}

/-- The client has reserved a slot of the process. -/
def Client.reserves (id : Bytes) : Client -> Nat
  | .addExisting _ processId => if processId = id then 1 else 0
  | _ => 0

def sectionReserves (id : Bytes) : Option Section -> Nat
  | some (.addSession _ _ processId) => if processId = id then 1 else 0
  | _ => 0

/-- The slots of a process that are reserved and not used. -/
def State.reserved (state : State) (id : Bytes) : Nat :=
  total (Client.reserves id) state.clients + sectionReserves id state.mutex

/-- The counter of a process with a given number of reserved slots. -/
structure Accounted (reserved : Nat) (process : Process) : Prop where
  counted : process.allocatedSessions = process.sessions.length + reserved
  bounded : process.allocatedSessions ≤ process.maxSessions
  sized : process.maxSessions = Plane.maxSessionsPerProcess

/-- The invariant of the counters.  The control plane counts the sessions of a
worker without asking it; that the counter stays ahead of what the worker has
to run, on every interleaving, is what keeps its requests within the limit. -/
structure Capacity (state : State) : Prop where
  accounted : forall process, process ∈ state.plane.resources.processes ->
    Accounted (state.reserved process.processId) process
  known : forall id, 0 < state.reserved id -> id ∈ state.used
  started : forall entry, entry ∈ state.plane.started -> entry.2 = Plane.maxSessionsPerProcess
  equipped : forall id, (state.nodes id).up = true ->
    (state.nodes id).worker.maxSessions = Plane.maxSessionsPerProcess

theorem Accounted.congr {reserved other : Nat} {process : Process}
    (account : Accounted reserved process) (same : other = reserved) : Accounted other process :=
  same ▸ account

theorem Client.Quiet.reserves_eq {plane : Plane} {client next : Client}
    (quiet : client.Quiet plane next) (id : Bytes) : next.reserves id = client.reserves id := by
  cases quiet <;> rfl

/-! ## The counters of the processes -/

/-- A process that appears in the old table under the same count keeps its
account. -/
theorem accounted_of_mem (capacity : Capacity state) {process : Process}
    (member : process ∈ state.plane.resources.processes)
    (same : next.reserved process.processId = state.reserved process.processId) :
    Accounted (next.reserved process.processId) process := by
  rw [same]
  exact capacity.accounted process member

theorem accounted_reserve {reserved : Nat} {process : Process} (account : Accounted reserved process)
    (free : process.hasFreeSlot = true) :
    Accounted (reserved + 1) { process with
      allocatedSessions := process.allocatedSessions + 1 } where
  counted := by
    have counted := account.counted
    simp only
    omega
  bounded := of_decide_eq_true free
  sized := account.sized

theorem accounted_addSession {reserved : Nat} {process : Process}
    (account : Accounted (reserved + 1) process) (sessionId : Bytes) :
    Accounted reserved { process with sessions := process.sessions ++ [sessionId] } where
  counted := by
    have counted := account.counted
    simp only [List.length_append, List.length_singleton]
    omega
  bounded := account.bounded
  sized := account.sized

theorem accounted_removeSession {reserved : Nat} {process : Process}
    (account : Accounted reserved process) (sessionId : Bytes) :
    Accounted reserved (process.removeSession sessionId) := by
  unfold Process.removeSession
  split
  · rename_i present
    have counted := account.counted
    have bounded := account.bounded
    have positive := List.length_pos_of_mem present
    refine ⟨?_, ?_, account.sized⟩
    · simp only [List.length_erase_of_mem present]
      omega
    · simp only
      omega
  · exact account

/-- A change of one process that keeps its account keeps every account. -/
theorem accounted_modifyProcess (capacity : Capacity state) {id : Bytes} {process : Process}
    (change : Process -> Process) (same : forall id, next.reserved id = state.reserved id)
    (kept : forall reserved process, Accounted reserved process ->
      Accounted reserved (change process))
    (named : forall process, (change process).processId = process.processId)
    (member : process ∈ (state.plane.resources.modifyProcess id change).processes) :
    Accounted (next.reserved process.processId) process := by
  rw [same]
  rcases Resources.mem_modifyProcess member with old | ⟨other, found, changed⟩
  · exact capacity.accounted process old
  · rw [changed, named]
    exact kept _ _ (capacity.accounted other (Resources.mem_of_getProcess found))

theorem accounted_listing (registered : Registered state) (capacity : Capacity state) {id sessionId : Bytes}
    {process other : Process} (found : state.plane.resources.getProcess id = some process)
    (paid : next.reserved id + 1 = state.reserved id)
    (elsewhere : forall place, place ≠ id -> next.reserved place = state.reserved place)
    (member : other ∈ (state.plane.resources.addSession id sessionId).processes) :
    Accounted (next.reserved other.processId) other := by
  have named := Resources.processId_of_getProcess found
  subst named
  rcases Resources.mem_updateFirst registered.distinct found member with same | ⟨old, different⟩
  · have account := capacity.accounted process (Resources.mem_of_getProcess found)
    rw [← paid] at account
    rw [same]
    exact accounted_addSession account sessionId
  · exact accounted_of_mem capacity old (elsewhere _ different)

theorem accounted_step (registered : Registered state) (capacity : Capacity state)
    (moved : Transition state action next) (process : Process)
    (member : process ∈ next.plane.resources.processes) :
    Accounted (next.reserved process.processId) process := by
  cases moved with
  | call =>
      refine accounted_of_mem capacity member ?_
      simp only [State.reserved, total_append, total_cons, total_nil, Client.reserves]
      omega
  | quiet whole quiet =>
      refine accounted_of_mem capacity member ?_
      simp only [State.reserved, whole, total_append, total_cons, quiet.reserves_eq]
  | takeSwapped whole =>
      refine accounted_of_mem capacity member ?_
      simp only [State.reserved, State.setRedis, whole, total_append, total_cons, Client.reserves]
  | recordDetails whole =>
      refine accounted_of_mem capacity member ?_
      simp only [State.reserved, State.setRedis, whole, total_append, total_cons, Client.reserves]
  | @reserve _ _ placement target _ whole free =>
      simp only [State.setResources, Resources.getFreeProcess, free] at member
      rcases Resources.mem_updateFirst registered.distinct free member with same | ⟨old, different⟩
      · have account := capacity.accounted target (List.mem_of_find?_eq_some free)
        rw [same]
        refine (accounted_reserve account (List.find?_some free)).congr ?_
        simp only [State.reserved, State.setResources, whole, total_append, total_cons,
          Client.reserves, if_true]
        omega
      · refine accounted_of_mem capacity old ?_
        simp only [State.reserved, State.setResources, whole, total_append, total_cons,
          Client.reserves, Ne.symm different, if_false]
  | allBusy whole =>
      refine accounted_of_mem capacity member ?_
      simp only [State.reserved, whole, total_append, total_cons, Client.reserves]
  | @addExisting _ _ placement processId _ whole free present =>
      rcases Option.isSome_iff_exists.mp present with ⟨target, found⟩
      refine accounted_listing registered capacity found ?_ ?_ member
      · simp only [State.reserved, whole, free, total_append, total_cons, Client.reserves,
          sectionReserves, if_true]
        omega
      · intro place different
        simp only [State.reserved, whole, free, total_append, total_cons, Client.reserves,
          sectionReserves, Ne.symm different, if_false]
  | @addProcess _ _ placement uuid whole free unused =>
      have absent := registered.absent unused
      rw [Plane.resources_addProcess absent] at member
      have none : state.reserved uuid = 0 := by
        by_contra positive
        exact unused (capacity.known uuid (Nat.pos_of_ne_zero positive))
      simp only [State.reserved, free, whole, total_append, total_cons, Client.reserves,
        sectionReserves] at none
      rcases List.mem_append.mp member with old | last
      · refine accounted_of_mem capacity old ?_
        have different : uuid ≠ process.processId := fun same =>
          absent (same ▸ List.mem_map_of_mem old)
        simp only [State.reserved, whole, free, total_append, total_cons, Client.reserves,
          sectionReserves, different, if_false]
      · rw [List.mem_singleton.mp last]
        refine ⟨?_, ?_, rfl⟩
        · simp only [State.reserved, Plane.newProcess, total_append, total_cons, Client.reserves,
            sectionReserves, if_true, List.length_nil]
          omega
        · change (1 : Int) ≤ 4
          decide
  | writeRequest whole held =>
      rw [Plane.processes_writeRequest] at member
      refine accounted_of_mem capacity member ?_
      simp only [State.reserved, whole, held, total_append, total_cons, Client.reserves,
        sectionReserves]
  | @addSession _ _ placement processId _ whole held =>
      rcases Resources.exists_getProcess (registered.opened _ _ _ held) with ⟨target, found⟩
      refine accounted_listing registered capacity found ?_ ?_ member
      · simp only [State.reserved, held, sectionReserves, if_true]
      · intro place different
        simp only [State.reserved, held, sectionReserves, Ne.symm different, if_false]
  | allocateProcess whole held =>
      refine accounted_of_mem capacity member ?_
      simp only [State.reserved, whole, held, total_append, total_cons, Client.reserves,
        sectionReserves]
  | markAlive whole =>
      refine accounted_of_mem capacity member ?_
      simp only [State.reserved, whole, total_append, total_cons, Client.reserves]
  | connect =>
      refine accounted_modifyProcess capacity (fun process => { process with connected := true })
        (fun _ => rfl) ?_ (fun _ => rfl) member
      exact fun _ _ account => ⟨account.counted, account.bounded, account.sized⟩
  | enterPending _ free =>
      refine accounted_of_mem capacity member ?_
      simp only [State.reserved, free, sectionReserves]
  | @sendPending processId pending _ _ held =>
      have same : (state.plane.sendPending processId pending).resources.processes =
          state.plane.resources.processes := by
        rcases state.plane.sendPending_cases processId pending with ⟨_, same⟩ | ⟨_, same⟩
        · rw [same, Plane.processes_writeRequest]
        · rw [same]
      rw [same] at member
      refine accounted_of_mem capacity member ?_
      simp only [State.reserved, held, sectionReserves]
  | poll held =>
      refine accounted_modifyProcess capacity (fun process => { process with polled := true })
        ?_ ?_ (fun _ => rfl) member
      · intro id
        simp only [State.reserved, held, sectionReserves]
      · exact fun _ _ account => ⟨account.counted, account.bounded, account.sized⟩
  | @remove _ _ closure =>
      refine accounted_modifyProcess capacity
        (fun process => process.removeSession closure.sessionId) (fun _ => rfl) ?_ ?_ member
      · exact fun _ _ account => accounted_removeSession account _
      · intro process
        unfold Process.removeSession
        split <;> rfl
  | reorder permuted => exact accounted_of_mem capacity (permuted.mem_iff.mp member) rfl
  | _ => exact accounted_of_mem capacity member rfl

/-! ## The rest of the invariant -/

/-- A step reserves slots only of processes with an identifier in use. -/
theorem reserved_step (registered : Registered state) (moved : Transition state action next) (id : Bytes) :
    next.reserved id ≤ state.reserved id ∨ id ∈ next.used := by
  cases moved with
  | call =>
      left
      simp only [State.reserved, total_append, total_cons, total_nil, Client.reserves]
      omega
  | quiet whole quiet =>
      left
      simp only [State.reserved, whole, total_append, total_cons, quiet.reserves_eq]
      exact Nat.le_refl _
  | @reserve _ _ placement target _ whole free =>
      by_cases same : target.processId = id
      · right
        exact registered.known id (same ▸ List.mem_map_of_mem (List.mem_of_find?_eq_some free))
      · left
        simp only [State.reserved, State.setResources, whole, total_append, total_cons,
          Client.reserves, same, if_false]
        omega
  | @addProcess _ _ placement uuid whole free =>
      by_cases same : uuid = id
      · right
        exact same ▸ List.mem_cons_self
      · left
        simp only [State.reserved, whole, free, total_append, total_cons, Client.reserves,
          sectionReserves, same, if_false]
        omega
  | addExisting whole free =>
      left
      simp only [State.reserved, whole, free, total_append, total_cons, Client.reserves,
        sectionReserves]
      omega
  | addSession whole held =>
      left
      simp only [State.reserved, held, sectionReserves]
      omega
  | enterPending _ free =>
      left
      simp only [State.reserved, free, sectionReserves]
      omega
  | sendPending held =>
      left
      simp only [State.reserved, held, sectionReserves]
      omega
  | poll held =>
      left
      simp only [State.reserved, held, sectionReserves]
      omega
  | writeRequest whole held | allocateProcess whole held =>
      left
      simp only [State.reserved, whole, held, total_append, total_cons, Client.reserves,
        sectionReserves]
      omega
  | takeSwapped whole | recordDetails whole | allBusy whole | markAlive whole =>
      left
      simp only [State.reserved, State.setRedis, whole, total_append, total_cons, Client.reserves]
      omega
  | _ => exact Or.inl (Nat.le_refl _)

theorem started_step (capacity : Capacity state) (moved : Transition state action next)
    {entry : Bytes × Int} (member : entry ∈ next.plane.started) :
    entry.2 = Plane.maxSessionsPerProcess := by
  cases moved with
  | writeRequest =>
      rw [Plane.started_writeRequest] at member
      exact capacity.started entry member
  | allocateProcess =>
      rcases List.mem_append.mp member with old | last
      · exact capacity.started entry old
      · rw [List.mem_singleton.mp last]
  | @sendPending processId pending =>
      rcases state.plane.sendPending_cases processId pending with ⟨_, same⟩ | ⟨_, same⟩
      · rw [same, Plane.started_writeRequest] at member
        exact capacity.started entry member
      · rw [same] at member
        exact capacity.started entry member
  | _ => exact capacity.started entry member

theorem equipped_setNode (capacity : Capacity state) {processId : Bytes} {node : Node}
    (kept : node.up = true -> node.worker.maxSessions = Plane.maxSessionsPerProcess) (id : Bytes)
    (up : (Function.update state.nodes processId node id).up = true) :
    (Function.update state.nodes processId node id).worker.maxSessions =
      Plane.maxSessionsPerProcess := by
  by_cases here : id = processId
  · subst here
    rw [Function.update_self] at up ⊢
    exact kept up
  · rw [Function.update_of_ne here] at up ⊢
    exact capacity.equipped id up

theorem equipped_step (capacity : Capacity state) (moved : Transition state action next)
    (id : Bytes) (up : (next.nodes id).up = true) :
    (next.nodes id).worker.maxSessions = Plane.maxSessionsPerProcess := by
  have kept := capacity.equipped
  cases moved with
  | connect found =>
      exact equipped_setNode capacity
        (fun _ => capacity.started _ (List.mem_of_find?_eq_some found)) id up
  | receive =>
      refine equipped_setNode capacity (fun up => ?_) id up
      rw [Worker.maxSessions_allocateSession]
      exact kept _ up
  | sessionDeleted =>
      refine equipped_setNode capacity (fun up => ?_) id up
      rw [Worker.maxSessions_sessionDeleted]
      exact kept _ up
  | answer | touch | writeClosure | deliverAnswer | deliverClosure =>
      refine equipped_setNode capacity ?_ id up
      exact kept _
  | _ => exact kept id up

theorem capacity_initial : Capacity State.initial where
  accounted := fun _ member => False.elim (List.not_mem_nil member)
  known := fun _ positive => False.elim (Nat.lt_irrefl 0 positive)
  started := fun _ member => False.elim (List.not_mem_nil member)
  equipped := by
    intro id up
    cases up

theorem capacity_step (registered : Registered state) (capacity : Capacity state)
    (moved : Transition state action next) : Capacity next where
  accounted := accounted_step registered capacity moved
  known := by
    intro id positive
    rcases reserved_step registered moved id with fewer | used
    · exact used_step moved (capacity.known id (Nat.lt_of_lt_of_le positive fewer))
    · exact used
  started := fun _ member => started_step capacity moved member
  equipped := equipped_step capacity moved

theorem capacity_of_run {trace : List (State × Action)} {final : State} (run : Run trace final) :
    Capacity final := by
  apply run.traced_invariant (fun _ state => Capacity state) capacity_initial
  intro _ source action target earlier capacity stepped
  exact capacity_step (placed_of_run earlier).registered capacity (step_transition stepped)

/-! ## The answers of a process worker -/

private theorem count_map_eq_countP {α : Type} (project : α -> Bytes) (id : Bytes)
    (values : List α) :
    (values.map project).count id = values.countP (fun value => decide (project value = id)) := by
  rw [List.count, List.countP_map]
  apply List.countP_congr
  intro value _
  simp only [Function.comp_apply, beq_iff_eq, decide_eq_true_eq]

/-- The sessions that a process worker runs or is about to receive are within
the list of its process. -/
theorem carried_subperm (placed : Placed state) {id : Bytes} {process : Process}
    (found : state.plane.resources.getProcess id = some process) :
    (((state.plane.outgoing id).drop (state.nodes id).consumed).map SessionRequest.sessionId ++
      (state.nodes id).worker.sessions.map SessionFork.sessionId).Subperm process.sessions := by
  apply List.subperm_ext_iff.mpr
  intro sessionId _
  have backed := placed.backed id sessionId
  rw [Resources.listedAt_of_getProcess placed.distinct found] at backed
  rw [List.count_append, count_map_eq_countP, count_map_eq_countP]
  simp only [State.carried, Node.carries, requested, Worker.running] at backed
  omega

/-- A request is accepted unless the fork fails. -/
theorem allocateSession_accepts (placed : Placed state) (capacity : Capacity state) {id : Bytes}
    {request : SessionRequest} (up : (state.nodes id).up = true)
    (pending : (state.plane.outgoing id)[(state.nodes id).consumed]? = some request)
    (calls : Syscalls) :
    ((state.nodes id).worker.allocateSession state.store request calls).1 ≠ .noMoreCapacity ∧
      ((state.nodes id).worker.allocateSession state.store request calls).1 ≠ .sessionConflict := by
  rcases List.getElem?_eq_some_iff.mp pending with ⟨bound, value⟩
  have cut : (state.plane.outgoing id).drop (state.nodes id).consumed =
      request :: (state.plane.outgoing id).drop ((state.nodes id).consumed + 1) := by
    rw [List.drop_eq_getElem_cons bound, value]
  have single := placed.single request.sessionId
  have below := state.plane.resources.listedAt_le_listed id request.sessionId
  have backed := placed.backed id request.sessionId
  simp only [State.tokens] at single
  simp only [State.carried, Node.carries, cut, requested, List.countP_cons, decide_true,
    if_true] at backed
  have present : id ∈ state.plane.resources.processIds := by
    by_contra absent
    rw [Resources.listedAt_absent absent] at backed
    omega
  rcases Resources.exists_getProcess present with ⟨process, found⟩
  have account := capacity.accounted process (Resources.mem_of_getProcess found)
  have within := (carried_subperm placed found).length_le
  have counted := account.counted
  have bounded := account.bounded
  have sized := account.sized
  simp only [cut, List.map_cons, List.length_append, List.length_cons, List.length_map] at within
  have room : ¬ Worker.toSize (state.nodes id).worker.maxSessions ≤
      (state.nodes id).worker.sessions.length := by
    rw [capacity.equipped id up]
    rw [sized] at bounded
    have four : Worker.toSize Plane.maxSessionsPerProcess = 4 := by decide
    have limit : Plane.maxSessionsPerProcess = 4 := rfl
    omega
  have absent : ¬ (state.nodes id).worker.sessions.any
      (fun entry => decide (entry.sessionId = request.sessionId)) = true := by
    intro conflict
    have positive : 0 < (state.nodes id).worker.running request.sessionId := by
      apply List.countP_pos_iff.mpr
      rcases List.any_eq_true.mp conflict with ⟨entry, member, same⟩
      exact ⟨entry, member, same⟩
    omega
  unfold Worker.allocateSession
  rw [if_neg room, if_neg absent]
  simp only
  split <;> exact ⟨by decide, by decide⟩

/-- From every state reached, a process worker that reads a request of the
control plane answers neither that it is full nor that the session is already
there. -/
theorem requests_fit {trace : List (State × Action)} {final next : State} (run : Run trace final)
    (id : Bytes) (calls : Syscalls) (received : step final (.receive id calls) = some next)
    (result : ErrorCode) (sessionId : Bytes)
    (answered : (next.nodes id).answering = some (result, sessionId)) :
    result ≠ .noMoreCapacity ∧ result ≠ .sessionConflict := by
  have placed := placed_of_run run
  have capacity := capacity_of_run run
  have moved := step_transition received
  cases moved with
  | receive up pending =>
      simp only [State.setNode, Function.update_self, Option.some.injEq, Prod.mk.injEq] at answered
      rw [← answered.1]
      exact allocateSession_accepts placed capacity up pending calls

theorem requests_fit_first :
    Exists fun trace => Exists fun final => Exists fun next => Run trace final ∧
      step final (.receive [3] succeedingCalls) = some next ∧
      (next.nodes [3]).answering = some (.success, [2]) ∧
      ErrorCode.success ≠ .noMoreCapacity ∧ ErrorCode.success ≠ .sessionConflict := by
  have found := TransitionSystem.exists_run system State.initial (placeSession ++ connectWorker)
    (fun _ final => (step final (.receive [3] succeedingCalls)).any (fun next : State =>
      decide ((next.nodes [3]).answering = some (ErrorCode.success, [2])))) (by decide +kernel)
  rcases found with ⟨trace, final, run, tested⟩
  rcases Option.any_eq_true _ _ |>.mp tested with ⟨next, received, answered⟩
  have answered := of_decide_eq_true answered
  exact ⟨trace, final, next, run, received, answered,
    requests_fit run [3] succeedingCalls received .success [2] answered⟩

end System
end Praas
