import Praas.System.Placement

namespace Praas
namespace System

open Library
open ControlPlane
open Praas.Runtime

/-!
# What a step does to the table of sessions

A step leaves the table and the requests alone, adds a session on behalf of a
call that holds its token, or writes a request.  The entry of a session that a
call has just created is not in the table before.
-/

variable {state next : State} {action : Action}

/-! ## Sessions on their way to the table -/

/-- The placement is for a session that has just been created. -/
def creates (sessionId : Bytes) (placement : Placement) : Nat :=
  if placement.swapIn = false ∧ placement.sessionId = sessionId then 1 else 0

def Client.creating (sessionId : Bytes) : Client -> Nat
  | .findProcess placement => creates sessionId placement
  | .addExisting placement _ => creates sessionId placement
  | .addProcess placement => creates sessionId placement
  | _ => 0

def sectionCreating (sessionId : Bytes) : Option Section -> Nat
  | some (.addSession _ placement _) => creates sessionId placement
  | _ => 0

/-- The calls that bring a new session to the table. -/
def State.creating (state : State) (sessionId : Bytes) : Nat :=
  total (Client.creating sessionId) state.clients + sectionCreating sessionId state.mutex

theorem creates_le (sessionId : Bytes) (placement : Placement) :
    creates sessionId placement ≤ if placement.sessionId = sessionId then 1 else 0 := by
  unfold creates
  split
  · rename_i both
    rw [if_pos both.2]
  · exact Nat.zero_le _

theorem creating_le_tokens (state : State) (sessionId : Bytes) :
    state.creating sessionId + state.plane.resources.listed sessionId ≤ state.tokens sessionId := by
  have clients : total (Client.creating sessionId) state.clients ≤
      total (Client.holds sessionId) state.clients := by
    apply total_mono
    intro client _
    cases client with
    | findProcess placement => exact creates_le sessionId placement
    | addExisting placement => exact creates_le sessionId placement
    | addProcess placement => exact creates_le sessionId placement
    | _ => exact Nat.zero_le _
  have mutex : sectionCreating sessionId state.mutex ≤ sectionHolds sessionId state.mutex := by
    cases state.mutex with
    | none => exact Nat.le_refl _
    | some held =>
        cases held with
        | addSession owner placement => exact creates_le sessionId placement
        | _ => exact Nat.le_refl _
  simp only [State.creating, State.tokens]
  omega

/-- A quiet move brings no new session. -/
theorem Client.Quiet.creating_zero {plane : Plane} {client next : Client}
    (quiet : client.Quiet plane next) (sessionId : Bytes) : next.creating sessionId = 0 := by
  cases quiet with
  | details =>
      simp only [Client.creating, creates, ClientCall.restored, Bool.true_eq_false, false_and,
        if_false]
  | _ => rfl

theorem creating_step (moved : Transition state action next) (sessionId : Bytes) :
    next.creating sessionId ≤ state.creating sessionId ∨ sessionId ∉ state.used := by
  cases moved with
  | call =>
      left
      simp only [State.creating, total_append, total_cons, total_nil, Client.creating]
      omega
  | quiet whole quiet =>
      left
      have silent := quiet.creating_zero sessionId
      simp only [State.creating, whole, total_append, total_cons, silent]
      omega
  | @recordDetails _ _ call processName uuid whole unused =>
      by_cases same : uuid = sessionId
      · exact Or.inr (same ▸ unused)
      · left
        simp only [State.creating, State.setRedis, whole, total_append, total_cons, Client.creating,
          creates, ClientCall.created, same, and_false, if_false]
        omega
  | takeSwapped whole | reserve whole | allBusy whole | markAlive whole =>
      left
      simp only [State.creating, State.setRedis, State.setResources, whole, total_append, total_cons,
        Client.creating]
      omega
  | addExisting whole free | addProcess whole free =>
      left
      simp only [State.creating, whole, free, total_append, total_cons, Client.creating,
        sectionCreating]
      omega
  | writeRequest whole held | allocateProcess whole held =>
      left
      simp only [State.creating, whole, held, total_append, total_cons, Client.creating,
        sectionCreating]
      omega
  | addSession whole held =>
      left
      simp only [State.creating, held, sectionCreating]
      omega
  | enterPending _ free =>
      left
      simp only [State.creating, free, sectionCreating]
      exact Nat.le_refl _
  | sendPending held | poll held =>
      left
      simp only [State.creating, held, sectionCreating]
      exact Nat.le_refl _
  | _ => exact Or.inl (Nat.le_refl _)

/-! ## What a step does to the table of sessions -/

/-- The two occasions on which a request is written. -/
def WriteCause (state : State) (action : Action) (processId sessionId : Bytes) : Prop :=
  (Exists fun owner => Exists fun placement => Exists fun uuid => action = .client owner uuid ∧
      state.mutex = some (.writeRequest owner placement processId) ∧
      placement.sessionId = sessionId) ∨
    (Exists fun index => state.mutex = some (.sendPending processId index) ∧
      state.plane.resources.isUnsent sessionId = true)

/-- The table is unchanged, or a session is added by a call that held its
token, or a request is written. -/
inductive TableStep (state : State) (action : Action) (next : State) : Prop
  | unchanged :
      next.plane.outgoing = state.plane.outgoing ->
      next.plane.resources.sessions = state.plane.resources.sessions ->
      (forall id sessionId, next.plane.resources.listedAt id sessionId ≤
        state.plane.resources.listedAt id sessionId) ->
      TableStep state action next
  | added (placement : Placement) :
      0 < state.tokens placement.sessionId ->
      state.plane.resources.listed placement.sessionId = 0 ->
      (placement.swapIn = false -> 0 < state.creating placement.sessionId) ->
      next.plane.outgoing = state.plane.outgoing ->
      next.plane.resources.sessions = Function.update state.plane.resources.sessions
        placement.sessionId (some (state.plane.added placement)) ->
      0 < next.plane.resources.listed placement.sessionId ->
      (forall id sessionId, sessionId ≠ placement.sessionId ->
        next.plane.resources.listedAt id sessionId = state.plane.resources.listedAt id sessionId) ->
      TableStep state action next
  | written (processId sessionId : Bytes) :
      WriteCause state action processId sessionId ->
      0 < state.due processId sessionId ->
      next.plane.outgoing = (state.plane.writeRequest processId sessionId).outgoing ->
      next.plane.resources.sessions =
        (state.plane.writeRequest processId sessionId).resources.sessions ->
      (forall id other, next.plane.resources.listedAt id other =
        state.plane.resources.listedAt id other) ->
      TableStep state action next

theorem tableStep_of_transition (placed : Placed state) (moved : Transition state action next) :
    TableStep state action next := by
  cases moved with
  | reserve =>
      refine .unchanged rfl (Resources.sessions_getFreeProcess _ _) ?_
      intro id sessionId
      exact Nat.le_of_eq (Resources.listedAt_getFreeProcess _ _ _ _)
  | @addExisting _ _ placement processId _ whole free present =>
      rcases Option.isSome_iff_exists.mp present with ⟨process, found⟩
      have single := placed.single placement.sessionId
      simp only [State.tokens, whole, total_append, total_cons, Client.holds, if_true] at single
      refine .added placement ?_ (by omega) ?_ rfl (Plane.sessions_addSession _ _ _) ?_ ?_
      · simp only [State.tokens, whole, total_append, total_cons, Client.holds, if_true]
        omega
      · intro fresh
        simp only [State.creating, whole, total_append, total_cons, Client.creating, creates, fresh,
          true_and, if_true]
        omega
      · simp only [Plane.listed_addSession found, if_true]
        omega
      · intro id sessionId different
        simp only [Plane.listedAt_addSession found, Ne.symm different, and_false, if_false,
          Nat.add_zero]
  | addProcess whole free unused =>
      have absent := placed.absent unused
      refine .unchanged rfl ?_ ?_
      · rw [Plane.resources_addProcess absent]
      · intro id sessionId
        exact Nat.le_of_eq (Plane.listedAt_addProcess absent _ _ _)
  | @writeRequest _ _ placement processId uuid whole held =>
      refine .written processId placement.sessionId ?_ ?_ rfl rfl ?_
      · exact Or.inl ⟨_, placement, uuid, rfl, held, rfl⟩
      · simp only [State.due, held, if_true]
        exact Nat.zero_lt_one
      · exact fun id other => Plane.listedAt_writeRequest _ _ _ _ _
  | @addSession _ _ placement processId _ whole held =>
      rcases Resources.exists_getProcess (placed.opened _ _ _ held) with ⟨process, found⟩
      have single := placed.single placement.sessionId
      simp only [State.tokens, held, sectionHolds, if_true] at single
      refine .added placement ?_ (by omega) ?_ rfl (Plane.sessions_addSession _ _ _) ?_ ?_
      · simp only [State.tokens, held, sectionHolds, if_true]
        omega
      · intro fresh
        simp only [State.creating, held, sectionCreating, creates, fresh, true_and, if_true]
        omega
      · simp only [Plane.listed_addSession found, if_true]
        omega
      · intro id sessionId different
        simp only [Plane.listedAt_addSession found, Ne.symm different, and_false, if_false,
          Nat.add_zero]
  | connect =>
      exact .unchanged rfl rfl (fun _ _ => Nat.le_of_eq (Plane.listedAt_connect _ _ _ _))
  | @sendPending processId pending index process held found present =>
      rcases state.plane.sendPending_cases processId pending with ⟨unsent, same⟩ | ⟨_, same⟩
      · have listed := Resources.listedAt_pos_of_mem (Resources.mem_of_getProcess found)
          (List.mem_of_getElem? present)
        rw [Resources.processId_of_getProcess found] at listed
        refine .written processId pending ?_ ?_ ?_ ?_ ?_
        · exact Or.inr ⟨index, held, unsent⟩
        · simp only [State.due, held, State.unsent, unsent, if_true]
          exact listed
        · rw [same]
        · rw [same]
        · intro id other
          rw [same, Plane.listedAt_writeRequest]
      · refine .unchanged ?_ ?_ ?_
        · rw [same]
        · rw [same]
        · intro id other
          rw [same]
  | poll => exact .unchanged rfl rfl (fun _ _ => Nat.le_of_eq (Plane.listedAt_poll _ _ _ _))
  | remove =>
      exact .unchanged rfl rfl (fun _ _ => (Resources.listedAt_removeSession _ _ _ _ _).1)
  | reorder permuted =>
      refine .unchanged rfl rfl (fun _ _ => Nat.le_of_eq ?_)
      exact Resources.listedAt_reorder _ permuted _ _
  | _ => exact .unchanged rfl rfl (fun _ _ => Nat.le_refl _)

/-- A request that was sent stays sent, unless the entry of the session is
new. -/
theorem isUnsent_tableStep (table : TableStep state action next) {sessionId : Bytes}
    (listed : 0 < state.plane.resources.listed sessionId)
    (sent : state.plane.resources.isUnsent sessionId = false) :
    next.plane.resources.isUnsent sessionId = false := by
  unfold Resources.isUnsent at sent ⊢
  cases table with
  | unchanged _ sessions =>
      rw [sessions]
      exact sent
  | added placement _ unlisted _ _ sessions =>
      have different : sessionId ≠ placement.sessionId := by
        intro same
        rw [same] at listed
        omega
      rw [sessions, Function.update_of_ne different]
      exact sent
  | written processId other _ _ _ sessions =>
      rw [sessions]
      by_cases same : sessionId = other
      · subst same
        exact Plane.isUnsent_writeRequest_self _ _ _
      · exact (Plane.isUnsent_writeRequest_of_ne state.plane processId same).trans sent

/-! ## What a step does to a process -/

/-- Where a process of the new state comes from. -/
inductive ProcessStep (state next : State) (process : Process) : Prop
  | kept (old : Process) :
      old ∈ state.plane.resources.processes -> old.processId = process.processId ->
      old.sessions = process.sessions -> (old.connected = true -> process.connected = true) ->
      process.polled = old.polled ->
      ProcessStep state next process
  | polled (old : Process) (index : Nat) :
      old ∈ state.plane.resources.processes -> old.processId = process.processId ->
      old.sessions = process.sessions ->
      state.mutex = some (.sendPending process.processId index) ->
      process.sessions.length ≤ index -> next.mutex = none ->
      ProcessStep state next process
  | listing (old : Process) (owner : Nat) (placement : Placement) :
      old ∈ state.plane.resources.processes -> old.processId = process.processId ->
      process.sessions = old.sessions ++ [placement.sessionId] -> process.polled = old.polled ->
      (next.mutex = some (.writeRequest owner placement process.processId) ∧ state.mutex = none) ∨
        (state.mutex = some (.addSession owner placement process.processId) ∧
          next.mutex = some (.allocateProcess owner placement process.processId)) ->
      ProcessStep state next process
  | created (owner : Nat) (placement : Placement) (uuid : Bytes) :
      process.polled = false -> next.mutex = some (.addSession owner placement uuid) ->
      ProcessStep state next process
  | removal (old : Process) :
      old ∈ state.plane.resources.processes -> old.processId = process.processId ->
      (forall sessionId, sessionId ∈ process.sessions -> sessionId ∈ old.sessions) ->
      process.polled = old.polled -> state.mutex = none -> next.mutex = none ->
      ProcessStep state next process

theorem ProcessStep.same {process : Process} (member : process ∈ state.plane.resources.processes) :
    ProcessStep state next process :=
  .kept process member rfl rfl (fun connected => connected) rfl

theorem processStep_of_transition (placed : Placed state) (moved : Transition state action next)
    {process : Process} (member : process ∈ next.plane.resources.processes) :
    ProcessStep state next process := by
  cases moved with
  | reserve _ free =>
      simp only [State.setResources, Resources.getFreeProcess, free] at member
      rcases mem_or_of_mem_updateFirst member with old | ⟨old, inside, rfl⟩
      · exact .same old
      · exact .kept old inside rfl rfl (fun connected => connected) rfl
  | @addExisting before _ placement processId _ whole free present =>
      rcases Option.isSome_iff_exists.mp present with ⟨target, found⟩
      rcases Resources.mem_updateFirst placed.distinct found member with rfl | ⟨old, _⟩
      · refine .listing target before.length placement (Resources.mem_of_getProcess found) rfl rfl
          rfl (Or.inl ⟨?_, free⟩)
        rw [Resources.processId_of_getProcess found]
      · exact .same old
  | @addProcess before _ placement uuid whole free unused =>
      rw [Plane.resources_addProcess (placed.absent unused)] at member
      rcases List.mem_append.mp member with old | last
      · exact .same old
      · rw [List.mem_singleton.mp last]
        exact .created before.length placement uuid rfl rfl
  | writeRequest =>
      rw [Plane.processes_writeRequest] at member
      exact .same member
  | @addSession before _ placement processId _ whole held =>
      rcases Resources.exists_getProcess (placed.opened _ _ _ held) with ⟨target, found⟩
      rcases Resources.mem_updateFirst placed.distinct found member with rfl | ⟨old, _⟩
      · refine .listing target before.length placement (Resources.mem_of_getProcess found) rfl rfl
          rfl (Or.inr ⟨?_, ?_⟩)
        · rw [Resources.processId_of_getProcess found]
          exact held
        · rw [Resources.processId_of_getProcess found]
      · exact .same old
  | connect =>
      rcases mem_or_of_mem_updateFirst member with old | ⟨old, inside, rfl⟩
      · exact .same old
      · exact .kept old inside rfl rfl (fun _ => rfl) rfl
  | @sendPending processId pending =>
      rcases state.plane.sendPending_cases processId pending with ⟨_, same⟩ | ⟨_, same⟩
      · rw [same, Plane.processes_writeRequest] at member
        exact .same member
      · rw [same] at member
        exact .same member
  | @poll processId index target held found ended =>
      rcases Resources.mem_modifyProcess member with old | ⟨changed, located, rfl⟩
      · exact .same old
      · rw [found] at located
        cases located
        refine .polled target index (Resources.mem_of_getProcess found) rfl rfl ?_ ended rfl
        rw [held]
        simp only [Resources.processId_of_getProcess found]
  | @remove _ _ closure whole stage free =>
      rcases mem_or_of_mem_updateFirst member with old | ⟨old, inside, rfl⟩
      · exact .same old
      · unfold Process.removeSession
        split
        · exact .removal old inside rfl (fun _ => List.mem_of_mem_erase) rfl free free
        · exact .same inside
  | reorder permuted => exact .same (permuted.mem_iff.mp member)
  | _ => exact .same member

end System
end Praas
