import Praas.System.Placement

namespace Praas
namespace System

open Library
open ControlPlane
open Praas.Runtime

/-!
# The global processes that occur in a state

A client is served only for a global process that has been allocated.  Every
global process named by a client, a section, a process worker, a closure or a
swapped-out set is therefore one whose record is in Redis.  With a single
allocation, everything concerns that one process.
-/

variable {state next : State} {action : Action}

/-- The global process has been allocated. -/
def State.registered (state : State) (id : Bytes) : Prop :=
  (state.plane.redis.get (.process id)).isSome = true

/-- The global process for which a client is being served. -/
def Client.tenant : Client -> Option Bytes
  | .checkAlive call _ => some call.processId
  | .takeSwapped call _ => some call.processId
  | .readDetails call _ => some call.processId
  | .recordDetails call _ => some call.processId
  | .findProcess placement => some placement.processId
  | .addExisting placement _ => some placement.processId
  | .addProcess placement => some placement.processId
  | .markAlive placement => some placement.processId
  | _ => none

def sectionTenant : Option Section -> Option Bytes
  | some (.writeRequest _ placement _) => some placement.processId
  | some (.addSession _ placement _) => some placement.processId
  | some (.allocateProcess _ placement _) => some placement.processId
  | _ => none

/-- Every global process that occurs has been allocated. -/
structure Tenants (state : State) : Prop where
  clients : forall client, client ∈ state.clients -> forall id, client.tenant = some id ->
    state.registered id
  mutex : forall id, sectionTenant state.mutex = some id -> state.registered id
  processes : forall process, process ∈ state.plane.resources.processes ->
    state.registered process.globalProcessId
  closures : forall closure, closure ∈ state.closures -> state.registered closure.globalProcessId
  swapped : forall id sessionId, (Key.sessionsSwapped id, sessionId) ∈ state.plane.redis.sets ->
    state.registered id

theorem registered_step (moved : Transition state action next) (id : Bytes) :
    (next.registered id ↔ state.registered id) ∨
      (next.registered id ∧ Exists fun processName => action = .allocate processName id) := by
  cases moved with
  | allocate processName uuid =>
      by_cases same : id = uuid
      · subst same
        right
        constructor
        · simp only [State.registered, Plane.processAllocation, Redis.get, Redis.set,
            Function.update_self, Option.isSome_some]
        · exact ⟨processName, rfl⟩
      · left
        have other : Key.process id ≠ Key.process uuid := fun equal => same (Key.process.inj equal)
        simp only [State.registered, Plane.processAllocation, Redis.get, Redis.set,
          Function.update_of_ne other]
  | @recordDetails _ _ call processName uuid =>
      left
      have other : Key.process id ≠ Key.session uuid := by simp
      simp only [State.registered, State.setRedis, Redis.get, Redis.set, Function.update_of_ne other]
  | writeRequest =>
      left
      simp only [State.registered, Plane.redis_writeRequest]
  | markAlive =>
      left
      simp only [State.registered, Plane.markAlive, Redis.get, Redis.sadd_strings]
  | @sendPending processId pending =>
      left
      rcases state.plane.sendPending_cases processId pending with ⟨_, same⟩ | ⟨_, same⟩
      · simp only [State.registered, same, Plane.redis_writeRequest]
      · simp only [State.registered, same]
  | addSwapped =>
      left
      simp only [State.registered, State.setRedis, Redis.get, Redis.sadd_strings]
  | _ => exact Or.inl Iff.rfl

theorem registered_mono (moved : Transition state action next) {id : Bytes}
    (old : state.registered id) : next.registered id := by
  rcases registered_step moved id with same | ⟨new, _⟩
  · exact same.mpr old
  · exact new

theorem Client.Quiet.tenant {plane : Plane} {client next : Client} (quiet : client.Quiet plane next)
    {id : Bytes} (named : next.tenant = some id) :
    client.tenant = some id ∨ (plane.redis.get (.process id)).isSome = true := by
  cases quiet with
  | known call processName found | fresh call processName found =>
      cases named
      right
      rw [found]
      rfl
  | notAlive | details =>
      left
      exact named
  | _ => cases named

theorem tenants_clients_step (tenants : Tenants state) (moved : Transition state action next)
    (client : Client) (member : client ∈ next.clients) (id : Bytes)
    (named : client.tenant = some id) : next.registered id := by
  have kept : forall client, client ∈ state.clients -> forall id, client.tenant = some id ->
      next.registered id :=
    fun client member id named => registered_mono moved (tenants.clients client member id named)
  have held : forall id, sectionTenant state.mutex = some id -> next.registered id :=
    fun id named => registered_mono moved (tenants.mutex id named)
  cases moved with
  | call =>
      rcases List.mem_append.mp member with old | last
      · exact kept client old id named
      · rw [List.mem_singleton.mp last] at named
        cases named
  | quiet whole quiet =>
      refine forall_mem_middle whole kept ?_ client member id named
      intro id named
      rcases quiet.tenant named with same | registered
      · exact kept _ (mem_middle whole) id same
      · exact registered
  | takeSwapped whole | reserve whole | allBusy whole | recordDetails whole =>
      have served := kept _ (mem_middle whole)
      refine forall_mem_middle whole kept ?_ client member id named
      exact served
  | addExisting whole | addProcess whole | markAlive whole =>
      refine forall_mem_middle whole kept ?_ client member id named
      intro id named
      cases named
  | writeRequest whole mutex | allocateProcess whole mutex =>
      rw [mutex] at held
      refine forall_mem_middle whole kept ?_ client member id named
      exact held
  | _ => exact kept client member id named

theorem tenants_mutex_step (tenants : Tenants state) (moved : Transition state action next)
    (id : Bytes) (named : sectionTenant next.mutex = some id) : next.registered id := by
  have kept : forall client, client ∈ state.clients -> forall id, client.tenant = some id ->
      next.registered id :=
    fun client member id named => registered_mono moved (tenants.clients client member id named)
  have held : forall id, sectionTenant state.mutex = some id -> next.registered id :=
    fun id named => registered_mono moved (tenants.mutex id named)
  cases moved with
  | addExisting whole | addProcess whole => exact kept _ (mem_middle whole) id named
  | addSession whole mutex =>
      rw [mutex] at held
      exact held id named
  | writeRequest | allocateProcess | enterPending | sendPending | poll => cases named
  | _ => exact held id named

/-- An update of one process that keeps its global process. -/
theorem tenants_updateFirst {registered : Bytes -> Prop} {processes : List Process}
    (kept : forall process, process ∈ processes -> registered process.globalProcessId)
    (test : Process -> Bool) (change : Process -> Process)
    (same : forall process, (change process).globalProcessId = process.globalProcessId)
    (process : Process) (member : process ∈ updateFirst test change processes) :
    registered process.globalProcessId := by
  rcases mem_or_of_mem_updateFirst member with old | ⟨other, inside, changed⟩
  · exact kept process old
  · rw [changed, same]
    exact kept other inside

theorem globalProcessId_removeSession (process : Process) (sessionId : Bytes) :
    (process.removeSession sessionId).globalProcessId = process.globalProcessId := by
  unfold Process.removeSession
  split <;> rfl

theorem tenants_processes_step (placed : Placed state) (tenants : Tenants state)
    (moved : Transition state action next) (process : Process)
    (member : process ∈ next.plane.resources.processes) :
    next.registered process.globalProcessId := by
  have kept : forall process, process ∈ state.plane.resources.processes ->
      next.registered process.globalProcessId :=
    fun process member => registered_mono moved (tenants.processes process member)
  have served : forall client, client ∈ state.clients -> forall id, client.tenant = some id ->
      next.registered id :=
    fun client member id named => registered_mono moved (tenants.clients client member id named)
  cases moved with
  | @reserve _ _ placement _ _ whole free =>
      simp only [State.setResources, Resources.getFreeProcess, free] at member
      refine tenants_updateFirst kept _ _ ?_ process member
      intro process
      rfl
  | addExisting | addSession =>
      refine tenants_updateFirst kept _ _ ?_ process member
      intro process
      rfl
  | addProcess whole free unused =>
      rw [Plane.resources_addProcess (placed.absent unused)] at member
      rcases List.mem_append.mp member with old | last
      · exact kept process old
      · rw [List.mem_singleton.mp last]
        exact served _ (mem_middle whole) _ rfl
  | writeRequest =>
      rw [Plane.processes_writeRequest] at member
      exact kept process member
  | connect | poll =>
      refine tenants_updateFirst kept _ _ ?_ process member
      intro process
      rfl
  | @sendPending processId pending =>
      rcases state.plane.sendPending_cases processId pending with ⟨_, same⟩ | ⟨_, same⟩
      · rw [same, Plane.processes_writeRequest] at member
        exact kept process member
      · rw [same] at member
        exact kept process member
  | @remove _ _ closure =>
      refine tenants_updateFirst kept _ _ ?_ process member
      exact fun process => globalProcessId_removeSession process closure.sessionId
  | reorder permuted => exact kept process (permuted.mem_iff.mp member)
  | _ => exact kept process member

theorem tenants_closures_step (tenants : Tenants state) (moved : Transition state action next)
    (closure : Closure) (member : closure ∈ next.closures) :
    next.registered closure.globalProcessId := by
  have kept : forall closure, closure ∈ state.closures ->
      next.registered closure.globalProcessId :=
    fun closure member => registered_mono moved (tenants.closures closure member)
  have owned : forall process, process ∈ state.plane.resources.processes ->
      next.registered process.globalProcessId :=
    fun process member => registered_mono moved (tenants.processes process member)
  cases moved with
  | deliverClosure found =>
      rcases List.mem_append.mp member with old | last
      · exact kept closure old
      · rw [List.mem_singleton.mp last]
        exact owned _ (Resources.mem_of_getProcess found)
  | remove whole | unmarkOwn whole | addSwapped whole | unmark whole =>
      have owner := kept _ (mem_middle whole)
      refine forall_mem_middle whole kept ?_ closure member
      exact owner
  | _ => exact kept closure member

/-- A session enters a set of swapped-out sessions by a closure that names
both. -/
theorem swapped_step (moved : Transition state action next) {id sessionId : Bytes}
    (member : (Key.sessionsSwapped id, sessionId) ∈ next.plane.redis.sets) :
    (Key.sessionsSwapped id, sessionId) ∈ state.plane.redis.sets ∨
      Exists fun closure => closure ∈ state.closures ∧ closure.globalProcessId = id ∧
        closure.sessionId = sessionId := by
  cases moved with
  | takeSwapped | unmarkOwn | unmark =>
      simp only [State.setRedis, Redis.mem_srem] at member
      exact Or.inl member.1
  | writeRequest =>
      rw [Plane.redis_writeRequest] at member
      exact Or.inl member
  | markAlive =>
      simp only [Plane.markAlive, Redis.mem_sadd, Prod.mk.injEq, reduceCtorEq, false_and,
        false_or] at member
      exact Or.inl member
  | @sendPending processId pending =>
      rcases state.plane.sendPending_cases processId pending with ⟨_, same⟩ | ⟨_, same⟩
      · rw [same, Plane.redis_writeRequest] at member
        exact Or.inl member
      · rw [same] at member
        exact Or.inl member
  | addSwapped whole =>
      simp only [State.setRedis, Redis.mem_sadd, Prod.mk.injEq, Key.sessionsSwapped.injEq] at member
      rcases member with ⟨sameId, sameSession⟩ | old
      · exact Or.inr ⟨_, mem_middle whole, sameId.symm, sameSession.symm⟩
      · exact Or.inl old
  | _ => exact Or.inl member

theorem tenants_swapped_step (tenants : Tenants state) (moved : Transition state action next)
    (id sessionId : Bytes)
    (member : (Key.sessionsSwapped id, sessionId) ∈ next.plane.redis.sets) :
    next.registered id := by
  apply registered_mono moved
  rcases swapped_step moved member with old | ⟨closure, inside, sameId, _⟩
  · exact tenants.swapped id sessionId old
  · rw [← sameId]
    exact tenants.closures closure inside

theorem tenants_initial : Tenants State.initial where
  clients := fun _ member => False.elim (List.not_mem_nil member)
  mutex := by
    intro id named
    cases named
  processes := fun _ member => False.elim (List.not_mem_nil member)
  closures := fun _ member => False.elim (List.not_mem_nil member)
  swapped := fun _ _ member => False.elim (List.not_mem_nil member)

theorem tenants_step (placed : Placed state) (tenants : Tenants state)
    (moved : Transition state action next) : Tenants next where
  clients := tenants_clients_step tenants moved
  mutex := tenants_mutex_step tenants moved
  processes := tenants_processes_step placed tenants moved
  closures := tenants_closures_step tenants moved
  swapped := tenants_swapped_step tenants moved

theorem tenants_of_run {trace : List (State × Action)} {final : State} (run : Run trace final) :
    Tenants final := by
  apply run.traced_invariant (fun _ state => Tenants state) tenants_initial
  intro _ source action target earlier tenants stepped
  exact tenants_step (placed_of_run earlier) tenants (step_transition stepped)

/-! ## A single global process -/

def onlyProcess (id : Bytes) (_state : State) (action : Action) : Bool :=
  match action with
  | .allocate _ uuid => decide (uuid = id)
  | _ => true

/-- With a single allocation, only that process is registered. -/
theorem registered_of_onlyProcess {id : Bytes} {trace : List (State × Action)} {final : State}
    (run : Run trace final)
    (only : TransitionSystem.Guarded (fun state action => onlyProcess id state action = true) trace)
    (other : Bytes) (registered : final.registered other) : other = id := by
  have invariant : forall other, final.registered other -> other = id := by
    refine run.guarded_invariant (fun state => forall other, state.registered other -> other = id)
      ?_ ?_ only
    · intro other impossible
      cases impossible
    · intro source action target known allowed stepped other registered
      rcases registered_step (step_transition stepped) other with same | ⟨_, processName, rfl⟩
      · exact known other (same.mp registered)
      · exact of_decide_eq_true allowed
  exact invariant other registered

end System
end Praas
