import Praas.System.Placement

namespace Praas
namespace System

open Library
open ControlPlane
open Praas.Runtime

/-!
# A session is active in one place

A session is in the list of at most one process worker, in every state that
the system reaches.  Clients that ask for the same swapped-out session compete
for the one reply of Redis that removes it; along a run, no more of them
succeed than closures of the session have been handled.
-/

variable {state next : State} {action : Action}

/-! ## The clients that bring a session back -/

def restores (sessionId : Bytes) (placement : Placement) : Nat :=
  if placement.swapIn = true ∧ placement.sessionId = sessionId then 1 else 0

def Client.restoring (sessionId : Bytes) : Client -> Nat
  | .readDetails call _ => if call.sessionId = sessionId then 1 else 0
  | .findProcess placement => restores sessionId placement
  | .addExisting placement _ => restores sessionId placement
  | .addProcess placement => restores sessionId placement
  | .markAlive placement => restores sessionId placement
  | _ => 0

def sectionRestoring (sessionId : Bytes) : Option Section -> Nat
  | some (.writeRequest _ placement _) => restores sessionId placement
  | some (.addSession _ placement _) => restores sessionId placement
  | some (.allocateProcess _ placement _) => restores sessionId placement
  | _ => 0

/-- The swapped-out sets that hold the session and the clients that have taken
it from one. -/
def State.restoring (state : State) (sessionId : Bytes) : Nat :=
  state.plane.redis.swappedCount sessionId + total (Client.restoring sessionId) state.clients +
    sectionRestoring sessionId state.mutex

theorem Client.Quiet.restoring_le {plane : Plane} {client next : Client}
    (quiet : client.Quiet plane next) (sessionId : Bytes) :
    next.restoring sessionId ≤ client.restoring sessionId := by
  cases quiet with
  | details call processName details =>
      simp only [Client.restoring, restores, ClientCall.restored, true_and]
      exact Nat.le_refl _
  | _ => exact Nat.zero_le _

/-! ## Counting along a run -/

/-- The next step of the client returns with status `200` from a swap-in of
the session. -/
def Client.grants (sessionId : Bytes) : Client -> Nat
  | .markAlive placement => restores sessionId placement
  | _ => 0

/-- The next step of the closure records the session as swapped out. -/
def Closure.closes (sessionId : Bytes) (closure : Closure) : Nat :=
  if closure.stage = .addSwapped ∧ closure.sessionId = sessionId then 1 else 0

/-- The calls of `process_client` that return with status `200` from a swap-in
of the session in this step. -/
def grants (sessionId : Bytes) (entry : State × Action) : Nat :=
  match entry.2 with
  | .client index _ => entry.1.clients[index]?.elim 0 (Client.grants sessionId)
  | _ => 0

/-- The calls of `handle_session_closure` that record the session as swapped
out in this step. -/
def closes (sessionId : Bytes) (entry : State × Action) : Nat :=
  match entry.2 with
  | .closure index => entry.1.closures[index]?.elim 0 (Closure.closes sessionId)
  | _ => 0

theorem grants_client {before after : List Client} {client : Client}
    (whole : state.clients = before ++ client :: after) (sessionId uuid : Bytes) :
    grants sessionId (state, .client before.length uuid) = client.grants sessionId := by
  simp only [grants, getElem?_middle whole, Option.elim_some]

theorem closes_closure {before after : List Closure} {closure : Closure}
    (whole : state.closures = before ++ closure :: after) (sessionId : Bytes) :
    closes sessionId (state, .closure before.length) = closure.closes sessionId := by
  simp only [closes, getElem?_middle whole, Option.elim_some]

theorem Client.Quiet.grants_zero {plane : Plane} {client next : Client}
    (quiet : client.Quiet plane next) (sessionId : Bytes) : client.grants sessionId = 0 := by
  cases quiet <;> rfl

/-- A step that returns with status `200` uses up what it grants, and only the
closure of the session makes more. -/
theorem restoring_step (moved : Transition state action next) (sessionId : Bytes) :
    grants sessionId (state, action) + next.restoring sessionId ≤
      state.restoring sessionId + closes sessionId (state, action) := by
  cases moved with
  | call =>
      simp only [grants, closes, State.restoring, total_append, total_cons, total_nil,
        Client.restoring]
      omega
  | quiet whole quiet =>
      have fewer := quiet.restoring_le sessionId
      rw [grants_client whole, quiet.grants_zero sessionId]
      simp only [closes, State.restoring, whole, total_append, total_cons]
      omega
  | @takeSwapped _ _ call _ _ whole removed =>
      rw [grants_client whole]
      simp only [closes, State.restoring, State.setRedis, whole, total_append, total_cons,
        Client.grants, Client.restoring]
      by_cases same : call.sessionId = sessionId
      · have taken := state.plane.redis.swappedCount_srem_found call.processId call.sessionId removed
        rw [same] at taken
        rw [if_pos same, same]
        omega
      · rw [if_neg same, Redis.swappedCount_srem_of_ne _ _ same]
        omega
  | recordDetails whole =>
      rw [grants_client whole]
      simp only [closes, State.restoring, State.setRedis, whole, total_append, total_cons,
        Client.grants, Client.restoring, restores, ClientCall.created, Redis.swappedCount_set,
        Bool.false_eq_true, false_and, if_false]
      omega
  | reserve whole =>
      rw [grants_client whole]
      simp only [closes, State.restoring, State.setResources, whole, total_append, total_cons,
        Client.grants, Client.restoring]
      omega
  | allBusy whole =>
      rw [grants_client whole]
      simp only [closes, State.restoring, whole, total_append, total_cons, Client.grants,
        Client.restoring]
      omega
  | addExisting whole free =>
      rw [grants_client whole]
      simp only [closes, State.restoring, Plane.addSession, whole, free, total_append, total_cons,
        Client.grants, Client.restoring, sectionRestoring]
      omega
  | addProcess whole free =>
      rw [grants_client whole]
      simp only [closes, State.restoring, Plane.addProcess, whole, free, total_append, total_cons,
        Client.grants, Client.restoring, sectionRestoring]
      omega
  | writeRequest whole held =>
      rw [grants_client whole]
      simp only [closes, State.restoring, Plane.redis_writeRequest, whole, held, total_append,
        total_cons, Client.grants, Client.restoring, sectionRestoring]
      omega
  | addSession whole held =>
      rw [grants_client whole]
      simp only [closes, State.restoring, Plane.addSession, held, Client.grants, sectionRestoring]
      omega
  | allocateProcess whole held =>
      rw [grants_client whole]
      simp only [closes, State.restoring, Plane.allocateProcess, whole, held, total_append,
        total_cons, Client.grants, Client.restoring, sectionRestoring]
      omega
  | markAlive whole =>
      rw [grants_client whole]
      simp only [closes, State.restoring, Plane.markAlive, Redis.swappedCount_sadd_alive, whole,
        total_append, total_cons, Client.grants, Client.restoring]
      omega
  | enterPending _ free =>
      simp only [grants, closes, State.restoring, free, sectionRestoring]
      omega
  | @sendPending processId pending _ _ held =>
      have same : (state.plane.sendPending processId pending).redis = state.plane.redis := by
        rcases state.plane.sendPending_cases processId pending with ⟨_, same⟩ | ⟨_, same⟩
        · rw [same, Plane.redis_writeRequest]
        · rw [same]
      simp only [grants, closes, State.restoring, same, held, sectionRestoring]
      omega
  | poll held =>
      simp only [grants, closes, State.restoring, Plane.poll, held, sectionRestoring]
      omega
  | remove =>
      simp only [grants, State.restoring, State.setResources]
      omega
  | unmarkOwn =>
      simp only [grants, State.restoring, State.setRedis, Redis.swappedCount_srem_alive]
      omega
  | @addSwapped _ _ closure whole stage =>
      have more := state.plane.redis.swappedCount_sadd_swapped_le closure.globalProcessId
        closure.sessionId sessionId
      rw [closes_closure whole]
      simp only [grants, State.restoring, State.setRedis, Closure.closes, stage, true_and]
      omega
  | unmark =>
      simp only [grants, State.restoring, State.setRedis, Redis.swappedCount_srem_alive]
      omega
  | _ =>
      simp only [grants, closes]
      exact Nat.le_of_eq (Nat.zero_add _)

/-- Along a run, the swap-ins of a session that returned, those on their way
and the session's places in swapped-out sets never outnumber its closures. -/
theorem restoring_of_run {trace : List (State × Action)} {final : State} (run : Run trace final)
    (sessionId : Bytes) :
    total (grants sessionId) trace + final.restoring sessionId ≤ total (closes sessionId) trace := by
  apply run.traced_invariant (fun trace state =>
    total (grants sessionId) trace + state.restoring sessionId ≤ total (closes sessionId) trace)
  · exact Nat.le_refl 0
  · intro trace source action target _ bound stepped
    have counted := restoring_step (step_transition stepped) sessionId
    simp only [total_append, total_cons, total_nil]
    omega

/-- In every state reached, a session is in the list of at most one process
worker and at most once there, and at most one swap-in of it has returned with
status `200` for every closure of it. -/
theorem single_activation {trace : List (State × Action)} {final : State} (run : Run trace final)
    (sessionId : Bytes) :
    (forall left right, 0 < (final.nodes left).worker.running sessionId ->
        0 < (final.nodes right).worker.running sessionId -> left = right) ∧
      (forall id, (final.nodes id).worker.running sessionId ≤ 1) ∧
      total (grants sessionId) trace ≤ total (closes sessionId) trace := by
  have placed := placed_of_run run
  refine ⟨?_, ?_, ?_⟩
  · intro left right onLeft onRight
    by_contra different
    have one := running_at_most_one placed sessionId different
    omega
  · intro id
    have single := placed.single sessionId
    have backed := placed.backed id sessionId
    have below := final.plane.resources.listedAt_le_listed id sessionId
    simp only [State.tokens] at single
    simp only [State.carried, Node.carries] at backed
    omega
  · have bound := restoring_of_run run sessionId
    omega

/-- The second client swaps the session in again. -/
def swapInAgain : List Action :=
  placeSession ++ .client 0 [] :: connectWorker ++ runSession true ++ handleClosure ++
    .call swapInCall :: List.replicate 8 (.client 1 [])

theorem single_activation_swapInAgain :
    Exists fun trace => Exists fun final => Run trace final ∧
      total (closes [2]) trace = 1 ∧ total (grants [2]) trace = 1 ∧
      total (grants [2]) trace ≤ total (closes [2]) trace := by
  have found := TransitionSystem.exists_run system State.initial swapInAgain (fun trace _ =>
    decide (total (closes [2]) trace = 1 ∧ total (grants [2]) trace = 1)) (by decide +kernel)
  rcases found with ⟨trace, final, run, tested⟩
  have counted := of_decide_eq_true tested
  exact ⟨trace, final, run, counted.1, counted.2, (single_activation run [2]).2.2⟩

end System
end Praas
