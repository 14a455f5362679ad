import Praas.ControlPlane.Listing
import Praas.System.Transition

namespace Praas
namespace System

open Library
open ControlPlane
open Praas.Runtime

/-!
# Where a session can be

Two counts are kept for every session.  `tokens` counts the places at the
control plane that entitle somebody to run the session: a swapped-out set that
holds it, a client that has taken it, the list of a process, a closure that
has taken it off such a list.  There is exactly one from the moment the record
of the session is written.

`carried` counts, for one process worker, the copies of the session on the
worker's side of the connection, from the request on its way to the closure
that has not been applied yet, and `due` the requests that the control plane
has still to write.  Both together never exceed the number of times the
control plane lists the session for that process.
-/

/-- The client has taken the session and has not listed it yet. -/
def Client.holds (sessionId : Bytes) : Client -> Nat
  | .readDetails call _ => if call.sessionId = sessionId then 1 else 0
  | .findProcess placement => if placement.sessionId = sessionId then 1 else 0
  | .addExisting placement _ => if placement.sessionId = sessionId then 1 else 0
  | .addProcess placement => if placement.sessionId = sessionId then 1 else 0
  | _ => 0

/-- The section has a new process and has not listed the session yet. -/
def sectionHolds (sessionId : Bytes) : Option Section -> Nat
  | some (.addSession _ placement _) => if placement.sessionId = sessionId then 1 else 0
  | _ => 0

/-- The closure has taken the session off its list and has not recorded it as
swapped out. -/
def Closure.holds (sessionId : Bytes) (closure : Closure) : Nat :=
  match closure.stage with
  | .unmarkOwn => if closure.sessionId = sessionId then 1 else 0
  | .addSwapped => if closure.sessionId = sessionId then 1 else 0
  | _ => 0

/-- The closure has yet to take the session off the list of the process. -/
def Closure.removes (id sessionId : Bytes) (closure : Closure) : Nat :=
  if closure.stage = .remove ∧ closure.processId = id ∧ closure.sessionId = sessionId then 1 else 0

def announced (sessionId : Bytes) (messages : List StatusMessage) : Nat :=
  messages.countP (fun message => message.isClosure && decide (message.sessionId = sessionId))

def requested (sessionId : Bytes) (requests : List SessionRequest) : Nat :=
  requests.countP (fun request => decide (request.sessionId = sessionId))

/-- The copies of a session at a process worker and on its connection. -/
def Node.carries (node : Node) (outgoing : List SessionRequest) (sessionId : Bytes) : Nat :=
  requested sessionId (outgoing.drop node.consumed) + node.worker.running sessionId +
    announced sessionId node.closing + announced sessionId node.outbox

namespace State

/-- The places that entitle somebody to run the session, counted over the whole
system.  Every step moves a session from one of them to another, and none makes
a second copy. -/
def tokens (state : State) (sessionId : Bytes) : Nat :=
  state.plane.redis.swappedCount sessionId + total (Client.holds sessionId) state.clients +
    sectionHolds sessionId state.mutex + state.plane.resources.listed sessionId +
    total (Closure.holds sessionId) state.closures

def carried (state : State) (id sessionId : Bytes) : Nat :=
  (state.nodes id).carries (state.plane.outgoing id) sessionId +
    total (Closure.removes id sessionId) state.closures

/-- The listings of a session that wait for `process_process`. -/
def unsent (state : State) (id sessionId : Bytes) : Nat :=
  if state.plane.resources.isUnsent sessionId then state.plane.resources.listedAt id sessionId else 0

/-- The requests that the control plane has still to write to a process. -/
def due (state : State) (id sessionId : Bytes) : Nat :=
  match state.mutex with
  | some (.writeRequest _ placement processId) =>
      if placement.sessionId = sessionId then (if processId = id then 1 else 0)
      else state.unsent id sessionId
  | _ => state.unsent id sessionId

end State

/-- The control plane holds a record of the session. -/
def State.recorded (state : State) (sessionId : Bytes) : Prop :=
  (state.plane.redis.get (.session sessionId)).isSome = true

/-- The invariant of the system: for every session the places that entitle
somebody to run it, and the listings and requests on its way to a worker, are
in balance. That a session is never active twice follows from it. -/
structure Placed (state : State) : Prop where
  distinct : state.plane.resources.processIds.Nodup
  known : forall id, id ∈ state.plane.resources.processIds -> id ∈ state.used
  opened : forall owner placement id, state.mutex = some (.addSession owner placement id) ->
    id ∈ state.plane.resources.processIds
  keyed : state.plane.resources.Keyed
  single : forall sessionId, state.tokens sessionId ≤ 1
  issued : forall sessionId, 0 < state.tokens sessionId -> sessionId ∈ state.used
  conserved : forall sessionId, state.recorded sessionId ↔ 0 < state.tokens sessionId
  backed : forall id sessionId,
    state.carried id sessionId + state.due id sessionId ≤
      state.plane.resources.listedAt id sessionId

/-- The part of the invariant that is about identifiers only: those of the
processes are distinct and in use, and every entry of the table of sessions is
found under its own. -/
structure Registered (state : State) : Prop where
  distinct : state.plane.resources.processIds.Nodup
  known : forall id, id ∈ state.plane.resources.processIds -> id ∈ state.used
  opened : forall owner placement id, state.mutex = some (.addSession owner placement id) ->
    id ∈ state.plane.resources.processIds
  keyed : state.plane.resources.Keyed

theorem Placed.registered {state : State} (placed : Placed state) : Registered state :=
  ⟨placed.distinct, placed.known, placed.opened, placed.keyed⟩

/-! ## Small facts about the counts -/

/-- A quiet move keeps what the client holds, as long as the record of the
session is there. -/
theorem Client.Quiet.holds_eq {plane : Plane} {client next : Client} (quiet : client.Quiet plane next)
    {sessionId : Bytes} (recorded : 0 < client.holds sessionId ->
      (plane.redis.get (.session sessionId)).isSome = true) :
    next.holds sessionId = client.holds sessionId := by
  cases quiet with
  | detailsMissing call processName missing =>
      simp only [Client.holds] at recorded ⊢
      split at recorded
      · rename_i same
        have present := recorded Nat.zero_lt_one
        rw [← same, missing] at present
        cases present
      · rename_i different
        rw [if_neg different]
  | _ => rfl

theorem requested_append (sessionId : Bytes) (left right : List SessionRequest) :
    requested sessionId (left ++ right) = requested sessionId left + requested sessionId right :=
  List.countP_append

theorem announced_append (sessionId : Bytes) (left right : List StatusMessage) :
    announced sessionId (left ++ right) = announced sessionId left + announced sessionId right :=
  List.countP_append

theorem announced_cons (sessionId : Bytes) (message : StatusMessage) (rest : List StatusMessage) :
    announced sessionId (message :: rest) = announced sessionId [message] + announced sessionId rest :=
  announced_append sessionId [message] rest

theorem announced_answer (sessionId : Bytes) {message : StatusMessage}
    (answer : message.isClosure = false) : announced sessionId [message] = 0 := by
  simp [announced, answer]

theorem announced_closure (sessionId : Bytes) {message : StatusMessage}
    (closes : message.isClosure = true) :
    announced sessionId [message] = if message.sessionId = sessionId then 1 else 0 := by
  simp [announced, closes]

theorem carries_append_le (node : Node) (outgoing more : List SessionRequest) (sessionId : Bytes) :
    node.carries (outgoing ++ more) sessionId ≤
      node.carries outgoing sessionId + requested sessionId more := by
  have fewer : requested sessionId (more.drop (node.consumed - outgoing.length)) ≤
      requested sessionId more :=
    (List.drop_sublist _ _).countP_le
  simp only [Node.carries, List.drop_append, requested_append]
  omega

/-- A request is written for its own session only. -/
theorem requested_written_le {plane : Plane} (keyed : plane.resources.Keyed)
    (id sessionId other : Bytes) :
    requested other (plane.written id sessionId) ≤ if sessionId = other then 1 else 0 := by
  unfold Plane.written
  split
  · cases entry : plane.resources.sessions sessionId with
    | none => exact Nat.zero_le _
    | some session =>
        have named := keyed _ _ entry
        simp only [requested, List.countP_singleton, named, decide_eq_true_eq]
        exact Nat.le_refl _
  · exact Nat.zero_le _

theorem requested_writeRequest (plane : Plane) (processId written id sessionId : Bytes) :
    requested sessionId ((plane.writeRequest processId written).outgoing id) =
      requested sessionId (plane.outgoing id) +
        (if id = processId then requested sessionId (plane.written processId written) else 0) := by
  rw [Plane.outgoing_writeRequest]
  by_cases here : id = processId
  · subst here
    rw [Function.update_self, if_pos rfl, requested_append]
  · rw [Function.update_of_ne here, if_neg here, Nat.add_zero]

theorem carries_writeRequest_le (plane : Plane) (node : Node) (processId written id sessionId : Bytes) :
    node.carries ((plane.writeRequest processId written).outgoing id) sessionId +
        requested sessionId (plane.outgoing id) ≤
      node.carries (plane.outgoing id) sessionId +
        requested sessionId ((plane.writeRequest processId written).outgoing id) := by
  rw [Plane.outgoing_writeRequest]
  by_cases here : id = processId
  · subst here
    have more := carries_append_le node (plane.outgoing id) (plane.written id written) sessionId
    rw [Function.update_self, requested_append]
    omega
  · rw [Function.update_of_ne here]

/-- Reading a request moves it from the connection to the worker, or drops
it. -/
theorem carries_receive_le {node : Node} {outgoing : List SessionRequest} {request : SessionRequest}
    (next : outgoing[node.consumed]? = some request) (store : ObjectStore) (calls : Syscalls)
    (answer : Option (ErrorCode × Bytes)) (sessionId : Bytes) :
    ({ node with
        worker := (node.worker.allocateSession store request calls).2
        consumed := node.consumed + 1
        answering := answer } : Node).carries outgoing sessionId ≤
      node.carries outgoing sessionId := by
  have grown := node.worker.running_allocateSession_le store request calls sessionId
  have inside := List.getElem?_eq_some_iff.mp next
  rcases inside with ⟨bound, value⟩
  have cut : outgoing.drop node.consumed = request :: outgoing.drop (node.consumed + 1) := by
    rw [List.drop_eq_getElem_cons bound, value]
  simp only [Node.carries, cut, requested, List.countP_cons, decide_eq_true_eq]
  omega

/-- A deletion turns a running session into a closure. -/
theorem carries_sessionDeleted {node : Node} {pid : Int} {entry : SessionFork}
    {message : StatusMessage} {store : ObjectStore} {putObject : Bool}
    (found : node.worker.deletedEntry pid = some entry)
    (sent : (node.worker.sessionDeleted store pid putObject).2.2 = some message)
    (outgoing : List SessionRequest) (sessionId : Bytes) :
    ({ node with
        worker := (node.worker.sessionDeleted store pid putObject).1
        closing := node.closing ++ [message] } : Node).carries outgoing sessionId =
      node.carries outgoing sessionId := by
  have left := Worker.running_sessionDeleted found store putObject sessionId
  rcases Worker.message_sessionDeleted found store putObject with ⟨size, same⟩
  rw [sent] at same
  cases same
  have closes := announced_closure sessionId (isClosure_closure size entry.sessionId)
  change _ = if entry.sessionId = sessionId then 1 else 0 at closes
  simp only [Node.carries, announced_append, closes]
  omega

end System
end Praas
