import Praas.Runtime.WorkerMemory
import Praas.System.Tenants

namespace Praas
namespace System

open Library
open ControlPlane
open Praas.Runtime

/-!
# A swapped-out session and its image in the store

`session_deleted` asks the swapper to store the memory of an ended session,
ignores the answer, and announces the closure in every case; with swapping
disabled it asks nobody.  `handle_session_closure` then records the session as
swapped out without looking at the reported size.  A session is therefore
recorded as swapped out whether or not its image has been stored.

In a run in which every deletion is made with swapping enabled and a transfer
that succeeds, the image of the latest deletion of every session in a set of
swapped-out sessions is in the store.
-/

variable {state next : State} {action : Action}

/-- The deletion of a session is made with swapping enabled, a client, and a
transfer that succeeds. -/
def storesImage (state : State) (action : Action) : Bool :=
  match action with
  | .sessionDeleted processId pid putObject =>
      let worker := (state.nodes processId).worker
      (worker.deletedEntry pid).isNone ||
        (worker.swapper.enabled && worker.swapper.client && putObject)
  | _ => true

/-- The bucket of the worker and the memory image of the session, when the
step deletes the session. -/
def finalImage (sessionId : Bytes) (entry : State × Action) : Option (Bytes × Bytes) :=
  match entry.2 with
  | .sessionDeleted processId pid _ =>
      let worker := (entry.1.nodes processId).worker
      match worker.deletedEntry pid with
      | some deleted =>
          if deleted.sessionId = sessionId then
            some (worker.swapper.bucket, deleted.memory.image worker.objects)
          else none
      | none => none
  | _ => none

/-- The image with which the session was deleted last. -/
def lastImage (sessionId : Bytes) (trace : List (State × Action)) : Option (Bytes × Bytes) :=
  trace.reverse.findSome? (finalImage sessionId)

theorem lastImage_append (sessionId : Bytes) (trace : List (State × Action))
    (entry : State × Action) :
    lastImage sessionId (trace ++ [entry]) =
      (finalImage sessionId entry).or (lastImage sessionId trace) := by
  simp only [lastImage, List.reverse_append, List.reverse_singleton, List.singleton_append,
    List.findSome?_cons]
  cases finalImage sessionId entry <;> rfl

theorem lastImage_append_none {sessionId : Bytes} {entry : State × Action}
    (silent : finalImage sessionId entry = none) (trace : List (State × Action)) :
    lastImage sessionId (trace ++ [entry]) = lastImage sessionId trace := by
  rw [lastImage_append, silent, Option.none_or]

theorem lastImage_isSome_append {sessionId : Bytes} {trace : List (State × Action)}
    (deleted : (lastImage sessionId trace).isSome) (entry : State × Action) :
    (lastImage sessionId (trace ++ [entry])).isSome := by
  rw [lastImage_append]
  cases finalImage sessionId entry with
  | none => exact deleted
  | some _ => rfl

/-- A property of every process worker is kept by a change of one of them. -/
theorem forall_setNode (property : Node -> Prop) (every : forall id, property (state.nodes id))
    {processId : Bytes} {node : Node} (sound : property node) (id : Bytes) :
    property ((state.setNode processId node).nodes id) := by
  change property (Function.update state.nodes processId node id)
  by_cases here : id = processId
  · rw [here, Function.update_self]
    exact sound
  · rw [Function.update_of_ne here]
    exact every id

/-! ## The workers' mappings -/

/-- The mappings of every process worker are sound. -/
def State.mapped (state : State) : Prop :=
  forall id, (state.nodes id).worker.Mapped

theorem mapped_step (mapped : state.mapped) (moved : Transition state action next) :
    next.mapped := by
  have changed : forall {processId : Bytes} {node : Node}, node.worker.Mapped ->
      forall id, ((state.setNode processId node).nodes id).worker.Mapped := fun sound id =>
    forall_setNode (fun node => node.worker.Mapped) mapped sound id
  cases moved with
  | connect => exact changed (Worker.mapped_start _ _)
  | receive => exact changed (Worker.mapped_allocateSession (mapped _) _ _ _)
  | @answer processId | @writeClosure processId | @deliverAnswer processId
  | @deliverClosure processId => exact changed (mapped processId)
  | touch sameLength => exact changed (Worker.mapped_touch (mapped _) sameLength)
  | sessionDeleted => exact changed (Worker.mapped_sessionDeleted (mapped _) _ _ _)
  | _ => exact mapped

theorem mapped_of_run {trace : List (State × Action)} {final : State} (run : Run trace final) :
    final.mapped := by
  apply run.invariant State.mapped
  · intro id
    exact Worker.mapped_start _ _
  · intro source action target mapped stepped
    exact mapped_step mapped (step_transition stepped)

/-! ## Only deleted sessions are reported -/

/-- The closures that a process worker holds for the control plane are those
of deleted sessions. -/
structure Node.Reports (deleted : Bytes -> Prop) (node : Node) : Prop where
  closing : forall message, message ∈ node.closing -> deleted message.sessionId
  outbox : forall message, message ∈ node.outbox -> message.isClosure = true ->
    deleted message.sessionId

/-- Every session on its way to a set of swapped-out sessions, or in one, has
been deleted. -/
structure Reported (deleted : Bytes -> Prop) (state : State) : Prop where
  nodes : forall id, (state.nodes id).Reports deleted
  closures : forall closure, closure ∈ state.closures -> deleted closure.sessionId
  swapped : forall id sessionId, (Key.sessionsSwapped id, sessionId) ∈ state.plane.redis.sets ->
    deleted sessionId

theorem Reported.mono {deleted later : Bytes -> Prop} (reported : Reported deleted state)
    (more : forall sessionId, deleted sessionId -> later sessionId) : Reported later state where
  nodes := fun id => {
    closing := fun message member => more _ ((reported.nodes id).closing message member)
    outbox := fun message member closes => more _ ((reported.nodes id).outbox message member closes) }
  closures := fun closure member => more _ (reported.closures closure member)
  swapped := fun id sessionId member => more _ (reported.swapped id sessionId member)

/-- The closure message of a deletion names the session deleted. -/
theorem finalImage_message {processId : Bytes} {pid : Int} {putObject : Bool}
    {entry : SessionFork} {message : StatusMessage}
    (found : (state.nodes processId).worker.deletedEntry pid = some entry)
    (sent : ((state.nodes processId).worker.sessionDeleted state.store pid putObject).2.2 =
      some message) :
    (finalImage message.sessionId (state, .sessionDeleted processId pid putObject)).isSome := by
  rcases Worker.message_sessionDeleted found state.store putObject with ⟨size, same⟩
  rw [sent] at same
  cases same
  simp only [finalImage, found, StatusMessage.closure, if_true, Option.isSome_some]

theorem reported_nodes_step {deleted : Bytes -> Prop} (reported : Reported deleted state)
    (moved : Transition state action next)
    (recorded : forall sessionId, (finalImage sessionId (state, action)).isSome ->
      deleted sessionId) (id : Bytes) : (next.nodes id).Reports deleted := by
  have changed : forall {processId : Bytes} {node : Node}, node.Reports deleted ->
      forall id, ((state.setNode processId node).nodes id).Reports deleted := fun sound id =>
    forall_setNode (Node.Reports deleted) reported.nodes sound id
  cases moved with
  | @connect processId | @receive processId | @touch processId =>
      refine changed ?_ id
      exact ⟨(reported.nodes processId).closing, (reported.nodes processId).outbox⟩
  | @answer processId answered result =>
      refine changed ?_ id
      refine ⟨(reported.nodes processId).closing, ?_⟩
      intro message member closes
      rcases List.mem_append.mp member with old | last
      · exact (reported.nodes processId).outbox message old closes
      · rw [List.mem_singleton.mp last, isClosure_answer] at closes
        exact absurd closes Bool.false_ne_true
  | @sessionDeleted processId pid putObject entry announcement up found sent =>
      refine changed ?_ id
      refine ⟨?_, (reported.nodes processId).outbox⟩
      intro message member
      rcases List.mem_append.mp member with old | last
      · exact (reported.nodes processId).closing message old
      · rw [List.mem_singleton.mp last]
        exact recorded _ (finalImage_message found sent)
  | @writeClosure processId before after announcement whole =>
      have inside : forall message, message ∈ before ++ announcement :: after ->
          deleted message.sessionId := by
        rw [← whole]
        exact (reported.nodes processId).closing
      refine changed ?_ id
      constructor
      · intro message member
        apply inside message
        rcases List.mem_append.mp member with first | second
        · exact List.mem_append_left _ first
        · exact List.mem_append_right _ (List.mem_cons_of_mem _ second)
      · intro message member closes
        rcases List.mem_append.mp member with old | last
        · exact (reported.nodes processId).outbox message old closes
        · rw [List.mem_singleton.mp last]
          exact inside announcement (List.mem_append_right _ List.mem_cons_self)
  | @deliverAnswer processId _ _ queued | @deliverClosure processId _ _ _ _ queued =>
      refine changed ?_ id
      refine ⟨(reported.nodes processId).closing, ?_⟩
      intro message member
      apply (reported.nodes processId).outbox message
      rw [queued]
      exact List.mem_cons_of_mem _ member
  | _ => exact reported.nodes id

theorem reported_closures_step {deleted : Bytes -> Prop} (reported : Reported deleted state)
    (moved : Transition state action next) (closure : Closure) (member : closure ∈ next.closures) :
    deleted closure.sessionId := by
  cases moved with
  | @deliverClosure processId _ message _ _ queued closes =>
      rcases List.mem_append.mp member with old | last
      · exact reported.closures closure old
      · rw [List.mem_singleton.mp last]
        apply (reported.nodes processId).outbox message _ closes
        rw [queued]
        exact List.mem_cons_self
  | remove whole | unmarkOwn whole | addSwapped whole | unmark whole =>
      have named := reported.closures _ (mem_middle whole)
      refine forall_mem_middle whole reported.closures ?_ closure member
      exact named
  | _ => exact reported.closures closure member

theorem reported_step {deleted : Bytes -> Prop} (reported : Reported deleted state)
    (moved : Transition state action next)
    (recorded : forall sessionId, (finalImage sessionId (state, action)).isSome ->
      deleted sessionId) : Reported deleted next where
  nodes := reported_nodes_step reported moved recorded
  closures := reported_closures_step reported moved
  swapped := by
    intro id sessionId member
    rcases swapped_step moved member with old | ⟨closure, inside, _, same⟩
    · exact reported.swapped id sessionId old
    · rw [← same]
      exact reported.closures closure inside

def wasDeleted (trace : List (State × Action)) (sessionId : Bytes) : Prop :=
  (lastImage sessionId trace).isSome = true

theorem reported_of_run {trace : List (State × Action)} {final : State} (run : Run trace final) :
    Reported (wasDeleted trace) final := by
  apply run.traced_invariant (fun trace state => Reported (wasDeleted trace) state)
  · exact {
      nodes := fun _ => {
        closing := fun _ member => False.elim (List.not_mem_nil member)
        outbox := fun _ member => False.elim (List.not_mem_nil member) }
      closures := fun _ member => False.elim (List.not_mem_nil member)
      swapped := fun _ _ member => False.elim (List.not_mem_nil member) }
  · intro trace source action target _ reported stepped
    have later := reported.mono (fun sessionId deleted =>
      lastImage_isSome_append deleted (source, action))
    apply reported_step later (step_transition stepped)
    intro sessionId deleted
    rcases Option.isSome_iff_exists.mp deleted with ⟨image, found⟩
    rw [lastImage_append, found]
    rfl

/-! ## The store holds the last image -/

/-- The store holds the image with which the session was deleted last, for every
session for which the transfer of that image has succeeded.  A later swap of
another session has another key and does not change this. -/
def Stored (trace : List (State × Action)) (state : State) : Prop :=
  forall sessionId bucket image, lastImage sessionId trace = some (bucket, image) ->
    state.store (bucket, sessionId) = some image

theorem stored_kept {trace : List (State × Action)} (stored : Stored trace state)
    (sameStore : next.store = state.store)
    (silent : forall sessionId, finalImage sessionId (state, action) = none) :
    Stored (trace ++ [(state, action)]) next := by
  intro sessionId bucket image last
  rw [lastImage_append_none (silent sessionId)] at last
  rw [sameStore]
  exact stored sessionId bucket image last

theorem stored_deletion {trace : List (State × Action)} (stored : Stored trace state)
    (mapped : state.mapped) {processId : Bytes} {pid : Int} {putObject : Bool}
    {entry : SessionFork} (found : (state.nodes processId).worker.deletedEntry pid = some entry)
    (allowed : storesImage state (.sessionDeleted processId pid putObject) = true)
    (sameStore : next.store =
      ((state.nodes processId).worker.sessionDeleted state.store pid putObject).2.1) :
    Stored (trace ++ [(state, .sessionDeleted processId pid putObject)]) next := by
  simp only [storesImage, found, Option.isNone_some, Bool.false_or, Bool.and_eq_true] at allowed
  rcases allowed with ⟨⟨enabled, client⟩, rfl⟩
  rw [Worker.store_sessionDeleted (mapped processId) found state.store enabled client] at sameStore
  intro sessionId bucket image last
  rw [lastImage_append] at last
  by_cases same : entry.sessionId = sessionId
  · simp only [finalImage, found, same, if_true, Option.some_or, Option.some.injEq,
      Prod.mk.injEq] at last
    rw [sameStore, same, ← last.1, ← last.2, Function.update_self]
  · simp only [finalImage, found, same, if_false, Option.none_or] at last
    rw [sameStore, Function.update_of_ne (fun equal => same (congrArg Prod.snd equal).symm)]
    exact stored sessionId bucket image last

theorem stored_step {trace : List (State × Action)} (stored : Stored trace state)
    (mapped : state.mapped) (allowed : storesImage state action = true)
    (moved : Transition state action next) : Stored (trace ++ [(state, action)]) next := by
  cases moved with
  | deletedNothing absent =>
      apply stored_kept stored rfl
      intro sessionId
      simp only [finalImage, absent]
  | sessionDeleted up found => exact stored_deletion stored mapped found allowed rfl
  | _ => exact stored_kept stored rfl (fun _ => rfl)

theorem stored_of_run {trace : List (State × Action)} {final : State} (run : Run trace final)
    (allowed : TransitionSystem.Guarded (fun state action => storesImage state action = true)
      trace) : Stored trace final := by
  refine run.guarded_traced Stored ?_ ?_ allowed
  · intro sessionId bucket image last
    cases last
  · intro _ source action target earlier _ stored storing stepped
    exact stored_step stored (mapped_of_run earlier) storing (step_transition stepped)

/-- Along every run in which each deletion of a session is made with swapping
enabled and a transfer that succeeds, a session in a set of swapped-out
sessions has been deleted, and the store holds the image its memory had at the
last deletion. -/
theorem swapped_session_stored {trace : List (State × Action)} {final : State}
    (run : Run trace final)
    (allowed : TransitionSystem.Guarded (fun state action => storesImage state action = true)
      trace)
    (id sessionId : Bytes)
    (swapped : (Key.sessionsSwapped id, sessionId) ∈ final.plane.redis.sets) :
    Exists fun bucket => Exists fun image =>
      lastImage sessionId trace = some (bucket, image) ∧
        final.store (bucket, sessionId) = some image := by
  have deleted := (reported_of_run run).swapped id sessionId swapped
  rcases Option.isSome_iff_exists.mp deleted with ⟨⟨bucket, image⟩, last⟩
  exact ⟨bucket, image, last, stored_of_run run allowed sessionId bucket image last⟩

/-- A session is started, ends, and its closure is handled. -/
def swappedOut (putObject : Bool) : List Action :=
  placeSession ++ .client 0 [] :: connectWorker ++ runSession putObject ++ handleClosure

theorem swapped_session_stored_first :
    Exists fun trace => Exists fun final => Run trace final ∧
      Exists fun bucket => Exists fun image => lastImage [2] trace = some (bucket, image) ∧
        final.store (bucket, [2]) = some image := by
  have found := TransitionSystem.exists_run system State.initial (swappedOut true)
    (fun trace final => trace.all (fun entry => storesImage entry.1 entry.2) &&
      decide ((Key.sessionsSwapped [1], [2]) ∈ final.plane.redis.sets)) (by decide +kernel)
  rcases found with ⟨trace, final, run, tested⟩
  simp only [Bool.and_eq_true, decide_eq_true_eq] at tested
  exact ⟨trace, final, run, swapped_session_stored run
    (TransitionSystem.guarded_of_all tested.1) [1] [2] tested.2⟩

/-- The transfer fails, and the session is recorded as swapped out. -/
theorem swapped_session_discarded :
    ¬ forall (trace : List (State × Action)) (final : State), Run trace final ->
      forall id sessionId, (Key.sessionsSwapped id, sessionId) ∈ final.plane.redis.sets ->
      Exists fun bucket => Exists fun image => lastImage sessionId trace = some (bucket, image) ∧
        final.store (bucket, sessionId) = some image := by
  intro always
  have found := TransitionSystem.exists_run system State.initial (swappedOut false)
    (fun trace final => decide ((Key.sessionsSwapped [1], [2]) ∈ final.plane.redis.sets) &&
      (lastImage [2] trace).all (fun last => (final.store (last.1, [2])).isNone))
    (by decide +kernel)
  rcases found with ⟨trace, final, run, tested⟩
  simp only [Bool.and_eq_true, decide_eq_true_eq] at tested
  rcases always trace final run [1] [2] tested.1 with ⟨bucket, image, last, stored⟩
  have lost := tested.2
  simp only [last, Option.all_some, stored, Option.isNone_some] at lost
  exact Bool.false_ne_true lost

end System
end Praas
