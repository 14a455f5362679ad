import Praas.System.Ledger

namespace Praas
namespace System

open Library
open ControlPlane
open Praas.Runtime

/-!
# The invariant of placement

Every step keeps `Placed`.  Each field is followed through the steps on its
own; the removal of a session by a closure is the only step where the single
token needs the bound on what a process worker carries, since it is that bound
which says that the session is still on the list.
-/

variable {state next : State} {action : Action}

theorem Registered.absent (registered : Registered state) {uuid : Bytes} (unused : uuid ∉ state.used) :
    uuid ∉ state.plane.resources.processIds :=
  fun member => unused (registered.known uuid member)

theorem used_step (moved : Transition state action next) {id : Bytes} (old : id ∈ state.used) :
    id ∈ next.used := by
  cases moved with
  | allocate => exact List.mem_cons_of_mem _ old
  | recordDetails => exact List.mem_cons_of_mem _ old
  | addProcess => exact List.mem_cons_of_mem _ old
  | _ => exact old

/-- The identifiers of the processes are permuted, or one is new. -/
theorem processIds_step (registered : Registered state) (moved : Transition state action next) :
    next.plane.resources.processIds.Perm state.plane.resources.processIds ∨
      Exists fun uuid => uuid ∉ state.used ∧ uuid ∈ next.used ∧
        next.plane.resources.processIds = state.plane.resources.processIds ++ [uuid] := by
  cases moved with
  | reserve =>
      left
      rw [State.setResources, Resources.processIds_getFreeProcess]
  | addExisting =>
      left
      rw [Plane.processIds_addSession]
  | @addProcess _ _ placement uuid whole free unused =>
      have absent := registered.absent unused
      exact Or.inr ⟨uuid, unused, List.mem_cons_self, Plane.processIds_addProcess absent placement⟩
  | writeRequest =>
      left
      rw [Plane.processIds_writeRequest]
  | addSession =>
      left
      rw [Plane.processIds_addSession]
  | connect =>
      left
      rw [Plane.processIds_connect]
  | @sendPending processId sessionId =>
      left
      rcases state.plane.sendPending_cases processId sessionId with ⟨_, same⟩ | ⟨_, same⟩
      · rw [same, Plane.processIds_writeRequest]
      · rw [same]
  | poll =>
      left
      rw [Plane.processIds_poll]
  | remove =>
      left
      rw [State.setResources, Resources.processIds_removeSession]
  | reorder permuted => exact Or.inl (permuted.map _)
  | _ => exact Or.inl (List.Perm.refl _)

theorem mem_processIds_step (registered : Registered state) (moved : Transition state action next)
    {id : Bytes} (member : id ∈ state.plane.resources.processIds) :
    id ∈ next.plane.resources.processIds := by
  rcases processIds_step registered moved with permuted | ⟨uuid, _, _, same⟩
  · exact permuted.mem_iff.mpr member
  · rw [same]
    exact List.mem_append.mpr (Or.inl member)

theorem distinct_step (registered : Registered state) (moved : Transition state action next) :
    next.plane.resources.processIds.Nodup := by
  rcases processIds_step registered moved with permuted | ⟨uuid, unused, _, same⟩
  · exact permuted.nodup_iff.mpr registered.distinct
  · rw [same]
    refine List.nodup_append.mpr ⟨registered.distinct, List.pairwise_singleton _ uuid, ?_⟩
    intro id member other last equal
    rw [List.mem_singleton.mp last] at equal
    exact unused (equal ▸ registered.known id member)

theorem known_step (registered : Registered state) (moved : Transition state action next) {id : Bytes}
    (member : id ∈ next.plane.resources.processIds) : id ∈ next.used := by
  rcases processIds_step registered moved with permuted | ⟨uuid, _, recorded, same⟩
  · exact used_step moved (registered.known id (permuted.mem_iff.mp member))
  · rw [same] at member
    rcases List.mem_append.mp member with old | last
    · exact used_step moved (registered.known id old)
    · rw [List.mem_singleton.mp last]
      exact recorded

theorem opened_step (registered : Registered state) (moved : Transition state action next)
    {owner : Nat} {placement : Placement} {id : Bytes}
    (held : next.mutex = some (.addSession owner placement id)) :
    id ∈ next.plane.resources.processIds := by
  have kept := fun same => mem_processIds_step registered moved (registered.opened owner placement id same)
  cases moved with
  | addExisting => cases held
  | @addProcess _ _ placement uuid whole free unused =>
      have absent := registered.absent unused
      cases held
      rw [Plane.processIds_addProcess absent placement]
      exact List.mem_append.mpr (Or.inr (List.mem_singleton.mpr rfl))
  | writeRequest => cases held
  | addSession => cases held
  | allocateProcess => cases held
  | enterPending => cases held
  | sendPending => cases held
  | poll => cases held
  | _ => exact kept held

theorem keyed_step (registered : Registered state) (moved : Transition state action next) :
    next.plane.resources.Keyed := by
  cases moved with
  | reserve =>
      intro id session entry
      rw [State.setResources, Resources.sessions_getFreeProcess] at entry
      exact registered.keyed id session entry
  | addExisting => exact Plane.keyed_addSession registered.keyed _ _
  | @addProcess _ _ placement uuid whole free unused =>
      have absent := registered.absent unused
      intro id session entry
      rw [Plane.resources_addProcess absent] at entry
      exact registered.keyed id session entry
  | writeRequest => exact Plane.keyed_writeRequest registered.keyed _ _
  | addSession => exact Plane.keyed_addSession registered.keyed _ _
  | @sendPending processId sessionId =>
      rcases state.plane.sendPending_cases processId sessionId with ⟨_, same⟩ | ⟨_, same⟩
      · rw [same]
        exact Plane.keyed_writeRequest registered.keyed _ _
      · rw [same]
        exact registered.keyed
  | _ => exact registered.keyed

theorem registered_of_transition (registered : Registered state)
    (moved : Transition state action next) : Registered next where
  distinct := distinct_step registered moved
  known := fun _ member => known_step registered moved member
  opened := fun _ _ _ held => opened_step registered moved held
  keyed := keyed_step registered moved

theorem Placed.absent (placed : Placed state) {uuid : Bytes} (unused : uuid ∉ state.used) :
    uuid ∉ state.plane.resources.processIds :=
  placed.registered.absent unused

/-! ## The single token -/

/-- A step keeps the number of tokens, except that the first one is made with
the record of a session. -/
theorem tokens_step (placed : Placed state) (moved : Transition state action next)
    (sessionId : Bytes) :
    next.tokens sessionId = state.tokens sessionId ∨
      (sessionId ∉ state.used ∧ sessionId ∈ next.used ∧ next.recorded sessionId ∧
        next.tokens sessionId = state.tokens sessionId + 1) := by
  have single := placed.single sessionId
  cases moved with
  | call =>
      left
      simp only [State.tokens, total_append, total_cons, total_nil, Client.holds]
      omega
  | quiet whole quiet =>
      left
      have kept := quiet.holds_eq (fun positive => (placed.conserved sessionId).mpr (by
        simp only [State.tokens, whole, total_append, total_cons]
        omega))
      simp only [State.tokens, whole, total_append, total_cons, kept]
  | @takeSwapped _ _ call _ _ whole removed =>
      left
      simp only [State.tokens, State.setRedis, whole, total_append, total_cons,
        Client.holds] at single ⊢
      by_cases same : call.sessionId = sessionId
      · have taken := state.plane.redis.swappedCount_srem_found call.processId call.sessionId removed
        rw [same] at taken
        rw [if_pos same, same]
        omega
      · rw [if_neg same, Redis.swappedCount_srem_of_ne _ _ same]
  | @recordDetails _ _ call processName uuid whole unused =>
      by_cases same : uuid = sessionId
      · subst same
        refine Or.inr ⟨unused, List.mem_cons_self, ?_, ?_⟩
        · simp only [State.recorded, State.setRedis, Redis.get, Redis.set, Function.update_self,
            Option.isSome_some]
        · simp only [State.tokens, State.setRedis, whole, total_append, total_cons, Client.holds,
            ClientCall.created, Redis.swappedCount_set, if_true]
          omega
      · left
        simp only [State.tokens, State.setRedis, whole, total_append, total_cons, Client.holds,
          ClientCall.created, Redis.swappedCount_set, same, if_false]
  | reserve whole =>
      left
      simp only [State.tokens, State.setResources, whole, total_append, total_cons, Client.holds,
        Resources.listed_getFreeProcess]
  | allBusy whole =>
      left
      simp only [State.tokens, whole, total_append, total_cons, Client.holds]
  | @addExisting _ _ placement processId _ whole free present =>
      left
      rcases Option.isSome_iff_exists.mp present with ⟨process, found⟩
      have more := Plane.listed_addSession found placement sessionId
      simp only [State.tokens, whole, free, total_append, total_cons, Client.holds, sectionHolds,
        more]
      simp only [Plane.addSession]
      omega
  | @addProcess _ _ placement uuid whole free unused =>
      left
      have same := Plane.listed_addProcess (placed.absent unused) placement sessionId
      simp only [State.tokens, whole, free, total_append, total_cons, Client.holds, sectionHolds,
        same]
      simp only [Plane.addProcess]
      omega
  | writeRequest whole held =>
      left
      simp only [State.tokens, whole, held, total_append, total_cons, Client.holds, sectionHolds,
        Plane.listed_writeRequest, Plane.redis_writeRequest]
  | @addSession _ _ placement processId _ whole held =>
      left
      rcases Resources.exists_getProcess (placed.opened _ _ _ held) with ⟨process, found⟩
      have more := Plane.listed_addSession found placement sessionId
      simp only [State.tokens, held, sectionHolds, more]
      simp only [Plane.addSession]
      omega
  | allocateProcess whole held =>
      left
      simp only [State.tokens, Plane.allocateProcess, whole, held, total_append, total_cons,
        Client.holds, sectionHolds]
  | markAlive whole =>
      left
      simp only [State.tokens, Plane.markAlive, whole, total_append, total_cons, Client.holds,
        Redis.swappedCount_sadd_alive]
  | connect =>
      left
      simp only [State.tokens, State.setNode, Plane.listed_connect]
      rfl
  | enterPending _ free =>
      left
      simp only [State.tokens, free, sectionHolds]
  | @sendPending processId pending _ _ held =>
      left
      rcases state.plane.sendPending_cases processId pending with ⟨_, same⟩ | ⟨_, same⟩
      · simp only [State.tokens, same, held, sectionHolds, Plane.listed_writeRequest,
          Plane.redis_writeRequest]
      · simp only [State.tokens, same, held, sectionHolds]
  | poll held =>
      left
      simp only [State.tokens, held, sectionHolds, Plane.listed_poll]
      rfl
  | deliverClosure =>
      left
      simp only [State.tokens, State.setNode, total_append, total_cons, total_nil, Closure.holds]
      omega
  | @remove before after closure whole stage free =>
      left
      simp only [State.tokens, State.setResources, whole, total_append, total_cons, Closure.holds,
        stage]
      by_cases same : closure.sessionId = sessionId
      · have carried : 0 < state.plane.resources.listedAt closure.processId sessionId := by
          have backed := placed.backed closure.processId sessionId
          simp only [State.carried, whole, total_append, total_cons, Closure.removes, stage, same,
            and_self, if_true] at backed
          omega
        have taken := Resources.listed_removeSession placed.distinct carried
        rw [if_pos same, same]
        omega
      · rw [if_neg same, Resources.listed_removeSession_of_ne _ _ same]
  | unmarkOwn whole stage =>
      left
      simp only [State.tokens, State.setRedis, whole, total_append, total_cons, Closure.holds, stage,
        Redis.swappedCount_srem_alive]
  | @addSwapped _ _ closure whole stage =>
      left
      have held := placed.single closure.sessionId
      simp only [State.tokens, whole, total_append, total_cons, Closure.holds, stage,
        if_true] at held
      have absent : (Key.sessionsSwapped closure.globalProcessId, closure.sessionId) ∉
          state.plane.redis.sets := by
        intro present
        have positive := Redis.swappedCount_pos present
        omega
      have more := Redis.swappedCount_sadd_swapped absent sessionId
      simp only [State.tokens, State.setRedis, whole, total_append, total_cons, Closure.holds, stage,
        more]
      omega
  | unmark whole stage =>
      left
      simp only [State.tokens, State.setRedis, whole, total_append, total_cons, Closure.holds, stage,
        Redis.swappedCount_srem_alive]
  | reorder permuted =>
      left
      simp only [State.tokens, State.setResources,
        state.plane.resources.listed_reorder permuted sessionId]
  | _ => exact Or.inl rfl

theorem recorded_step (moved : Transition state action next) (sessionId : Bytes) :
    (next.recorded sessionId ↔ state.recorded sessionId) ∨
      (next.recorded sessionId ∧ 0 < next.tokens sessionId) := by
  cases moved with
  | @recordDetails _ _ call processName uuid whole unused =>
      by_cases same : sessionId = uuid
      · subst same
        right
        constructor
        · simp only [State.recorded, State.setRedis, Redis.get, Redis.set, Function.update_self,
            Option.isSome_some]
        · simp only [State.tokens, State.setRedis, total_append, total_cons, Client.holds,
            ClientCall.created, if_true]
          omega
      · left
        have other : Key.session sessionId ≠ Key.session uuid := fun equal =>
          same (Key.session.inj equal)
        simp only [State.recorded, State.setRedis, Redis.get, Redis.set,
          Function.update_of_ne other]
  | allocate processName uuid =>
      left
      have other : Key.session sessionId ≠ Key.process uuid := by simp
      simp only [State.recorded, Plane.processAllocation, Redis.get, Redis.set,
        Function.update_of_ne other]
  | writeRequest =>
      left
      simp only [State.recorded, Plane.redis_writeRequest]
  | markAlive =>
      left
      simp only [State.recorded, Plane.markAlive, Redis.get, Redis.sadd_strings]
  | @sendPending processId pending =>
      left
      rcases state.plane.sendPending_cases processId pending with ⟨_, same⟩ | ⟨_, same⟩
      · simp only [State.recorded, same, Plane.redis_writeRequest]
      · simp only [State.recorded, same]
  | addSwapped =>
      left
      simp only [State.recorded, State.setRedis, Redis.get, Redis.sadd_strings]
  | _ => exact Or.inl Iff.rfl

/-! ## The side of a process worker -/

theorem due_congr {id sessionId : Bytes} (sameMutex : next.mutex = state.mutex)
    (sameUnsent : next.unsent id sessionId = state.unsent id sessionId) :
    next.due id sessionId = state.due id sessionId := by
  unfold State.due
  rw [sameMutex, sameUnsent]

theorem unsent_le (state : State) (id sessionId : Bytes) :
    state.unsent id sessionId ≤ state.plane.resources.listedAt id sessionId := by
  unfold State.unsent
  split
  · exact Nat.le_refl _
  · exact Nat.zero_le _

/-- A change of one process worker that carries no more leaves less on its
side. -/
theorem carried_setNode_le {processId sessionId : Bytes} {node : Node}
    (fewer : node.carries (state.plane.outgoing processId) sessionId ≤
      (state.nodes processId).carries (state.plane.outgoing processId) sessionId) (id : Bytes) :
    (state.setNode processId node).carried id sessionId ≤ state.carried id sessionId := by
  unfold State.carried State.setNode
  by_cases here : id = processId
  · subst here
    simp only [Function.update_self]
    omega
  · simp only [Function.update_of_ne here]
    exact Nat.le_refl _

/-- The closures that have not removed their session are counted with it. -/
theorem removes_of_stage {closure : Closure} (stage : closure.stage ≠ .remove)
    (id sessionId : Bytes) : closure.removes id sessionId = 0 :=
  if_neg (fun all => stage all.1)

/-- A session held by a client or a section is listed nowhere. -/
theorem listedAt_of_listed_zero {resources : Resources} {sessionId : Bytes}
    (zero : resources.listed sessionId = 0) (id : Bytes) : resources.listedAt id sessionId = 0 :=
  Nat.le_zero.mp (zero ▸ resources.listedAt_le_listed id sessionId)

/-- A closure that moves past its removal leaves the worker's side alone. -/
theorem carried_closure {before after : List Closure} {closure : Closure}
    (whole : state.closures = before ++ closure :: after) (stage : closure.stage ≠ .remove)
    {later : ClosureStage} (past : later ≠ .remove) (id sessionId : Bytes)
    (sameOutgoing : next.plane.outgoing = state.plane.outgoing) (sameNodes : next.nodes = state.nodes)
    (moved : next.closures = before ++ { closure with stage := later } :: after) :
    next.carried id sessionId = state.carried id sessionId := by
  have old := removes_of_stage stage id sessionId
  have new : ({ closure with stage := later } : Closure).removes id sessionId = 0 :=
    removes_of_stage past id sessionId
  simp only [State.carried, sameOutgoing, sameNodes, moved, whole, total_append, total_cons, old, new]

/-- A closure that is delivered moves from the connection to a thread. -/
theorem carried_deliverClosure {processId : Bytes} {process : Process} {message : StatusMessage}
    {rest : List StatusMessage} (named : process.processId = processId)
    (queued : (state.nodes processId).outbox = message :: rest)
    (closes : message.isClosure = true) (id sessionId : Bytes) :
    ({ state.setNode processId { state.nodes processId with outbox := rest } with
        closures := state.closures ++
          [⟨process.processId, process.globalProcessId, message.sessionId, .remove⟩] } :
      State).carried id sessionId = state.carried id sessionId := by
  have closed := announced_closure sessionId closes
  simp only [State.carried, State.setNode, total_append, total_cons, total_nil, Closure.removes,
    true_and, named]
  by_cases here : id = processId
  · subst here
    simp only [Function.update_self, Node.carries, queued, true_and]
    rw [announced_cons sessionId message rest, closed]
    omega
  · simp only [Function.update_of_ne here, Ne.symm here, false_and, if_false, Nat.add_zero]

/-- The worker's side grows only with the requests written. -/
theorem carried_step (moved : Transition state action next) (id sessionId : Bytes) :
    next.carried id sessionId + requested sessionId (state.plane.outgoing id) ≤
      state.carried id sessionId + requested sessionId (next.plane.outgoing id) := by
  cases moved with
  | @writeRequest _ _ placement processId =>
      have more := carries_writeRequest_le state.plane (state.nodes id) processId
        placement.sessionId id sessionId
      simp only [State.carried]
      omega
  | @sendPending processId pending =>
      rcases state.plane.sendPending_cases processId pending with ⟨_, same⟩ | ⟨_, same⟩
      · have more := carries_writeRequest_le state.plane (state.nodes id) processId pending id
          sessionId
        simp only [State.carried, same]
        omega
      · rw [same]
        exact Nat.le_refl _
  | connect =>
      refine Nat.add_le_add_right (carried_setNode_le ?_ id) _
      simp only [Node.carries, Worker.running, Worker.start, List.countP_nil]
      omega
  | receive up pending =>
      refine Nat.add_le_add_right (carried_setNode_le ?_ id) _
      exact carries_receive_le pending state.store _ _ sessionId
  | @answer processId answered result =>
      refine Nat.add_le_add_right (carried_setNode_le ?_ id) _
      have silent := announced_answer sessionId (isClosure_answer result answered)
      simp only [Node.carries, announced_append, silent]
      omega
  | touch =>
      refine Nat.add_le_add_right (carried_setNode_le ?_ id) _
      exact Nat.le_refl _
  | sessionDeleted up found sent =>
      refine Nat.add_le_add_right (carried_setNode_le ?_ id) _
      exact Nat.le_of_eq (carries_sessionDeleted found sent _ sessionId)
  | @writeClosure _ _ after message whole =>
      refine Nat.add_le_add_right (carried_setNode_le ?_ id) _
      simp only [Node.carries, whole, announced_append]
      rw [announced_cons sessionId message after]
      omega
  | deliverAnswer queued silent =>
      refine Nat.add_le_add_right (carried_setNode_le ?_ id) _
      simp only [Node.carries, queued]
      rw [announced_cons]
      omega
  | deliverClosure found queued closes =>
      refine Nat.add_le_add_right (Nat.le_of_eq ?_) _
      exact carried_deliverClosure (Resources.processId_of_getProcess found) queued closes id sessionId
  | @remove _ _ closure whole =>
      have past : ({ closure with stage := .unmarkOwn } : Closure).removes id sessionId = 0 :=
        removes_of_stage (by simp) id sessionId
      simp only [State.carried, State.setResources, whole, total_append, total_cons, past]
      omega
  | unmarkOwn whole stage | addSwapped whole stage | unmark whole stage =>
      refine Nat.add_le_add_right (Nat.le_of_eq ?_) _
      exact carried_closure whole (by rw [stage]; decide) (by decide) id sessionId rfl rfl rfl
  | _ => exact Nat.le_refl _

/-- The bound is kept where neither the listings nor the requests change. -/
theorem backed_of_same (placed : Placed state) (moved : Transition state action next)
    (id sessionId : Bytes) (sameOutgoing : next.plane.outgoing id = state.plane.outgoing id)
    (sameDue : next.due id sessionId = state.due id sessionId)
    (sameListed : next.plane.resources.listedAt id sessionId =
      state.plane.resources.listedAt id sessionId) :
    next.carried id sessionId + next.due id sessionId ≤
      next.plane.resources.listedAt id sessionId := by
  have backed := placed.backed id sessionId
  have grown := carried_step moved id sessionId
  rw [sameOutgoing] at grown
  omega

theorem backed_of_write (placed : Placed state) (moved : Transition state action next)
    (id sessionId processId written : Bytes)
    (sameOutgoing : next.plane.outgoing = (state.plane.writeRequest processId written).outgoing)
    (sameListed : next.plane.resources.listedAt id sessionId =
      state.plane.resources.listedAt id sessionId)
    (paid : (if processId = id ∧ written = sessionId then 1 else 0) + next.due id sessionId ≤
      state.due id sessionId) :
    next.carried id sessionId + next.due id sessionId ≤
      next.plane.resources.listedAt id sessionId := by
  have backed := placed.backed id sessionId
  have grown := carried_step moved id sessionId
  have bound := requested_written_le placed.keyed processId written sessionId
  rw [sameOutgoing, requested_writeRequest] at grown
  by_cases here : id = processId
  · simp only [here, true_and, if_true] at backed grown paid sameListed ⊢
    omega
  · simp only [here, Ne.symm here, false_and, if_false] at grown paid
    omega

/-- A removal takes the session off the list on which the worker's side
counted it. -/
theorem backed_remove (placed : Placed state) {before after : List Closure} {closure : Closure}
    (whole : state.closures = before ++ closure :: after) (stage : closure.stage = .remove)
    (free : state.mutex = none) (id sessionId : Bytes)
    (sameOutgoing : next.plane.outgoing = state.plane.outgoing) (sameNodes : next.nodes = state.nodes)
    (closures : next.closures = before ++ { closure with stage := .unmarkOwn } :: after)
    (sameMutex : next.mutex = state.mutex)
    (removed : next.plane.resources =
      state.plane.resources.removeSession closure.processId closure.sessionId) :
    next.carried id sessionId + next.due id sessionId ≤
      next.plane.resources.listedAt id sessionId := by
  have backed := placed.backed id sessionId
  have listed := state.plane.resources.listedAt_removeSession closure.processId closure.sessionId id
    sessionId
  have past : ({ closure with stage := .unmarkOwn } : Closure).removes id sessionId = 0 :=
    removes_of_stage (by simp) id sessionId
  have first : closure.removes id sessionId =
      if closure.processId = id ∧ closure.sessionId = sessionId then 1 else 0 := by
    simp only [Closure.removes, stage, true_and]
  have waiting : next.plane.resources.isUnsent sessionId =
      state.plane.resources.isUnsent sessionId := by
    rw [removed]
    rfl
  simp only [State.carried, State.due, State.unsent, free, whole, total_append, total_cons,
    first] at backed
  simp only [State.carried, State.due, State.unsent, sameMutex, free, sameOutgoing, sameNodes,
    closures, total_append, total_cons, past, waiting]
  rw [removed]
  cases unsent : state.plane.resources.isUnsent sessionId with
  | true =>
      simp only [unsent, if_true] at backed ⊢
      omega
  | false =>
      simp only [unsent, Bool.false_eq_true, if_false] at backed ⊢
      omega

theorem backed_step (placed : Placed state) (moved : Transition state action next)
    (id sessionId : Bytes) :
    next.carried id sessionId + next.due id sessionId ≤
      next.plane.resources.listedAt id sessionId := by
  have backed := placed.backed id sessionId
  have unchanged := backed_of_same placed moved id sessionId
  have written := backed_of_write placed moved id sessionId
  cases moved with
  | reserve =>
      refine unchanged rfl (due_congr rfl ?_) (Resources.listedAt_getFreeProcess _ _ _ _)
      simp only [State.unsent, State.setResources, Resources.isUnsent_getFreeProcess,
        Resources.listedAt_getFreeProcess]
  | @addExisting _ _ placement processId _ whole free present =>
      rcases Option.isSome_iff_exists.mp present with ⟨process, found⟩
      have listed := Plane.listedAt_addSession found placement id sessionId
      change state.carried id sessionId + _ ≤ _
      simp only [State.due, listed]
      by_cases same : placement.sessionId = sessionId
      · simp only [same, if_true, and_true]
        omega
      · have waiting := state.plane.isUnsent_addSession_of_ne placement processId (Ne.symm same)
        simp only [State.due, free, State.unsent] at backed
        simp only [same, if_false, and_false, Nat.add_zero, State.unsent, waiting, listed]
        exact backed
  | @addProcess _ _ placement uuid whole free unused =>
      have absent := placed.absent unused
      have listed := Plane.listedAt_addProcess absent placement id sessionId
      refine unchanged rfl ?_ listed
      simp only [State.due, free, State.unsent, listed]
      rw [Plane.resources_addProcess absent]
      rfl
  | @writeRequest _ _ placement processId _ whole held =>
      refine written processId placement.sessionId rfl (Plane.listedAt_writeRequest _ _ _ _ _) ?_
      simp only [State.due, held]
      by_cases same : placement.sessionId = sessionId
      · have sent := state.plane.isUnsent_writeRequest_self processId sessionId
        simp only [same, and_true, if_true, State.unsent, sent, Bool.false_eq_true, if_false]
        omega
      · have waiting := state.plane.isUnsent_writeRequest_of_ne processId (Ne.symm same)
        simp only [same, and_false, if_false, State.unsent, waiting, Plane.listedAt_writeRequest]
        omega
  | @addSession _ _ placement processId _ whole held =>
      rcases Resources.exists_getProcess (placed.opened _ _ _ held) with ⟨process, found⟩
      have listed := Plane.listedAt_addSession found placement id sessionId
      change state.carried id sessionId + _ ≤ _
      by_cases same : placement.sessionId = sessionId
      · have single := placed.single sessionId
        simp only [State.tokens, held, sectionHolds, same, if_true] at single
        have zero : state.plane.resources.listed sessionId = 0 := by omega
        have nowhere := listedAt_of_listed_zero zero id
        have idle : state.carried id sessionId = 0 := by omega
        rw [idle, Nat.zero_add]
        exact unsent_le _ id sessionId
      · have waiting := state.plane.isUnsent_addSession_of_ne placement processId (Ne.symm same)
        simp only [State.due, held, State.unsent] at backed
        simp only [State.due, same, and_false, if_false, Nat.add_zero, State.unsent, waiting, listed]
        exact backed
  | @allocateProcess _ _ placement processId _ whole held =>
      refine unchanged rfl ?_ rfl
      simp only [State.due, held]
      rfl
  | connect =>
      refine unchanged rfl (due_congr rfl ?_) (Plane.listedAt_connect _ _ _ _)
      simp only [State.unsent, Plane.listedAt_connect]
      rfl
  | @enterPending processId process found free =>
      refine unchanged rfl ?_ rfl
      simp only [State.due, free]
      rfl
  | @sendPending processId pending index process held found present =>
      rcases state.plane.sendPending_cases processId pending with ⟨waiting, same⟩ | ⟨_, same⟩
      · rw [same] at written ⊢
        refine written processId pending rfl (Plane.listedAt_writeRequest _ _ _ _ _) ?_
        simp only [State.due, held, State.unsent, Plane.listedAt_writeRequest]
        by_cases equal : pending = sessionId
        · have listed := Resources.listedAt_pos_of_mem (Resources.mem_of_getProcess found)
            (List.mem_of_getElem? present)
          rw [Resources.processId_of_getProcess found] at listed
          have sent := state.plane.isUnsent_writeRequest_self processId pending
          rw [equal] at sent waiting listed
          rw [equal]
          simp only [sent, waiting, Bool.false_eq_true, if_false, if_true, and_true]
          split
          · rename_i here
            rw [here] at listed
            omega
          · omega
        · have kept := state.plane.isUnsent_writeRequest_of_ne processId (Ne.symm equal)
          simp only [equal, kept, and_false, if_false]
          omega
      · rw [same] at unchanged ⊢
        refine unchanged rfl ?_ rfl
        simp only [State.due, held]
        rfl
  | poll held =>
      refine unchanged rfl ?_ (Plane.listedAt_poll _ _ _ _)
      simp only [State.due, held, State.unsent, Plane.listedAt_poll]
      rfl
  | remove whole stage free =>
      exact backed_remove placed whole stage free id sessionId rfl rfl rfl rfl rfl
  | reorder permuted =>
      have listed := state.plane.resources.listedAt_reorder permuted id sessionId
      refine unchanged rfl (due_congr rfl ?_) listed
      simp only [State.unsent, State.setResources, listed]
      rfl
  | receive | answer | touch | sessionDeleted | writeClosure | deliverAnswer | deliverClosure
  | unmarkOwn | addSwapped | unmark => exact unchanged rfl (due_congr rfl rfl) rfl
  | _ => exact backed

/-! ## The whole invariant -/

theorem placed_initial : Placed State.initial where
  distinct := List.nodup_nil
  known := fun _ member => False.elim (List.not_mem_nil member)
  opened := by
    intro owner placement id held
    cases held
  keyed := by
    intro id session entry
    cases entry
  single := fun _ => Nat.zero_le 1
  issued := fun _ positive => False.elim (Nat.lt_irrefl 0 positive)
  conserved := fun _ => ⟨fun present => Bool.noConfusion present, fun positive =>
    False.elim (Nat.lt_irrefl 0 positive)⟩
  backed := fun _ _ => Nat.zero_le _

theorem single_step (placed : Placed state) (moved : Transition state action next)
    (sessionId : Bytes) : next.tokens sessionId ≤ 1 := by
  have single := placed.single sessionId
  rcases tokens_step placed moved sessionId with same | ⟨unused, _, _, more⟩
  · rw [same]
    exact single
  · have none : ¬ 0 < state.tokens sessionId := fun positive =>
      unused (placed.issued sessionId positive)
    omega

theorem issued_step (placed : Placed state) (moved : Transition state action next)
    {sessionId : Bytes} (positive : 0 < next.tokens sessionId) : sessionId ∈ next.used := by
  rcases tokens_step placed moved sessionId with same | ⟨_, used, _⟩
  · rw [same] at positive
    exact used_step moved (placed.issued sessionId positive)
  · exact used

theorem conserved_step (placed : Placed state) (moved : Transition state action next)
    (sessionId : Bytes) : next.recorded sessionId ↔ 0 < next.tokens sessionId := by
  rcases recorded_step moved sessionId with same | ⟨recorded, positive⟩
  · rcases tokens_step placed moved sessionId with kept | ⟨_, _, recorded, more⟩
    · rw [same, kept]
      exact placed.conserved sessionId
    · exact ⟨fun _ => by omega, fun _ => recorded⟩
  · exact ⟨fun _ => positive, fun _ => recorded⟩

theorem placed_step (placed : Placed state) (moved : Transition state action next) :
    Placed next where
  distinct := distinct_step placed.registered moved
  known := fun _ member => known_step placed.registered moved member
  opened := fun _ _ _ held => opened_step placed.registered moved held
  keyed := keyed_step placed.registered moved
  single := single_step placed moved
  issued := fun _ positive => issued_step placed moved positive
  conserved := conserved_step placed moved
  backed := backed_step placed moved

theorem placed_of_run {trace : List (State × Action)} {final : State} (run : Run trace final) :
    Placed final :=
  run.invariant Placed placed_initial
    (fun _ _ _ placed stepped => placed_step placed (step_transition stepped))

/-- At most one process worker runs a session. -/
theorem running_at_most_one (placed : Placed state) (sessionId : Bytes) {left right : Bytes}
    (different : left ≠ right) :
    (state.nodes left).worker.running sessionId + (state.nodes right).worker.running sessionId ≤ 1 := by
  have both := state.plane.resources.listedAt_add_le_listed different sessionId
  have single := placed.single sessionId
  have first := placed.backed left sessionId
  have second := placed.backed right sessionId
  simp only [State.tokens] at single
  simp only [State.carried, Node.carries] at first second
  omega

end System
end Praas
