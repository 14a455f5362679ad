import Praas.System.Tenants

namespace Praas
namespace System

open Library
open ControlPlane
open Praas.Runtime

/-!
# The sets of alive and of swapped-out sessions

`process_client` marks a session alive after its request has been sent, and
`handle_session_closure` records a session as swapped out before it takes the
mark away.  Both leave a window.

With one global process, the sets agree with the lists of sessions in every
quiescent state of a run in which a session is marked alive only while it is
not swapped out, and its mark is not taken away once it is listed again.  In
such a run a session is in both sets only inside the window of its own
closure, and in neither window when every closure finds its session unmarked.
-/

variable {state next : State} {action : Action}

/-- A session is marked alive only while it is not swapped out, and its mark is
not taken away once it is listed again. -/
def orderly (state : State) (action : Action) : Bool :=
  match action with
  | .client index _ =>
      match state.clients[index]? with
      | some (.markAlive placement) => !state.plane.redis.sismember
          (.sessionsSwapped placement.processId) placement.sessionId
      | _ => true
  | .closure index =>
      match state.closures[index]? with
      | some ⟨_, globalProcessId, sessionId, .unmark⟩ =>
          !state.plane.redis.sismember (.sessionsAlive globalProcessId) sessionId ||
            decide (state.plane.resources.listed sessionId = 0)
      | _ => true
  | _ => true

/-- A session is recorded as swapped out only while it is not marked alive. -/
def unmarkedFirst (state : State) (action : Action) : Bool :=
  match action with
  | .closure index =>
      match state.closures[index]? with
      | some ⟨_, globalProcessId, sessionId, .addSwapped⟩ =>
          !state.plane.redis.sismember (.sessionsAlive globalProcessId) sessionId
      | _ => true
  | _ => true

def Client.hasReturned : Client -> Bool
  | .returned _ => true
  | _ => false

def quiescent (state : State) : Bool :=
  state.clients.all Client.hasReturned &&
    state.closures.all (fun closure => decide (closure.stage = .finished)) && state.mutex.isNone

/-! ## Clients that are about to mark a session -/

/-- The client is about to mark the session alive. -/
def Client.marking (sessionId : Bytes) : Client -> Nat
  | .markAlive placement => if placement.sessionId = sessionId then 1 else 0
  | _ => 0

/-- The section has listed the session, and its client will mark it alive. -/
def sectionMarking (sessionId : Bytes) : Option Section -> Nat
  | some (.writeRequest _ placement _) => if placement.sessionId = sessionId then 1 else 0
  | some (.allocateProcess _ placement _) => if placement.sessionId = sessionId then 1 else 0
  | _ => 0

/-- The calls that have listed the session and not marked it. -/
def State.marking (state : State) (sessionId : Bytes) : Nat :=
  total (Client.marking sessionId) state.clients + sectionMarking sessionId state.mutex

def State.alive (state : State) (id sessionId : Bytes) : Prop :=
  (Key.sessionsAlive id, sessionId) ∈ state.plane.redis.sets

instance aliveDecidable (state : State) (id sessionId : Bytes) :
    Decidable (state.alive id sessionId) :=
  inferInstanceAs (Decidable ((Key.sessionsAlive id, sessionId) ∈ state.plane.redis.sets))

def State.swapped (state : State) (id sessionId : Bytes) : Prop :=
  (Key.sessionsSwapped id, sessionId) ∈ state.plane.redis.sets

/-- A closure has recorded the session as swapped out and not yet taken its
mark away. -/
def State.unmarking (state : State) (sessionId : Bytes) : Prop :=
  Exists fun closure => closure ∈ state.closures ∧ closure.sessionId = sessionId ∧
    closure.stage = .unmark

theorem Client.Quiet.marking_zero {plane : Plane} {client next : Client}
    (quiet : client.Quiet plane next) (sessionId : Bytes) :
    next.marking sessionId = 0 ∧ client.marking sessionId = 0 := by
  cases quiet <;> exact ⟨rfl, rfl⟩

/-- The agreement of the sets of one global process with the lists of its workers.
The parts of it hold only up to the calls and closures that are in progress,
which are named here, so that nothing is left over once none of them is. -/
structure Agreement (id : Bytes) (state : State) : Prop where
  marking : forall sessionId, 0 < state.marking sessionId -> state.recorded sessionId
  marked : forall sessionId, state.alive id sessionId -> state.recorded sessionId ∧
    (state.plane.redis.swappedCount sessionId = 0 ∨ state.unmarking sessionId)
  listed : forall sessionId, 0 < state.plane.resources.listed sessionId ->
    state.alive id sessionId ∨ 0 < state.marking sessionId

theorem recorded_mono (moved : Transition state action next) {sessionId : Bytes}
    (old : state.recorded sessionId) : next.recorded sessionId := by
  rcases recorded_step moved sessionId with same | ⟨new, _⟩
  · exact same.mpr old
  · exact new

/-! ## What a step does to the sets and lists -/

theorem alive_step {id sessionId : Bytes} (moved : Transition state action next)
    (after : next.alive id sessionId) :
    state.alive id sessionId ∨
      Exists fun placement => Exists fun index => Exists fun uuid =>
        action = .client index uuid ∧ state.clients[index]? = some (.markAlive placement) ∧
          placement.processId = id ∧ placement.sessionId = sessionId := by
  unfold State.alive at after ⊢
  cases moved with
  | takeSwapped | unmarkOwn | unmark =>
      simp only [State.setRedis, Redis.mem_srem] at after
      exact Or.inl after.1
  | writeRequest =>
      rw [Plane.redis_writeRequest] at after
      exact Or.inl after
  | @markAlive _ _ placement uuid whole =>
      simp only [Plane.markAlive, Redis.mem_sadd, Prod.mk.injEq, Key.sessionsAlive.injEq] at after
      rcases after with ⟨process, session⟩ | old
      · exact Or.inr ⟨placement, _, uuid, rfl, getElem?_middle whole, process.symm, session.symm⟩
      · exact Or.inl old
  | @sendPending processId pending =>
      rcases state.plane.sendPending_cases processId pending with ⟨_, same⟩ | ⟨_, same⟩
      · rw [same, Plane.redis_writeRequest] at after
        exact Or.inl after
      · rw [same] at after
        exact Or.inl after
  | addSwapped =>
      simp only [State.setRedis, Redis.mem_sadd, Prod.mk.injEq, reduceCtorEq, false_and,
        false_or] at after
      exact Or.inl after
  | _ => exact Or.inl after

/-- A mark is taken away by a closure of the session, before it is recorded as
swapped out or in the last step. -/
theorem alive_kept {id sessionId : Bytes} (moved : Transition state action next)
    (before : state.alive id sessionId) :
    next.alive id sessionId ∨
      Exists fun closure => Exists fun index =>
        action = .closure index ∧ state.closures[index]? = some closure ∧
          closure.sessionId = sessionId ∧
          (closure.stage = .unmarkOwn ∨ (closure.stage = .unmark ∧ closure.globalProcessId = id)) := by
  unfold State.alive at before ⊢
  cases moved with
  | takeSwapped =>
      left
      simp only [State.setRedis, Redis.mem_srem]
      exact ⟨before, by simp⟩
  | writeRequest =>
      left
      rw [Plane.redis_writeRequest]
      exact before
  | markAlive =>
      left
      simp only [Plane.markAlive, Redis.mem_sadd]
      exact Or.inr before
  | @sendPending processId pending =>
      left
      rcases state.plane.sendPending_cases processId pending with ⟨_, same⟩ | ⟨_, same⟩
      · rw [same, Plane.redis_writeRequest]
        exact before
      · rw [same]
        exact before
  | @unmarkOwn _ _ closure whole stage =>
      by_cases same : closure.sessionId = sessionId
      · exact Or.inr ⟨closure, _, rfl, getElem?_middle whole, same, Or.inl stage⟩
      · left
        simp only [State.setRedis, Redis.mem_srem]
        exact ⟨before, fun equal => same (congrArg Prod.snd equal).symm⟩
  | addSwapped =>
      left
      simp only [State.setRedis, Redis.mem_sadd]
      exact Or.inr before
  | @unmark _ _ closure whole stage =>
      by_cases same : closure.sessionId = sessionId ∧ closure.globalProcessId = id
      · exact Or.inr ⟨closure, _, rfl, getElem?_middle whole, same.1, Or.inr ⟨stage, same.2⟩⟩
      · left
        simp only [State.setRedis, Redis.mem_srem]
        refine ⟨before, fun equal => same ?_⟩
        simp only [Prod.mk.injEq, Key.sessionsAlive.injEq] at equal
        exact ⟨equal.2.symm, equal.1.symm⟩
  | _ => exact Or.inl before

/-- A closure that records its session as swapped out enters the window. -/
theorem unmarking_of_addSwapped {index : Nat} {closure : Closure}
    (moved : Transition state (.closure index) next)
    (present : state.closures[index]? = some closure) (stage : closure.stage = .addSwapped) :
    next.unmarking closure.sessionId := by
  cases moved with
  | addSwapped whole =>
      rw [getElem?_middle whole] at present
      cases present
      exact ⟨_, List.mem_append_right _ List.mem_cons_self, rfl, rfl⟩
  | remove whole other | unmarkOwn whole other | unmark whole other =>
      rw [getElem?_middle whole] at present
      cases present
      rw [stage] at other
      cases other

theorem unmarking_kept (moved : Transition state action next) {sessionId : Bytes}
    (before : state.unmarking sessionId) :
    next.unmarking sessionId ∨
      Exists fun closure => closure ∈ state.closures ∧
        closure.sessionId = sessionId ∧ ¬ next.alive closure.globalProcessId sessionId := by
  rcases before with ⟨closure, member, named, stage⟩
  have elsewhere : forall {before after : List Closure} {old new : Closure},
      state.closures = before ++ old :: after -> closure ≠ old ->
      closure ∈ before ++ new :: after := by
    intro before after old new whole different
    rw [whole] at member
    rcases List.mem_append.mp member with earlier | rest
    · exact List.mem_append_left _ earlier
    · exact List.mem_append_right _
        (List.mem_cons_of_mem _ ((List.mem_cons.mp rest).resolve_left different))
  cases moved with
  | deliverClosure => exact Or.inl ⟨closure, List.mem_append_left _ member, named, stage⟩
  | remove whole other | unmarkOwn whole other | addSwapped whole other =>
      refine Or.inl ⟨closure, elsewhere whole ?_, named, stage⟩
      intro same
      rw [← same, stage] at other
      cases other
  | @unmark _ _ last whole _ =>
      by_cases same : closure = last
      · refine Or.inr ⟨closure, member, named, ?_⟩
        intro alive
        unfold State.alive at alive
        simp only [State.setRedis, Redis.mem_srem] at alive
        exact alive.2 (by rw [same, ← named, same])
      · exact Or.inl ⟨closure, elsewhere whole same, named, stage⟩
  | _ => exact Or.inl ⟨closure, member, named, stage⟩

/-- A session is recorded as swapped out by a closure of it. -/
theorem swappedCount_step (moved : Transition state action next) (sessionId : Bytes) :
    next.plane.redis.swappedCount sessionId ≤ state.plane.redis.swappedCount sessionId ∨
      Exists fun closure => Exists fun index =>
        action = .closure index ∧ state.closures[index]? = some closure ∧
          closure.sessionId = sessionId ∧ closure.stage = .addSwapped := by
  cases moved with
  | takeSwapped =>
      left
      exact Redis.swappedCount_srem_le _ _ _ _
  | recordDetails => exact Or.inl (Nat.le_refl _)
  | writeRequest =>
      left
      rw [Plane.redis_writeRequest]
  | markAlive =>
      left
      exact Nat.le_of_eq (Redis.swappedCount_sadd_alive _ _ _ _)
  | @sendPending processId pending =>
      left
      rcases state.plane.sendPending_cases processId pending with ⟨_, same⟩ | ⟨_, same⟩
      · rw [same, Plane.redis_writeRequest]
      · rw [same]
  | unmarkOwn | unmark =>
      left
      exact Nat.le_of_eq (Redis.swappedCount_srem_alive _ _ _ _)
  | @addSwapped _ _ closure whole stage =>
      by_cases same : closure.sessionId = sessionId
      · exact Or.inr ⟨closure, _, rfl, getElem?_middle whole, same, stage⟩
      · left
        have more := state.plane.redis.swappedCount_sadd_swapped_le closure.globalProcessId
          closure.sessionId sessionId
        rw [if_neg same] at more
        exact more
  | _ => exact Or.inl (Nat.le_refl _)

theorem listed_step (placed : Placed state) (moved : Transition state action next)
    {sessionId : Bytes} (after : 0 < next.plane.resources.listed sessionId) :
    0 < state.plane.resources.listed sessionId ∨ 0 < next.marking sessionId := by
  cases moved with
  | reserve =>
      left
      simp only [State.setResources, Resources.listed_getFreeProcess] at after
      exact after
  | @addExisting _ _ placement processId _ whole free present =>
      rcases Option.isSome_iff_exists.mp present with ⟨process, found⟩
      by_cases same : placement.sessionId = sessionId
      · right
        simp only [State.marking, sectionMarking, same, if_true]
        omega
      · left
        rw [Plane.listed_addSession found placement sessionId, if_neg same] at after
        exact after
  | addProcess whole free unused =>
      left
      rw [Plane.listed_addProcess (placed.absent unused)] at after
      exact after
  | writeRequest =>
      left
      rw [Plane.listed_writeRequest] at after
      exact after
  | @addSession _ _ placement processId _ whole held =>
      rcases Resources.exists_getProcess (placed.opened _ _ _ held) with ⟨process, found⟩
      by_cases same : placement.sessionId = sessionId
      · right
        simp only [State.marking, sectionMarking, same, if_true]
        omega
      · left
        rw [Plane.listed_addSession found placement sessionId, if_neg same] at after
        exact after
  | connect =>
      left
      simp only [Plane.listed_connect] at after
      exact after
  | @sendPending processId pending =>
      left
      rcases state.plane.sendPending_cases processId pending with ⟨_, same⟩ | ⟨_, same⟩
      · rw [same, Plane.listed_writeRequest] at after
        exact after
      · rw [same] at after
        exact after
  | poll =>
      left
      simp only [Plane.listed_poll] at after
      exact after
  | remove => exact Or.inl (Nat.lt_of_lt_of_le after (Resources.listed_removeSession_le _ _ _ _))
  | reorder permuted =>
      left
      simp only [State.setResources, state.plane.resources.listed_reorder permuted] at after
      exact after
  | _ => exact Or.inl after

/-- What a step does to the calls that will mark a session: a call that holds
the token of the session lists it, or a call marks it alive. -/
theorem marking_step (moved : Transition state action next) (sessionId : Bytes) :
    next.marking sessionId = state.marking sessionId ∨
      (state.marking sessionId ≤ next.marking sessionId ∧ 0 < state.tokens sessionId) ∨
      (next.marking sessionId ≤ state.marking sessionId ∧
        Exists fun placement => .markAlive placement ∈ state.clients ∧
          placement.sessionId = sessionId ∧ next.alive placement.processId sessionId) := by
  cases moved with
  | call =>
      left
      simp only [State.marking, total_append, total_cons, total_nil, Client.marking]
      omega
  | quiet whole quiet =>
      left
      have silent := quiet.marking_zero sessionId
      simp only [State.marking, whole, total_append, total_cons, silent.1, silent.2]
  | @addExisting _ _ placement processId _ whole free =>
      by_cases same : placement.sessionId = sessionId
      · right
        left
        simp only [State.marking, State.tokens, whole, free, total_append, total_cons,
          Client.marking, Client.holds, sectionMarking, same, if_true]
        omega
      · left
        simp only [State.marking, whole, free, total_append, total_cons, Client.marking,
          sectionMarking, same, if_false]
  | @addSession _ _ placement processId _ whole held =>
      by_cases same : placement.sessionId = sessionId
      · right
        left
        simp only [State.marking, State.tokens, held, sectionMarking, sectionHolds, same, if_true]
        omega
      · left
        simp only [State.marking, held, sectionMarking, same, if_false]
  | @markAlive _ _ placement _ whole =>
      by_cases same : placement.sessionId = sessionId
      · right
        right
        constructor
        · simp only [State.marking, whole, total_append, total_cons, Client.marking]
          omega
        · refine ⟨placement, mem_middle whole, same, ?_⟩
          simp only [State.alive, Plane.markAlive, Redis.mem_sadd, same, true_or]
      · left
        simp only [State.marking, whole, total_append, total_cons, Client.marking, same, if_false]
  | addProcess whole free =>
      left
      simp only [State.marking, whole, free, total_append, total_cons, Client.marking,
        sectionMarking]
  | writeRequest whole held | allocateProcess whole held =>
      left
      simp only [State.marking, whole, held, total_append, total_cons, Client.marking,
        sectionMarking]
      omega
  | takeSwapped whole | recordDetails whole | reserve whole | allBusy whole =>
      left
      simp only [State.marking, State.setRedis, State.setResources, whole, total_append, total_cons,
        Client.marking]
  | enterPending _ free =>
      left
      simp only [State.marking, free, sectionMarking]
  | sendPending held | poll held =>
      left
      simp only [State.marking, held, sectionMarking]
  | _ => exact Or.inl rfl

/-- A call lists a session only when it holds its token. -/
theorem marking_grown (moved : Transition state action next) (sessionId : Bytes) :
    next.marking sessionId ≤ state.marking sessionId ∨ 0 < state.tokens sessionId := by
  rcases marking_step moved sessionId with same | ⟨_, token⟩ | ⟨fewer, _⟩
  · exact Or.inl (Nat.le_of_eq same)
  · exact Or.inr token
  · exact Or.inl fewer

/-- A call that has listed a session marks it alive before it returns. -/
theorem marking_kept (moved : Transition state action next) (sessionId : Bytes) :
    state.marking sessionId ≤ next.marking sessionId ∨
      Exists fun placement => .markAlive placement ∈ state.clients ∧
        placement.sessionId = sessionId ∧ next.alive placement.processId sessionId := by
  rcases marking_step moved sessionId with same | ⟨more, _⟩ | ⟨_, marked⟩
  · exact Or.inl (Nat.le_of_eq same.symm)
  · exact Or.inl more
  · exact Or.inr marked

/-! ## The agreement is kept -/

theorem agreement_initial (id : Bytes) : Agreement id State.initial where
  marking := fun _ positive => False.elim (Nat.lt_irrefl 0 positive)
  marked := fun _ member => False.elim (List.not_mem_nil member)
  listed := fun _ positive => False.elim (Nat.lt_irrefl 0 positive)

theorem agreement_marking_step {id : Bytes} (placed : Placed state) (agreement : Agreement id state)
    (moved : Transition state action next) (sessionId : Bytes)
    (positive : 0 < next.marking sessionId) : next.recorded sessionId := by
  apply recorded_mono moved
  rcases marking_grown moved sessionId with fewer | token
  · exact agreement.marking sessionId (Nat.lt_of_lt_of_le positive fewer)
  · exact (placed.conserved sessionId).mpr token

/-- A call that marks a session finds it in no swapped-out set. -/
theorem swappedCount_of_marked {id : Bytes} (tenants : Tenants state)
    (only : forall other, state.registered other -> other = id) {index : Nat} {uuid : Bytes}
    {placement : Placement} (ordered : orderly state (.client index uuid) = true)
    (moved : Transition state (.client index uuid) next)
    (present : state.clients[index]? = some (.markAlive placement))
    (process : placement.processId = id) :
    next.plane.redis.swappedCount placement.sessionId = 0 := by
  have none : state.plane.redis.swappedCount placement.sessionId = 0 := by
    apply Redis.swappedCount_eq_zero
    intro other swapped
    rw [only other (tenants.swapped other placement.sessionId swapped)] at swapped
    simp only [orderly, present, process, Bool.not_eq_true', Redis.sismember,
      decide_eq_false_iff_not] at ordered
    exact ordered swapped
  rcases swappedCount_step moved placement.sessionId with fewer | ⟨_, _, impossible, _⟩
  · exact Nat.le_zero.mp (none ▸ fewer)
  · cases impossible

/-- A marked session is swapped out only in the window of its closure. -/
theorem agreement_marked_step {id : Bytes} (tenants : Tenants state) (agreement : Agreement id state)
    (only : forall other, state.registered other -> other = id)
    (ordered : orderly state action = true) (moved : Transition state action next)
    (sessionId : Bytes) (alive : next.alive id sessionId) :
    next.recorded sessionId ∧
      (next.plane.redis.swappedCount sessionId = 0 ∨ next.unmarking sessionId) := by
  have counted := swappedCount_step moved sessionId
  rcases alive_step moved alive with old | ⟨placement, index, uuid, rfl, present, process, session⟩
  · have marked := agreement.marked sessionId old
    refine ⟨recorded_mono moved marked.1, ?_⟩
    rcases counted with fewer | ⟨closure, index, rfl, present, same, stage⟩
    · rcases marked.2 with none | window
      · exact Or.inl (Nat.le_zero.mp (none ▸ fewer))
      · rcases unmarking_kept moved window with kept | ⟨closure, member, _, unmarked⟩
        · exact Or.inr kept
        · rw [only _ (tenants.closures closure member)] at unmarked
          exact False.elim (unmarked alive)
    · right
      rw [← same]
      exact unmarking_of_addSwapped moved present stage
  · have member := List.mem_of_getElem? present
    have pending : 0 < state.marking sessionId := by
      have one := le_total (Client.marking sessionId) member
      simp only [Client.marking, session, if_true] at one
      simp only [State.marking]
      omega
    refine ⟨recorded_mono moved (agreement.marking sessionId pending), Or.inl ?_⟩
    rw [← session]
    exact swappedCount_of_marked tenants only ordered moved present process

/-- A listed session is marked, or will be by the call that listed it. -/
theorem agreement_listed_step {id : Bytes} (placed : Placed state) (tenants : Tenants state)
    (agreement : Agreement id state) (only : forall other, state.registered other -> other = id)
    (ordered : orderly state action = true) (moved : Transition state action next)
    (sessionId : Bytes) (listed : 0 < next.plane.resources.listed sessionId) :
    next.alive id sessionId ∨ 0 < next.marking sessionId := by
  rcases listed_step placed moved listed with before | marking
  · rcases agreement.listed sessionId before with alive | marking
    · rcases alive_kept moved alive with kept | ⟨closure, index, rfl, present, same, stage⟩
      · exact Or.inl kept
      · rcases stage with own | ⟨last, owner⟩
        · have single := placed.single sessionId
          have held := le_total (Closure.holds sessionId) (List.mem_of_getElem? present)
          simp only [Closure.holds, own, same, if_true] at held
          simp only [State.tokens] at single
          omega
        · rcases closure with ⟨_, globalProcessId, session, _⟩
          cases last
          cases owner
          cases same
          simp only [orderly, present, Redis.sismember, Bool.or_eq_true, Bool.not_eq_true',
            decide_eq_false_iff_not, decide_eq_true_eq] at ordered
          rcases ordered with unmarked | unlisted
          · exact False.elim (unmarked alive)
          · exact absurd unlisted (Nat.ne_of_gt before)
    · rcases marking_kept moved sessionId with kept | ⟨placement, member, _, alive⟩
      · exact Or.inr (Nat.lt_of_lt_of_le marking kept)
      · rw [only _ (tenants.clients _ member placement.processId rfl)] at alive
        exact Or.inl alive
  · exact Or.inr marking

theorem agreement_of_run {id : Bytes} {trace : List (State × Action)} {final : State}
    (run : Run trace final)
    (only : TransitionSystem.Guarded (fun state action => onlyProcess id state action = true) trace)
    (ordered : TransitionSystem.Guarded (fun state action => orderly state action = true) trace) :
    Agreement id final := by
  refine run.guarded_traced (fun _ state => Agreement id state) (agreement_initial id) ?_
    (only.and ordered)
  intro _ source action target earlier guarded agreement allowed stepped
  have placed := placed_of_run earlier
  have tenants := tenants_of_run earlier
  have registered := registered_of_onlyProcess earlier (guarded.mono (fun _ _ both => both.1))
  have moved := step_transition stepped
  exact {
    marking := agreement_marking_step placed agreement moved
    marked := agreement_marked_step tenants agreement registered allowed.2 moved
    listed := agreement_listed_step placed tenants agreement registered allowed.2 moved }

/-- No marked session is swapped out, when in addition every closure finds its
session unmarked. -/
theorem separate_of_run {id : Bytes} {trace : List (State × Action)} {final : State}
    (run : Run trace final)
    (only : TransitionSystem.Guarded (fun state action => onlyProcess id state action = true) trace)
    (ordered : TransitionSystem.Guarded (fun state action => orderly state action = true) trace)
    (first : TransitionSystem.Guarded (fun state action => unmarkedFirst state action = true) trace)
    (sessionId : Bytes) (alive : final.alive id sessionId) :
    final.plane.redis.swappedCount sessionId = 0 := by
  revert alive
  refine run.guarded_traced (fun _ state => state.alive id sessionId ->
    state.plane.redis.swappedCount sessionId = 0) ?_ ?_ (only.and (ordered.and first))
  · intro alive
    exact False.elim (List.not_mem_nil alive)
  · intro _ source action target earlier guarded before allowed stepped alive
    have tenants := tenants_of_run earlier
    have registered := registered_of_onlyProcess earlier (guarded.mono (fun _ _ all => all.1))
    have moved := step_transition stepped
    rcases alive_step moved alive with old | ⟨placement, index, uuid, rfl, present, process, session⟩
    · rcases swappedCount_step moved sessionId with fewer | ⟨closure, index, rfl, present, same, stage⟩
      · exact Nat.le_zero.mp (before old ▸ fewer)
      · have owner := registered _ (tenants.closures closure (List.mem_of_getElem? present))
        have unmarked := allowed.2.2
        rcases closure with ⟨_, globalProcessId, session, _⟩
        cases stage
        cases owner
        cases same
        simp only [unmarkedFirst, present, Bool.not_eq_true', Redis.sismember,
          decide_eq_false_iff_not] at unmarked
        exact False.elim (unmarked old)
    · rw [← session]
      exact swappedCount_of_marked tenants registered allowed.2.1 moved present process

/-- Without a call in progress, tokens are only in the sets and on the lists. -/
theorem quiescent_held (idle : quiescent state = true) (sessionId : Bytes) :
    total (Client.holds sessionId) state.clients = 0 ∧ state.marking sessionId = 0 ∧
      total (Closure.holds sessionId) state.closures = 0 ∧ sectionHolds sessionId state.mutex = 0 := by
  simp only [quiescent, Bool.and_eq_true, List.all_eq_true, decide_eq_true_eq,
    Option.isNone_iff_eq_none] at idle
  rcases idle with ⟨⟨clients, closures⟩, mutex⟩
  have silent : forall client, client ∈ state.clients ->
      client.holds sessionId = 0 ∧ client.marking sessionId = 0 := by
    intro client member
    have returned := clients client member
    cases client with
    | returned => exact ⟨rfl, rfl⟩
    | _ => cases returned
  refine ⟨total_eq_zero (fun client member => (silent client member).1), ?_, ?_, ?_⟩
  · rw [State.marking, mutex, total_eq_zero (fun client member => (silent client member).2)]
    rfl
  · apply total_eq_zero
    intro closure member
    simp only [Closure.holds, closures closure member]
  · rw [mutex]
    rfl

theorem quiescent_not_unmarking (idle : quiescent state = true) (sessionId : Bytes) :
    ¬ state.unmarking sessionId := by
  rintro ⟨closure, member, _, stage⟩
  simp only [quiescent, Bool.and_eq_true, List.all_eq_true, decide_eq_true_eq] at idle
  rw [idle.1.2 closure member] at stage
  cases stage

/-- With one global process and orderly steps, a session is alive and swapped
out only inside the window of its closure, and never when every closure finds
its session unmarked; in every quiescent state the sessions marked alive are
those listed by some process worker. -/
theorem alive_swapped_agree {id : Bytes} {trace : List (State × Action)} {final : State}
    (run : Run trace final)
    (only : TransitionSystem.Guarded (fun state action => onlyProcess id state action = true) trace)
    (ordered : TransitionSystem.Guarded (fun state action => orderly state action = true) trace) :
    (forall sessionId, final.alive id sessionId -> final.swapped id sessionId ->
        final.unmarking sessionId) ∧
      (TransitionSystem.Guarded (fun state action => unmarkedFirst state action = true) trace ->
        forall sessionId, ¬ (final.alive id sessionId ∧ final.swapped id sessionId)) ∧
      (quiescent final = true -> forall sessionId, final.alive id sessionId ↔
        Exists fun process => process ∈ final.plane.resources.processes ∧
          sessionId ∈ process.sessions) := by
  have agreement := agreement_of_run run only ordered
  have placed := placed_of_run run
  refine ⟨?_, ?_, ?_⟩
  · intro sessionId alive swapped
    have positive := Redis.swappedCount_pos swapped
    exact (agreement.marked sessionId alive).2.resolve_left (Nat.ne_of_gt positive)
  · rintro first sessionId ⟨alive, swapped⟩
    have none := separate_of_run run only ordered first sessionId alive
    exact absurd none (Nat.ne_of_gt (Redis.swappedCount_pos swapped))
  · intro idle sessionId
    rcases quiescent_held idle sessionId with ⟨clients, marking, closures, mutex⟩
    constructor
    · intro alive
      have marked := agreement.marked sessionId alive
      have token := (placed.conserved sessionId).mp marked.1
      have none := marked.2.resolve_right (quiescent_not_unmarking idle sessionId)
      apply Resources.mem_of_listed_pos
      simp only [State.tokens] at token
      omega
    · rintro ⟨process, member, listed⟩
      rcases agreement.listed sessionId (Resources.listed_pos_of_mem member listed) with
        alive | pending
      · exact alive
      · omega

/-- The session is created, ends, and its closure is handled. -/
def closedInOrder : List Action :=
  placeSession ++ .client 0 [] :: connectWorker ++ runSession true ++ handleClosure

/-- The session ends, and its closure is handled, while the client that created
it has still to mark it alive. -/
def closedUnmarked : List Action :=
  placeSession ++ connectWorker ++ runSession true ++ handleClosure

/-- In the first run nothing is in progress at the end, in the second one the
closure finds its session unmarked. -/
theorem alive_swapped_agree_first :
    (Exists fun trace => Exists fun final => Run trace final ∧
      TransitionSystem.Guarded (fun state action => onlyProcess [1] state action = true) trace ∧
      TransitionSystem.Guarded (fun state action => orderly state action = true) trace ∧
      quiescent final = true ∧ final.swapped [1] [2] ∧ ¬ final.alive [1] [2]) ∧
    Exists fun trace => Exists fun final => Run trace final ∧
      TransitionSystem.Guarded (fun state action => onlyProcess [1] state action = true) trace ∧
      TransitionSystem.Guarded (fun state action => orderly state action = true) trace ∧
      TransitionSystem.Guarded (fun state action => unmarkedFirst state action = true) trace ∧
      final.swapped [1] [2] ∧ ¬ final.alive [1] [2] := by
  constructor
  · have found := TransitionSystem.exists_run system State.initial closedInOrder
      (fun trace final =>
        trace.all (fun entry => onlyProcess [1] entry.1 entry.2) &&
          (trace.all (fun entry => orderly entry.1 entry.2) &&
            (quiescent final && (decide ((Key.sessionsSwapped [1], [2]) ∈ final.plane.redis.sets) &&
              final.plane.resources.processes.all (fun process =>
                decide ([2] ∉ process.sessions))))))
      (by decide +kernel)
    rcases found with ⟨trace, final, run, tested⟩
    simp only [Bool.and_eq_true] at tested
    rcases tested with ⟨only, ordered, idle, swapped, unlisted⟩
    have only := TransitionSystem.guarded_of_all only
    have ordered := TransitionSystem.guarded_of_all ordered
    have swapped : final.swapped [1] [2] :=
      of_decide_eq_true (p := (Key.sessionsSwapped [1], [2]) ∈ final.plane.redis.sets) swapped
    refine ⟨trace, final, run, only, ordered, idle, swapped, ?_⟩
    intro alive
    rcases ((alive_swapped_agree run only ordered).2.2 idle [2]).mp alive with
      ⟨process, member, listed⟩
    exact of_decide_eq_true (List.all_eq_true.mp unlisted process member) listed
  · have found := TransitionSystem.exists_run system State.initial closedUnmarked
      (fun trace final =>
        trace.all (fun entry => onlyProcess [1] entry.1 entry.2) &&
          (trace.all (fun entry => orderly entry.1 entry.2) &&
            (trace.all (fun entry => unmarkedFirst entry.1 entry.2) &&
              decide ((Key.sessionsSwapped [1], [2]) ∈ final.plane.redis.sets))))
      (by decide +kernel)
    rcases found with ⟨trace, final, run, tested⟩
    simp only [Bool.and_eq_true] at tested
    rcases tested with ⟨only, ordered, first, swapped⟩
    have only := TransitionSystem.guarded_of_all only
    have ordered := TransitionSystem.guarded_of_all ordered
    have first := TransitionSystem.guarded_of_all first
    have swapped : final.swapped [1] [2] :=
      of_decide_eq_true (p := (Key.sessionsSwapped [1], [2]) ∈ final.plane.redis.sets) swapped
    refine ⟨trace, final, run, only, ordered, first, swapped, ?_⟩
    intro alive
    exact (alive_swapped_agree run only ordered).2.1 first [2] ⟨alive, swapped⟩

/-- The session ends, and its closure is handled, before the client that
created it marks it alive. -/
def closedBeforeMarked : List Action :=
  closedUnmarked ++ [.client 0 []]

/-- Afterwards no call is in progress and the closed session is alive and
swapped out. -/
theorem closed_session_left_alive :
    ¬ forall (id : Bytes) (trace : List (State × Action)) (final : State), Run trace final ->
      TransitionSystem.Guarded (fun state action => onlyProcess id state action = true) trace ->
      (forall sessionId, ¬ (final.alive id sessionId ∧ final.swapped id sessionId)) ∧
        (quiescent final = true -> forall sessionId, final.alive id sessionId ↔
          Exists fun process => process ∈ final.plane.resources.processes ∧
            sessionId ∈ process.sessions) := by
  intro always
  have found := TransitionSystem.exists_run system State.initial closedBeforeMarked
    (fun trace final => trace.all (fun entry => onlyProcess [1] entry.1 entry.2) &&
      (quiescent final && (decide (final.alive [1] [2]) &&
        final.plane.resources.processes.all (fun process => decide ([2] ∉ process.sessions)))))
    (by decide +kernel)
  rcases found with ⟨trace, final, run, tested⟩
  simp only [Bool.and_eq_true] at tested
  rcases tested with ⟨only, idle, alive, unlisted⟩
  have agree := (always [1] trace final run (TransitionSystem.guarded_of_all only)).2 idle [2]
  rcases agree.mp (of_decide_eq_true alive) with ⟨process, member, listed⟩
  exact of_decide_eq_true (List.all_eq_true.mp unlisted process member) listed

end System
end Praas
