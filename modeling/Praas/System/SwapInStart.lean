import Praas.System.Activation
import Praas.System.SessionTable

namespace Praas
namespace System

open Library
open ControlPlane
open Praas.Runtime

/-!
# A session swapped in on a new process worker

The entry of a session stays in the table when the session is closed, and its
flag `allocated` is never cleared.  A session that comes back from swapping has
been sent to some worker before, so its flag is set.  On an existing process
the request is written all the same.  On a new one it is left to the loop of
`process_process`, which skips every session whose flag is set: the request is
never written, in no continuation of the run.
-/

variable {state next : State} {action : Action}

/-! ## The flag is set and stays set -/

theorem allocated_added (plane : Plane) (placement : Placement) :
    (plane.added placement).allocated = plane.resources.isAllocated placement.sessionId := by
  unfold Resources.isAllocated
  change ((plane.resources.sessions placement.sessionId).getD _).allocated = _
  cases plane.resources.sessions placement.sessionId <;> rfl

theorem isAllocated_step (placed : Placed state) (moved : Transition state action next)
    {sessionId : Bytes} (allocated : state.plane.resources.isAllocated sessionId = true) :
    next.plane.resources.isAllocated sessionId = true := by
  cases tableStep_of_transition placed moved with
  | unchanged _ sessions =>
      unfold Resources.isAllocated at allocated ⊢
      rw [sessions]
      exact allocated
  | added placement _ _ _ _ sessions =>
      by_cases same : sessionId = placement.sessionId
      · rw [same, ← allocated_added] at allocated
        unfold Resources.isAllocated
        rw [sessions, same, Function.update_self]
        exact allocated
      · unfold Resources.isAllocated at allocated ⊢
        rw [sessions, Function.update_of_ne same]
        exact allocated
  | written processId other _ _ _ sessions =>
      have kept := Plane.isAllocated_writeRequest allocated processId other
      unfold Resources.isAllocated at kept ⊢
      rw [sessions]
      exact kept

/-- A session that was sent to a worker at some time has its flag set. -/
structure Flagged (state : State) : Prop where
  carried : forall id sessionId, 0 < state.carried id sessionId ->
    state.plane.resources.isAllocated sessionId = true
  closing : forall sessionId, 0 < total (Closure.holds sessionId) state.closures ->
    state.plane.resources.isAllocated sessionId = true
  restoring : forall sessionId, 0 < state.restoring sessionId ->
    state.plane.resources.isAllocated sessionId = true

/-- A request that is written sets the flag of its session. -/
theorem isAllocated_of_requested (placed : Placed state) (moved : Transition state action next)
    (id : Bytes) {sessionId : Bytes} (more : requested sessionId (state.plane.outgoing id) <
      requested sessionId (next.plane.outgoing id)) :
    next.plane.resources.isAllocated sessionId = true := by
  cases tableStep_of_transition placed moved with
  | unchanged outgoing =>
      rw [outgoing] at more
      exact absurd more (Nat.lt_irrefl _)
  | added _ _ _ _ outgoing =>
      rw [outgoing] at more
      exact absurd more (Nat.lt_irrefl _)
  | written processId other _ _ outgoing sessions =>
      rw [outgoing, requested_writeRequest] at more
      have positive : 0 < requested sessionId (state.plane.written processId other) := by
        split at more <;> omega
      have bound := requested_written_le placed.keyed processId other sessionId
      have same : other = sessionId := by
        by_contra different
        rw [if_neg different] at bound
        omega
      subst same
      cases present : state.plane.resources.sessions other with
      | none =>
          simp only [Plane.written, present, ite_self, requested, List.countP_nil] at positive
          exact absurd positive (Nat.lt_irrefl _)
      | some session =>
          unfold Resources.isAllocated
          rw [sessions, Plane.sessions_writeRequest, Function.update_self, present]
          rfl

theorem flagged_carried_step (placed : Placed state) (flagged : Flagged state)
    (moved : Transition state action next) (id sessionId : Bytes)
    (positive : 0 < next.carried id sessionId) :
    next.plane.resources.isAllocated sessionId = true := by
  have grown := carried_step moved id sessionId
  by_cases before : 0 < state.carried id sessionId
  · exact isAllocated_step placed moved (flagged.carried id sessionId before)
  · exact isAllocated_of_requested placed moved id (by omega)

theorem closing_step (moved : Transition state action next) (sessionId : Bytes) :
    total (Closure.holds sessionId) next.closures ≤
        total (Closure.holds sessionId) state.closures ∨
      Exists fun id => 0 < state.carried id sessionId := by
  cases moved with
  | deliverClosure =>
      left
      simp only [total_append, total_cons, total_nil, Closure.holds]
      omega
  | @remove _ _ closure whole stage =>
      by_cases same : closure.sessionId = sessionId
      · refine Or.inr ⟨closure.processId, ?_⟩
        simp only [State.carried, whole, total_append, total_cons, Closure.removes, stage, same,
          and_self, if_true]
        omega
      · left
        simp only [State.setResources, whole, total_append, total_cons, Closure.holds, same, if_false,
          stage]
        omega
  | unmarkOwn whole stage | addSwapped whole stage | unmark whole stage =>
      left
      simp only [State.setRedis, whole, total_append, total_cons, Closure.holds, stage]
      omega
  | _ => exact Or.inl (Nat.le_refl _)

theorem flagged_closing_step (placed : Placed state) (flagged : Flagged state)
    (moved : Transition state action next) (sessionId : Bytes)
    (positive : 0 < total (Closure.holds sessionId) next.closures) :
    next.plane.resources.isAllocated sessionId = true := by
  apply isAllocated_step placed moved
  rcases closing_step moved sessionId with fewer | ⟨id, carried⟩
  · exact flagged.closing sessionId (Nat.lt_of_lt_of_le positive fewer)
  · exact flagged.carried id sessionId carried

/-- A closure that is about to record a session holds it. -/
theorem holds_of_closes (action : Action) {sessionId : Bytes} (closing : 0 < closes sessionId (state, action)) :
    0 < total (Closure.holds sessionId) state.closures := by
  cases action with
  | closure index =>
      simp only [closes] at closing
      cases present : state.closures[index]? with
      | none =>
          rw [present] at closing
          exact absurd closing (Nat.lt_irrefl _)
      | some closure =>
          rw [present] at closing
          simp only [Option.elim_some, Closure.closes] at closing
          split at closing
          · rename_i both
            have held := le_total (Closure.holds sessionId) (List.mem_of_getElem? present)
            simp only [Closure.holds, both.1, both.2, if_true] at held
            omega
          · exact absurd closing (Nat.lt_irrefl _)
  | _ => exact absurd closing (Nat.lt_irrefl _)

theorem flagged_restoring_step (placed : Placed state) (flagged : Flagged state)
    (moved : Transition state action next) (sessionId : Bytes)
    (positive : 0 < next.restoring sessionId) :
    next.plane.resources.isAllocated sessionId = true := by
  apply isAllocated_step placed moved
  have counted := restoring_step moved sessionId
  by_cases before : 0 < state.restoring sessionId
  · exact flagged.restoring sessionId before
  · exact flagged.closing sessionId (holds_of_closes action (by omega))

theorem flagged_initial : Flagged State.initial where
  carried := fun _ _ positive => False.elim (Nat.lt_irrefl 0 positive)
  closing := fun _ positive => False.elim (Nat.lt_irrefl 0 positive)
  restoring := fun _ positive => False.elim (Nat.lt_irrefl 0 positive)

theorem flagged_of_run {trace : List (State × Action)} {final : State} (run : Run trace final) :
    Flagged final := by
  apply run.traced_invariant (fun _ state => Flagged state) flagged_initial
  intro _ source action target earlier flagged stepped
  have placed := placed_of_run earlier
  have moved := step_transition stepped
  exact {
    carried := flagged_carried_step placed flagged moved
    closing := flagged_closing_step placed flagged moved
    restoring := flagged_restoring_step placed flagged moved }

/-! ## A session without its request -/

/-- The process lists the session, or is about to, with its flag set and
without a request on the way. -/
structure Stranded (id sessionId : Bytes) (state : State) : Prop where
  allocated : state.plane.resources.isAllocated sessionId = true
  silent : requested sessionId (state.plane.outgoing id) = 0
  idle : state.carried id sessionId = 0
  settled : state.due id sessionId = 0
  claimed : 0 < state.plane.resources.listedAt id sessionId ∨
    Exists fun owner => Exists fun placement =>
      state.mutex = some (.addSession owner placement id) ∧ placement.sessionId = sessionId

/-- A stranded session is held by nobody else. -/
theorem Stranded.unheld (placed : Placed state) {id sessionId : Bytes}
    (stranded : Stranded id sessionId state) :
    total (Client.holds sessionId) state.clients = 0 := by
  have single := placed.single sessionId
  have below := state.plane.resources.listedAt_le_listed id sessionId
  simp only [State.tokens] at single
  rcases stranded.claimed with listed | ⟨owner, placement, held, same⟩
  · omega
  · simp only [held, sectionHolds, same, if_true] at single
    omega

theorem stranded_silent_step (placed : Placed state) {id sessionId : Bytes}
    (stranded : Stranded id sessionId state) (moved : Transition state action next) :
    requested sessionId (next.plane.outgoing id) = 0 := by
  cases tableStep_of_transition placed moved with
  | unchanged outgoing =>
      rw [outgoing]
      exact stranded.silent
  | added _ _ _ _ outgoing =>
      rw [outgoing]
      exact stranded.silent
  | written processId other _ due outgoing =>
      have bound := requested_written_le placed.keyed processId other sessionId
      rw [outgoing, requested_writeRequest, stranded.silent, Nat.zero_add]
      split
      · rename_i here
        have different : other ≠ sessionId := by
          intro same
          rw [← here, same, stranded.settled] at due
          exact Nat.lt_irrefl _ due
        rw [if_neg different] at bound
        omega
      · rfl

/-- A section that writes a request was opened by a client that held the
session. -/
theorem writing_step (moved : Transition state action next) {owner : Nat} {placement : Placement}
    {id : Bytes} (held : next.mutex = some (.writeRequest owner placement id)) :
    next.mutex = state.mutex ∨ 0 < total (Client.holds placement.sessionId) state.clients := by
  cases moved with
  | addExisting whole =>
      cases held
      right
      simp only [whole, total_append, total_cons, Client.holds, if_true]
      omega
  | addProcess | writeRequest | addSession | allocateProcess | enterPending | sendPending | poll =>
      cases held
  | _ => exact Or.inl rfl

theorem stranded_settled_step (placed : Placed state) {id sessionId : Bytes}
    (stranded : Stranded id sessionId state) (moved : Transition state action next) :
    next.due id sessionId = 0 := by
  have sent := Resources.not_isUnsent_of_isAllocated
    (isAllocated_step placed moved stranded.allocated)
  have waiting : next.unsent id sessionId = 0 := if_neg (by rw [sent]; exact Bool.false_ne_true)
  unfold State.due
  split
  · rename_i owner placement processId held
    split
    · rename_i same
      split
      · rename_i here
        exfalso
        rcases writing_step moved held with unchanged | taken
        · have settled := stranded.settled
          rw [unchanged] at held
          simp only [State.due, held, same, here, if_true] at settled
          exact Nat.one_ne_zero settled
        · rw [same, stranded.unheld placed] at taken
          exact Nat.lt_irrefl _ taken
      · rfl
    · exact waiting
  · exact waiting

/-- A listing is given up only for a closure that the worker has reported. -/
theorem listedAt_kept (placed : Placed state) (moved : Transition state action next)
    (id sessionId : Bytes) :
    state.plane.resources.listedAt id sessionId ≤ next.plane.resources.listedAt id sessionId ∨
      0 < state.carried id sessionId := by
  cases moved with
  | reserve =>
      left
      simp only [State.setResources, Resources.listedAt_getFreeProcess]
      exact Nat.le_refl _
  | @addExisting _ _ placement _ _ _ _ present =>
      left
      rcases Option.isSome_iff_exists.mp present with ⟨process, found⟩
      rw [Plane.listedAt_addSession found]
      exact Nat.le_add_right _ _
  | addProcess whole free unused =>
      left
      rw [Plane.listedAt_addProcess (placed.absent unused)]
  | writeRequest =>
      left
      rw [Plane.listedAt_writeRequest]
  | addSession whole held =>
      left
      rcases Resources.exists_getProcess (placed.opened _ _ _ held) with ⟨process, found⟩
      rw [Plane.listedAt_addSession found]
      exact Nat.le_add_right _ _
  | connect =>
      left
      rw [Plane.listedAt_connect]
  | @sendPending processId pending =>
      left
      rcases state.plane.sendPending_cases processId pending with ⟨_, same⟩ | ⟨_, same⟩
      · rw [same, Plane.listedAt_writeRequest]
      · rw [same]
  | poll =>
      left
      rw [Plane.listedAt_poll]
  | @remove _ _ closure whole stage =>
      have removed := (state.plane.resources.listedAt_removeSession closure.processId
        closure.sessionId id sessionId).2
      by_cases same : closure.processId = id ∧ closure.sessionId = sessionId
      · right
        simp only [State.carried, whole, total_append, total_cons, Closure.removes, stage, same,
          and_self, if_true]
        omega
      · left
        rw [if_neg same] at removed
        exact removed
  | reorder permuted =>
      left
      rw [State.setResources, Resources.listedAt_reorder _ permuted]
  | _ => exact Or.inl (Nat.le_refl _)

theorem stranded_claimed_step (placed : Placed state) {id sessionId : Bytes}
    (stranded : Stranded id sessionId state) (moved : Transition state action next) :
    0 < next.plane.resources.listedAt id sessionId ∨
      Exists fun owner => Exists fun placement =>
        next.mutex = some (.addSession owner placement id) ∧ placement.sessionId = sessionId := by
  rcases stranded.claimed with listed | ⟨owner, placement, held, same⟩
  · left
    rcases listedAt_kept placed moved id sessionId with kept | carried
    · exact Nat.lt_of_lt_of_le listed kept
    · rw [stranded.idle] at carried
      exact absurd carried (Nat.lt_irrefl _)
  · cases moved with
    | addExisting _ free | addProcess _ free | enterPending _ free =>
        rw [free] at held
        cases held
    | addSession whole mutex =>
        left
        rw [mutex] at held
        cases held
        rcases Resources.exists_getProcess (placed.opened _ _ _ mutex) with ⟨process, found⟩
        rw [Plane.listedAt_addSession found, if_pos ⟨rfl, same⟩]
        exact Nat.succ_pos _
    | writeRequest _ mutex | allocateProcess _ mutex | sendPending mutex | poll mutex =>
        rw [mutex] at held
        cases held
    | _ => exact Or.inr ⟨owner, placement, held, same⟩

theorem stranded_step (placed : Placed state) {id sessionId : Bytes}
    (stranded : Stranded id sessionId state) (moved : Transition state action next) :
    Stranded id sessionId next := by
  have silent := stranded_silent_step placed stranded moved
  refine ⟨isAllocated_step placed moved stranded.allocated, silent, ?_,
    stranded_settled_step placed stranded moved, stranded_claimed_step placed stranded moved⟩
  have grown := carried_step moved id sessionId
  have idle := stranded.idle
  omega

/-! ## The new process worker -/

theorem outgoing_known {trace : List (State × Action)} {final : State} (run : Run trace final)
    {id : Bytes} (unused : id ∉ final.used) : final.plane.outgoing id = [] := by
  revert unused
  apply run.traced_invariant (fun _ state => id ∉ state.used -> state.plane.outgoing id = [])
  · exact fun _ => rfl
  · intro _ source action target earlier known stepped unused
    have placed := placed_of_run earlier
    have moved := step_transition stepped
    have before : id ∉ source.used := fun old => unused (used_step moved old)
    cases tableStep_of_transition placed moved with
    | unchanged outgoing =>
        rw [outgoing]
        exact known before
    | added _ _ _ _ outgoing =>
        rw [outgoing]
        exact known before
    | written processId other _ due outgoing =>
        have backed := placed.backed processId other
        have different : id ≠ processId := by
          intro same
          rw [← same, Resources.listedAt_absent (placed.absent before)] at backed
          rw [← same] at due
          omega
        rw [outgoing, Plane.outgoing_writeRequest, Function.update_of_ne different]
        exact known before

/-- The step that creates a process worker for a swap-in strands the session. -/
theorem stranded_of_addProcess {trace : List (State × Action)} (run : Run trace state)
    {index : Nat} {uuid : Bytes} {placement : Placement}
    (present : state.clients[index]? = some (.addProcess placement))
    (swapIn : placement.swapIn = true)
    (moved : Transition state (.client index uuid) next) :
    Stranded uuid placement.sessionId next := by
  have placed := placed_of_run run
  have flagged := flagged_of_run run
  have allocated : state.plane.resources.isAllocated placement.sessionId = true := by
    apply flagged.restoring
    have one := le_total (Client.restoring placement.sessionId) (List.mem_of_getElem? present)
    simp only [Client.restoring, restores, swapIn, and_self, if_true] at one
    simp only [State.restoring]
    omega
  have kept := isAllocated_step placed moved allocated
  have grown := carried_step moved uuid placement.sessionId
  cases moved with
  | quiet whole quiet =>
      rw [getElem?_middle whole] at present
      cases present
      cases quiet
  | @addProcess before after other _ whole free unused =>
      rw [getElem?_middle whole] at present
      cases present
      have absent := placed.absent unused
      have backed := placed.backed uuid placement.sessionId
      rw [Resources.listedAt_absent absent] at backed
      have silent : requested placement.sessionId (state.plane.outgoing uuid) = 0 := by
        rw [outgoing_known run unused]
        rfl
      refine ⟨kept, silent, ?_, ?_, Or.inr ⟨_, placement, rfl, rfl⟩⟩
      · have fewer := Nat.le_of_add_le_add_right grown
        omega
      · exact if_neg (by
          rw [Resources.not_isUnsent_of_isAllocated kept]
          exact Bool.false_ne_true)
  | takeSwapped whole | recordDetails whole | reserve whole | allBusy whole | addExisting whole
  | writeRequest whole | addSession whole | allocateProcess whole | markAlive whole =>
      rw [getElem?_middle whole] at present
      cases present

/-- The process worker has been sent exactly one request for the session, with
the numbers of its record. -/
def StartsOnce (state : State) (id : Bytes) (placement : Placement) : Prop :=
  (state.plane.outgoing id).filter
      (fun request => decide (request.sessionId = placement.sessionId)) =
    [⟨placement.sessionId, placement.maxFunctions, placement.memorySize⟩]

theorem not_startsOnce {id : Bytes} {placement : Placement}
    (none : requested placement.sessionId (state.plane.outgoing id) = 0) :
    ¬ StartsOnce state id placement := by
  intro once
  rw [requested, List.countP_eq_length_filter, once] at none
  cases none

/-- In no continuation of a run is the request of a session written that was
swapped in by the creation of a process worker. -/
theorem swapped_in_session_never_requested {trace : List (State × Action)} {final : State}
    (run : Run trace final) (source : State) (index : Nat) (uuid : Bytes) (placement : Placement)
    (member : (source, Action.client index uuid) ∈ trace)
    (creates : source.clients[index]? = some (.addProcess placement))
    (swapIn : placement.swapIn = true) :
    requested placement.sessionId (final.plane.outgoing uuid) = 0 ∧
      ¬ StartsOnce final uuid placement := by
  have stranded : Stranded uuid placement.sessionId final := by
    revert member
    apply run.traced_invariant (fun trace state => (source, Action.client index uuid) ∈ trace ->
      Stranded uuid placement.sessionId state)
    · exact fun impossible => False.elim (List.not_mem_nil impossible)
    · intro _ reached action target earlier before stepped member
      have moved := step_transition stepped
      rcases List.mem_append.mp member with old | last
      · exact stranded_step (placed_of_run earlier) (before old) moved
      · cases List.mem_singleton.mp last
        exact stranded_of_addProcess earlier creates swapIn moved
  exact ⟨stranded.silent, not_startsOnce stranded.silent⟩

/-- Four new sessions fill the first process worker, and the session that was
swapped out is brought back on the new worker `[9]`. -/
def swapInOnNewWorker : List Action :=
  let fill := fun (client : Nat) (session : UInt8) =>
    [.call newSessionCall, .client client [], .client client [session]] ++
      List.replicate 4 (.client client [])
  placeSession ++ .client 0 [] :: connectWorker ++ runSession true ++ handleClosure ++
    fill 1 11 ++ fill 2 12 ++ fill 3 13 ++ fill 4 14 ++
    .call swapInCall :: List.replicate 5 (.client 5 []) ++ .client 5 [9] ::
    List.replicate 3 (.client 5 []) ++
    [.connect [9] (S3Swapper.enableSwapping none), .enterPending [9], .sendPending, .sendPending]

/-- The step creates the process worker for a swap-in of the session. -/
def createsFor (uuid sessionId : Bytes) (entry : State × Action) : Bool :=
  match entry.2 with
  | .client index id => decide (id = uuid) &&
      match entry.1.clients[index]? with
      | some (.addProcess placement) =>
          placement.swapIn && decide (placement.sessionId = sessionId)
      | _ => false
  | _ => false

theorem exists_of_createsFor {uuid sessionId : Bytes} {trace : List (State × Action)}
    (found : trace.any (createsFor uuid sessionId) = true) :
    Exists fun source => Exists fun index => Exists fun placement =>
      (source, Action.client index uuid) ∈ trace ∧
        source.clients[index]? = some (.addProcess placement) ∧ placement.swapIn = true ∧
        placement.sessionId = sessionId := by
  rcases List.any_eq_true.mp found with ⟨⟨source, action⟩, member, creates⟩
  unfold createsFor at creates
  split at creates
  · rename_i index id named
    simp only [Bool.and_eq_true, decide_eq_true_eq] at creates
    rcases creates with ⟨same, creates⟩
    split at creates
    · rename_i placement present
      simp only [Bool.and_eq_true, decide_eq_true_eq] at creates
      cases same
      cases named
      exact ⟨source, index, placement, member, present, creates.1, creates.2⟩
    · cases creates
  · cases creates

theorem swapInOnNewWorker_never_requested :
    Exists fun trace => Exists fun final => Run trace final ∧
      requested [2] (final.plane.outgoing [9]) = 0 := by
  have found := TransitionSystem.exists_run system State.initial swapInOnNewWorker
    (fun trace _ => trace.any (createsFor [9] [2])) (by decide +kernel)
  rcases found with ⟨trace, final, run, tested⟩
  rcases exists_of_createsFor tested with ⟨source, index, placement, member, creates, swapIn, same⟩
  have silent := (swapped_in_session_never_requested run source index [9] placement member creates
    swapIn).1
  rw [same] at silent
  exact ⟨trace, final, run, silent⟩

/-- The process worker `[9]` has identified itself and is registered for
polling, and has not been asked for the session. -/
theorem swapped_in_session_not_started :
    ¬ forall (trace : List (State × Action)) (final : State), Run trace final ->
      forall (source : State) (index : Nat) (uuid : Bytes) (placement : Placement),
      (source, Action.client index uuid) ∈ trace ->
      source.clients[index]? = some (.addProcess placement) -> placement.swapIn = true ->
      forall process, process ∈ final.plane.resources.processes -> process.processId = uuid ->
      process.polled = true -> StartsOnce final uuid placement := by
  intro always
  have found := TransitionSystem.exists_run system State.initial swapInOnNewWorker
    (fun trace final => trace.any (createsFor [9] [2]) &&
      (final.plane.resources.processes.any (fun process =>
          decide (process.processId = [9] ∧ process.polled = true)) &&
        decide (requested [2] (final.plane.outgoing [9]) = 0))) (by decide +kernel)
  rcases found with ⟨trace, final, run, tested⟩
  simp only [Bool.and_eq_true, List.any_eq_true, decide_eq_true_eq] at tested
  rcases tested with ⟨created, ⟨process, inside, named, polled⟩, silent⟩
  rcases exists_of_createsFor (List.any_eq_true.mpr created) with
    ⟨source, index, placement, member, creates, swapIn, same⟩
  rw [← same] at silent
  exact not_startsOnce silent
    (always trace final run source index [9] placement member creates swapIn process inside named
      polled)

end System
end Praas
