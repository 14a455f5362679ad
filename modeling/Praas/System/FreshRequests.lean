import Praas.System.SessionTable

namespace Praas
namespace System

open Library
open ControlPlane
open Praas.Runtime

/-!
# The request of a fresh session is written once

Two paths write the request of a session: `process_client`, when the session
is placed on a process that exists already, and the loop of `process_process`,
for the sessions listed before the process worker connected.  They share the
flag `allocated`.  `process_client` does not look whether the worker has
connected, and a request written before that is lost while the flag says that
it was sent.  Along every run in which this does not happen, each fresh session
listed by a process that has been registered for polling has had exactly one
request.
-/

variable {state next : State} {action : Action}

/-- A request that `process_client` writes for a fresh session goes to a
process worker that has connected. -/
def writesConnected (state : State) (action : Action) : Bool :=
  match action, state.mutex with
  | .client index _, some (.writeRequest owner placement processId) =>
      decide (index ≠ owner) || placement.swapIn || state.plane.resources.isConnected processId
  | _, _ => true

/-- The section is about to write the request of the session. -/
def State.writes (state : State) (sessionId : Bytes) : Prop :=
  Exists fun owner => Exists fun placement => Exists fun processId =>
    state.mutex = some (.writeRequest owner placement processId) ∧ placement.sessionId = sessionId

/-- How the table of sessions, the lists and the requests belong together.  What
the others lead up to is the last part: for a session that is not brought back
from swapping, the flag says how often its request has been written to a worker
that lists it. -/
structure Sending (state : State) : Prop where
  known : forall sessionId session, state.plane.resources.sessions sessionId = some session ->
    sessionId ∈ state.used
  creating : forall sessionId, 0 < state.creating sessionId ->
    state.plane.resources.sessions sessionId = none
  unknown : forall sessionId, state.plane.resources.sessions sessionId = none ->
    forall id, requested sessionId (state.plane.outgoing id) = 0
  writing : forall owner placement id,
    state.mutex = some (.writeRequest owner placement id) ->
    Exists fun session => state.plane.resources.sessions placement.sessionId = some session ∧
      session.swapIn = placement.swapIn ∧ (placement.swapIn = false -> session.allocated = false)
  counted : forall id sessionId session,
    state.plane.resources.sessions sessionId = some session -> session.swapIn = false ->
    0 < state.plane.resources.listedAt id sessionId ->
    requested sessionId (state.plane.outgoing id) = if session.allocated then 1 else 0

/-- How polling and the mutex belong together. -/
structure Polling (state : State) : Prop where
  pending : forall id index, state.mutex = some (.sendPending id index) ->
    forall process, process ∈ state.plane.resources.processes -> process.processId = id ->
      process.connected = true ∧ forall place sessionId, place < index ->
        process.sessions[place]? = some sessionId ->
        state.plane.resources.isUnsent sessionId = false
  opening : forall owner placement id, state.mutex = some (.addSession owner placement id) ->
    forall process, process ∈ state.plane.resources.processes -> process.processId = id ->
      process.polled = false
  polled : forall process, process ∈ state.plane.resources.processes -> process.polled = true ->
    forall sessionId, sessionId ∈ process.sessions ->
      state.plane.resources.isUnsent sessionId = false ∨ state.writes sessionId

/-! ## The requests written -/

theorem requested_written_of_ne {plane : Plane} (keyed : plane.resources.Keyed) (id : Bytes)
    {written sessionId : Bytes} (different : written ≠ sessionId) :
    requested sessionId (plane.written id written) = 0 := by
  have bound := requested_written_le keyed id written sessionId
  rw [if_neg different] at bound
  omega

/-- A session without an entry has no request written. -/
theorem written_of_none {plane : Plane} {sessionId : Bytes}
    (absent : plane.resources.sessions sessionId = none) (id : Bytes) :
    plane.written id sessionId = [] := by
  simp only [Plane.written, absent, ite_self]

/-- The request of a session of the table reaches an open connection. -/
theorem requested_written_self {plane : Plane} (keyed : plane.resources.Keyed) {id sessionId : Bytes}
    {session : Session} (present : plane.resources.sessions sessionId = some session)
    (connected : plane.resources.isConnected id = true) :
    requested sessionId (plane.written id sessionId) = 1 := by
  have named := keyed _ _ present
  simp only [Plane.written, connected, present, if_true, requested, List.countP_singleton, named,
    decide_true]

/-! ## The table and the requests -/

theorem sending_known_step (placed : Placed state) (sending : Sending state)
    (moved : Transition state action next) (sessionId : Bytes) (session : Session)
    (present : next.plane.resources.sessions sessionId = some session) : sessionId ∈ next.used := by
  apply used_step moved
  cases tableStep_of_transition placed moved with
  | unchanged _ sessions =>
      rw [sessions] at present
      exact sending.known sessionId session present
  | added placement token _ _ _ sessions =>
      by_cases same : sessionId = placement.sessionId
      · rw [same]
        exact placed.issued _ token
      · rw [sessions, Function.update_of_ne same] at present
        exact sending.known sessionId session present
  | written processId other _ _ _ sessions =>
      rw [sessions, Plane.sessions_writeRequest] at present
      by_cases same : sessionId = other
      · rw [same, Function.update_self] at present
        rcases Option.map_eq_some_iff.mp present with ⟨old, before, _⟩
        rw [same]
        exact sending.known other old before
      · rw [Function.update_of_ne same] at present
        exact sending.known sessionId session present

theorem sending_creating_step (placed : Placed state) (sending : Sending state)
    (moved : Transition state action next) (sessionId : Bytes)
    (positive : 0 < next.creating sessionId) :
    next.plane.resources.sessions sessionId = none := by
  have before : state.plane.resources.sessions sessionId = none := by
    rcases creating_step moved sessionId with fewer | unused
    · exact sending.creating sessionId (Nat.lt_of_lt_of_le positive fewer)
    · cases entry : state.plane.resources.sessions sessionId with
      | none => rfl
      | some session => exact False.elim (unused (sending.known sessionId session entry))
  cases tableStep_of_transition placed moved with
  | unchanged _ sessions =>
      rw [sessions]
      exact before
  | added placement _ _ _ _ sessions listed =>
      have single := single_step placed moved sessionId
      have both := creating_le_tokens next sessionId
      have different : sessionId ≠ placement.sessionId := by
        intro same
        rw [← same] at listed
        omega
      rw [sessions, Function.update_of_ne different]
      exact before
  | written processId other _ _ _ sessions =>
      rw [sessions, Plane.sessions_writeRequest]
      by_cases same : sessionId = other
      · rw [← same, Function.update_self, before]
        rfl
      · rw [Function.update_of_ne same]
        exact before

theorem sending_unknown_step (placed : Placed state) (sending : Sending state)
    (moved : Transition state action next) (sessionId : Bytes)
    (absent : next.plane.resources.sessions sessionId = none) (id : Bytes) :
    requested sessionId (next.plane.outgoing id) = 0 := by
  cases tableStep_of_transition placed moved with
  | unchanged outgoing sessions =>
      rw [sessions] at absent
      rw [outgoing]
      exact sending.unknown sessionId absent id
  | added placement _ _ _ outgoing sessions =>
      have different : sessionId ≠ placement.sessionId := by
        intro same
        rw [sessions, same, Function.update_self] at absent
        cases absent
      rw [sessions, Function.update_of_ne different] at absent
      rw [outgoing]
      exact sending.unknown sessionId absent id
  | written processId other _ _ outgoing sessions =>
      rw [sessions, Plane.sessions_writeRequest] at absent
      rw [outgoing, requested_writeRequest]
      by_cases same : sessionId = other
      · subst same
        rw [Function.update_self, Option.map_eq_none_iff] at absent
        rw [written_of_none absent, sending.unknown sessionId absent id]
        split <;> rfl
      · rw [Function.update_of_ne same] at absent
        rw [requested_written_of_ne placed.keyed processId (Ne.symm same),
          sending.unknown sessionId absent id, ite_self]

theorem added_of_none {plane : Plane} {placement : Placement}
    (absent : plane.resources.sessions placement.sessionId = none) :
    (plane.added placement).allocated = false := by
  simp only [Plane.added, absent, Option.getD_none]
  rfl

theorem sending_writing_step (sending : Sending state)
    (moved : Transition state action next) (owner : Nat) (placement : Placement) (id : Bytes)
    (held : next.mutex = some (.writeRequest owner placement id)) :
    Exists fun session => next.plane.resources.sessions placement.sessionId = some session ∧
      session.swapIn = placement.swapIn ∧ (placement.swapIn = false -> session.allocated = false) := by
  have kept := sending.writing owner placement id
  cases moved with
  | reserve =>
      rw [State.setResources, Resources.sessions_getFreeProcess]
      exact kept held
  | @addExisting _ _ other processId _ whole free present =>
      cases held
      rw [Plane.sessions_addSession, Function.update_self]
      refine ⟨_, rfl, rfl, fun fresh => added_of_none (sending.creating _ ?_)⟩
      simp only [State.creating, whole, total_append, total_cons, Client.creating, creates, fresh,
        true_and, if_true]
      omega
  | addProcess | writeRequest | addSession | allocateProcess | enterPending | sendPending | poll =>
      cases held
  | _ => exact kept held

/-- A request is written to the one process that lists the session. -/
theorem listed_at_written (placed : Placed state) {processId sessionId id : Bytes}
    (due : 0 < state.due processId sessionId)
    (listed : 0 < state.plane.resources.listedAt id sessionId) : id = processId := by
  by_contra different
  have single := placed.single sessionId
  have backed := placed.backed processId sessionId
  have both := state.plane.resources.listedAt_add_le_listed different sessionId
  simp only [State.tokens] at single
  omega

/-- The request of a fresh session goes to an open connection, and it is the
first one. -/
theorem write_fresh (placed : Placed state) (sending : Sending state) (polling : Polling state)
    (allowed : writesConnected state action = true) {processId sessionId : Bytes}
    (cause : WriteCause state action processId sessionId)
    (due : 0 < state.due processId sessionId) {session : Session}
    (present : state.plane.resources.sessions sessionId = some session)
    (fresh : session.swapIn = false) :
    session.allocated = false ∧ state.plane.resources.isConnected processId = true := by
  rcases cause with ⟨owner, placement, uuid, rfl, held, rfl⟩ | ⟨index, held, unsent⟩
  · rcases sending.writing owner placement processId held with ⟨entry, found, same, first⟩
    rw [present] at found
    cases found
    have created : placement.swapIn = false := same.symm.trans fresh
    refine ⟨first created, ?_⟩
    simpa [writesConnected, held, created] using allowed
  · have backed := placed.backed processId sessionId
    have member : processId ∈ state.plane.resources.processIds := by
      by_contra absent
      rw [Resources.listedAt_absent absent] at backed
      omega
    rcases Resources.exists_getProcess member with ⟨process, found⟩
    have connected := (polling.pending processId index held process
      (Resources.mem_of_getProcess found) (Resources.processId_of_getProcess found)).1
    constructor
    · simpa [Resources.isUnsent, present] using unsent
    · simp only [Resources.isConnected, found, connected]

theorem sending_counted_step (placed : Placed state) (sending : Sending state)
    (polling : Polling state) (allowed : writesConnected state action = true)
    (moved : Transition state action next) (id sessionId : Bytes) (session : Session)
    (present : next.plane.resources.sessions sessionId = some session)
    (fresh : session.swapIn = false)
    (listed : 0 < next.plane.resources.listedAt id sessionId) :
    requested sessionId (next.plane.outgoing id) = if session.allocated then 1 else 0 := by
  cases tableStep_of_transition placed moved with
  | unchanged outgoing sessions fewer =>
      rw [sessions] at present
      rw [outgoing]
      exact sending.counted id sessionId session present fresh
        (Nat.lt_of_lt_of_le listed (fewer id sessionId))
  | added placement _ _ creating outgoing sessions _ elsewhere =>
      rw [outgoing]
      by_cases same : sessionId = placement.sessionId
      · rw [sessions, same, Function.update_self] at present
        cases present
        have absent := sending.creating _ (creating fresh)
        rw [same, sending.unknown _ absent id, added_of_none absent]
        rfl
      · rw [sessions, Function.update_of_ne same] at present
        rw [elsewhere id sessionId same] at listed
        exact sending.counted id sessionId session present fresh listed
  | written processId other cause due outgoing sessions same =>
      rw [sessions, Plane.sessions_writeRequest] at present
      rw [same] at listed
      rw [outgoing, requested_writeRequest]
      by_cases equal : sessionId = other
      · subst equal
        rw [Function.update_self] at present
        rcases Option.map_eq_some_iff.mp present with ⟨old, before, rfl⟩
        rcases write_fresh placed sending polling allowed cause due before fresh with
          ⟨first, connected⟩
        have here := listed_at_written placed due listed
        subst here
        rw [sending.counted id sessionId old before fresh listed,
          requested_written_self placed.keyed before connected]
        simp only [first, Bool.false_eq_true, if_false, if_true]
      · rw [Function.update_of_ne equal] at present
        rw [requested_written_of_ne placed.keyed processId (Ne.symm equal), ite_self, Nat.add_zero]
        exact sending.counted id sessionId session present fresh listed

/-! ## Polling -/

theorem writes_step (moved : Transition state action next) {sessionId : Bytes}
    (writes : state.writes sessionId) :
    next.writes sessionId ∨ next.plane.resources.isUnsent sessionId = false := by
  rcases writes with ⟨owner, placement, processId, held, same⟩
  have kept : state.mutex = next.mutex -> next.writes sessionId := fun mutex =>
    ⟨owner, placement, processId, mutex ▸ held, same⟩
  cases moved with
  | addExisting _ free | addProcess _ free | enterPending _ free =>
      rw [free] at held
      cases held
  | writeRequest _ mutex =>
      rw [mutex] at held
      cases held
      right
      rw [← same]
      exact Plane.isUnsent_writeRequest_self _ _ _
  | addSession _ mutex | allocateProcess _ mutex | sendPending mutex | poll mutex =>
      rw [mutex] at held
      cases held
  | _ => exact Or.inl (kept rfl)

/-- What was sent or is being written for a listed session stays so. -/
theorem settled_step (placed : Placed state) (moved : Transition state action next)
    {process : Process} (member : process ∈ state.plane.resources.processes) {sessionId : Bytes}
    (listed : sessionId ∈ process.sessions)
    (settled : state.plane.resources.isUnsent sessionId = false ∨ state.writes sessionId) :
    next.plane.resources.isUnsent sessionId = false ∨ next.writes sessionId := by
  rcases settled with sent | writes
  · left
    exact isUnsent_tableStep (tableStep_of_transition placed moved)
      (Resources.listed_pos_of_mem member listed) sent
  · exact (writes_step moved writes).symm

theorem polling_polled_step (placed : Placed state) (polling : Polling state)
    (moved : Transition state action next) (process : Process)
    (member : process ∈ next.plane.resources.processes) (polled : process.polled = true)
    (sessionId : Bytes) (listed : sessionId ∈ process.sessions) :
    next.plane.resources.isUnsent sessionId = false ∨ next.writes sessionId := by
  cases processStep_of_transition placed moved member with
  | kept old inside _ sessions _ same =>
      rw [← sessions] at listed
      rw [same] at polled
      exact settled_step placed moved inside listed
        (polling.polled old inside polled sessionId listed)
  | polled old index inside named sessions held ended =>
      rcases List.getElem_of_mem listed with ⟨place, bound, value⟩
      have found := List.getElem?_eq_some_iff.mpr ⟨bound, value⟩
      rw [← sessions] at found listed
      have sent := (polling.pending _ index held old inside named).2 place sessionId
        (Nat.lt_of_lt_of_le bound ended) found
      exact settled_step placed moved inside listed (Or.inl sent)
  | listing old owner placement inside named sessions same held =>
      rw [same] at polled
      rw [sessions] at listed
      rcases List.mem_append.mp listed with before | last
      · exact settled_step placed moved inside before
          (polling.polled old inside polled sessionId before)
      · rcases held with ⟨writing, _⟩ | ⟨opening, _⟩
        · exact Or.inr ⟨owner, placement, _, writing, (List.mem_singleton.mp last).symm⟩
        · rw [polling.opening owner placement _ opening old inside named] at polled
          cases polled
  | created _ _ _ unpolled =>
      rw [unpolled] at polled
      cases polled
  | removal old inside _ fewer same =>
      rw [same] at polled
      exact settled_step placed moved inside (fewer sessionId listed)
        (polling.polled old inside polled sessionId (fewer sessionId listed))

/-- What the loop of `process_process` has passed stays sent while the mutex
is not handed on. -/
theorem pending_kept (placed : Placed state) (polling : Polling state)
    (moved : Transition state action next) {id : Bytes} {index : Nat}
    (held : state.mutex = some (.sendPending id index)) (same : next.mutex = state.mutex)
    (process : Process) (member : process ∈ next.plane.resources.processes)
    (named : process.processId = id) :
    process.connected = true ∧ forall place sessionId, place < index ->
      process.sessions[place]? = some sessionId ->
      next.plane.resources.isUnsent sessionId = false := by
  rw [held] at same
  cases processStep_of_transition placed moved member with
  | kept old inside sameId sessions connected =>
      have before := polling.pending id index held old inside (sameId.trans named)
      refine ⟨connected before.1, ?_⟩
      intro place sessionId bound found
      rw [← sessions] at found
      exact isUnsent_tableStep (tableStep_of_transition placed moved)
        (Resources.listed_pos_of_mem inside (List.mem_of_getElem? found))
        (before.2 place sessionId bound found)
  | polled _ _ _ _ _ _ _ free =>
      rw [same] at free
      cases free
  | listing _ _ _ _ _ _ _ mutex =>
      rcases mutex with ⟨writing, _⟩ | ⟨_, allocating⟩
      · rw [same] at writing
        cases writing
      · rw [same] at allocating
        cases allocating
  | created _ _ _ _ opening =>
      rw [same] at opening
      cases opening
  | removal _ _ _ _ _ free =>
      rw [held] at free
      cases free

theorem polling_pending_step (placed : Placed state) (polling : Polling state)
    (moved : Transition state action next) (id : Bytes) (index : Nat)
    (held : next.mutex = some (.sendPending id index)) (process : Process)
    (member : process ∈ next.plane.resources.processes) (named : process.processId = id) :
    process.connected = true ∧ forall place sessionId, place < index ->
      process.sessions[place]? = some sessionId ->
      next.plane.resources.isUnsent sessionId = false := by
  have kept : next.mutex = state.mutex -> _ := fun same =>
    pending_kept placed polling moved (same ▸ held) same process member named
  have table := tableStep_of_transition placed moved
  cases moved with
  | addExisting | addProcess | writeRequest | addSession | allocateProcess | poll => cases held
  | @enterPending processId target found free connected unpolled =>
      cases held
      have located := Resources.getProcess_of_mem placed.distinct member
      rw [named, found] at located
      cases located
      refine ⟨connected, ?_⟩
      intro place sessionId impossible
      omega
  | @sendPending processId pending before target mutex found present =>
      cases held
      have old : process ∈ state.plane.resources.processes := by
        rcases state.plane.sendPending_cases id pending with ⟨_, same⟩ | ⟨_, same⟩
        · rw [same, Plane.processes_writeRequest] at member
          exact member
        · rw [same] at member
          exact member
      have located := Resources.getProcess_of_mem placed.distinct old
      rw [named, found] at located
      cases located
      have passed := polling.pending id before mutex process old named
      refine ⟨passed.1, ?_⟩
      intro place sessionId bound inside
      by_cases last : place = before
      · rw [last, present] at inside
        cases inside
        rcases state.plane.sendPending_cases id pending with ⟨_, same⟩ | ⟨sent, same⟩
        · simp only [same]
          exact Plane.isUnsent_writeRequest_self _ _ _
        · simp only [same]
          exact sent
      · exact isUnsent_tableStep table
          (Resources.listed_pos_of_mem old (List.mem_of_getElem? inside))
          (passed.2 place sessionId (by omega) inside)
  | _ => exact kept rfl

theorem polling_opening_step (placed : Placed state) (polling : Polling state)
    (moved : Transition state action next) (owner : Nat) (placement : Placement) (id : Bytes)
    (held : next.mutex = some (.addSession owner placement id)) (process : Process)
    (member : process ∈ next.plane.resources.processes) (named : process.processId = id) :
    process.polled = false := by
  have kept : state.mutex = some (.addSession owner placement id) -> process.polled = false := by
    intro before
    cases processStep_of_transition placed moved member with
    | kept old inside sameId _ _ same =>
        rw [same]
        exact polling.opening owner placement id before old inside (sameId.trans named)
    | polled _ _ _ _ _ pending =>
        rw [before] at pending
        cases pending
    | listing _ _ _ _ _ _ _ mutex =>
        rcases mutex with ⟨writing, _⟩ | ⟨_, allocating⟩
        · rw [held] at writing
          cases writing
        · rw [held] at allocating
          cases allocating
    | created _ _ _ unpolled => exact unpolled
    | removal _ _ _ _ _ free =>
        rw [before] at free
        cases free
  cases moved with
  | @addProcess _ _ other uuid whole free unused =>
      have absent := placed.absent unused
      rw [Plane.resources_addProcess absent] at member
      cases held
      rcases List.mem_append.mp member with old | last
      · exact False.elim (absent (named ▸ List.mem_map_of_mem old))
      · rw [List.mem_singleton.mp last]
        rfl
  | addExisting | writeRequest | addSession | allocateProcess | enterPending | sendPending | poll =>
      cases held
  | _ => exact kept held

/-! ## Whole runs -/

theorem sending_initial : Sending State.initial where
  known := by
    intro sessionId session present
    cases present
  creating := fun _ positive => False.elim (Nat.lt_irrefl 0 positive)
  unknown := fun _ _ _ => rfl
  writing := by
    intro owner placement id held
    cases held
  counted := by
    intro id sessionId session present
    cases present

theorem polling_initial : Polling State.initial where
  pending := by
    intro id index held
    cases held
  opening := by
    intro owner placement id held
    cases held
  polled := fun _ member => False.elim (List.not_mem_nil member)

theorem polling_step (placed : Placed state) (polling : Polling state)
    (moved : Transition state action next) : Polling next where
  pending := polling_pending_step placed polling moved
  opening := polling_opening_step placed polling moved
  polled := polling_polled_step placed polling moved

theorem polling_of_run {trace : List (State × Action)} {final : State} (run : Run trace final) :
    Polling final := by
  apply run.traced_invariant (fun _ state => Polling state) polling_initial
  intro _ source action target earlier polling stepped
  exact polling_step (placed_of_run earlier) polling (step_transition stepped)

theorem sending_of_run {trace : List (State × Action)} {final : State} (run : Run trace final)
    (allowed : TransitionSystem.Guarded (fun state action => writesConnected state action = true)
      trace) : Sending final := by
  refine run.guarded_traced (fun _ state => Sending state) sending_initial ?_ allowed
  intro _ source action target earlier _ sending connected stepped
  have placed := placed_of_run earlier
  have moved := step_transition stepped
  exact {
    known := sending_known_step placed sending moved
    creating := sending_creating_step placed sending moved
    unknown := sending_unknown_step placed sending moved
    writing := sending_writing_step sending moved
    counted := sending_counted_step placed sending (polling_of_run earlier) connected moved }

/-- Along every run in which `process_client` writes the requests of fresh
sessions only to process workers that have connected: once `process_process`
has finished for a process, every fresh session it lists has had exactly one
request written to its connection, unless the call that listed it is still in
its section. -/
theorem fresh_session_requested_once {trace : List (State × Action)} {final : State}
    (run : Run trace final)
    (allowed : TransitionSystem.Guarded (fun state action => writesConnected state action = true)
      trace)
    (process : Process) (member : process ∈ final.plane.resources.processes)
    (polled : process.polled = true) (sessionId : Bytes) (listed : sessionId ∈ process.sessions)
    (session : Session) (present : final.plane.resources.sessions sessionId = some session)
    (fresh : session.swapIn = false) (left : ¬ final.writes sessionId) :
    requested sessionId (final.plane.outgoing process.processId) = 1 := by
  have counted := (sending_of_run run allowed).counted process.processId sessionId session present
    fresh (Resources.listedAt_pos_of_mem member listed)
  rcases (polling_of_run run).polled process member polled sessionId listed with sent | writes
  · have allocated : session.allocated = true := by
      simpa [Resources.isUnsent, present] using sent
    rw [counted, allocated]
    rfl
  · exact False.elim (left writes)

/-- A fresh session is listed by a process that is registered for polling, and
no section is open. -/
def listsFresh (id sessionId : Bytes) (state : State) : Bool :=
  state.mutex.isNone &&
    (state.plane.resources.processes.any (fun process => decide (process.processId = id ∧
        process.polled = true ∧ sessionId ∈ process.sessions)) &&
      (state.plane.resources.sessions sessionId).any (fun session => !session.swapIn))

theorem exists_of_listsFresh {id sessionId : Bytes} (lists : listsFresh id sessionId state = true) :
    Exists fun process => Exists fun session =>
      process ∈ state.plane.resources.processes ∧ process.processId = id ∧
        process.polled = true ∧ sessionId ∈ process.sessions ∧
        state.plane.resources.sessions sessionId = some session ∧ session.swapIn = false ∧
        ¬ state.writes sessionId := by
  simp only [listsFresh, Bool.and_eq_true, Option.isNone_iff_eq_none, List.any_eq_true,
    decide_eq_true_eq, Option.any_eq_true, Bool.not_eq_true'] at lists
  rcases lists with ⟨free, ⟨process, member, named, polled, listed⟩, session, present, fresh⟩
  refine ⟨process, session, member, named, polled, listed, present, fresh, ?_⟩
  rintro ⟨owner, placement, processId, held, _⟩
  rw [free] at held
  cases held

theorem fresh_session_requested_first :
    Exists fun trace => Exists fun final => Run trace final ∧
      requested [2] (final.plane.outgoing [3]) = 1 := by
  have found := TransitionSystem.exists_run system State.initial
    (placeSession ++ .client 0 [] :: connectWorker) (fun trace final =>
      trace.all (fun entry => writesConnected entry.1 entry.2) && listsFresh [3] [2] final)
    (by decide +kernel)
  rcases found with ⟨trace, final, run, tested⟩
  simp only [Bool.and_eq_true] at tested
  rcases exists_of_listsFresh tested.2 with
    ⟨process, session, member, named, polled, listed, present, fresh, left⟩
  have once := fresh_session_requested_once run (TransitionSystem.guarded_of_all tested.1) process
    member polled [2] listed session present fresh left
  rw [named] at once
  exact ⟨trace, final, run, once⟩

/-- The second client places the session `[4]` on the process worker before it
connects. -/
def placedTooEarly : List Action :=
  placeSession ++ [.call newSessionCall, .client 1 [], .client 1 [4], .client 1 [], .client 1 [],
    .client 1 []] ++ connectWorker ++ [.sendPending]

/-- The request of the second session is lost. -/
theorem fresh_session_never_requested :
    ¬ forall (trace : List (State × Action)) (final : State), Run trace final ->
      forall process, process ∈ final.plane.resources.processes -> process.polled = true ->
      forall sessionId, sessionId ∈ process.sessions -> forall session,
      final.plane.resources.sessions sessionId = some session -> session.swapIn = false ->
      ¬ final.writes sessionId ->
      requested sessionId (final.plane.outgoing process.processId) = 1 := by
  intro always
  have found := TransitionSystem.exists_run system State.initial placedTooEarly (fun _ final =>
    listsFresh [3] [4] final && decide (requested [4] (final.plane.outgoing [3]) = 0))
    (by decide +kernel)
  rcases found with ⟨trace, final, run, tested⟩
  simp only [Bool.and_eq_true, decide_eq_true_eq] at tested
  rcases exists_of_listsFresh tested.1 with
    ⟨process, session, member, named, polled, listed, present, fresh, left⟩
  have once := always trace final run process member polled [4] listed session present fresh left
  rw [named, tested.2] at once
  cases once

end System
end Praas
