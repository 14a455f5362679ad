import Praas.Library.Framing
import Praas.System.ByteLinks

namespace Praas
namespace System

open Library
open ControlPlane
open Praas.Runtime
open Wire

/-!
# The bytes of the connections carry the messages of the model

Every run of the system on bytes is a run of the system on messages, with the
same control plane, the same workers and the same stored sessions.  A step that
only moves bytes is no step on messages.  The bytes that a reader holds and
those still on the way are at all times the packets of the messages that have
not been read.

That a packet is read as the message it was filled with needs values that fit
their fields.  They do in every state that the system on messages reaches:
session identifiers are generated, the numbers of an entry are those of a call,
and the sizes of mapped memory are 32-bit numbers.
-/

namespace Link

/-! ## Values that fit their packets -/

structure FormedRequest (request : SessionRequest) : Prop where
  id : Generated request.sessionId
  functions : IsSigned 4 request.maxFunctions
  memory : IsSigned 4 request.memorySize

structure FormedMessage (message : StatusMessage) : Prop where
  id : Generated message.sessionId
  memory : IsSigned 4 message.memorySize
  status : IsSigned 2 message.status

def FormedWorker (worker : Worker) : Prop :=
  forall entry, entry ∈ worker.sessions ->
    Generated entry.sessionId ∧ IsSigned 4 entry.memory.size

structure FormedNode (node : System.Node) : Prop where
  worker : FormedWorker node.worker
  answering : forall result sessionId, node.answering = some (result, sessionId) ->
    Generated sessionId
  closing : forall message, message ∈ node.closing -> FormedMessage message
  outbox : forall message, message ∈ node.outbox -> FormedMessage message

/-- Everything that can get into a packet fits it. -/
structure Formed (state : System.State) : Prop where
  used : forall id, id ∈ state.used -> Generated id
  requests : forall processId request, request ∈ state.plane.outgoing processId ->
    FormedRequest request
  nodes : forall processId, FormedNode (state.nodes processId)

/-! ## The worker -/

theorem memorySize_create (objects : SharedObjects) (swapper : S3Swapper) (store : ObjectStore)
    (sessionId : Bytes) (size : Int) (calls : Syscalls) {after : SharedObjects}
    {memory : SharedMemory}
    (created : SharedMemory.create objects swapper store sessionId size calls =
      (after, some memory)) : IsSigned 4 memory.size := by
  have creation := SharedMemory.create_creation objects swapper store sessionId size calls
  rw [created] at creation
  cases creation with
  | loaded contents maps unsigned length => exact int32_signed _
  | fresh contents maps unsigned length => exact int32_signed _

theorem formedWorker_start (maxSessions : Int) (swapper : S3Swapper) :
    FormedWorker (Worker.start maxSessions swapper) := by
  intro entry member
  cases member

theorem formedWorker_allocateSession {worker : Worker} (formed : FormedWorker worker)
    (store : ObjectStore) {request : SessionRequest} (id : Generated request.sessionId)
    (calls : Syscalls) : FormedWorker (worker.allocateSession store request calls).2 := by
  unfold Worker.allocateSession
  split
  · exact formed
  split
  · exact formed
  · intro entry member
    rcases List.mem_append.mp member with old | new
    · exact formed entry old
    · rw [List.mem_singleton.mp new]
      unfold Worker.fork
      split
      · exact ⟨id, (by decide : IsSigned 4 (-1))⟩
      · rename_i created
        exact ⟨id, memorySize_create _ _ _ _ _ _ created⟩

theorem formedWorker_sessionDeleted {worker : Worker} (formed : FormedWorker worker)
    (store : ObjectStore) (pid : Int) (putObject : Bool) :
    FormedWorker (worker.sessionDeleted store pid putObject).1 := by
  intro entry member
  rcases Worker.removesChild_sessionDeleted worker store pid putObject with
    same | ⟨front, erased, rest, whole, _, left⟩
  · rw [same] at member
    exact formed entry member
  · rw [left] at member
    exact formed entry (mem_around whole member)

/-- The message of a deletion names an entry of the list and carries the size
of its memory, or none. -/
theorem formedMessage_sessionDeleted {worker : Worker} (formed : FormedWorker worker) {pid : Int}
    {entry : SessionFork} (found : worker.deletedEntry pid = some entry) (store : ObjectStore)
    (putObject : Bool) {message : StatusMessage}
    (sent : (worker.sessionDeleted store pid putObject).2.2 = some message) :
    FormedMessage message := by
  have fits := formed entry (List.mem_of_find?_eq_some found)
  simp only [Worker.sessionDeleted, found, Option.some.injEq] at sent
  rw [← sent]
  refine ⟨fits.1, ?_, (by decide : IsSigned 2 (-1))⟩
  change IsSigned 4 (if worker.swapper.enabled then entry.memory.size else 0)
  split
  · exact fits.2
  · exact (by decide : IsSigned 4 0)

theorem value_signed (result : ErrorCode) : IsSigned 2 result.value := by
  cases result <;> decide

/-! ## The table of sessions -/

variable {state next : System.State} {action : System.Action}

theorem typed_of_admissible (allowed : admissible action = true) : Foreign.typed action = true := by
  cases action with
  | call asked => exact allowed
  | _ => rfl

/-- A run with admissible actions is one of the runs with 32-bit numbers. -/
theorem foreign_of_run {trace : List (System.State × System.Action)} {final : System.State}
    (run : System.Run trace final)
    (allowed : TransitionSystem.Guarded (fun _ action => admissible action = true) trace) :
    Exists fun events => Foreign.Run events final := by
  apply run.guarded_traced (fun _ state => Exists fun events => Foreign.Run events state)
    ⟨[], .start⟩ _ allowed
  rintro _ source action target _ _ ⟨events, earlier⟩ fits stepped
  have responded : Foreign.foreign.step source (.own action) = some target := by
    change (if Foreign.typed action then System.step source action else none) = some target
    rw [if_pos (typed_of_admissible fits)]
    exact stepped
  exact ⟨_, earlier.extend responded⟩

/-- The request for an entry of the table fits its packet. -/
theorem formed_entry (consistent : Foreign.Consistent state) (registered : Registered state)
    (used : forall id, id ∈ state.used -> Generated id) {sessionId : Bytes} {session : Session}
    (entry : state.plane.resources.sessions sessionId = some session) :
    FormedRequest ⟨session.sessionId, session.maxFunctions, session.memorySize⟩ := by
  rcases consistent.entries sessionId session entry with ⟨call, fits, recorded, functions, memory⟩
  have signed := of_decide_eq_true fits
  refine ⟨?_, ?_, ?_⟩
  · rw [registered.keyed sessionId session entry]
    exact used sessionId (consistent.formed sessionId _ recorded).1
  · change IsSigned 4 session.maxFunctions
    rw [functions]
    exact signed.1
  · change IsSigned 4 session.memorySize
    rw [memory]
    exact Foreign.sentSize_signed signed.2 session.swapIn

/-! ## What a step adds -/

theorem used_cases (moved : Transition state action next) (allowed : admissible action = true)
    {id : Bytes} (known : id ∈ next.used) : id ∈ state.used ∨ Generated id := by
  have generated : forall uuid, Generated uuid -> id ∈ uuid :: state.used ->
      id ∈ state.used ∨ Generated id := by
    intro uuid form member
    rcases List.mem_cons.mp member with same | old
    · exact Or.inr (same ▸ form)
    · exact Or.inl old
  cases moved with
  | allocate processName uuid unused => exact generated uuid (of_decide_eq_true allowed) known
  | recordDetails whole unused => exact generated _ (of_decide_eq_true allowed) known
  | addProcess whole free unused => exact generated _ (of_decide_eq_true allowed) known
  | _ => exact Or.inl known

/-- A request on the way was there before or is that of an entry. -/
theorem outgoing_cases (fits : Foreign.typed action = true) (moved : Transition state action next)
    {processId : Bytes} {request : SessionRequest}
    (member : request ∈ next.plane.outgoing processId) :
    request ∈ state.plane.outgoing processId ∨ Exists fun sessionId => Exists fun session =>
      state.plane.resources.sessions sessionId = some session ∧
        request = ⟨session.sessionId, session.maxFunctions, session.memorySize⟩ := by
  rcases Foreign.outgoing_happens (.own fits moved) with same | ⟨target, sessionId, written⟩
  · rw [same] at member
    exact Or.inl member
  · rw [written, Plane.outgoing_writeRequest] at member
    by_cases own : processId = target
    · subst own
      rw [Function.update_self] at member
      refine (List.mem_append.mp member).imp_right (fun new => ?_)
      unfold Plane.written at new
      split at new
      · split at new
        · cases new
        · rename_i session entry
          exact ⟨sessionId, session, entry, List.mem_singleton.mp new⟩
      · cases new
    · rw [Function.update_of_ne own] at member
      exact Or.inl member

theorem formedNode_idle : FormedNode System.Node.idle where
  worker := formedWorker_start _ _
  answering := fun _ _ waiting => nomatch waiting
  closing := fun _ member => nomatch member
  outbox := fun _ member => nomatch member

theorem formed_setNode {processId : Bytes} {node : System.Node} (formed : Formed state)
    (replaced : FormedNode node) (place : Bytes) :
    FormedNode ((state.setNode processId node).nodes place) := by
  change FormedNode (Function.update state.nodes processId node place)
  by_cases own : place = processId
  · rw [own, Function.update_self]
    exact replaced
  · rw [Function.update_of_ne own]
    exact formed.nodes place

theorem formed_nodes (formed : Formed state) (moved : Transition state action next)
    (place : Bytes) : FormedNode (next.nodes place) := by
  cases moved with
  | @connect processId swapper entry found down =>
      have node := formed.nodes processId
      refine formed_setNode formed ?_ place
      exact ⟨formedWorker_start _ _, node.answering, node.closing, node.outbox⟩
  | @receive processId calls request up pending =>
      have node := formed.nodes processId
      have fits := formed.requests processId request (List.mem_of_getElem? pending)
      refine formed_setNode formed ?_ place
      refine ⟨formedWorker_allocateSession node.worker _ fits.id calls, ?_, node.closing,
        node.outbox⟩
      intro result sessionId waiting
      cases waiting
      exact fits.id
  | @answer processId sessionId result waiting =>
      have node := formed.nodes processId
      refine formed_setNode formed ?_ place
      refine ⟨node.worker, ?_, node.closing, ?_⟩
      · intro other id impossible
        cases impossible
      intro message member
      rcases List.mem_append.mp member with old | new
      · exact node.outbox message old
      · rw [List.mem_singleton.mp new]
        exact ⟨node.answering result sessionId waiting, (by decide : IsSigned 4 0),
          value_signed result⟩
  | @touch processId path contents sized =>
      have node := formed.nodes processId
      refine formed_setNode formed ?_ place
      exact ⟨node.worker, node.answering, node.closing, node.outbox⟩
  | @sessionDeleted processId pid putObject entry message up found sent =>
      have node := formed.nodes processId
      refine formed_setNode formed ?_ place
      refine ⟨formedWorker_sessionDeleted node.worker _ pid putObject, node.answering, ?_,
        node.outbox⟩
      intro other member
      rcases List.mem_append.mp member with old | new
      · exact node.closing other old
      · rw [List.mem_singleton.mp new]
        exact formedMessage_sessionDeleted node.worker found _ _ sent
  | @writeClosure processId before after message whole =>
      have node := formed.nodes processId
      refine formed_setNode formed ?_ place
      refine ⟨node.worker, node.answering, ?_, ?_⟩
      · intro other member
        exact node.closing other (mem_around whole member)
      · intro other member
        rcases List.mem_append.mp member with old | new
        · exact node.outbox other old
        · rw [List.mem_singleton.mp new]
          exact node.closing message (mem_middle whole)
  | @deliverAnswer processId message rest queued answer =>
      have node := formed.nodes processId
      refine formed_setNode formed ?_ place
      refine ⟨node.worker, node.answering, node.closing, ?_⟩
      intro other member
      exact node.outbox other (queued ▸ List.mem_cons_of_mem message member)
  | @deliverClosure processId process message rest known queued closure =>
      have node := formed.nodes processId
      refine formed_setNode formed ?_ place
      refine ⟨node.worker, node.answering, node.closing, ?_⟩
      intro other member
      exact node.outbox other (queued ▸ List.mem_cons_of_mem message member)
  | _ => exact formed.nodes place

/-- Along every run with admissible actions, all values fit their packets. -/
theorem formed_of_run {trace : List (System.State × System.Action)} {final : System.State}
    (run : System.Run trace final)
    (allowed : TransitionSystem.Guarded (fun _ action => admissible action = true) trace) :
    Formed final := by
  apply run.guarded_traced (fun _ state => Formed state) _ _ allowed
  · refine ⟨?_, ?_, fun processId => formedNode_idle⟩
    · intro id known
      cases known
    · intro processId request member
      cases member
  · intro earlier source action target reached guarded formed fits stepped
    have moved := step_transition stepped
    rcases foreign_of_run reached guarded with ⟨events, events_run⟩
    have consistent := Foreign.consistent_of_run events_run
    have registered := (Foreign.counted_of_run events_run).1
    refine ⟨?_, ?_, formed_nodes formed moved⟩
    · intro id known
      exact (used_cases moved fits known).elim (formed.used id) (fun form => form)
    · intro processId request member
      rcases outgoing_cases (typed_of_admissible fits) moved member with
        old | ⟨sessionId, session, entry, rfl⟩
      · exact formed.requests processId request old
      · exact formed_entry consistent registered formed.used entry

/-! ## Packets are read as they were filled -/

theorem requestPacket_length (request : SessionRequest) :
    (requestPacket request).length = expectedLength := Frame.size_eq _

theorem packet_length (message : StatusMessage) : (packet message).data.length = headerLength :=
  Frame.size_eq _

theorem parse_requestPacket {request : SessionRequest} (formed : FormedRequest request)
    {data : Bytes} (same : data = requestPacket request) (full : data.length = expectedLength) :
    Exists fun message => parse ⟨data, full⟩ expectedLength = some (.sessionRequest message) ∧
      requestOf message = request := by
  subst same
  rcases SessionAllocation.readFrom_fill ⟨⟨request.sessionId, formed.id.1, formed.id.2⟩,
    request.maxFunctions, request.memorySize, formed.functions, formed.memory⟩ Request.new with
    ⟨message, parsed, id, functions, memory⟩
  refine ⟨message, parsed, ?_⟩
  unfold requestOf
  rw [id, functions, memory]

theorem read_packet {message : StatusMessage} (formed : FormedMessage message) :
    Header.parse (packet message) = some (.sessionStatus (packet message)) ∧
      Header.sessionStatus (packet message) = message.status ∧
      Header.statusSessionId (packet message) = message.sessionId :=
  (read_status SendMessage.new ⟨message.sessionId, formed.id.1, formed.id.2⟩ formed.memory
    formed.status).imp_right (fun read => read.2)

/-! ## The two levels -/

/-- The bytes of a connection are the packets of the messages in flight.  A packet
of which a part has been read is still in flight, since the message is handled
only when the packet is complete. -/
structure CarriesNode (requests : List SessionRequest) (bytes : Node) (node : System.Node) :
    Prop where
  up : bytes.up = node.up
  worker : bytes.worker = node.worker
  answering : bytes.answering = node.answering
  closing : bytes.closing = node.closing
  consumed : node.consumed ≤ requests.length
  taken : bytes.taken ≤ (requestBytes requests).length
  requests : bytes.request ++ (requestBytes requests).drop bytes.taken =
    requestBytes (requests.drop node.consumed)
  messages : bytes.header ++ bytes.written = statusBytes node.outbox
  requestFits : bytes.request.length ≤ expectedLength
  headerFits : bytes.header.length ≤ headerLength

/-- The control plane and the store are the same on both levels, and every
connection carries its messages. -/
structure Carries (bytes : State) (state : System.State) : Prop where
  plane : bytes.plane = state.plane
  mutex : bytes.mutex = state.mutex
  clients : bytes.clients = state.clients
  closures : bytes.closures = state.closures
  store : bytes.store = state.store
  used : bytes.used = state.used
  nodes : forall processId, CarriesNode (state.plane.outgoing processId) (bytes.nodes processId)
    (state.nodes processId)

theorem carries_initial : Carries State.initial System.State.initial where
  plane := rfl
  mutex := rfl
  clients := rfl
  closures := rfl
  store := rfl
  used := rfl
  nodes := fun _ => ⟨rfl, rfl, rfl, rfl, Nat.le_refl _, Nat.le_refl _, rfl, rfl, Nat.zero_le _,
    Nat.zero_le _⟩

/-- Requests that are written later are behind those on the way. -/
theorem CarriesNode.grow {requests : List SessionRequest} {bytes : Node} {node : System.Node}
    (carries : CarriesNode requests bytes node) (more : List SessionRequest) :
    CarriesNode (requests ++ more) bytes node := by
  have split : requestBytes (requests ++ more) = requestBytes requests ++ requestBytes more :=
    List.flatMap_append
  have rest : requestBytes ((requests ++ more).drop node.consumed) =
      requestBytes (requests.drop node.consumed) ++ requestBytes more := by
    rw [List.drop_append_of_le_length carries.consumed]
    exact List.flatMap_append
  have consumed := carries.consumed
  have taken := carries.taken
  refine ⟨carries.up, carries.worker, carries.answering, carries.closing, ?_, ?_, ?_,
    carries.messages, carries.requestFits, carries.headerFits⟩
  · rw [List.length_append]
    omega
  · rw [split, List.length_append]
    omega
  · rw [split, rest, List.drop_append_of_le_length taken, ← List.append_assoc, carries.requests]

theorem Carries.setNode {bytes : State} {state : System.State} (carries : Carries bytes state)
    {processId : Bytes} {node : Node} {message : System.Node}
    (replaced : CarriesNode (state.plane.outgoing processId) node message) :
    Carries (bytes.setNode processId node) (state.setNode processId message) := by
  refine ⟨carries.plane, carries.mutex, carries.clients, carries.closures, carries.store,
    carries.used, ?_⟩
  intro place
  change CarriesNode _ (Function.update bytes.nodes processId node place)
    (Function.update state.nodes processId message place)
  by_cases own : place = processId
  · subst own
    rw [Function.update_self, Function.update_self]
    exact replaced
  · rw [Function.update_of_ne own, Function.update_of_ne own]
    exact carries.nodes place

theorem state_setNode_self (state : System.State) (processId : Bytes) :
    state.setNode processId (state.nodes processId) = state := by
  rw [System.State.setNode, Function.update_eq_self]

/-! ## Steps of the control plane -/

def bare (state : System.State) : System.State :=
  { state with nodes := fun _ => System.Node.idle }

theorem Carries.front {bytes : State} {state : System.State} (carries : Carries bytes state) :
    bytes.front = bare state := by
  rw [State.front, carries.plane, carries.mutex, carries.clients, carries.closures, carries.store,
    carries.used]
  rfl

theorem clientStep_bare (state : System.State) (index : Nat) (uuid : Bytes) (client : Client) :
    clientStep (bare state) index uuid client = (clientStep state index uuid client).map bare := by
  cases client with
  | checkAlive | takeSwapped | recordDetails | addExisting | addProcess =>
      simp only [clientStep]
      rw [apply_ite (Option.map bare)]
      rfl
  | markAlive | returned => rfl
  | _ =>
      simp only [clientStep, bare]
      repeat' split
      all_goals rfl

theorem closureStep_bare (state : System.State) (index : Nat) (closure : Closure) :
    closureStep (bare state) index closure = (closureStep state index closure).map bare := by
  unfold closureStep
  cases closure.stage with
  | remove =>
      dsimp only
      rw [apply_ite (Option.map bare)]
      rfl
  | _ => rfl

theorem pendingStep_bare (state : System.State) :
    pendingStep (bare state) = (pendingStep state).map bare := by
  simp only [pendingStep, bare]
  repeat' split
  all_goals rfl

theorem step_bare (state : System.State) (control : Control) :
    System.step (bare state) control.action = (System.step state control.action).map bare := by
  cases control with
  | allocate processName uuid =>
      simp only [Control.action, System.step]
      rw [apply_ite (Option.map bare)]
      rfl
  | call asked => rfl
  | client index uuid =>
      simp only [Control.action, System.step]
      rw [show (bare state).clients = state.clients from rfl]
      cases state.clients[index]? with
      | none => rfl
      | some client => exact clientStep_bare state index uuid client
  | enterPending processId =>
      simp only [Control.action, System.step, bare]
      cases state.plane.resources.getProcess processId with
      | none => rfl
      | some process =>
          dsimp only
          rw [apply_ite (Option.map bare)]
          rfl
  | sendPending => exact pendingStep_bare state
  | closure index =>
      simp only [Control.action, System.step]
      rw [show (bare state).closures = state.closures from rfl]
      cases state.closures[index]? with
      | none => rfl
      | some closure => exact closureStep_bare state index closure
  | reorder processes =>
      simp only [Control.action, System.step]
      rw [apply_ite (Option.map bare)]
      rfl

theorem nodes_control {control : Control} (moved : Transition state control.action next) :
    next.nodes = state.nodes ∧ next.store = state.store := by
  cases control <;> cases moved <;> exact ⟨rfl, rfl⟩

theorem outgoing_grows (fits : Foreign.typed action = true) (moved : Transition state action next)
    (processId : Bytes) : Exists fun more =>
      next.plane.outgoing processId = state.plane.outgoing processId ++ more := by
  rcases Foreign.outgoing_happens (.own fits moved) with same | ⟨target, sessionId, written⟩
  · exact ⟨[], by rw [same, List.append_nil]⟩
  · rw [written, Plane.outgoing_writeRequest]
    by_cases own : processId = target
    · subst own
      exact ⟨_, Function.update_self _ _ _⟩
    · exact ⟨[], by rw [Function.update_of_ne own, List.append_nil]⟩

theorem carries_control {bytes target : State} {control : Control} (carries : Carries bytes state)
    (stepped : Link.step bytes (.control control) = some target) :
    Exists fun next => (admissible control.action = true ∧
      System.step state control.action = some next) ∧ Carries target next := by
  simp only [step] at stepped
  split at stepped
  · rename_i allowed
    rw [carries.front, step_bare] at stepped
    rcases Option.map_eq_some_iff.mp stepped with ⟨front, found, rfl⟩
    rcases Option.map_eq_some_iff.mp found with ⟨next, moved, rfl⟩
    have kept := nodes_control (step_transition moved)
    refine ⟨next, ⟨allowed, moved⟩, rfl, rfl, rfl, rfl, carries.store.trans kept.2.symm, rfl, ?_⟩
    intro place
    rcases outgoing_grows (typed_of_admissible allowed) (step_transition moved) place with
      ⟨more, grown⟩
    rw [grown, kept.1]
    exact (carries.nodes place).grow more
  · cases stepped

/-! ## The worker's end -/

section Worker

variable {bytes target : State} {processId : Bytes}

theorem carries_connect {swapper : S3Swapper} (carries : Carries bytes state)
    (stepped : Link.step bytes (.connect processId swapper) = some target) :
    Exists fun next => System.step state (.connect processId swapper) = some next ∧
      Carries target next := by
  have node := carries.nodes processId
  simp only [step, carries.plane, node.up] at stepped
  cases found : state.plane.started.find? (fun entry => decide (entry.1 = processId)) with
  | none =>
      rw [found] at stepped
      cases stepped
  | some entry =>
      simp only [found] at stepped
      split at stepped
      · cases stepped
      · rename_i down
        cases stepped
        have replaced : Carries
            (bytes.setNode processId { bytes.nodes processId with
              up := true, worker := Worker.start entry.2 swapper })
            (state.setNode processId { state.nodes processId with
              up := true, worker := Worker.start entry.2 swapper }) :=
          carries.setNode ⟨rfl, rfl, node.answering, node.closing, node.consumed, node.taken,
            node.requests, node.messages, node.requestFits, node.headerFits⟩
        refine ⟨{ state.setNode processId { state.nodes processId with
              up := true, worker := Worker.start entry.2 swapper } with
            plane := state.plane.connect processId }, ?_, rfl, replaced.mutex, replaced.clients,
          replaced.closures, replaced.store, replaced.used, replaced.nodes⟩
        simp only [System.step, found]
        exact if_neg down

theorem take_append_rest (stream : Bytes) (size : Nat) :
    stream.take size ++ stream.drop (stream.take size).length = stream := by
  rw [List.length_take, ← List.drop_eq_drop_min]
  exact List.take_append_drop size stream

/-- Bytes of a request move from the connection to the worker's buffer. -/
theorem carries_readRequest {size : Nat} (carries : Carries bytes state)
    (stepped : readRequestStep bytes processId size = some target) : Carries target state := by
  have node := carries.nodes processId
  simp only [readRequestStep, carries.plane] at stepped
  split at stepped
  · cases stepped
  · rename_i allowed
    have room := Nat.not_lt.mp (not_or.mp (not_or.mp (not_or.mp allowed).2).2).2
    cases stepped
    have front := take_append_rest
      ((requestBytes (state.plane.outgoing processId)).drop (bytes.nodes processId).taken) size
    have inside := List.length_take_le' size
      ((requestBytes (state.plane.outgoing processId)).drop (bytes.nodes processId).taken)
    generalize ((requestBytes (state.plane.outgoing processId)).drop
      (bytes.nodes processId).taken).take size = more at room front inside ⊢
    rw [List.drop_drop] at front
    rw [List.length_drop] at inside
    have taken := node.taken
    have kept : Carries (bytes.setNode processId { bytes.nodes processId with
        taken := (bytes.nodes processId).taken + more.length
        request := (bytes.nodes processId).request ++ more })
        (state.setNode processId (state.nodes processId)) := by
      refine carries.setNode ⟨node.up, node.worker, node.answering, node.closing, node.consumed,
        ?_, ?_, node.messages, ?_, node.headerFits⟩
      · change (bytes.nodes processId).taken + more.length ≤ _
        omega
      · change ((bytes.nodes processId).request ++ more) ++ List.drop _ _ = _
        rw [List.append_assoc, front, node.requests]
      · rw [List.length_append]
        exact room
    rw [state_setNode_self] at kept
    exact kept

/-- A full buffer holds the packet of the first request that was not read. -/
theorem first_request {requests : List SessionRequest} {node : Node} {message : System.Node}
    (carries : CarriesNode requests node message) (full : node.request.length = expectedLength) :
    Exists fun request => requests[message.consumed]? = some request ∧
      node.request = requestPacket request ∧
      (requestBytes requests).drop node.taken =
        requestBytes (requests.drop (message.consumed + 1)) := by
  rcases split_first_packet requestPacket_length (by decide : 0 < expectedLength) full
    carries.requests with ⟨request, rest, first, front, tail⟩
  have pending : requests[message.consumed]? = some request := by
    rw [← List.head?_drop, first]
    rfl
  have behind : requests.drop (message.consumed + 1) = rest := by
    rw [← List.tail_drop, first]
    rfl
  exact ⟨request, pending, front, by rw [behind]; exact tail⟩

/-- A full buffer is a session request, and `allocate_session` gets the request
that was written. -/
theorem carries_receive {calls : Syscalls} (carries : Carries bytes state) (formed : Formed state)
    (stepped : Link.receiveStep bytes processId calls = some target) :
    Exists fun next => System.step state (.receive processId calls) = some next ∧
      Carries target next := by
  have node := carries.nodes processId
  simp only [Link.receiveStep] at stepped
  split at stepped
  · rename_i full
    rcases first_request node full with ⟨request, pending, same, behind⟩
    rcases parse_requestPacket (formed.requests processId request (List.mem_of_getElem? pending))
      same full with ⟨message, parsed, rfl⟩
    split at stepped
    · cases stepped
    · rename_i allowed
      simp only [parsed] at stepped
      cases stepped
      rw [node.up, node.answering] at allowed
      refine ⟨state.setNode processId { state.nodes processId with
        worker := ((state.nodes processId).worker.allocateSession state.store (requestOf message)
          calls).2
        consumed := (state.nodes processId).consumed + 1
        answering := some (((state.nodes processId).worker.allocateSession state.store
          (requestOf message) calls).1, (requestOf message).sessionId) }, ?_, ?_⟩
      · simp only [System.step, System.receiveStep, if_neg allowed, pending]
      · have next := (List.getElem?_eq_some_iff.mp pending).1
        apply carries.setNode
        refine ⟨node.up, ?_, ?_, node.closing, next, node.taken, ?_, node.messages,
          Nat.zero_le _, node.headerFits⟩
        · change ((bytes.nodes processId).worker.allocateSession _ _ _).2 = _
          rw [node.worker, carries.store]
        · change some (((bytes.nodes processId).worker.allocateSession _ _ _).1, _) = _
          rw [node.worker, carries.store]
          rfl
        · exact behind
  · cases stepped

theorem carries_answer (carries : Carries bytes state)
    (stepped : Link.answerStep bytes processId = some target) :
    Exists fun next => System.step state (.answer processId) = some next ∧ Carries target next := by
  have node := carries.nodes processId
  cases waiting : (state.nodes processId).answering with
  | none =>
      simp only [answerStep, node.answering, waiting] at stepped
      cases stepped
  | some reply =>
      rcases reply with ⟨result, sessionId⟩
      simp only [answerStep, node.answering, waiting, Option.some.injEq] at stepped
      simp only [System.step, waiting, ← stepped]
      refine ⟨_, rfl, ?_⟩
      apply carries.setNode
      refine ⟨node.up, node.worker, rfl, node.closing, node.consumed, node.taken, node.requests, ?_,
        node.requestFits, node.headerFits⟩
      change _ ++ (_ ++ (packet (StatusMessage.answer result sessionId)).data) =
        statusBytes (_ ++ [_])
      rw [← List.append_assoc, node.messages, statusBytes, statusBytes, List.flatMap_append,
        List.flatMap_singleton]

theorem carries_touch {path contents : Bytes} (carries : Carries bytes state)
    (stepped : Link.step bytes (.touch processId path contents) = some target) :
    Exists fun next => System.step state (.touch processId path contents) = some next ∧
      Carries target next := by
  have node := carries.nodes processId
  simp only [step, node.worker] at stepped
  simp only [System.step]
  split at stepped
  · rename_i sized
    cases stepped
    rw [if_pos sized]
    refine ⟨_, rfl, ?_⟩
    exact carries.setNode ⟨node.up, rfl, node.answering, node.closing, node.consumed, node.taken,
      node.requests, node.messages, node.requestFits, node.headerFits⟩
  · cases stepped

theorem carries_sessionDeleted {pid : Int} {putObject : Bool} (carries : Carries bytes state)
    (stepped : Link.deletedStep bytes processId pid putObject = some target) :
    Exists fun next => System.step state (.sessionDeleted processId pid putObject) = some next ∧
      Carries target next := by
  have node := carries.nodes processId
  simp only [Link.deletedStep, node.worker, carries.store] at stepped
  simp only [System.step, System.deletedStep]
  split at stepped
  · cases stepped
  · rename_i up
    cases stepped
    rw [node.up] at up
    rw [if_neg up]
    generalize (state.nodes processId).worker.sessionDeleted state.store pid putObject = deleted
    have replaced : Carries
        (bytes.setNode processId { bytes.nodes processId with
          worker := deleted.1, closing := (bytes.nodes processId).closing ++ deleted.2.2.toList })
        (state.setNode processId { state.nodes processId with
          worker := deleted.1, closing := (state.nodes processId).closing ++ deleted.2.2.toList }) :=
      carries.setNode ⟨node.up, rfl, node.answering, congrArg (· ++ _) node.closing, node.consumed,
        node.taken, node.requests, node.messages, node.requestFits, node.headerFits⟩
    exact ⟨_, rfl, replaced.plane, replaced.mutex, replaced.clients, replaced.closures, rfl,
      replaced.used, replaced.nodes⟩

theorem carries_writeClosure {index : Nat} (carries : Carries bytes state)
    (stepped : Link.writeClosureStep bytes processId index = some target) :
    Exists fun next => System.step state (.writeClosure processId index) = some next ∧
      Carries target next := by
  have node := carries.nodes processId
  cases known : (state.nodes processId).closing[index]? with
  | none =>
      simp only [writeClosureStep, node.closing, known] at stepped
      cases stepped
  | some message =>
      simp only [writeClosureStep, node.closing, known, Option.some.injEq] at stepped
      simp only [System.step, known, ← stepped]
      refine ⟨_, rfl, ?_⟩
      apply carries.setNode
      refine ⟨node.up, node.worker, node.answering, rfl, node.consumed, node.taken, node.requests,
        ?_, node.requestFits, node.headerFits⟩
      change _ ++ (_ ++ (packet message).data) = statusBytes (_ ++ [message])
      rw [← List.append_assoc, node.messages, statusBytes, statusBytes, List.flatMap_append,
        List.flatMap_singleton]

end Worker

/-! ## The control plane's end -/

section Plane

variable {bytes target : State} {processId : Bytes}

theorem handling_front (carries : Carries bytes state) (processId : Bytes) :
    handling bytes.front processId = handling state processId := by
  rw [carries.front]
  rfl

/-- Bytes of a packet move from the connection to the buffer of the control
plane. -/
theorem carries_readHeader {size : Nat} (carries : Carries bytes state)
    (stepped : readHeaderStep bytes processId size = some target) : Carries target state := by
  have node := carries.nodes processId
  simp only [readHeaderStep] at stepped
  split at stepped
  · cases stepped
  · rename_i allowed
    have room := Nat.not_lt.mp (not_or.mp (not_or.mp allowed).2).2
    cases stepped
    have front := take_append_rest (bytes.nodes processId).written size
    generalize (bytes.nodes processId).written.take size = more at room front ⊢
    have kept : Carries (bytes.setNode processId { bytes.nodes processId with
        written := (bytes.nodes processId).written.drop more.length
        header := (bytes.nodes processId).header ++ more })
        (state.setNode processId (state.nodes processId)) := by
      refine carries.setNode ⟨node.up, node.worker, node.answering, node.closing, node.consumed,
        node.taken, node.requests, ?_, node.requestFits, ?_⟩
      · change ((bytes.nodes processId).header ++ more) ++ _ = _
        rw [List.append_assoc, front, node.messages]
      · rw [List.length_append]
        exact room
    rw [state_setNode_self] at kept
    exact kept

/-- A full buffer is the packet of the next message, and the control plane acts
on that message. -/
theorem carries_deliver (carries : Carries bytes state) (formed : Formed state)
    (stepped : Link.deliverStep bytes processId = some target) :
    Exists fun next => System.step state (.deliver processId) = some next ∧
      Carries target next := by
  have node := carries.nodes processId
  simp only [Link.deliverStep, carries.plane, handling_front carries] at stepped
  split at stepped
  · rename_i full
    rcases split_first_packet packet_length (by decide : 0 < headerLength) full node.messages with
      ⟨message, rest, queued, same, behind⟩
    have fits := (formed.nodes processId).outbox message (queued ▸ List.mem_cons_self)
    have buffer : (⟨(bytes.nodes processId).header, full⟩ : Header) = packet message :=
      Frame.ext same
    rcases read_packet fits with ⟨parsed, status, id⟩
    simp only [System.step, System.deliverStep, queued]
    split at stepped
    · cases stepped
    · rename_i process known
      split at stepped
      · cases stepped
      · rename_i armed
        simp only [known, if_neg armed]
        simp only [buffer, parsed, status, id] at stepped
        have replaced : Carries (bytes.setNode processId { bytes.nodes processId with header := [] })
            (state.setNode processId { state.nodes processId with outbox := rest }) :=
          carries.setNode ⟨node.up, node.worker, node.answering, node.closing, node.consumed,
            node.taken, node.requests, behind, node.requestFits, Nat.zero_le _⟩
        by_cases closure : message.status = -1
        · have isClosure : message.isClosure = true := decide_eq_true closure
          rw [if_pos closure] at stepped
          rw [if_pos isClosure]
          cases stepped
          refine ⟨_, rfl, replaced.plane, replaced.mutex, replaced.clients, ?_, replaced.store,
            replaced.used, replaced.nodes⟩
          exact congrArg (· ++ _) carries.closures
        · have answer : ¬message.isClosure = true := fun holds => closure (of_decide_eq_true holds)
          rw [if_neg closure] at stepped
          rw [if_neg answer]
          cases stepped
          exact ⟨_, rfl, replaced⟩
  · cases stepped

end Plane

/-! ## The refinement -/

/-- Every step on bytes is a step on messages, or none. -/
theorem step_answered {bytes target : State} {action : Action} (carries : Carries bytes state)
    (formed : Formed state) (stepped : step bytes action = some target) :
    Exists fun next => TransitionSystem.Answers System.system
      (fun _ action => admissible action = true) state next ∧ Carries target next := by
  have own : forall action, admissible action = true ->
      (Exists fun next => System.step state action = some next ∧ Carries target next) ->
        Exists fun next => TransitionSystem.Answers System.system
          (fun _ action => admissible action = true) state next ∧ Carries target next := by
    rintro answer allowed ⟨next, moved, kept⟩
    exact ⟨next, Or.inr ⟨answer, allowed, moved⟩, kept⟩
  cases action with
  | control control =>
      rcases carries_control carries stepped with ⟨next, ⟨allowed, moved⟩, kept⟩
      exact own _ allowed ⟨next, moved, kept⟩
  | connect processId swapper => exact own _ rfl (carries_connect carries stepped)
  | readRequest processId size => exact ⟨state, Or.inl rfl, carries_readRequest carries stepped⟩
  | receive processId calls => exact own _ rfl (carries_receive carries formed stepped)
  | answer processId => exact own _ rfl (carries_answer carries stepped)
  | touch processId path contents => exact own _ rfl (carries_touch carries stepped)
  | sessionDeleted processId pid putObject => exact own _ rfl (carries_sessionDeleted carries stepped)
  | writeClosure processId index => exact own _ rfl (carries_writeClosure carries stepped)
  | readHeader processId size => exact ⟨state, Or.inl rfl, carries_readHeader carries stepped⟩
  | deliver processId => exact own _ rfl (carries_deliver carries formed stepped)

/-- Every run on bytes is a run on messages, and the bytes of every connection
are the packets of its messages. -/
theorem bytes_refine_messages {trace : List (State × Action)} {final : State}
    (run : Link.Run trace final) :
    Exists fun messages => Exists fun reached => System.Run messages reached ∧
      TransitionSystem.Guarded (fun _ action => admissible action = true) messages ∧
      Carries final reached := by
  apply TransitionSystem.Run.simulated Carries carries_initial _ run
  intro earlier source middle action target reached guarded related stepped
  exact step_answered related (formed_of_run reached guarded) stepped

def uniform (byte : UInt8) : Bytes := List.replicate 16 byte

/-- A client of the process `1…1` creates the session `2…2` on the new process
worker `3…3`, which reads the request in two parts. -/
def servedInParts : List Action :=
  ([.allocate [] (uniform 1), .call { newSessionCall with processId := uniform 1 },
    .client 0 (uniform 2), .client 0 (uniform 2), .client 0 (uniform 3), .client 0 (uniform 3),
    .client 0 (uniform 3), .client 0 (uniform 3)] : List Control).map .control ++
  [.connect (uniform 3) (S3Swapper.enableSwapping none), .control (.enterPending (uniform 3)),
    .control .sendPending, .control .sendPending, .readRequest (uniform 3) 20,
    .readRequest (uniform 3) 100, .receive (uniform 3) succeedingCalls, .answer (uniform 3),
    .readHeader (uniform 3) 7, .readHeader (uniform 3) 17, .deliver (uniform 3)]

theorem bytes_refine_messages_served :
    Exists fun trace => Exists fun final => Link.Run trace final ∧
      (final.nodes (uniform 3)).taken = 39 ∧
      Exists fun messages => Exists fun reached => System.Run messages reached ∧
        TransitionSystem.Guarded (fun _ action => admissible action = true) messages ∧
        Carries final reached := by
  have found := TransitionSystem.exists_run system State.initial servedInParts
    (fun _ final => decide ((final.nodes (uniform 3)).taken = 39)) (by decide +kernel)
  rcases found with ⟨trace, final, run, tested⟩
  exact ⟨trace, final, run, of_decide_eq_true tested, bytes_refine_messages run⟩

end Link
end System
end Praas
