import Praas.Execution.Session
import Praas.Wire.InvocationHeader

namespace Praas
namespace Execution

open Library
open Wire
open ControlPlane (PendingAllocation Resources)

/-!
# The pending invocations of a session

When a session connects, `process_session` writes all its pending invocations
to the connection and closes it.  The session calls `receive` once on that
connection.  It therefore executes a queue of at most one invocation, and of a
longer queue only the first; the rest of the stream is never read.
-/

/-! ## The sender: `process_session` -/

def header (item : PendingAllocation) : InvocationHeader :=
  ⟨item.functionName, item.functionId, item.payload.length⟩

/-- The loop over the pending invocations.  One request object is filled again
for every header. -/
def sendInvocations (request : Request) : List PendingAllocation -> Bytes
  | [] => []
  | item :: rest =>
      let filled := (header item).fill request
      filled.data ++ (item.payload ++ sendInvocations filled rest)

/-- The bytes written for a queue: without invocations, an empty request. -/
def sessionStream (allocations : List PendingAllocation) : Bytes :=
  if allocations = [] then (FunctionRequest.fill Request.new [] [] 0).data
  else sendInvocations Request.new allocations

/-- `process_session`: the bytes written to the connection, if the session is
known, and the tables with its queue emptied. -/
def processSession (resources : Resources) (sessionId : Bytes) : Option Bytes × Resources :=
  match resources.getSession sessionId with
  | none => (none, resources)
  | some session => (some (sessionStream session.allocations),
      resources.modifySession sessionId (fun session => { session with allocations := [] }))

/-! ## The receiver -/

/-- `receive` on a connection whose first header is an invocation request that
arrives whole. -/
theorem receive_invocation (session : Session) (peer : Peer) (message : Frame expectedLength)
    {segments : List Bytes} (item : InvocationHeader) (request : Request) {tail : Bytes}
    (stream : segments.flatten = (item.fill request).data ++ tail)
    (whole : (read expectedLength (delivered segments)).count = expectedLength) :
    Exists fun rest => rest.flatten = tail ∧
      (session.receive peer message (delivered segments)).session =
        (session.accept peer ⟨item.fill request⟩ (delivered rest)).1 := by
  rcases read_whole stream whole with ⟨rest, result, flat⟩
  refine ⟨rest, flat, ?_⟩
  have parsed : parse (item.fill request) expectedLength =
      some (.invocationRequest ⟨item.fill request⟩) :=
    FunctionRequest.parse_fill request item.functionName item.functionId item.payloadSize
  unfold Session.receive
  simp only [result, Frame.store_whole]
  rw [if_neg (by decide), if_neg (by decide), parsed]

/-- The fields of a header that round-trips, as the session reads them. -/
theorem fields_of_roundTrips {item : InvocationHeader} {request : Request}
    (survives : item.RoundTrips request) :
    (FunctionRequestMsg.mk (item.fill request)).functionName = item.functionName ∧
      (FunctionRequestMsg.mk (item.fill request)).functionId = item.functionId ∧
      (FunctionRequestMsg.mk (item.fill request)).payload = item.payloadSize := by
  rcases survives with ⟨message, parsed, name, id, payload⟩
  have same := parsed.symm.trans (FunctionRequest.parse_fill _ _ _ _)
  cases RecvMessage.invocationRequest.inj (Option.some.inj same)
  exact ⟨name, id, payload⟩

/-- A header that round-trips announces a payload below `65536` bytes. -/
theorem payload_lt_of_roundTrips {item : PendingAllocation}
    (survives : (header item).RoundTrips Request.new) : item.payload.length < 65536 := by
  have seen := payload_fill (header item) Request.new (refilled_gap [])
  rw [(fields_of_roundTrips survives).2.2] at seen
  have size : (header item).payloadSize = item.payload.length := rfl
  rw [size] at seen
  omega

/-- The session executes an invocation that has a name and, unless its payload
is empty, finds a buffer. -/
def accepts (session : Session) (item : PendingAllocation) : Prop :=
  item.functionName ≠ [] ∧ (item.payload = [] ∨ session.buffers ≠ [])

instance (session : Session) (item : PendingAllocation) : Decidable (accepts session item) :=
  inferInstanceAs (Decidable (_ ∧ _))

section Accept

variable {session : Session} {item : PendingAllocation} {request : FunctionRequestMsg}
  {rest : List Bytes} {tail : Bytes} (peer : Peer)

theorem retrieveBuffer_size {buffers : List Buffer} {size : Nat} (present : buffers ≠ [])
    (large : forall buffer, buffer ∈ buffers -> size ≤ buffer.size) :
    size ≤ (retrieveBuffer buffers size).1.size := by
  cases buffers with
  | nil => exact False.elim (present rfl)
  | cons front rest =>
      unfold retrieveBuffer
      dsimp only
      split
      · exact Nat.le_refl _
      · exact large front List.mem_cons_self

/-- An invocation that is accepted is pushed as one task with its own payload,
inside its buffer. -/
theorem accept_accepted (accepted : accepts session item)
    (name : request.functionName = item.functionName)
    (id : request.functionId = item.functionId)
    (payload : request.payload = item.payload.length)
    (large : forall buffer, buffer ∈ session.buffers -> item.payload.length ≤ buffer.size)
    (stream : rest.flatten = item.payload ++ tail) :
    Exists fun task => task.invocation = item ∧ task.payloadBytes ≤ task.buffer.size ∧
      (session.accept peer request (delivered rest)).1.tasks peer = session.tasks peer ++ [task] := by
  dsimp only [Session.accept]
  rw [if_neg (name ▸ accepted.1), payload, name, id]
  by_cases empty : item.payload = []
  · refine ⟨⟨item.functionName, item.functionId, 0, Buffer.null⟩, ?_, Int.le_refl _, ?_⟩
    · cases item with
      | mk bytes functionName functionId =>
          cases empty
          rfl
    · rw [if_neg (by rw [empty]; decide), Session.tasks_pushTask, if_pos rfl]
  · have positive : 0 < item.payload.length := List.length_pos_iff.mpr empty
    have present := accepted.2.resolve_left empty
    have size := retrieveBuffer_size present large
    have enough : item.payload.length ≤ rest.flatten.length := by
      rw [stream, List.length_append]
      exact Nat.le_add_right _ _
    rcases readN_delivered item.payload.length rest enough with ⟨counted, bytes⟩
    rw [stream, List.take_left] at bytes
    rw [if_pos (by omega), Int.toNat_natCast, if_neg (by omega), counted, bytes]
    refine ⟨⟨item.functionName, item.functionId, item.payload.length,
      ⟨item.payload, (retrieveBuffer session.buffers item.payload.length).1.size⟩⟩, ?_, ?_, ?_⟩
    · simp only [Task.invocation, Int.toNat_natCast, List.take_length]
    · exact Int.ofNat_le.mpr size
    · rw [Session.tasks_pushTask, if_pos rfl]
      rfl

theorem accept_refused (refused : ¬ accepts session item)
    (name : request.functionName = item.functionName)
    (payload : request.payload = item.payload.length) (connection : List Arrival) :
    (session.accept peer request connection).1.tasks peer = session.tasks peer := by
  dsimp only [Session.accept]
  split
  · rfl
  · rename_i named
    have both := not_or.mp (not_and.mp refused (name ▸ named))
    have positive : 0 < item.payload.length := List.length_pos_iff.mpr both.1
    rw [if_pos (by omega), not_not.mp both.2]
    rfl

end Accept

/-- The session that executes a queue: the tasks pushed for the control plane
are the invocations of the queue in their order, each payload inside its
buffer. -/
def Executes (session : Session) (queue : List PendingAllocation) : Prop :=
  (session.tasks .controlPlane).map Task.invocation = queue ∧
    forall task, task ∈ session.tasks .controlPlane -> task.payloadBytes ≤ task.buffer.size

theorem new_buffers {maxFunctions : Int} :
    (Session.new maxFunctions).buffers ≠ [] ↔ 0 < Session.bufferCount maxFunctions := by
  simp only [Session.new, newBuffers, ne_eq, List.replicate_eq_nil_iff, Nat.pos_iff_ne_zero]

/-- What the control plane's connection leads to, when its first header is
that of a queued invocation. -/
theorem tasks_first (maxFunctions : Int) {item : PendingAllocation} {segments : List Bytes}
    {tail : Bytes} (survives : (header item).RoundTrips Request.new)
    (stream : segments.flatten = ((header item).fill Request.new).data ++ (item.payload ++ tail))
    (whole : (read expectedLength (delivered segments)).count = expectedLength)
    (data : List Arrival) (returned : Nat -> List Buffer) :
    if accepts (Session.new maxFunctions) item then
      Exists fun task => task.invocation = item ∧ task.payloadBytes ≤ task.buffer.size ∧
        ((Session.new maxFunctions).start (delivered segments) data returned).tasks .controlPlane =
          [task]
    else ((Session.new maxFunctions).start (delivered segments) data returned).tasks .controlPlane =
      [] := by
  rcases receive_invocation (Session.new maxFunctions) .controlPlane (Frame.zeros expectedLength)
    (header item) Request.new stream whole with ⟨rest, flat, received⟩
  have fields := fields_of_roundTrips survives
  have small := payload_lt_of_roundTrips survives
  rw [Session.tasks_start, received]
  split
  · rename_i accepted
    refine accept_accepted .controlPlane accepted fields.1 fields.2.1 fields.2.2 ?_ flat
    intro buffer member
    rw [List.eq_of_mem_replicate member]
    change item.payload.length ≤ 6 * 1024 * 1024
    omega
  · rename_i refused
    exact accept_refused .controlPlane refused fields.1 fields.2.2 _

/-- A session without pending invocations is sent the empty request and pushes
nothing. -/
theorem executes_nil {segments : List Bytes} (stream : segments.flatten = sessionStream [])
    (whole : (read expectedLength (delivered segments)).count = expectedLength)
    (maxFunctions : Int) (data : List Arrival) (returned : Nat -> List Buffer) :
    Executes ((Session.new maxFunctions).start (delivered segments) data returned) [] := by
  have empty : segments.flatten = ((⟨[], [], 0⟩ : InvocationHeader).fill Request.new).data ++ [] := by
    rw [stream, List.append_nil]
    rfl
  rcases receive_invocation (Session.new maxFunctions) .controlPlane (Frame.zeros expectedLength)
    ⟨[], [], 0⟩ Request.new empty whole with ⟨rest, _, received⟩
  have unnamed := functionName_fill ⟨[], [], 0⟩ Request.new (show NulFree [] by decide)
    (show [].length ≤ 16 by decide)
  have nothing : ((Session.new maxFunctions).start (delivered segments) data returned).tasks
      .controlPlane = [] := by
    rw [Session.tasks_start, received]
    unfold Session.accept
    rw [if_pos unnamed]
    rfl
  unfold Executes
  rw [nothing]
  exact ⟨rfl, fun task member => False.elim (List.not_mem_nil member)⟩

/-- A queue with a first invocation is executed exactly when there is no
second and the first is accepted. -/
theorem executes_cons_iff {item : PendingAllocation} {more : List PendingAllocation}
    {segments : List Bytes} (survives : (header item).RoundTrips Request.new)
    (stream : segments.flatten = sessionStream (item :: more))
    (whole : (read expectedLength (delivered segments)).count = expectedLength)
    (maxFunctions : Int) (data : List Arrival) (returned : Nat -> List Buffer) :
    Executes ((Session.new maxFunctions).start (delivered segments) data returned) (item :: more) ↔
      (item :: more).length ≤ 1 ∧ forall other, other ∈ item :: more ->
        other.functionName ≠ [] ∧
          (other.payload = [] ∨ 0 < Session.bufferCount maxFunctions) := by
  have first : segments.flatten = ((header item).fill Request.new).data ++
      (item.payload ++ sendInvocations ((header item).fill Request.new) more) := by
    rw [stream, sessionStream, if_neg (List.cons_ne_nil _ _)]
    rfl
  have outcome := tasks_first maxFunctions survives first whole data returned
  unfold Executes
  split at outcome
  · rename_i accepted
    rcases outcome with ⟨task, carried, inside, pushed⟩
    rw [pushed]
    constructor
    · rintro ⟨same, _⟩
      rw [List.map_singleton, carried, List.cons.injEq] at same
      rw [← same.2]
      refine ⟨Nat.le_refl _, ?_⟩
      intro other member
      rw [List.mem_singleton.mp member, ← new_buffers]
      exact accepted
    · rintro ⟨single, _⟩
      have alone : more = [] := List.length_eq_zero_iff.mp (Nat.le_zero.mp (Nat.le_of_succ_le_succ single))
      rw [alone, List.map_singleton, carried]
      refine ⟨rfl, ?_⟩
      intro other member
      rw [List.mem_singleton.mp member]
      exact inside
  · rename_i refused
    rw [outcome]
    constructor
    · rintro ⟨impossible, _⟩
      cases impossible
    · rintro ⟨_, every⟩
      have accepted := every item List.mem_cons_self
      rw [← new_buffers] at accepted
      exact False.elim (refused accepted)

/-- The pending invocations of a session are all executed, in order and with
their own payloads, exactly when there is at most one of them, and that one
has a name and an empty payload or a session with a buffer.  This is for every
delivery of the bytes in which the first header arrives whole, and whatever
happens on the data plane.

The session is one that its constructor has built.  The constructor allocates
`2 * max_functions` buffers, so a number that is negative or too large never
gets this far, and one that is positive gives the session a buffer. -/
theorem pending_invocations_executed_iff (resources : Resources) (sessionId : Bytes)
    (session : ControlPlane.Session) (present : resources.getSession sessionId = some session)
    (survive : forall item, item ∈ session.allocations -> (header item).RoundTrips Request.new)
    (segments : List Bytes)
    (written : (processSession resources sessionId).1 = some segments.flatten)
    (whole : (read expectedLength (delivered segments)).count = expectedLength)
    (maxFunctions : Int) (data : List Arrival) (returned : Nat -> List Buffer) :
    Executes ((Session.new maxFunctions).start (delivered segments) data returned)
        session.allocations ↔
      session.allocations.length ≤ 1 ∧ forall item, item ∈ session.allocations ->
        item.functionName ≠ [] ∧ (item.payload = [] ∨ 0 < Session.bufferCount maxFunctions) := by
  have stream : segments.flatten = sessionStream session.allocations := by
    simp only [processSession, present, Option.some.injEq] at written
    exact written.symm
  cases queue : session.allocations with
  | nil =>
      rw [queue] at stream
      have executed := executes_nil stream whole maxFunctions data returned
      simp only [executed, List.length_nil, Nat.zero_le, List.not_mem_nil, false_implies,
        implies_true, and_self]
  | cons item more =>
      have survives := survive item (queue ▸ List.mem_cons_self)
      rw [queue] at stream
      exact executes_cons_iff survives stream whole maxFunctions data returned

def pendingInvocation (functionId : Bytes) : PendingAllocation :=
  ⟨[7], ascii "f", functionId⟩

theorem pendingInvocation_survives {functionId : Bytes} (free : NulFree functionId)
    (fits : functionId.length ≤ 16) :
    (header (pendingInvocation functionId)).RoundTrips Request.new :=
  (roundTrips_iff (header (pendingInvocation functionId)) Request.new (refilled_gap [])
    (show NulFree (ascii "f") by decide) (show (ascii "f").length ≤ 16 by decide) free fits
    (show (0 : Int) ≤ 1 by decide)).mpr (show (1 : Int) < 65536 by decide)

/-- The tables of a control plane that knows one session with the given queue. -/
def queueTables (allocations : List PendingAllocation) : Resources :=
  ⟨fun _ => some ⟨[2], 1, 1, allocations, true, false⟩, []⟩

theorem single_invocation_executed :
    Executes ((Session.new 1).start (delivered [sessionStream [pendingInvocation (ascii "1")]]) []
      (fun _ => [])) [pendingInvocation (ascii "1")] := by
  refine (pending_invocations_executed_iff (queueTables [pendingInvocation (ascii "1")]) [2] _ rfl
    ?_ [sessionStream [pendingInvocation (ascii "1")]] ?_ (by decide +kernel) 1 []
    (fun _ => [])).mpr ?_
  · intro item member
    rw [List.mem_singleton.mp member]
    exact pendingInvocation_survives (by decide) (by decide)
  · rw [List.flatten_cons, List.flatten_nil, List.append_nil]
    rfl
  · exact ⟨Nat.le_refl _, by decide⟩

/-- Of two pending invocations the second is not executed. -/
theorem second_invocation_dropped :
    ¬ forall (resources : Resources) (sessionId : Bytes) (session : ControlPlane.Session),
      resources.getSession sessionId = some session ->
      (forall item, item ∈ session.allocations -> (header item).RoundTrips Request.new) ->
      forall segments : List Bytes,
      (processSession resources sessionId).1 = some segments.flatten ->
      (read expectedLength (delivered segments)).count = expectedLength ->
      forall (maxFunctions : Int) (data : List Arrival) (returned : Nat -> List Buffer),
      Executes ((Session.new maxFunctions).start (delivered segments) data returned)
        session.allocations := by
  intro always
  have executed := always
    (queueTables [pendingInvocation (ascii "1"), pendingInvocation (ascii "2")]) [2] _ rfl ?_
    [sessionStream [pendingInvocation (ascii "1"), pendingInvocation (ascii "2")]] ?_
    (by decide +kernel) 1 [] (fun _ => [])
  · have survives := pendingInvocation_survives (show NulFree (ascii "1") by decide) (by decide)
    have fits := ((executes_cons_iff survives List.flatten_singleton (by decide +kernel) 1 []
      (fun _ => [])).mp executed).1
    exact absurd fits (by decide)
  · intro item member
    rcases List.mem_cons.mp member with first | second
    · rw [first]
      exact pendingInvocation_survives (by decide) (by decide)
    · rw [List.mem_singleton.mp second]
      exact pendingInvocation_survives (by decide) (by decide)
  · rw [List.flatten_singleton]
    rfl

end Execution
end Praas
