import Praas.Execution.RequestStream

namespace Praas
namespace Execution

open Library
open Wire
open ControlPlane (PendingAllocation)

/-!
# The request loop and the segments of its connection

The loop of a session asks for a header with one read, which returns what is
there.  A header that arrives in two segments is taken for two unknown
requests, and everything after it is read at the wrong place.  The payload is
read with `readN`, but its count goes to the function and is not compared with
the announced size: a payload that is cut off is passed on as it is.

A request takes bytes off the connection, and a task never weighs more than
the bytes that were read for it.  When the tasks pushed weigh as much as the
stream, nothing was lost, so every header was read whole.
-/

/-! ## Streams that are cut off -/

/-- The requests that are complete in the first `cut` bytes of a stream. -/
def complete : List Packet -> Nat -> List Packet
  | [], _ => []
  | packet :: packets, cut =>
      if packet.bytes.length ≤ cut then packet :: complete packets (cut - packet.bytes.length)
      else []

/-- The bytes that follow the complete requests. -/
def cutOff : List Packet -> Nat -> Bytes
  | [], _ => []
  | packet :: packets, cut =>
      if packet.bytes.length ≤ cut then cutOff packets (cut - packet.bytes.length)
      else packet.bytes.take cut

theorem take_requestStream (packets : List Packet) (cut : Nat) :
    (requestStream packets).take cut =
      requestStream (complete packets cut) ++ cutOff packets cut := by
  induction packets generalizing cut with
  | nil => exact List.take_nil
  | cons packet packets inductionHypothesis =>
      rw [requestStream_bytes, complete, cutOff]
      split
      · rename_i fits
        rw [List.take_append, List.take_of_length_le fits, inductionHypothesis,
          requestStream_bytes, List.append_assoc]
      · rename_i cutsHere
        rw [List.take_append_of_le_length (Nat.le_of_not_le cutsHere)]
        rfl

theorem complete_whole (packets : List Packet) {cut : Nat}
    (uncut : (requestStream packets).length ≤ cut) :
    complete packets cut = packets ∧ cutOff packets cut = [] := by
  induction packets generalizing cut with
  | nil => exact ⟨rfl, rfl⟩
  | cons packet packets inductionHypothesis =>
      rw [requestStream_bytes, List.length_append] at uncut
      have later := inductionHypothesis (show _ ≤ cut - packet.bytes.length by omega)
      rw [complete, cutOff, if_pos (by omega), if_pos (by omega), later.1, later.2]
      exact ⟨rfl, rfl⟩

/-! ## What the loop should push -/

/-- The invocations that a sequence of requests asks for.  A request without a
name is how a sender says that it has none. -/
def requested (packets : List Packet) : List PendingAllocation :=
  (packets.filter (fun packet => decide (packet.request.functionName ≠ []))).map Packet.invocation

/-- The tasks added for the data plane carry out the given invocations, in
order, each with its own payload and inside its buffer. -/
def PushesExactly (before after : Session) (requests : List PendingAllocation) : Prop :=
  Exists fun pushed => after.tasks .dataPlane = before.tasks .dataPlane ++ pushed ∧
    pushed.map Task.invocation = requests ∧
    forall task, task ∈ pushed -> task.payloadBytes ≤ task.buffer.size

/-- The payload of a request finds a buffer that it fits into. -/
def holdsPayload (buffers : List Buffer) (packet : Packet) : Prop :=
  packet.payload = [] ∨ (packet.request.functionName ≠ [] ∧
    packet.payload.length ≤ (retrieveBuffer buffers packet.payload.length).1.size)

/-- Every request finds such a buffer, in the queue that the requests before it
and the buffers given back leave. -/
def buffersSuffice (returned : Nat -> List Buffer) : List Packet -> List Buffer -> Nat -> Prop
  | [], _, _ => True
  | packet :: packets, buffers, turn =>
      holdsPayload (buffers ++ returned turn) packet ∧
        buffersSuffice returned packets (packet.leftBuffers (buffers ++ returned turn)) (turn + 1)

theorem takesPayload_of_holdsPayload {buffers : List Buffer} {packet : Packet}
    (holds : holdsPayload buffers packet) : takesPayload buffers packet = true := by
  apply decide_eq_true
  rcases Classical.em (packet.payload = []) with empty | present
  · exact Or.inl empty
  · have positive : 0 < packet.payload.length := List.length_pos_iff.mpr present
    have fits := holds.resolve_left present
    exact Or.inr ⟨fits.1, (offers_iff _ positive).mpr (by omega)⟩

/-! ## Tasks and the bytes they come from -/

def weight (requests : List PendingAllocation) : Nat :=
  (requests.map (fun item => expectedLength + item.payload.length)).sum

theorem weight_nil : weight [] = 0 := rfl

theorem weight_append (first second : List PendingAllocation) :
    weight (first ++ second) = weight first + weight second := by
  rw [weight, List.map_append, List.sum_append]
  rfl

theorem weight_singleton (item : PendingAllocation) :
    weight [item] = expectedLength + item.payload.length :=
  List.sum_singleton

section Step

variable (session : Session) (message : Frame expectedLength)

/-- What is read for a parsed request is at most what its task weighs. -/
theorem accept_delivered (request : FunctionRequestMsg) (segments : List Bytes) :
    Exists fun rest => Exists fun pushed =>
      (session.accept .dataPlane request (delivered segments)).2 = delivered rest ∧
      (session.accept .dataPlane request (delivered segments)).1.tasks .dataPlane =
        session.tasks .dataPlane ++ pushed ∧
      weight (pushed.map Task.invocation) + rest.flatten.length ≤
        expectedLength + segments.flatten.length := by
  dsimp only [Session.accept]
  split
  · exact ⟨segments, [], rfl, (List.append_nil _).symm, by rw [List.map_nil, weight_nil]; omega⟩
  split
  · split
    · exact ⟨segments, [], rfl, (List.append_nil _).symm, by rw [List.map_nil, weight_nil]; omega⟩
    · rcases readN_split request.payload.toNat segments with ⟨rest, result, remains⟩
      rw [result]
      refine ⟨rest, [_], rfl, Session.tasks_pushTask _ _ _ _, ?_⟩
      rw [List.map_singleton, weight_singleton, remains, List.length_drop]
      simp only [Task.invocation, List.length_take, Int.toNat_natCast]
      omega
  · refine ⟨segments, [_], rfl, Session.tasks_pushTask _ _ _ _, ?_⟩
    rw [List.map_singleton, weight_singleton]
    simp only [Task.invocation, Buffer.null, List.take_nil, List.length_nil]
    omega

/-- A read that returns another number of bytes than a header has pushes
nothing and loses them. -/
theorem receive_short {segments : List Bytes}
    (short : (read expectedLength (delivered segments)).count ≠ expectedLength) :
    Exists fun rest =>
      (session.receive .dataPlane message (delivered segments)).rest = delivered rest ∧
      (session.receive .dataPlane message (delivered segments)).session.tasks .dataPlane =
        session.tasks .dataPlane ∧
      rest.flatten.length ≤ segments.flatten.length ∧
      ((session.receive .dataPlane message (delivered segments)).continues = true ->
        rest.flatten.length < segments.flatten.length) := by
  rcases read_delivered expectedLength segments with ⟨rest, left, split, counted⟩
  have lengths := congrArg List.length split
  rw [List.length_append] at lengths
  have unknown : forall frame,
      parse frame (read expectedLength (delivered segments)).count = none := by
    intro frame
    rw [parse, if_pos short]
  refine ⟨rest, ?_⟩
  dsimp only [Session.receive]
  rw [unknown]
  by_cases ended : (read expectedLength (delivered segments)).count = 0
  · rw [if_pos ended]
    refine ⟨left, rfl, by omega, ?_⟩
    intro continues
    cases continues
  · rw [if_neg ended, if_neg (by omega)]
    refine ⟨left, rfl, by omega, ?_⟩
    intro _
    omega

theorem receive_delivered (segments : List Bytes) :
    Exists fun rest => Exists fun pushed =>
      (session.receive .dataPlane message (delivered segments)).rest = delivered rest ∧
      (session.receive .dataPlane message (delivered segments)).session.tasks .dataPlane =
        session.tasks .dataPlane ++ pushed ∧
      weight (pushed.map Task.invocation) + rest.flatten.length ≤ segments.flatten.length := by
  by_cases whole : (read expectedLength (delivered segments)).count = expectedLength
  · rcases read_delivered expectedLength segments with ⟨rest, left, split, counted⟩
    have lengths := congrArg List.length split
    rw [List.length_append] at lengths
    dsimp only [Session.receive]
    rw [if_neg (by rw [whole]; decide), if_neg (by rw [whole]; decide), left]
    split
    · rename_i request parsed
      rcases accept_delivered session request rest with ⟨remains, pushed, position, tasks, bounded⟩
      exact ⟨remains, pushed, position, tasks, by omega⟩
    · exact ⟨rest, [], rfl, (List.append_nil _).symm, by rw [List.map_nil, weight_nil]; omega⟩
  · rcases receive_short session message whole with ⟨rest, position, tasks, bounded, _⟩
    exact ⟨rest, [], position, by rw [tasks, List.append_nil], by rw [List.map_nil, weight_nil]; omega⟩

end Step

/-- The loop only adds tasks, and no more than the connection has bytes for. -/
theorem pollDataPlane_weight (session : Session) (message : Frame expectedLength)
    (segments : List Bytes) (returned : Nat -> List Buffer) (turn : Nat) :
    Exists fun pushed =>
      (session.pollDataPlane message (delivered segments) returned turn).tasks .dataPlane =
        session.tasks .dataPlane ++ pushed ∧
      weight (pushed.map Task.invocation) ≤ segments.flatten.length := by
  generalize same : delivered segments = connection
  fun_induction Session.pollDataPlane session message connection returned turn
      generalizing segments with
  | case1 session message connection turn received continues inductionHypothesis =>
      subst same
      rcases receive_delivered { session with buffers := session.buffers ++ returned turn } message
        segments with ⟨rest, pushed, position, tasks, bounded⟩
      rcases inductionHypothesis rest position.symm with ⟨more, later, rests⟩
      refine ⟨pushed ++ more, ?_, ?_⟩
      · rw [later, tasks, List.append_assoc]
        rfl
      · rw [List.map_append, weight_append]
        omega
  | case2 session message connection turn received ended =>
      subst same
      rcases receive_delivered { session with buffers := session.buffers ++ returned turn } message
        segments with ⟨rest, pushed, position, tasks, bounded⟩
      exact ⟨pushed, tasks, by omega⟩

/-! ## Requests that arrive whole -/

theorem PushesExactly.trans {first second third : Session} {before after : List PendingAllocation}
    (earlier : PushesExactly first second before) (later : PushesExactly second third after) :
    PushesExactly first third (before ++ after) := by
  rcases earlier with ⟨pushed, tasks, carried, inside⟩
  rcases later with ⟨more, moreTasks, moreCarried, moreInside⟩
  refine ⟨pushed ++ more, ?_, ?_, ?_⟩
  · rw [moreTasks, tasks, List.append_assoc]
  · rw [List.map_append, carried, moreCarried]
  · intro task member
    rcases List.mem_append.mp member with here | there
    · exact inside task here
    · exact moreInside task there

theorem PushesExactly.cancel {first second third : Session} {before after : List PendingAllocation}
    {more : List Task} (earlier : PushesExactly first second before)
    (later : third.tasks .dataPlane = second.tasks .dataPlane ++ more)
    (both : PushesExactly first third (before ++ after)) : PushesExactly second third after := by
  rcases earlier with ⟨pushed, tasks, carried, _⟩
  rcases both with ⟨all, allTasks, allCarried, inside⟩
  rw [later, tasks, List.append_assoc, List.append_cancel_left_eq] at allTasks
  rw [← allTasks, List.map_append, carried, List.append_cancel_left_eq] at allCarried
  refine ⟨more, later, allCarried, ?_⟩
  intro task member
  exact inside task (allTasks ▸ List.mem_append_right _ member)

theorem requested_cons (packet : Packet) (packets : List Packet) :
    requested (packet :: packets) = requested [packet] ++ requested packets := by
  unfold requested
  rw [← List.map_append, ← List.filter_append]
  rfl

theorem requested_singleton (packet : Packet) :
    requested [packet] = if packet.request.functionName = [] then [] else [packet.invocation] := by
  unfold requested
  by_cases unnamed : packet.request.functionName = []
  · simp only [List.filter_cons, List.filter_nil, unnamed, ne_eq, not_true_eq_false, decide_false,
      Bool.false_eq_true, if_false, if_true, List.map_nil]
  · simp only [List.filter_cons, List.filter_nil, unnamed, ne_eq, not_false_eq_true, decide_true,
      if_true, if_false, List.map_cons, List.map_nil]

theorem task_invocation (packet : Packet) (buffers : List Buffer) :
    (packet.task buffers).invocation = packet.invocation := by
  unfold Packet.task Task.invocation Packet.invocation
  split
  · rename_i empty
    rw [empty]
    rfl
  · rw [Int.toNat_natCast, List.take_length]

/-- The task of a request stays inside its buffer exactly when the buffer
holds the payload. -/
theorem task_inside_iff {packet : Packet} (named : packet.request.functionName ≠ [])
    (buffers : List Buffer) :
    (packet.task buffers).payloadBytes ≤ (packet.task buffers).buffer.size ↔
      holdsPayload buffers packet := by
  unfold Packet.task holdsPayload
  by_cases empty : packet.payload = []
  · simp only [empty, List.length_nil, if_true, Buffer.null, true_or, iff_true]
    exact Int.le_refl 0
  · simp only [empty, if_false, false_or, named, ne_eq, not_false_eq_true, true_and]
    exact Int.ofNat_le

section Whole

variable (session : Session) (message : Frame expectedLength) (packet : Packet)

/-- One turn on a request that arrives whole and finds its buffer. -/
theorem receive_held {segments : List Bytes} {tail : Bytes}
    (stream : segments.flatten = packet.header.data ++ (packet.payload ++ tail))
    (whole : (read expectedLength (delivered segments)).count = expectedLength)
    (holds : holdsPayload session.buffers packet) :
    Exists fun rest => rest.flatten = tail ∧
      (readN packet.payload.length (read expectedLength (delivered segments)).rest).rest =
        delivered rest ∧
      (session.receive .dataPlane message (delivered segments)).continues = true ∧
      (session.receive .dataPlane message (delivered segments)).rest = delivered rest ∧
      (session.receive .dataPlane message (delivered segments)).session.buffers =
        packet.leftBuffers session.buffers ∧
      PushesExactly session (session.receive .dataPlane message (delivered segments)).session
        (requested [packet]) := by
  rcases receive_whole session .dataPlane message packet stream whole with
    ⟨middle, flat, position, result⟩
  rcases readN_split packet.payload.length middle with ⟨rest, payload, remains⟩
  rw [flat, List.drop_left] at remains
  refine ⟨rest, remains, by rw [position, payload], ?_⟩
  rw [result, accept_taken session .dataPlane packet flat (takesPayload_of_holdsPayload holds),
    payload]
  refine ⟨rfl, rfl, ?_⟩
  rw [requested_singleton]
  by_cases unnamed : packet.request.functionName = []
  · have empty : packet.payload = [] := holds.resolve_right (fun both => both.1 unnamed)
    rw [if_pos unnamed, if_pos unnamed, Packet.leftBuffers, if_pos empty]
    exact ⟨rfl, [], (List.append_nil _).symm, rfl, fun task member => nomatch member⟩
  · rw [if_neg unnamed, if_neg unnamed]
    refine ⟨rfl, [packet.task session.buffers], Session.tasks_pushTask _ _ _ _, ?_, ?_⟩
    · rw [List.map_singleton, task_invocation]
    · intro task member
      rw [List.mem_singleton.mp member]
      exact (task_inside_iff unnamed _).mpr holds

end Whole

/-- On less than a header the loop pushes nothing. -/
theorem pollDataPlane_short (session : Session) (message : Frame expectedLength)
    (segments : List Bytes) (returned : Nat -> List Buffer) (turn : Nat)
    (short : segments.flatten.length < expectedLength) :
    PushesExactly session (session.pollDataPlane message (delivered segments) returned turn) [] := by
  rcases pollDataPlane_weight session message segments returned turn with ⟨pushed, tasks, bounded⟩
  cases pushed with
  | nil => exact ⟨[], tasks, rfl, fun task member => nomatch member⟩
  | cons task more =>
      have heavy : weight ((task :: more).map Task.invocation) = _ + _ :=
        weight_append [task.invocation] (more.map Task.invocation)
      rw [weight_singleton] at heavy
      omega

/-- The loop on requests that arrive whole, and what follows them. -/
theorem pollDataPlane_held (packets : List Packet) (session : Session)
    (message : Frame expectedLength) {segments : List Bytes} {tail : Bytes}
    (returned : Nat -> List Buffer) (turn : Nat)
    (stream : segments.flatten = requestStream packets ++ tail)
    (whole : headersWhole packets (delivered segments))
    (suffice : buffersSuffice returned packets session.buffers turn)
    (short : tail.length < expectedLength) :
    PushesExactly session (session.pollDataPlane message (delivered segments) returned turn)
      (requested packets) := by
  induction packets generalizing session message segments turn with
  | nil =>
      apply pollDataPlane_short
      rw [stream]
      exact short
  | cons packet packets inductionHypothesis =>
      rw [requestStream_cons, List.append_assoc, List.append_assoc] at stream
      rcases receive_held { session with buffers := session.buffers ++ returned turn } message packet
        stream whole.1 suffice.1 with ⟨rest, remains, position, continues, left, buffers, pushed⟩
      have later := whole.2
      rw [position] at later
      have still : buffersSuffice returned packets _ (turn + 1) := buffers.symm ▸ suffice.2
      rw [Session.pollDataPlane, dif_pos continues, left]
      rw [requested_cons]
      exact pushed.trans (inductionHypothesis _ _ (turn + 1) remains later still)

/-! ## The converse, and payloads that are cut off -/

/-- The bytes of a stream of named requests are those of its invocations. -/
theorem weight_requested {packets : List Packet}
    (named : forall packet, packet ∈ packets -> packet.request.functionName ≠ []) :
    weight (requested packets) = (requestStream packets).length := by
  induction packets with
  | nil => rfl
  | cons packet packets inductionHypothesis =>
      rw [List.forall_mem_cons] at named
      rw [requested_cons, weight_append, inductionHypothesis named.2, requested_singleton,
        if_neg named.1, weight_singleton, requestStream_bytes, List.length_append,
        packet.bytes_length]
      rfl

/-- A turn that pushes nothing, after which the connection has fewer bytes than
the requests that are still to be pushed, cannot be made up for. -/
theorem not_pushesExactly_of_lost {session : Session} {message : Frame expectedLength}
    {connection : List Arrival} {returned : Nat -> List Buffer} {turn : Nat}
    {received : Session.Received}
    {requests : List PendingAllocation} {rest : List Bytes}
    (result : ({ session with buffers := session.buffers ++ returned turn } : Session).receive
      .dataPlane message connection = received)
    (position : received.rest = delivered rest)
    (tasks : received.session.tasks .dataPlane = session.tasks .dataPlane)
    (heavy : 0 < weight requests)
    (lost : received.continues = true -> rest.flatten.length < weight requests) :
    ¬ PushesExactly session (session.pollDataPlane message connection returned turn) requests := by
  rintro ⟨pushed, same, carried, _⟩
  rw [Session.pollDataPlane, result] at same
  by_cases continues : received.continues = true
  · rw [dif_pos continues, position] at same
    rcases pollDataPlane_weight received.session received.message rest returned (turn + 1) with
      ⟨others, later, bounded⟩
    have fewer := lost continues
    rw [same, tasks, List.append_cancel_left_eq] at later
    rw [← later, carried] at bounded
    omega
  · rw [dif_neg continues, tasks, List.self_eq_append_right] at same
    rw [← carried, same, List.map_nil, weight_nil] at heavy
    cases heavy

/-- A turn that takes the first request pushes its task, and the loop goes on
with the others. -/
theorem turn_of_pushesExactly {packet : Packet} {packets : List Packet} {session : Session}
    {message : Frame expectedLength} {segments : List Bytes} {returned : Nat -> List Buffer}
    {turn : Nat} (named : packet.request.functionName ≠ [])
    (stream : segments.flatten =
      packet.header.data ++ (packet.payload ++ requestStream packets))
    (whole : (read expectedLength (delivered segments)).count = expectedLength)
    (taken : takesPayload (session.buffers ++ returned turn) packet = true)
    (exactly : PushesExactly session
      (session.pollDataPlane message (delivered segments) returned turn)
      (requested (packet :: packets))) :
    holdsPayload (session.buffers ++ returned turn) packet ∧
      Exists fun next : Session => Exists fun rest => rest.flatten = requestStream packets ∧
        (readN packet.payload.length (read expectedLength (delivered segments)).rest).rest =
          delivered rest ∧
        next.buffers = packet.leftBuffers (session.buffers ++ returned turn) ∧
        PushesExactly next (next.pollDataPlane packet.header (delivered rest) returned (turn + 1))
          (requested packets) := by
  rcases receive_whole { session with buffers := session.buffers ++ returned turn } .dataPlane
    message packet stream whole with ⟨middle, flat, position, result⟩
  have accepted := accept_taken { session with buffers := session.buffers ++ returned turn }
    .dataPlane packet flat taken
  rcases readN_split packet.payload.length middle with ⟨rest, payload, remains⟩
  rw [flat, List.drop_left] at remains
  rw [if_neg named, payload] at accepted
  rw [accepted] at result
  rcases exactly with ⟨pushed, same, carried, inside⟩
  rw [Session.pollDataPlane, result, dif_pos rfl] at same
  rcases pollDataPlane_weight _ packet.header rest returned (turn + 1) with ⟨more, later, _⟩
  have pushes := same.symm.trans later
  rw [Session.tasks_pushTask, if_pos rfl, List.append_assoc] at pushes
  have head : pushed = packet.task (session.buffers ++ returned turn) :: more :=
    List.append_cancel_left pushes
  rw [head, requested_cons, requested_singleton, if_neg named, List.map_cons,
    List.singleton_append, List.cons.injEq] at carried
  rw [head, List.forall_mem_cons] at inside
  refine ⟨(task_inside_iff named _).mp inside.1, _, rest, remains, ?_, rfl,
    ⟨more, later, carried.2, inside.2⟩⟩
  rw [position, payload]

/-- When the loop pushes all requests of a stream and nothing was left over,
every header was read whole and every request found its buffer. -/
theorem whole_of_pushesExactly (packets : List Packet) (session : Session)
    (message : Frame expectedLength) {segments : List Bytes} (returned : Nat -> List Buffer)
    (turn : Nat) (stream : segments.flatten = requestStream packets)
    (named : forall packet, packet ∈ packets -> packet.request.functionName ≠ [])
    (exactly : PushesExactly session
      (session.pollDataPlane message (delivered segments) returned turn) (requested packets)) :
    headersWhole packets (delivered segments) ∧
      buffersSuffice returned packets session.buffers turn := by
  induction packets generalizing session message segments turn with
  | nil => exact ⟨trivial, trivial⟩
  | cons packet packets inductionHypothesis =>
      have total := weight_requested named
      rw [← stream] at total
      rw [List.forall_mem_cons] at named
      rw [requestStream_cons] at stream
      have size : expectedLength ≤ segments.flatten.length := by
        rw [stream, List.length_append, packet.header.size_eq]
        exact Nat.le_add_right _ _
      have positive : 0 < expectedLength := by decide
      by_cases whole : (read expectedLength (delivered segments)).count = expectedLength
      · cases taken : takesPayload (session.buffers ++ returned turn) packet with
        | true =>
            rcases turn_of_pushesExactly named.1 stream whole taken exactly with
              ⟨holds, next, rest, remains, position, buffers, later⟩
            have others := inductionHypothesis next packet.header (turn + 1) remains named.2 later
            rw [buffers] at others
            refine ⟨⟨whole, ?_⟩, holds, others.2⟩
            rw [position]
            exact others.1
        | false =>
            rcases receive_whole { session with buffers := session.buffers ++ returned turn }
              .dataPlane message packet stream whole with ⟨rest, flat, _, result⟩
            have accepted := accept_left { session with buffers := session.buffers ++ returned turn }
              .dataPlane packet (delivered rest) taken
            have shorter := congrArg List.length stream
            rw [List.length_append, packet.header.size_eq, ← flat, ← total] at shorter
            exact False.elim (not_pushesExactly_of_lost result accepted.1 accepted.2 (by omega)
              (fun _ => by omega) exactly)
      · rcases receive_short { session with buffers := session.buffers ++ returned turn } message
          whole with ⟨rest, position, tasks, _, fewer⟩
        exact False.elim (not_pushesExactly_of_lost rfl position tasks (by omega)
          (fun continues => total ▸ fewer continues) exactly)

/-- A request with a name and a buffer is pushed, whatever there is of its
payload. -/
theorem accept_pushes (session : Session) {packet : Packet} (present : packet.payload ≠ [])
    (holds : holdsPayload session.buffers packet) (segments : List Bytes) :
    Exists fun task => Exists fun rest =>
      (session.accept .dataPlane packet.request (delivered segments)).1.tasks .dataPlane =
        session.tasks .dataPlane ++ [task] ∧
      (session.accept .dataPlane packet.request (delivered segments)).2 = delivered rest := by
  have announced : packet.request.payload = packet.payload.length := packet.announced
  have positive : 0 < packet.payload.length := List.length_pos_iff.mpr present
  rcases holds.resolve_left present with ⟨named, fits⟩
  rcases readN_split packet.payload.length segments with ⟨rest, result, _⟩
  dsimp only [Session.accept]
  rw [announced, if_neg named, if_pos (by omega), Int.toNat_natCast, if_neg (by omega), result]
  exact ⟨_, rest, Session.tasks_pushTask _ _ _ _, rfl⟩

/-- A request whose payload is cut off is pushed with what there is of it. -/
theorem pollDataPlane_cut (packets : List Packet) (next : Packet) {tail : Bytes}
    (inPayload : tail.length < next.payload.length) (session : Session)
    (message : Frame expectedLength) {segments : List Bytes} (returned : Nat -> List Buffer)
    (turn : Nat) (stream : segments.flatten = requestStream packets ++ (next.header.data ++ tail))
    (whole : headersWhole (packets ++ [next]) (delivered segments))
    (suffice : buffersSuffice returned (packets ++ [next]) session.buffers turn) :
    ¬ PushesExactly session (session.pollDataPlane message (delivered segments) returned turn)
      (requested packets) := by
  induction packets generalizing session message segments turn with
  | nil =>
      rintro ⟨pushed, same, carried, _⟩
      have present : next.payload ≠ [] := List.length_pos_iff.mp (Nat.zero_lt_of_lt inPayload)
      rcases receive_whole { session with buffers := session.buffers ++ returned turn } .dataPlane
        message next stream whole.1 with ⟨middle, _, _, result⟩
      rcases accept_pushes { session with buffers := session.buffers ++ returned turn } present
        suffice.1 middle with ⟨task, rest, tasks, position⟩
      rw [Session.pollDataPlane, result, dif_pos rfl, position] at same
      rcases pollDataPlane_weight _ next.header rest returned (turn + 1) with ⟨more, later, _⟩
      rw [same, tasks, List.append_assoc] at later
      have head : pushed = task :: more := List.append_cancel_left later
      rw [head] at carried
      cases carried
  | cons packet packets inductionHypothesis =>
      intro exactly
      rw [requestStream_cons, List.append_assoc, List.append_assoc] at stream
      rcases receive_held { session with buffers := session.buffers ++ returned turn } message packet
        stream whole.1 suffice.1 with ⟨rest, remains, position, continues, left, buffers, pushed⟩
      have later := whole.2
      rw [position] at later
      have still : buffersSuffice returned (packets ++ [next]) _ (turn + 1) :=
        buffers.symm ▸ suffice.2
      rw [Session.pollDataPlane, dif_pos continues, left, requested_cons] at exactly
      rcases pollDataPlane_weight _ _ rest returned (turn + 1) with ⟨more, tasks, _⟩
      exact inductionHypothesis _ _ (turn + 1) remains later still (pushed.cancel tasks exactly)

/-- The first `cut` bytes of a stream of requests, in any segments.  When every
header of a complete request is read whole, each of these requests is without
payload or has a name and a large enough buffer, and less than a header
follows, exactly the complete requests are pushed.  On a stream of named
requests that is not cut off, they are pushed only then.  When a payload is cut
off instead, the request is pushed all the same. -/
theorem complete_requests_pushed (session : Session) (message : Frame expectedLength)
    (packets : List Packet) (cut : Nat) (segments : List Bytes) (returned : Nat -> List Buffer)
    (stream : segments.flatten = (requestStream packets).take cut) :
    (headersWhole (complete packets cut) (delivered segments) ->
      buffersSuffice returned (complete packets cut) session.buffers 0 ->
      (cutOff packets cut).length < expectedLength ->
      PushesExactly session (session.pollDataPlane message (delivered segments) returned 0)
        (requested (complete packets cut))) ∧
    ((requestStream packets).length ≤ cut ->
      (forall packet, packet ∈ packets -> packet.request.functionName ≠ []) ->
      PushesExactly session (session.pollDataPlane message (delivered segments) returned 0)
        (requested (complete packets cut)) ->
      headersWhole (complete packets cut) (delivered segments) ∧
        buffersSuffice returned (complete packets cut) session.buffers 0 ∧
        (cutOff packets cut).length < expectedLength) ∧
    (forall next tail, cutOff packets cut = next.header.data ++ tail ->
      tail.length < next.payload.length ->
      headersWhole (complete packets cut ++ [next]) (delivered segments) ->
      buffersSuffice returned (complete packets cut ++ [next]) session.buffers 0 ->
      ¬ PushesExactly session (session.pollDataPlane message (delivered segments) returned 0)
        (requested (complete packets cut))) := by
  rw [take_requestStream] at stream
  refine ⟨?_, ?_, ?_⟩
  · intro whole suffice short
    exact pollDataPlane_held _ session message returned 0 stream whole suffice short
  · intro uncut named exactly
    have all := complete_whole packets uncut
    rw [all.1, all.2, List.append_nil] at stream
    rw [all.1] at exactly ⊢
    have both := whole_of_pushesExactly packets session message returned 0 stream named exactly
    rw [all.2]
    exact ⟨both.1, both.2, by decide⟩
  · intro next tail follows inPayload whole suffice
    rw [follows] at stream
    exact pollDataPlane_cut _ next inPayload session message returned 0 stream whole suffice

/-- Two requests that arrive in one segment are pushed. -/
theorem one_segment_pushed :
    PushesExactly (Session.new 1)
      ((Session.new 1).pollDataPlane (Frame.zeros expectedLength)
        (delivered [(requestStream twoPackets).take 80]) (fun _ => []) 0)
      (requested (complete twoPackets 80)) := by
  have all := complete_whole twoPackets
    (show (requestStream twoPackets).length ≤ 80 by decide +kernel)
  refine (complete_requests_pushed (Session.new 1) (Frame.zeros expectedLength) twoPackets 80
    [(requestStream twoPackets).take 80] (fun _ => []) List.flatten_singleton).1 ?_ ?_ ?_
  · rw [all.1]
    exact ⟨by decide +kernel, by decide +kernel, trivial⟩
  · rw [all.1]
    exact ⟨Or.inr (by decide +kernel), Or.inl rfl, trivial⟩
  · rw [all.2]
    decide

/-- The same requests with the first header in two segments. -/
def splitHeader : List Bytes :=
  [(requestStream twoPackets).take 13, (requestStream twoPackets).drop 13]

/-- A header in two segments is not recovered, and a request is pushed of whose
payload only one byte of two arrived. -/
theorem split_header_lost :
    (splitHeader.flatten = (requestStream twoPackets).take 80 ∧
      ¬ PushesExactly (Session.new 1)
        ((Session.new 1).pollDataPlane (Frame.zeros expectedLength) (delivered splitHeader)
          (fun _ => []) 0) (requested (complete twoPackets 80))) ∧
    ¬ PushesExactly (Session.new 1)
      ((Session.new 1).pollDataPlane (Frame.zeros expectedLength)
        (delivered [(requestStream twoPackets).take 40]) (fun _ => []) 0)
      (requested (complete twoPackets 40)) := by
  refine ⟨⟨by decide +kernel, ?_⟩, ?_⟩
  · rw [(complete_whole twoPackets
      (show (requestStream twoPackets).length ≤ 80 by decide +kernel)).1]
    intro exactly
    have whole := (whole_of_pushesExactly twoPackets (Session.new 1) _ _ 0 (by decide +kernel)
      (by decide +kernel) exactly).1.1
    exact absurd whole (by decide +kernel)
  · have none : complete twoPackets 40 = [] := if_neg (by decide +kernel)
    rw [none]
    refine pollDataPlane_cut [] (functionPacket (ascii "1") [7, 8] (by decide))
      (show [7].length < [7, 8].length by decide) (Session.new 1) _ _ 0 ?_ ?_ ?_
    · decide +kernel
    · exact ⟨by decide +kernel, trivial⟩
    · exact ⟨Or.inr (by decide +kernel), trivial⟩

end Execution
end Praas
