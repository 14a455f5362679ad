import Praas.Execution.ResultMessages
import Praas.Execution.Segmentation

namespace Praas
namespace Execution
namespace SingleThread

open Library
open Wire
open ControlPlane (PendingAllocation)

/-!
# A session with one function at a time

A session that is started for one concurrent function has one thread in its
pool.  The receive loop goes on while this thread runs a function and sends
its results; only the queue of tasks and the queue of buffers lie between
them.

The functions of the user are not known.  A function is given the payload, the
identifier of the invocation and the memory of the session; what it sends, what
it returns and what it leaves in the memory are its result.  Nothing else
touches the memory of the session, so it is changed when the function is
called.
-/

/-! ## One function after the other -/

variable {Memory : Type}

/-- What a function does: the payloads that it sends, its return code, and the
memory that it leaves. -/
structure Result (Memory : Type) where
  payloads : List Output.Payload
  returnCode : Int
  memory : Memory

/-- The functions library: the functions by name.  A function is given the
payload, the identifier of the invocation and the memory of the session, and
says what it sends, what it returns and how it leaves the memory. -/
abbrev Functions (Memory : Type) := Bytes -> Option (Bytes -> Bytes -> Memory -> Result Memory)

/-- `FunctionWorker::_invoke`: the calls on the channel and the memory left. -/
def invoke (functions : Functions Memory) (memory : Memory) (item : PendingAllocation) :
    Output.Invocation × Memory :=
  match functions item.functionName with
  | none => (.failed .unknownFunction, memory)
  | some function =>
      let result := function item.payload item.functionId memory
      (.function result.payloads result.returnCode, result.memory)

/-- A call on the channel, with the identifier of its invocation.  The answers
to a sequence of requests are the calls of the functions, one function after
the other. -/
abbrev Answer := Bytes × Output.Call

/-- What a list of invocations answers when each begins after the one before
has ended, and the memory that they leave. -/
def answers (functions : Functions Memory) : Memory -> List PendingAllocation ->
    List Answer × Memory
  | memory, [] => ([], memory)
  | memory, item :: rest =>
      let invoked := invoke functions memory item
      let later := answers functions invoked.2 rest
      (invoked.1.calls.map (fun call => (item.functionId, call)) ++ later.1, later.2)

def Answer.bytes (answer : Answer) : Bytes :=
  (answer.2.header answer.1).data ++ answer.2.payload

/-- The message of a call, as the client takes it off the stream. -/
def Answer.meaning (answer : Answer) : Bytes × Output.Message := (answer.1, answer.2.message)

/-- The documented interpretation of a message with its identifier. -/
def interpreted (entry : Bytes × Output.Message) : Bytes × Option (Output.Meaning × Bytes) :=
  (entry.1, entry.2.interpret)

/-- What a function has sent or returned. -/
def Answer.intended (answer : Answer) : Bytes × Option (Output.Meaning × Bytes) :=
  (answer.1, some answer.2.intended)

theorem answers_append (functions : Functions Memory) (memory : Memory)
    (first second : List PendingAllocation) :
    answers functions memory (first ++ second) =
      ((answers functions memory first).1 ++
          (answers functions (answers functions memory first).2 second).1,
        (answers functions (answers functions memory first).2 second).2) := by
  induction first generalizing memory with
  | nil => rfl
  | cons item rest inductionHypothesis =>
      simp only [List.cons_append, answers, inductionHypothesis, List.append_assoc]

theorem answers_singleton (functions : Functions Memory) (memory : Memory)
    (item : PendingAllocation) :
    answers functions memory [item] =
      ((invoke functions memory item).1.calls.map (fun call => (item.functionId, call)),
        (invoke functions memory item).2) := by
  simp only [answers, List.append_nil]

/-- Every answer carries the identifier of an invocation. -/
theorem identifier_of_mem_answers {functions : Functions Memory} {memory : Memory}
    {items : List PendingAllocation} {answer : Answer}
    (member : answer ∈ (answers functions memory items).1) :
    Exists fun item => item ∈ items ∧ answer.1 = item.functionId := by
  induction items generalizing memory with
  | nil => cases member
  | cons item rest inductionHypothesis =>
      rcases List.mem_append.mp member with here | later
      · rcases List.mem_map.mp here with ⟨call, _, rfl⟩
        exact ⟨item, List.mem_cons_self, rfl⟩
      · rcases inductionHypothesis later with ⟨other, inside, same⟩
        exact ⟨other, List.mem_cons_of_mem _ inside, same⟩

/-- A client reads answers back whose identifiers fit their field. -/
theorem decode_answers {made : List Answer}
    (valid : forall answer, answer ∈ made -> NulFree answer.1 ∧ answer.1.length ≤ 16) :
    decodeStream Output.takeMessage (made.flatMap Answer.bytes) = made.map Answer.meaning := by
  have entries : Exists fun log : List Output.Entry =>
      made.flatMap Answer.bytes = log.flatMap Output.encode ∧
        made.map Answer.meaning = log.map Output.meaning := by
    induction made with
    | nil => exact ⟨[], rfl, rfl⟩
    | cons answer rest inductionHypothesis =>
        rcases inductionHypothesis (fun other member => valid other (List.mem_cons_of_mem _ member))
          with ⟨log, bytes, meanings⟩
        have fits := valid answer List.mem_cons_self
        refine ⟨(⟨answer.1, fits.1, fits.2⟩, answer.2) :: log, ?_, ?_⟩
        · rw [List.flatMap_cons, List.flatMap_cons, bytes]
          rfl
        · rw [List.map_cons, List.map_cons, meanings]
          rfl
  rcases entries with ⟨log, bytes, meanings⟩
  rw [bytes, meanings]
  exact decodeStream_flatMap Output.takeMessage_encode rfl log

/-- The client reads what the functions have sent and returned exactly if every
return code is one of 16 bits other than `-1`. -/
theorem interpreted_iff (made : List Answer) :
    (made.map Answer.meaning).map interpreted = made.map Answer.intended ↔
      forall answer, answer ∈ made -> answer.2.recoverable = true := by
  rw [List.map_map, List.map_inj_left]
  refine forall₂_congr fun answer _ => ?_
  rw [← Output.interpret_message_iff]
  exact ⟨fun same => (Prod.mk.inj same).2, fun same => Prod.ext rfl same⟩

/-! ## The session -/

/-- The thread of the pool with its task: the calls that it has still to make,
and the payload of the last one if it has not been sent. -/
structure Running where
  task : Task
  calls : List Output.Call
  unsent : Bytes

/-- The session process.  `received` counts the calls of `receive` and `taken`
the tasks that the thread has taken from the queue. -/
structure State (Memory : Type) where
  session : Session
  message : Frame expectedLength
  control : List Arrival
  data : List Arrival
  received : Nat
  taken : Nat
  running : Option Running
  memory : Memory
  output : Bytes

/-- A call of `receive`, and the steps of the thread: it takes a task and calls
the function, makes a system call, or gives the buffer back. -/
inductive Action
  | receive
  | take
  | transmit
  | giveBack
  deriving DecidableEq

def errorStatus : Status -> Output.Status
  | .unknownRequest => .unknownRequest
  | .outOfMemory => .outOfMemory

def errorBytes (error : Status × Bytes) : Bytes :=
  Answer.bytes (error.2, .sendError (errorStatus error.1))

/-- The next call of `receive` in `Session::start`: the first is made on the
connection to the control plane and its result is not looked at, the others
end the loop when they return `false`. -/
def receiveStep (state : State Memory) : Option (State Memory) :=
  let first := state.received = 0
  let turn := if first then state.session.receive .controlPlane state.message state.control
    else state.session.receive .dataPlane state.message state.data
  if first ∨ turn.continues = true then
    some { state with
      session := turn.session
      message := turn.message
      data := if first then state.data else turn.rest
      received := state.received + 1
      output := state.output ++
        (turn.session.errors.drop state.session.errors.length).flatMap errorBytes }
  else none

def step (functions : Functions Memory) (state : State Memory) : Action -> Option (State Memory)
  | .receive => receiveStep state
  | .take =>
      match state.running, state.session.pushed[state.taken]? with
      | none, some entry =>
          let invoked := invoke functions state.memory entry.2.invocation
          some { state with
            taken := state.taken + 1
            running := some ⟨entry.2, invoked.1.calls, []⟩
            memory := invoked.2 }
      | _, _ => none
  | .transmit =>
      match state.running with
      | none => none
      | some running =>
          if running.unsent ≠ [] then some { state with
            running := some { running with unsent := [] }
            output := state.output ++ running.unsent }
          else match running.calls with
            | [] => none
            | call :: calls => some { state with
                running := some { running with calls := calls, unsent := call.payload }
                output := state.output ++ (call.header running.task.functionId).data }
  | .giveBack =>
      match state.running with
      | some ⟨task, [], []⟩ => some { state with
          session := { state.session with buffers := state.session.buffers ++ [task.buffer] }
          running := none }
      | _ => none

def State.initial (memory : Memory) (control data : List Arrival) : State Memory :=
  ⟨Session.new 1, Frame.zeros expectedLength, control, data, 0, 0, none, memory, []⟩

def system (functions : Functions Memory) (memory : Memory) (control data : List Arrival) :
    TransitionSystem (State Memory) Action where
  initial := State.initial memory control data
  step := step functions

/-- Nothing waits for the thread, and it has nothing to do: every task that was
pushed has been taken, answered and given back. -/
def State.Idle (state : State Memory) : Prop :=
  state.running = none ∧ state.taken = state.session.pushed.length

/-! ## The thread answers in order -/

/-- What the thread has still to send for its task: the payload of its last call,
and the calls that it has not made. -/
def State.pending (state : State Memory) : Bytes :=
  match state.running with
  | none => []
  | some running => running.unsent ++
      (running.calls.map (fun call => (running.task.functionId, call))).flatMap Answer.bytes

def State.begun (state : State Memory) : List PendingAllocation :=
  (state.session.pushed.take state.taken).map (fun entry => entry.2.invocation)

/-- The memory is what the tasks that the thread has taken have left, one after
the other. -/
structure Left (functions : Functions Memory) (memory : Memory) (state : State Memory) : Prop where
  counted : state.taken ≤ state.session.pushed.length
  left : state.memory = (answers functions memory state.begun).2

/-- What has been sent and what the thread still has to send are the answers to
the tasks that it has taken, one after the other. -/
structure InOrder (functions : Functions Memory) (memory : Memory) (state : State Memory) : Prop
    extends Left functions memory state where
  sent : state.output ++ state.pending =
    (answers functions memory state.begun).1.flatMap Answer.bytes

/-- What a step leaves alone that takes no task. -/
structure Untaken (source target : State Memory) : Prop where
  taken : target.taken = source.taken
  memory : target.memory = source.memory
  pushed : Exists fun more => target.session.pushed = source.session.pushed ++ more

/-- What one call of `receive` does when it sends no error. -/
structure Reception (source target : State Memory) : Prop extends Untaken source target where
  running : target.running = source.running
  output : target.output = source.output

theorem Untaken.begun {source target : State Memory} (untaken : Untaken source target)
    (counted : source.taken ≤ source.session.pushed.length) : target.begun = source.begun := by
  rcases untaken.pushed with ⟨more, pushed⟩
  unfold State.begun
  rw [pushed, untaken.taken, List.take_append_of_le_length counted]

theorem left_untaken {functions : Functions Memory} {memory : Memory}
    {source target : State Memory} (left : Left functions memory source)
    (untaken : Untaken source target) : Left functions memory target := by
  have begun := untaken.begun left.counted
  rcases untaken.pushed with ⟨more, pushed⟩
  constructor
  · rw [pushed, untaken.taken, List.length_append]
    exact Nat.le_add_right_of_le left.counted
  · rw [untaken.memory, begun]
    exact left.left

theorem inOrder_receive {functions : Functions Memory} {memory : Memory}
    {source target : State Memory} (inOrder : InOrder functions memory source)
    (reception : Reception source target) : InOrder functions memory target := by
  have pending : target.pending = source.pending := by
    unfold State.pending
    rw [reception.running]
  refine ⟨left_untaken inOrder.toLeft reception.toUntaken, ?_⟩
  rw [reception.output, pending, reception.toUntaken.begun inOrder.counted]
  exact inOrder.sent

/-- The state after the thread has taken a task. -/
def State.take (functions : Functions Memory) (state : State Memory) (entry : Peer × Task) :
    State Memory :=
  { state with
    taken := state.taken + 1
    running := some ⟨entry.2, (invoke functions state.memory entry.2.invocation).1.calls, []⟩
    memory := (invoke functions state.memory entry.2.invocation).2 }

/-- What a step of the session is: one call of `receive`, or one step of the
thread, which takes the next task while it has none, sends the payload of a
call whose header is sent, sends the header of its next call, or gives the
buffer back when nothing is left to send. -/
inductive Move (functions : Functions Memory) (state : State Memory) :
    Action -> State Memory -> Prop
  | receive {next : State Memory} : receiveStep state = some next ->
      Move functions state .receive next
  | take {entry : Peer × Task} : state.running = none ->
      state.session.pushed[state.taken]? = some entry ->
      Move functions state .take (state.take functions entry)
  | payload {running : Running} : state.running = some running -> running.unsent ≠ [] ->
      Move functions state .transmit { state with
        running := some { running with unsent := [] }
        output := state.output ++ running.unsent }
  | header {running : Running} {call : Output.Call} {calls : List Output.Call} :
      state.running = some running -> running.unsent = [] -> running.calls = call :: calls ->
      Move functions state .transmit { state with
        running := some { running with calls := calls, unsent := call.payload }
        output := state.output ++ (call.header running.task.functionId).data }
  | giveBack {task : Task} : state.running = some ⟨task, [], []⟩ ->
      Move functions state .giveBack { state with
        session := { state.session with buffers := state.session.buffers ++ [task.buffer] }
        running := none }

theorem step_move {functions : Functions Memory} {source target : State Memory} {action : Action}
    (stepped : step functions source action = some target) :
    Move functions source action target := by
  cases action with
  | receive => exact .receive stepped
  | take =>
      simp only [step] at stepped
      split at stepped
      · rename_i entry free next
        cases stepped
        exact .take free next
      · cases stepped
  | transmit =>
      simp only [step] at stepped
      split at stepped
      · cases stepped
      rename_i running busy
      by_cases empty : running.unsent = []
      · rw [if_neg (not_not_intro empty)] at stepped
        cases next : running.calls with
        | nil => simp only [next, reduceCtorEq] at stepped
        | cons call calls =>
            simp only [next] at stepped
            cases stepped
            exact .header busy empty next
      · rw [if_pos empty] at stepped
        cases stepped
        exact .payload busy empty
  | giveBack =>
      simp only [step] at stepped
      split at stepped
      · rename_i task busy
        cases stepped
        exact .giveBack busy
      · cases stepped

theorem begun_take {functions : Functions Memory} {state : State Memory} {entry : Peer × Task}
    (next : state.session.pushed[state.taken]? = some entry) :
    (state.take functions entry).begun = state.begun ++ [entry.2.invocation] := by
  unfold State.begun State.take
  dsimp only
  rw [List.take_add_one, next, List.map_append]
  rfl

theorem left_take {functions : Functions Memory} {memory : Memory} {state : State Memory}
    (left : Left functions memory state) {entry : Peer × Task}
    (next : state.session.pushed[state.taken]? = some entry) :
    Left functions memory (state.take functions entry) := by
  constructor
  · exact (List.getElem?_eq_some_iff.mp next).1
  · rw [begun_take next, answers_append, answers_singleton, ← left.left]
    rfl

theorem inOrder_take {functions : Functions Memory} {memory : Memory} {state : State Memory}
    (inOrder : InOrder functions memory state) (free : state.running = none)
    {entry : Peer × Task} (next : state.session.pushed[state.taken]? = some entry) :
    InOrder functions memory (state.take functions entry) := by
  have sent := inOrder.sent
  unfold State.pending at sent
  rw [free, List.append_nil] at sent
  refine ⟨left_take inOrder.toLeft next, ?_⟩
  rw [begun_take next, answers_append, answers_singleton, ← inOrder.left, List.flatMap_append,
    ← sent]
  rfl

theorem inOrder_payload {functions : Functions Memory} {memory : Memory} {state : State Memory}
    (inOrder : InOrder functions memory state) {running : Running}
    (busy : state.running = some running) :
    InOrder functions memory { state with
      running := some { running with unsent := [] }
      output := state.output ++ running.unsent } := by
  have sent := inOrder.sent
  unfold State.pending at sent
  rw [busy] at sent
  refine ⟨⟨inOrder.counted, inOrder.left⟩, ?_⟩
  unfold State.pending
  dsimp only
  rw [List.nil_append, List.append_assoc]
  exact sent

theorem inOrder_header {functions : Functions Memory} {memory : Memory} {state : State Memory}
    (inOrder : InOrder functions memory state) {running : Running}
    (busy : state.running = some running) (empty : running.unsent = [])
    {call : Output.Call} {calls : List Output.Call} (next : running.calls = call :: calls) :
    InOrder functions memory { state with
      running := some { running with calls := calls, unsent := call.payload }
      output := state.output ++ (call.header running.task.functionId).data } := by
  have sent := inOrder.sent
  unfold State.pending at sent
  rw [busy] at sent
  dsimp only at sent
  rw [empty, next, List.nil_append, List.map_cons, List.flatMap_cons] at sent
  refine ⟨⟨inOrder.counted, inOrder.left⟩, ?_⟩
  unfold State.pending
  dsimp only
  rw [List.append_assoc, ← List.append_assoc _ call.payload]
  exact sent

theorem inOrder_giveBack {functions : Functions Memory} {memory : Memory} {state : State Memory}
    (inOrder : InOrder functions memory state) {task : Task}
    (busy : state.running = some ⟨task, [], []⟩) :
    InOrder functions memory { state with
      session := { state.session with buffers := state.session.buffers ++ [task.buffer] }
      running := none } := by
  have sent := inOrder.sent
  unfold State.pending at sent
  rw [busy] at sent
  exact ⟨⟨inOrder.counted, inOrder.left⟩, sent⟩

/-! ## The memory -/

theorem pushed_accept (session : Session) (peer : Peer) (request : FunctionRequestMsg)
    (connection : List Arrival) :
    Exists fun more => (session.accept peer request connection).1.pushed =
      session.pushed ++ more := by
  unfold Session.accept
  split
  · exact ⟨[], (List.append_nil _).symm⟩
  split
  · dsimp only
    split
    · exact ⟨[], (List.append_nil _).symm⟩
    · exact ⟨_, rfl⟩
  · exact ⟨_, rfl⟩

theorem pushed_receive (session : Session) (peer : Peer) (message : Frame expectedLength)
    (connection : List Arrival) :
    Exists fun more => (session.receive peer message connection).session.pushed =
      session.pushed ++ more := by
  unfold Session.receive
  dsimp only
  split
  · exact ⟨[], (List.append_nil _).symm⟩
  split
  · exact ⟨[], (List.append_nil _).symm⟩
  split
  · exact pushed_accept _ _ _ _
  · exact ⟨[], (List.append_nil _).symm⟩

/-- Whatever is received, the memory changes only when a task is taken. -/
theorem Move.taken {functions : Functions Memory} {source target : State Memory} {action : Action}
    (move : Move functions source action target) : Untaken source target ∨
      Exists fun entry => source.session.pushed[source.taken]? = some entry ∧
        target = source.take functions entry := by
  have same : source.session.pushed = source.session.pushed ++ [] := (List.append_nil _).symm
  cases move with
  | receive received =>
      unfold receiveStep at received
      rcases Option.ite_none_right_eq_some.mp received with ⟨_, made⟩
      cases made
      refine Or.inl ⟨rfl, rfl, ?_⟩
      dsimp only
      split
      · exact pushed_receive _ _ _ _
      · exact pushed_receive _ _ _ _
  | take _ next => exact Or.inr ⟨_, next, rfl⟩
  | payload => exact Or.inl ⟨rfl, rfl, [], same⟩
  | header => exact Or.inl ⟨rfl, rfl, [], same⟩
  | giveBack => exact Or.inl ⟨rfl, rfl, [], same⟩

theorem left_step {functions : Functions Memory} {memory : Memory} {source target : State Memory}
    (left : Left functions memory source) {action : Action}
    (stepped : step functions source action = some target) : Left functions memory target := by
  rcases (step_move stepped).taken with untaken | ⟨entry, next, rfl⟩
  · exact left_untaken left untaken
  · exact left_take left next

theorem left_of_run {functions : Functions Memory} {memory : Memory} {control data : List Arrival}
    {trace : List (State Memory × Action)} {final : State Memory}
    (run : TransitionSystem.Run (system functions memory control data)
      (State.initial memory control data) trace final) : Left functions memory final := by
  apply run.invariant (Left functions memory) ⟨Nat.le_refl _, rfl⟩
  intro source action target left stepped
  exact left_step left stepped

/-! ## The receive loop takes the requests -/

/-- The requests that are received: the first on the connection to the control
plane, where more may follow, and the others on the data plane. -/
structure Sent (first : Packet) (packets : List Packet) (control data : List Arrival) : Prop where
  onControl : Exists fun segments => Exists fun tail => control = delivered segments ∧
    segments.flatten = first.header.data ++ (first.payload ++ tail) ∧
    (read expectedLength control).count = expectedLength
  onData : Exists fun segments => data = delivered segments ∧
    segments.flatten = requestStream packets
  whole : headersWhole packets data

/-- The loop has read the requests up to its count and pushed their tasks. -/
structure Received (first : Packet) (packets : List Packet) (control : List Arrival)
    (state : State Memory) : Prop where
  control : state.control = control
  asked : state.session.pushed.map (fun entry => entry.2.invocation) =
    requested ((first :: packets).take state.received)
  data : Exists fun segments => state.data = delivered segments ∧
    segments.flatten = requestStream (packets.drop (state.received - 1))
  whole : headersWhole (packets.drop (state.received - 1)) state.data
  bounded : state.received ≤ packets.length + 1

/-- When a request is received, the queue has a buffer that holds its
payload. -/
def HoldsNext (first : Packet) (packets : List Packet) (state : State Memory) (action : Action) :
    Prop :=
  action = .receive -> forall packet, (first :: packets)[state.received]? = some packet ->
    holdsPayload state.session.buffers packet

/-- One call of `receive` on a request that arrives whole and finds a
buffer. -/
theorem receive_request (session : Session) (peer : Peer) (message : Frame expectedLength)
    (packet : Packet) {segments : List Bytes} {tail : Bytes}
    (stream : segments.flatten = packet.header.data ++ (packet.payload ++ tail))
    (whole : (read expectedLength (delivered segments)).count = expectedLength)
    (holds : holdsPayload session.buffers packet) :
    let turn := session.receive peer message (delivered segments)
    turn.continues = true ∧ turn.session.errors = session.errors ∧
      (Exists fun more => turn.session.pushed = session.pushed ++ more ∧
        more.map (fun entry => entry.2.invocation) = requested [packet]) ∧
      Exists fun rest => turn.rest = delivered rest ∧ rest.flatten = tail ∧
        (readN packet.payload.length (read expectedLength (delivered segments)).rest).rest =
          delivered rest := by
  rcases receive_whole session peer message packet stream whole with
    ⟨middle, flat, position, result⟩
  rcases readN_split packet.payload.length middle with ⟨rest, payload, remains⟩
  rw [flat, List.drop_left] at remains
  dsimp only
  rw [result, accept_taken session peer packet flat (takesPayload_of_holdsPayload holds), position,
    payload, requested_singleton]
  by_cases unnamed : packet.request.functionName = []
  · rw [if_pos unnamed, if_pos unnamed]
    exact ⟨rfl, rfl, ⟨[], (List.append_nil _).symm, rfl⟩, rest, rfl, remains, rfl⟩
  · rw [if_neg unnamed, if_neg unnamed]
    refine ⟨rfl, rfl, ⟨[(peer, packet.task session.buffers)], rfl, ?_⟩, rest, rfl, remains, rfl⟩
    rw [List.map_singleton, task_invocation]

/-- On a connection that has no bytes left `receive` returns `false`. -/
theorem continues_of_empty (session : Session) (peer : Peer) (message : Frame expectedLength)
    {segments : List Bytes} (stream : segments.flatten = []) :
    (session.receive peer message (delivered segments)).continues = false := by
  have nothing : (read expectedLength (delivered segments)).count = 0 := by
    rcases read_delivered expectedLength segments with ⟨rest, _, split, length⟩
    rw [stream] at split
    rw [length, (List.append_eq_nil_iff.mp split.symm).1]
    rfl
  unfold Session.receive
  dsimp only
  rw [if_pos nothing]

theorem requested_take_succ {packets : List Packet} {index : Nat} {packet : Packet}
    (present : packets[index]? = some packet) :
    requested (packets.take (index + 1)) =
      requested (packets.take index) ++ requested [packet] := by
  rw [List.take_add_one, present]
  unfold requested
  rw [List.filter_append, List.map_append]
  rfl

theorem received_first {first : Packet} {packets : List Packet} {control data : List Arrival}
    (sent : Sent first packets control data) {source target : State Memory}
    (received : Received first packets control source) (start : source.received = 0)
    (holds : holdsPayload source.session.buffers first)
    (stepped : receiveStep source = some target) :
    Received first packets control target ∧ Reception source target := by
  rcases sent.onControl with ⟨segments, tail, delivers, stream, whole⟩
  rw [delivers] at whole
  rcases receive_request source.session .controlPlane source.message first stream whole holds with
    ⟨_, errors, ⟨more, pushed, invocations⟩, _⟩
  have connection : source.control = delivered segments := received.control.trans delivers
  unfold receiveStep at stepped
  simp only [start, if_true, true_or, connection, errors, List.drop_length, List.flatMap_nil,
    List.append_nil] at stepped
  cases stepped
  have asked := received.asked
  have left := received.data
  have headers := received.whole
  rw [start] at asked left headers
  refine ⟨⟨connection ▸ received.control, ?_, left, headers, ?_⟩, ⟨rfl, rfl, more, pushed⟩, rfl,
    rfl⟩
  · dsimp only
    rw [pushed, List.map_append, asked, invocations]
    rfl
  · exact Nat.succ_le_succ (Nat.zero_le _)

theorem received_later {first : Packet} {packets : List Packet} {control : List Arrival}
    {source target : State Memory} (received : Received first packets control source)
    (later : source.received ≠ 0)
    (holds : forall packet, (first :: packets)[source.received]? = some packet ->
      holdsPayload source.session.buffers packet)
    (stepped : receiveStep source = some target) :
    Received first packets control target ∧ Reception source target := by
  rcases Nat.exists_eq_succ_of_ne_zero later with ⟨index, counted⟩
  rcases received.data with ⟨segments, delivers, stream⟩
  have headers := received.whole
  rw [counted, Nat.succ_sub_one] at stream headers
  rw [delivers] at headers
  unfold receiveStep at stepped
  simp only [later, if_false, false_or, delivers] at stepped
  by_cases more : index < packets.length
  · rw [List.drop_eq_getElem_cons more] at stream headers
    rw [requestStream_cons] at stream
    have present : (first :: packets)[source.received]? = some packets[index] := by
      rw [counted, List.getElem?_cons_succ, List.getElem?_eq_getElem more]
    rcases receive_request source.session .dataPlane source.message packets[index] stream headers.1
      (holds _ present) with ⟨continues, errors, ⟨pushes, pushed, invocations⟩, rest, left, remains,
      position⟩
    rw [if_pos continues, errors, List.drop_length, List.flatMap_nil, List.append_nil] at stepped
    cases stepped
    refine ⟨⟨received.control, ?_, ⟨rest, left, ?_⟩, ?_, ?_⟩, ⟨rfl, rfl, pushes, pushed⟩, rfl, rfl⟩
    · dsimp only
      rw [pushed, List.map_append, received.asked, invocations, ← requested_take_succ present]
    · dsimp only
      rw [counted, Nat.succ_sub_one]
      exact remains
    · dsimp only
      rw [counted, Nat.succ_sub_one, left, ← position]
      exact headers.2
    · dsimp only
      omega
  · -- nothing is left, and the loop has ended
    have ended := received.bounded
    have empty : packets.drop index = [] := List.drop_eq_nil_of_le (by omega)
    rw [empty] at stream
    rw [continues_of_empty source.session .dataPlane source.message stream,
      if_neg Bool.false_ne_true] at stepped
    cases stepped

/-- The loop and the thread at one state of the session: what has been received
so far, and how far the answers to it have come. -/
structure Served (functions : Functions Memory) (memory : Memory) (first : Packet)
    (packets : List Packet) (control : List Arrival) (state : State Memory) : Prop where
  received : Received first packets control state
  inOrder : InOrder functions memory state

theorem served_initial {functions : Functions Memory} {memory : Memory} {first : Packet}
    {packets : List Packet} {control data : List Arrival} (sent : Sent first packets control data) :
    Served functions memory first packets control (State.initial memory control data) where
  received := ⟨rfl, rfl, sent.onData, sent.whole, Nat.zero_le _⟩
  inOrder := ⟨⟨Nat.le_refl _, rfl⟩, rfl⟩

/-- A step of the thread leaves what the loop has received. -/
theorem Received.kept {first : Packet} {packets : List Packet} {control : List Arrival}
    {source target : State Memory} (received : Received first packets control source)
    (pushed : target.session.pushed = source.session.pushed)
    (connections : (target.control, target.data) = (source.control, source.data))
    (counted : target.received = source.received) : Received first packets control target := by
  rcases Prod.mk.inj connections with ⟨onControl, onData⟩
  constructor
  · rw [onControl, received.control]
  · rw [pushed, counted, received.asked]
  · rw [onData, counted]
    exact received.data
  · rw [onData, counted]
    exact received.whole
  · rw [counted]
    exact received.bounded

theorem served_step {functions : Functions Memory} {memory : Memory} {first : Packet}
    {packets : List Packet} {control data : List Arrival} (sent : Sent first packets control data)
    {source target : State Memory} {action : Action}
    (served : Served functions memory first packets control source)
    (holds : HoldsNext first packets source action)
    (stepped : step functions source action = some target) :
    Served functions memory first packets control target := by
  rcases served with ⟨received, inOrder⟩
  cases step_move stepped with
  | receive called =>
      have available := holds rfl
      have both : Received first packets control target ∧ Reception source target := by
        by_cases start : source.received = 0
        · rw [start] at available
          exact received_first sent received start (available first rfl) called
        · exact received_later received start available called
      exact ⟨both.1, inOrder_receive inOrder both.2⟩
  | take free next => exact ⟨received.kept rfl rfl rfl, inOrder_take inOrder free next⟩
  | payload busy => exact ⟨received.kept rfl rfl rfl, inOrder_payload inOrder busy⟩
  | header busy empty next =>
      exact ⟨received.kept rfl rfl rfl, inOrder_header inOrder busy empty next⟩
  | giveBack busy => exact ⟨received.kept rfl rfl rfl, inOrder_giveBack inOrder busy⟩

theorem served_run {functions : Functions Memory} {memory : Memory} {first : Packet}
    {packets : List Packet} {control data : List Arrival} (sent : Sent first packets control data)
    {trace : List (State Memory × Action)} {final : State Memory}
    (run : TransitionSystem.Run (system functions memory control data)
      (State.initial memory control data) trace final)
    (holds : TransitionSystem.Guarded (HoldsNext first packets) trace) :
    Served functions memory first packets control final :=
  run.guarded_invariant (Served functions memory first packets control) (served_initial sent)
    (fun _ _ _ served allowed stepped => served_step sent served allowed stepped) holds

theorem identifier_fits {packets : List Packet} {item : PendingAllocation}
    (member : item ∈ requested packets) :
    NulFree item.functionId ∧ item.functionId.length ≤ 16 := by
  rcases List.mem_map.mp member with ⟨packet, _, rfl⟩
  refine ⟨nulFree_untilNul _, ?_⟩
  exact (List.takeWhile_sublist _).length_le.trans
    (Nat.le_of_eq (Frame.load_length _ _ 16 (by decide)))

section Served

variable {functions : Functions Memory} {memory : Memory} {first : Packet} {packets : List Packet}
  {control : List Arrival} {state : State Memory}
  (served : Served functions memory first packets control state)

include served

/-- What has been sent is a beginning of the answers to the requests received. -/
theorem Served.begins : state.output <+: (answers functions memory
    (requested ((first :: packets).take state.received))).1.flatMap Answer.bytes := by
  have split : (state.session.pushed.map (fun entry => entry.2.invocation)) = state.begun ++
      (state.session.pushed.drop state.taken).map (fun entry => entry.2.invocation) := by
    unfold State.begun
    rw [← List.map_append, List.take_append_drop]
  rw [← served.received.asked, split, answers_append, List.flatMap_append, ← served.inOrder.sent,
    List.append_assoc]
  exact List.prefix_append _ _

/-- When the session is idle, all of them have been sent, and a client reads
them back. -/
theorem Served.idle (idle : state.Idle) :
    let made := answers functions memory (requested ((first :: packets).take state.received))
    decodeStream Output.takeMessage state.output = made.1.map Answer.meaning ∧
      state.memory = made.2 := by
  rcases idle with ⟨free, done⟩
  have asked := served.received.asked
  have all : state.begun = state.session.pushed.map (fun entry => entry.2.invocation) := by
    unfold State.begun
    rw [done, List.take_length]
  have output := served.inOrder.sent
  have left := served.inOrder.left
  unfold State.pending at output
  rw [free, List.append_nil, all, asked] at output
  rw [all, asked] at left
  refine ⟨?_, left⟩
  rw [output]
  apply decode_answers
  intro answer member
  rcases identifier_of_mem_answers member with ⟨item, inside, same⟩
  rw [same]
  exact identifier_fits inside

end Served

/-- What a session has answered to a list of requests, and what its client makes
of it.  It has sent a beginning of the answers.  When it is idle, a client that
takes the messages off the stream gets all of them, and by the documented
interpretation reads what was sent and returned exactly if every return code is
one of 16 bits other than `-1`: others arrive cut to 16 bits, and `-1` as data
of length zero. -/
structure Answered (state : State Memory) (made : List Answer × Memory) : Prop where
  begins : state.output <+: made.1.flatMap Answer.bytes
  taken : state.Idle -> decodeStream Output.takeMessage state.output = made.1.map Answer.meaning
  left : state.Idle -> state.memory = made.2
  interpreted : state.Idle ->
    ((decodeStream Output.takeMessage state.output).map interpreted = made.1.map Answer.intended ↔
      forall answer, answer ∈ made.1 -> answer.2.recoverable = true)

theorem Served.answered {functions : Functions Memory} {memory : Memory} {first : Packet}
    {packets : List Packet} {control : List Arrival} {state : State Memory}
    (served : Served functions memory first packets control state) :
    Answered state (answers functions memory (requested ((first :: packets).take state.received)))
    where
  begins := served.begins
  taken idle := (served.idle idle).1
  left idle := (served.idle idle).2
  interpreted idle := by
    rw [(served.idle idle).1]
    exact interpreted_iff _

/-- A session with one thread is a sequential server.  However the receive loop
and the system calls of the thread interleave, it answers the requests received
so far in their order, each function being called with its own payload after
the one before has ended, on the memory which that one has left. -/
theorem answers_sequentially {functions : Functions Memory} {memory : Memory} {first : Packet}
    {packets : List Packet} {control data : List Arrival} (sent : Sent first packets control data)
    {trace : List (State Memory × Action)} {final : State Memory}
    (run : TransitionSystem.Run (system functions memory control data)
      (State.initial memory control data) trace final)
    (holds : TransitionSystem.Guarded (HoldsNext first packets) trace) :
    Answered final
      (answers functions memory (requested ((first :: packets).take final.received))) :=
  (served_run sent run holds).answered

/-- A function that sends the start of its payload and counts the bytes it was
given in the memory. -/
def countingFunctions : Functions Nat := fun name =>
  if name = ascii "f" then some (fun payload _ counted =>
    ⟨[⟨payload.take 4, Nat.lt_of_le_of_lt (List.length_take_le 4 payload) (by decide)⟩], 0,
      counted + payload.length⟩)
  else none

def pendingPacket : Packet := functionPacket (ascii "0") [5, 6, 7] (by decide)

/-- The second and the third request arrive while the first is answered. -/
def threeRequests : List Action :=
  [.receive, .take, .transmit, .receive, .transmit, .transmit, .giveBack, .take, .receive,
    .transmit, .transmit, .transmit, .giveBack, .take, .transmit, .transmit, .giveBack]

instance (buffers : List Buffer) (packet : Packet) : Decidable (holdsPayload buffers packet) :=
  inferInstanceAs (Decidable (_ ∨ _))

theorem three_requests_sent :
    Sent pendingPacket twoPackets (delivered [pendingPacket.bytes])
      (delivered [requestStream twoPackets]) where
  onControl := ⟨[pendingPacket.bytes], [], rfl, by
    rw [List.flatten_singleton, List.append_nil]
    rfl, by decide +kernel⟩
  onData := ⟨_, rfl, List.flatten_singleton⟩
  whole := twoPackets_whole

theorem three_requests_answered :
    Exists fun trace => Exists fun final =>
      TransitionSystem.Run (system countingFunctions 0 (delivered [pendingPacket.bytes])
        (delivered [requestStream twoPackets]))
        (State.initial 0 (delivered [pendingPacket.bytes]) (delivered [requestStream twoPackets]))
        trace final ∧
      final.memory = 5 ∧ (decodeStream Output.takeMessage final.output).map interpreted =
        (answers countingFunctions 0 (requested (pendingPacket :: twoPackets))).1.map
          Answer.intended := by
  have found := TransitionSystem.exists_run
    (system countingFunctions 0 (delivered [pendingPacket.bytes])
      (delivered [requestStream twoPackets]))
    (State.initial 0 (delivered [pendingPacket.bytes]) (delivered [requestStream twoPackets]))
    threeRequests (fun trace final => final.running.isNone &&
      decide (final.taken = final.session.pushed.length ∧ final.received = 3 ∧ final.memory = 5) &&
      trace.all (fun entry => ((pendingPacket :: twoPackets)[entry.1.received]?).all
        (fun packet => decide (holdsPayload entry.1.session.buffers packet)))) (by decide +kernel)
  rcases found with ⟨trace, final, run, tested⟩
  rw [Bool.and_eq_true, Bool.and_eq_true, decide_eq_true_eq] at tested
  rcases tested with ⟨⟨free, done, received, counted⟩, holds⟩
  have answered := answers_sequentially three_requests_sent run (by
    intro entry member _ packet next
    have each := List.all_eq_true.mp holds entry member
    rw [next] at each
    exact of_decide_eq_true each)
  rw [received] at answered
  refine ⟨trace, final, run, counted,
    (answered.interpreted ⟨Option.isNone_iff_eq_none.mp free, done⟩).mpr ?_⟩
  exact List.all_eq_true.mp (by decide +kernel)

end SingleThread
end Execution
end Praas
