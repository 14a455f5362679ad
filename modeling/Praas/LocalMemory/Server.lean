import Praas.LocalMemory.Store
import Praas.Library.TransitionSystem

namespace Praas
namespace LocalMemory

open Library
open SessionMessage

/-!
# The server of the local memory

One loop accepts the connections of sessions into 64 slots, reads the header
of a message from a slot that is not busy, hands it to a pool of threads and
then marks the slot as busy.  A thread runs `handle_session_message` with a
pointer to the slot.  It clears the mark once it has read the payload, before
it runs the operation and writes its reply to the socket that the slot then
holds.  When the loop meets the end of a connection it closes the socket and
frees the slot for a later connection.

Every step of the loop and of a task is an action of its own.  A task carries
the socket its message was read from, which the source does not have, so that
the target of a write can be compared with it.
-/

namespace Server

def maxConnections : Nat := 64

/-- `Connection` together with its entry of `active`.  A closed socket is
`none`. -/
structure Slot where
  socket : Option Nat
  active : Bool
  busy : Bool

/-- How far a task has come in `handle_session_message`, with the locals that the
rest of it needs: the pointer to the payload, the size of the reply, and the
object that the accessor gives access to. -/
inductive Stage
  | queued
  | received (data : Option Nat)
  | ready (data : Option Nat)
  | operated (data : Option Nat) (size : Int) (accessor : Option Object)
  | answered (data : Option Nat) (size : Int) (accessor : Option Object)
  | written (data : Option Nat)

/-- A task of the pool.  `origin` is the socket on which its message has
arrived. -/
structure Task where
  slot : Nat
  origin : Nat
  buffer : SessionMessage
  stage : Stage

/-- A header or a payload written to a socket. -/
structure Write where
  origin : Nat
  target : Nat
  bytes : Option Bytes

/-- The state of the server.  `marking` is the slot whose task has been pushed
and which the loop has not yet marked as busy; sockets are numbered in the
order in which they are accepted. -/
structure State where
  memory : Memory
  slots : Nat -> Slot
  nextSocket : Nat
  marking : Option Nat
  tasks : List Task
  writes : List Write
  crashed : Bool

/-- What the loop reads from a slot: a message, or the end of the connection
or an error. -/
inductive Arrival
  | message (buffer : SessionMessage)
  | ended

/-- The actions.  The first three are those of the loop; the others advance
the task with the given index.  In `read`, one read returns `bytes`. -/
inductive Action
  | accept
  | poll (slot : Nat) (arrival : Arrival)
  | markBusy
  | read (index : Nat) (bytes : Bytes)
  | clearBusy (index : Nat)
  | operate (index : Nat)
  | writeHeader (index : Nat)
  | writePayload (index : Nat)
  | release (index : Nat)

def firstFree (state : State) : Option Nat :=
  (List.range maxConnections).find? (fun slot => !(state.slots slot).active)

/-- `SessionConnections::insert`, and the use of its result, which is null when
all slots are active. -/
def acceptStep (state : State) : State :=
  match firstFree state with
  | none => { state with crashed := true }
  | some slot =>
      { state with
        slots := Function.update state.slots slot ⟨some state.nextSocket, true, false⟩
        nextSocket := state.nextSocket + 1 }

/-- The loop has read from the socket of a slot.  A message becomes a task,
which the loop marks in a step of its own; the end of the connection frees the
slot, also while tasks of it are running. -/
def pollStep (state : State) (slot socket : Nat) : Arrival -> State
  | .message buffer =>
      { state with
        tasks := state.tasks ++ [⟨slot, socket, buffer, .queued⟩]
        marking := some slot }
  | .ended =>
      { state with
        slots := Function.update state.slots slot
          { state.slots slot with socket := none, active := false } }

def setBusy (state : State) (slot : Nat) (busy : Bool) : State :=
  { state with
    slots := Function.update state.slots slot { state.slots slot with busy := busy } }

def advance (state : State) (index : Nat) (task : Task) (stage : Stage) : State :=
  { state with tasks := state.tasks.set index { task with stage := stage } }

/-- Write to the socket that the slot of a task holds now; a closed socket
takes nothing. -/
def writeTo (state : State) (task : Task) (bytes : Option Bytes) : State :=
  match (state.slots task.slot).socket with
  | none => state
  | some target => { state with writes := state.writes ++ [⟨task.origin, target, bytes⟩] }

/-- The payload of a task is read into a new block.  A short read ends the
task, which leaves the slot busy. -/
def readStep (state : State) (index : Nat) (task : Task) (bytes : Bytes) : State :=
  let read := receivePayload state.memory.heap task.buffer bytes
  let received := { state with memory := { state.memory with heap := read.1 } }
  if 0 < task.buffer.payload ∧ (bytes.length : Int) < task.buffer.payload then
    { received with tasks := state.tasks.eraseIdx index }
  else advance received index task (.received read.2)

def operateStep (state : State) (index : Nat) (task : Task) (data : Option Nat) : State :=
  let done := operate state.memory.cache task.buffer data
  advance { state with memory := { state.memory with cache := done.2.1 } } index task
    (.operated data (retPayload done.1 done.2.2) done.2.2)

/-- The header is written, and the task is left with a payload to write or
with its block to release. -/
def headerStep (state : State) (index : Nat) (task : Task) (data : Option Nat) (size : Int)
    (accessor : Option Object) : State :=
  advance (writeTo state task (some (replyHeader task.buffer size).data)) index task
    (if 0 < size then .answered data size accessor else .written data)

def taskStep (state : State) (index : Nat) (task : Task) : Action -> Option State
  | .read _ bytes =>
      match task.stage with
      | .queued => some (readStep state index task bytes)
      | _ => none
  | .clearBusy _ =>
      match task.stage with
      | .received data => some (advance (setBusy state task.slot false) index task (.ready data))
      | _ => none
  | .operate _ =>
      match task.stage with
      | .ready data => some (operateStep state index task data)
      | _ => none
  | .writeHeader _ =>
      match task.stage with
      | .operated data size accessor => some (headerStep state index task data size accessor)
      | _ => none
  | .writePayload _ =>
      match task.stage with
      | .answered data size accessor =>
          some (advance (writeTo state task (replyBody state.memory.heap accessor size)) index task
            (.written data))
      | _ => none
  | .release _ =>
      match task.stage with
      | .written data => some { state with
          memory := { state.memory with heap := state.memory.heap.release data }
          tasks := state.tasks.eraseIdx index }
      | _ => none
  | _ => none

def Action.task : Action -> Option Nat
  | .accept => none
  | .poll _ _ => none
  | .markBusy => none
  | .read index _ => some index
  | .clearBusy index => some index
  | .operate index => some index
  | .writeHeader index => some index
  | .writePayload index => some index
  | .release index => some index

/-- A step of the loop. -/
def loopStep (state : State) : Action -> Option State
  | .accept => if state.marking.isNone then some (acceptStep state) else none
  | .poll slot arrival =>
      match (state.slots slot).socket with
      | none => none
      | some socket =>
          if state.marking.isNone ∧ (state.slots slot).busy = false then
            some (pollStep state slot socket arrival)
          else none
  | .markBusy =>
      match state.marking with
      | none => none
      | some slot => some { setBusy state slot true with marking := none }
  | _ => none

def step (state : State) (action : Action) : Option State :=
  if state.crashed then none
  else match action.task with
    | none => loopStep state action
    | some index =>
        match state.tasks[index]? with
        | none => none
        | some task => taskStep state index task action

def system : TransitionSystem State Action where
  initial := ⟨Memory.empty, fun _ => ⟨none, false, false⟩, 0, none, [], [], false⟩
  step := step

/-! ## Who receives a reply -/

/-- Every header and payload was written to the socket of its request, and to none
that was accepted into the same slot later. -/
def RepliesToRequester (state : State) : Prop :=
  forall write, write ∈ state.writes -> write.target = write.origin

/-- The task still has something to write. -/
def Task.owes (task : Task) : Bool :=
  match task.stage with
  | .written _ => false
  | _ => true

/-- A connection is accepted only into a slot for which no task has something
to write. -/
def acceptsSettled (state : State) (action : Action) : Bool :=
  match action with
  | .accept =>
      match firstFree state with
      | none => true
      | some slot => state.tasks.all (fun task => !(decide (task.slot = slot) && task.owes))
  | _ => true

/-- The slot of a task holds the socket of its request, or none if the
connection has ended.  A task without a socket writes nothing. -/
def Held (slots : Nat -> Slot) (task : Task) : Prop :=
  forall socket, (slots task.slot).socket = some socket -> socket = task.origin

/-- Every task that has something to write is held, and all writes so far have
gone to their requesters. -/
structure Directed (state : State) : Prop where
  held : forall task, task ∈ state.tasks -> task.owes = true -> Held state.slots task
  replies : RepliesToRequester state

theorem slots_writeTo (state : State) (task : Task) (bytes : Option Bytes) :
    (writeTo state task bytes).slots = state.slots := by
  unfold writeTo
  split <;> rfl

theorem socket_setBusy (state : State) (slot : Nat) (busy : Bool) (other : Nat) :
    ((setBusy state slot busy).slots other).socket = (state.slots other).socket := by
  dsimp only [setBusy]
  by_cases same : other = slot
  · rw [same, Function.update_self]
  · rw [Function.update_of_ne same]

section Steps

variable {state : State} (directed : Directed state)

include directed

theorem directed_setBusy (slot : Nat) (busy : Bool) : Directed (setBusy state slot busy) := by
  refine ⟨?_, directed.replies⟩
  intro task member owes socket found
  rw [socket_setBusy] at found
  exact directed.held task member owes socket found

theorem directed_advance {task : Task} (held : Held state.slots task) (index : Nat)
    (stage : Stage) : Directed (advance state index task stage) := by
  refine ⟨?_, directed.replies⟩
  intro other member owes
  rcases List.mem_or_eq_of_mem_set member with old | new
  · exact directed.held other old owes
  · rw [new]
    exact held

theorem directed_eraseIdx (index : Nat) (memory : Memory) :
    Directed { state with memory := memory, tasks := state.tasks.eraseIdx index } := by
  refine ⟨?_, directed.replies⟩
  intro task member
  exact directed.held task (List.mem_of_mem_eraseIdx member)

theorem directed_writeTo {task : Task} (held : Held state.slots task) (bytes : Option Bytes) :
    Directed (writeTo state task bytes) := by
  unfold writeTo
  split
  · exact directed
  · rename_i target found
    refine ⟨directed.held, ?_⟩
    intro write member
    rcases List.mem_append.mp member with old | new
    · exact directed.replies write old
    · rw [List.mem_singleton.mp new]
      exact held target found

theorem directed_accept (settled : acceptsSettled state .accept = true) :
    Directed (acceptStep state) := by
  unfold acceptsSettled at settled
  unfold acceptStep
  cases free : firstFree state with
  | none => exact ⟨directed.held, directed.replies⟩
  | some slot =>
      rw [free] at settled
      refine ⟨?_, directed.replies⟩
      intro task member owes socket found
      have elsewhere : task.slot ≠ slot := by
        intro same
        have idle := List.all_eq_true.mp settled task member
        rw [owes, decide_eq_true same] at idle
        cases idle
      dsimp only at found
      rw [Function.update_of_ne elsewhere] at found
      exact directed.held task member owes socket found

theorem directed_poll {slot socket : Nat} (found : (state.slots slot).socket = some socket)
    (arrival : Arrival) : Directed (pollStep state slot socket arrival) := by
  cases arrival with
  | message buffer =>
      refine ⟨?_, directed.replies⟩
      intro task member owes
      rcases List.mem_append.mp member with old | new
      · exact directed.held task old owes
      · rw [List.mem_singleton.mp new]
        intro current same
        exact Option.some.inj (same.symm.trans found)
  | ended =>
      refine ⟨?_, directed.replies⟩
      intro task member owes current same
      dsimp only [pollStep] at same
      by_cases own : task.slot = slot
      · rw [own, Function.update_self] at same
        cases same
      · rw [Function.update_of_ne own] at same
        exact directed.held task member owes current same

theorem directed_loop {action : Action} {target : State}
    (settled : acceptsSettled state action = true) (stepped : loopStep state action = some target) :
    Directed target := by
  unfold loopStep at stepped
  split at stepped
  · split at stepped
    · cases stepped
      exact directed_accept directed settled
    · cases stepped
  · split at stepped
    · cases stepped
    · rename_i found
      split at stepped
      · cases stepped
        exact directed_poll directed found _
      · cases stepped
  · split at stepped
    · cases stepped
    · cases stepped
      have marked := directed_setBusy directed ‹_› true
      exact ⟨marked.held, marked.replies⟩
  · cases stepped

theorem directed_memory (memory : Memory) : Directed { state with memory := memory } :=
  ⟨directed.held, directed.replies⟩

theorem directed_read {task : Task} (held : Held state.slots task) (index : Nat) (bytes : Bytes) :
    Directed (readStep state index task bytes) := by
  unfold readStep
  dsimp only
  split
  · exact directed_eraseIdx directed index _
  · have received := directed_memory directed
      { state.memory with heap := (receivePayload state.memory.heap task.buffer bytes).1 }
    exact directed_advance received held index _

theorem directed_clear {task : Task} (held : Held state.slots task) (index : Nat)
    (data : Option Nat) :
    Directed (advance (setBusy state task.slot false) index task (.ready data)) := by
  refine directed_advance (directed_setBusy directed task.slot false) ?_ index _
  intro socket found
  rw [socket_setBusy] at found
  exact held socket found

theorem directed_operate {task : Task} (held : Held state.slots task) (index : Nat)
    (data : Option Nat) : Directed (operateStep state index task data) := by
  have operated := directed_memory directed
    { state.memory with cache := (operate state.memory.cache task.buffer data).2.1 }
  exact directed_advance operated held index _

theorem directed_reply {task : Task} (held : Held state.slots task) (index : Nat)
    (bytes : Option Bytes) (stage : Stage) :
    Directed (advance (writeTo state task bytes) index task stage) := by
  refine directed_advance (directed_writeTo directed held bytes) ?_ index stage
  rw [slots_writeTo]
  exact held

theorem directed_task {index : Nat} {task : Task} (found : state.tasks[index]? = some task)
    {action : Action} {target : State} (stepped : taskStep state index task action = some target) :
    Directed target := by
  have held : task.owes = true -> Held state.slots task :=
    directed.held task (List.mem_of_getElem? found)
  unfold Task.owes at held
  unfold taskStep at stepped
  split at stepped
  · split at stepped
    · rename_i stage
      rw [stage] at held
      cases stepped
      exact directed_read directed (held rfl) index _
    · cases stepped
  · split at stepped
    · rename_i stage
      rw [stage] at held
      cases stepped
      exact directed_clear directed (held rfl) index _
    · cases stepped
  · split at stepped
    · rename_i stage
      rw [stage] at held
      cases stepped
      exact directed_operate directed (held rfl) index _
    · cases stepped
  · split at stepped
    · rename_i stage
      rw [stage] at held
      cases stepped
      exact directed_reply directed (held rfl) index _ _
    · cases stepped
  · split at stepped
    · rename_i stage
      rw [stage] at held
      cases stepped
      exact directed_reply directed (held rfl) index _ _
    · cases stepped
  · split at stepped
    · cases stepped
      exact directed_eraseIdx directed index _
    · cases stepped
  · cases stepped

end Steps

theorem directed_step {source target : State} {action : Action} (directed : Directed source)
    (settled : acceptsSettled source action = true) (stepped : step source action = some target) :
    Directed target := by
  unfold step at stepped
  split at stepped
  · cases stepped
  split at stepped
  · exact directed_loop directed settled stepped
  · split at stepped
    · cases stepped
    · exact directed_task directed ‹_› stepped

/-- In every run in which a connection is accepted only into a slot for which
no reply is left to write, every reply goes to the socket of its request. -/
theorem replies_to_requester {trace : List (State × Action)} {final : State}
    (run : TransitionSystem.Run system system.initial trace final)
    (settled : TransitionSystem.Guarded
      (fun state action => acceptsSettled state action = true) trace) :
    RepliesToRequester final := by
  have directed : Directed final := by
    apply run.guarded_invariant Directed _ _ settled
    · constructor
      · intro task member
        cases member
      · intro write member
        cases member
    · intro source action target directed guarded stepped
      exact directed_step directed guarded stepped
  exact directed.replies

def request : SessionMessage :=
  send (Frame.zeros bufSize) SessionType.get.code (ascii "/obj1") 0

/-- A session connects, its message is read and handed to a task, and the task
makes the connection available again. -/
def untilCleared : List Action :=
  [.accept, .poll 0 (.message request), .markBusy, .read 0 [], .clearBusy 0]

theorem replies_to_requester_first :
    Exists fun trace => Exists fun final => TransitionSystem.Run system system.initial trace final ∧
      final.writes.length = 1 ∧ RepliesToRequester final := by
  have found := TransitionSystem.exists_run system system.initial
    (untilCleared ++ [.operate 0, .writeHeader 0, .accept])
    (fun trace final => trace.all (fun entry => acceptsSettled entry.1 entry.2) &&
      decide (final.writes.length = 1)) (by decide +kernel)
  rcases found with ⟨trace, final, run, tested⟩
  simp only [Bool.and_eq_true, decide_eq_true_eq] at tested
  exact ⟨trace, final, run, tested.2,
    replies_to_requester run (TransitionSystem.guarded_of_all tested.1)⟩

/-- The first session disconnects and a second one is accepted into its slot
before the reply is written. -/
theorem reply_to_later_connection :
    ¬ forall (trace : List (State × Action)) (final : State),
      TransitionSystem.Run system system.initial trace final -> RepliesToRequester final := by
  intro always
  have found := TransitionSystem.exists_run system system.initial
    (untilCleared ++ [.poll 0 .ended, .accept, .operate 0, .writeHeader 0])
    (fun _ final => final.writes.any (fun write => decide (write.target = 1 ∧ write.origin = 0)))
    (by decide +kernel)
  rcases found with ⟨trace, final, run, tested⟩
  rcases List.any_eq_true.mp tested with ⟨write, member, ends⟩
  rcases of_decide_eq_true ends with ⟨target, origin⟩
  have same := always trace final run write member
  rw [target, origin] at same
  cases same

/-! ## An uninterrupted task -/

/-- What a task writes to the socket of its slot. -/
def delivered (socket : Option Nat) (origin : Nat) (bytes : Option Bytes) : List Write :=
  socket.toList.map (fun target => ⟨origin, target, bytes⟩)

theorem writeTo_eq (state : State) (task : Task) (bytes : Option Bytes) :
    writeTo state task bytes = { state with
      writes := state.writes ++ delivered (state.slots task.slot).socket task.origin bytes } := by
  unfold writeTo delivered
  cases (state.slots task.slot).socket with
  | none =>
      rw [Option.toList_none, List.map_nil, List.append_nil]
  | some target => rfl

/-- A task whose next step is enabled leads on. -/
theorem leads_task {state next final : State} {action : Action} {index : Nat} {task : Task}
    (running : state.crashed = false) (found : state.tasks[index]? = some task)
    (own : action.task = some index) (stepped : taskStep state index task action = some next)
    (later : TransitionSystem.Leads system next final) :
    TransitionSystem.Leads system state final := by
  have taken : system.step state action = some next := by
    simp only [system, step, running, own, found, stepped, Bool.false_eq_true, if_false]
  exact TransitionSystem.Leads.step taken later

theorem tasks_advance {state : State} {index : Nat} {task : Task}
    (found : state.tasks[index]? = some task) (stage : Stage) :
    (advance state index task stage).tasks[index]? = some { task with stage := stage } := by
  rcases List.getElem?_eq_some_iff.mp found with ⟨bound, _⟩
  exact List.getElem?_set_self bound

/-- What a task leaves behind when it has written a part of its reply. -/
structure Replied (state next : State) (index : Nat) (task : Task) (bytes : Option Bytes) :
    Prop where
  running : next.crashed = state.crashed
  found : next.tasks[index]? = some task
  others : next.tasks.eraseIdx index = state.tasks.eraseIdx index
  memory : next.memory = state.memory
  slots : next.slots = state.slots
  marking : next.marking = state.marking
  writes : next.writes = state.writes ++
    delivered (state.slots task.slot).socket task.origin bytes

theorem replied_advance {state : State} {index : Nat} {task : Task}
    (found : state.tasks[index]? = some task) (bytes : Option Bytes) (stage : Stage) :
    Replied state (advance (writeTo state task bytes) index task stage) index
      { task with stage := stage } bytes := by
  rw [writeTo_eq]
  exact ⟨rfl, tasks_advance found stage, List.eraseIdx_set_eq, rfl, rfl, rfl, rfl⟩

/-- A task has ended with the given memory, and with the given writes. -/
structure Ended (state final : State) (index : Nat) (memory : Memory) (writes : List Write) :
    Prop where
  leads : TransitionSystem.Leads system state final
  running : final.crashed = state.crashed
  others : final.tasks = state.tasks.eraseIdx index
  memory : final.memory = memory
  slots : final.slots = state.slots
  marking : final.marking = state.marking
  writes : final.writes = state.writes ++ writes

theorem Ended.reply {state next final : State} {index : Nat} {task : Task} {memory : Memory}
    {bytes : Option Bytes} {writes : List Write} (ended : Ended next final index memory writes)
    (replied : Replied state next index task bytes)
    (leads : TransitionSystem.Leads system state final) :
    Ended state final index memory
      (delivered (state.slots task.slot).socket task.origin bytes ++ writes) where
  leads := leads
  running := ended.running.trans replied.running
  others := ended.others.trans replied.others
  memory := ended.memory
  slots := ended.slots.trans replied.slots
  marking := ended.marking.trans replied.marking
  writes := by rw [ended.writes, replied.writes, List.append_assoc]

section Uninterrupted

variable {state : State} {index : Nat} {task : Task} (running : state.crashed = false)
  (found : state.tasks[index]? = some task)

include running found

theorem leads_written {data : Option Nat} (stage : task.stage = .written data) :
    Exists fun final =>
      Ended state final index ⟨state.memory.heap.release data, state.memory.cache⟩ [] := by
  have released : taskStep state index task (.release index) = some { state with
      memory := { state.memory with heap := state.memory.heap.release data }
      tasks := state.tasks.eraseIdx index } := by
    simp only [taskStep, stage]
  exact ⟨_, leads_task running found rfl released (.refl _), rfl, rfl, rfl, rfl, rfl,
    (List.append_nil _).symm⟩

theorem leads_answered {data : Option Nat} {size : Int} {accessor : Option Object}
    (stage : task.stage = .answered data size accessor) :
    Exists fun final => Ended state final index
      ⟨state.memory.heap.release data, state.memory.cache⟩
      (delivered (state.slots task.slot).socket task.origin
        (replyBody state.memory.heap accessor size)) := by
  have stepped : taskStep state index task (.writePayload index) =
      some (advance (writeTo state task (replyBody state.memory.heap accessor size)) index task
        (.written data)) := by
    simp only [taskStep, stage]
  have replied := replied_advance found (replyBody state.memory.heap accessor size) (.written data)
  rcases leads_written (replied.running.trans running) replied.found rfl with ⟨final, ended⟩
  have whole := ended.reply replied (leads_task running found rfl stepped ended.leads)
  rw [replied.memory, List.append_nil] at whole
  exact ⟨final, whole⟩

theorem leads_operated {data : Option Nat} {size : Int} {accessor : Option Object}
    (stage : task.stage = .operated data size accessor) :
    Exists fun final => Ended state final index
      ⟨state.memory.heap.release data, state.memory.cache⟩
      (delivered (state.slots task.slot).socket task.origin
          (some (replyHeader task.buffer size).data) ++
        (if 0 < size then delivered (state.slots task.slot).socket task.origin
          (replyBody state.memory.heap accessor size) else [])) := by
  have stepped : taskStep state index task (.writeHeader index) =
      some (advance (writeTo state task (some (replyHeader task.buffer size).data)) index task
        (if 0 < size then .answered data size accessor else .written data)) := by
    simp only [taskStep, stage, headerStep]
  have replied := replied_advance found (some (replyHeader task.buffer size).data)
    (if 0 < size then .answered data size accessor else .written data)
  by_cases positive : 0 < size
  · rw [if_pos positive] at stepped replied ⊢
    rcases leads_answered (replied.running.trans running) replied.found rfl with ⟨final, ended⟩
    have whole := ended.reply replied (leads_task running found rfl stepped ended.leads)
    rw [replied.memory, replied.slots] at whole
    exact ⟨final, whole⟩
  · rw [if_neg positive] at stepped replied ⊢
    rcases leads_written (replied.running.trans running) replied.found rfl with ⟨final, ended⟩
    have whole := ended.reply replied (leads_task running found rfl stepped ended.leads)
    rw [replied.memory] at whole
    exact ⟨final, whole⟩

/-- A task that is not interrupted computes `handle_session_message`, writes
its reply to the socket of its slot and leaves the slot ready. -/
theorem task_uninterrupted (queued : task.stage = .queued) {bytes : Bytes}
    (whole : task.buffer.payload ≤ bytes.length) :
    Exists fun final => Exists fun reply =>
      handleSessionMessage state.memory task.buffer bytes = (final.memory, some reply) ∧
      TransitionSystem.Leads system state final ∧ final.crashed = false ∧
      final.tasks = state.tasks.eraseIdx index ∧ final.marking = state.marking ∧
      final.slots = (setBusy state task.slot false).slots ∧
      final.writes = state.writes ++
        (delivered (state.slots task.slot).socket task.origin (some reply.header.data) ++
        (if 0 < reply.header.payload then
          delivered (state.slots task.slot).socket task.origin reply.body else [])) := by
  have enough : ¬ (0 < task.buffer.payload ∧ (bytes.length : Int) < task.buffer.payload) := by
    omega
  let read := receivePayload state.memory.heap task.buffer bytes
  let received : State := { state with memory := { state.memory with heap := read.1 } }
  let first := advance received index task (.received read.2)
  have atFirst : first.tasks[index]? = some { task with stage := .received read.2 } :=
    tasks_advance found _
  have stepRead : taskStep state index task (.read index bytes) = some first := by
    simp only [taskStep, queued, readStep, enough, if_false]
    rfl
  let second := advance (setBusy first task.slot false) index
    { task with stage := .received read.2 } (.ready read.2)
  have atSecond : second.tasks[index]? = some { task with stage := .ready read.2 } :=
    tasks_advance atFirst _
  have stepClear : taskStep first index { task with stage := .received read.2 } (.clearBusy index) =
      some second := rfl
  let done := operate state.memory.cache task.buffer read.2
  let size := retPayload done.1 done.2.2
  let third := operateStep second index { task with stage := .ready read.2 } read.2
  have atThird : third.tasks[index]? = some { task with stage := .operated read.2 size done.2.2 } :=
    tasks_advance atSecond _
  have stepOperate : taskStep second index { task with stage := .ready read.2 } (.operate index) =
      some third := rfl
  have socket : (third.slots task.slot).socket = (state.slots task.slot).socket :=
    socket_setBusy first task.slot false task.slot
  have others : third.tasks.eraseIdx index = state.tasks.eraseIdx index := by
    have one : first.tasks.eraseIdx index = state.tasks.eraseIdx index := List.eraseIdx_set_eq
    have two : second.tasks.eraseIdx index = first.tasks.eraseIdx index := List.eraseIdx_set_eq
    have three : third.tasks.eraseIdx index = second.tasks.eraseIdx index := List.eraseIdx_set_eq
    exact three.trans (two.trans one)
  have alive : third.crashed = false := running
  rcases leads_operated alive atThird rfl with ⟨final, ended⟩
  have leads : TransitionSystem.Leads system state final :=
    leads_task running found rfl stepRead (leads_task running atFirst rfl stepClear
      (leads_task running atSecond rfl stepOperate ended.leads))
  refine ⟨final, ⟨replyHeader task.buffer size, replyBody read.1 done.2.2 size⟩, ?_, leads,
    ended.running.trans running, ended.others.trans others, ended.marking, ended.slots, ?_⟩
  · rw [ended.memory]
    simp only [handleSessionMessage, enough, if_false]
    rfl
  · rw [ended.writes, socket]
    have sized : (replyHeader task.buffer size).payload = size :=
      payload_send _ _ _ (retPayload_signed _ _)
    dsimp only
    rw [sized]
    rfl

end Uninterrupted

end Server
end LocalMemory
end Praas
