import Mathlib.Data.List.Nodup
import Praas.ControlPlane.ProcessMessages
import Praas.Library.Connection
import Praas.Library.TransitionSystem

namespace Praas
namespace EventLoop

open Library
open ControlPlane
open Wire
open ProcessMessages (handleMessage disconnect)

/-!
# The event loop and the thread pool

`Server::start` waits for events on the listening socket and on the
connections of the process workers.  For a new connection it gives
`Worker::worker` to the thread pool.  When a worker has sent something, it
reads one packet itself and gives `Worker::handle_message` to the pool, with
the packet by value.  The registration of a worker is for one event only; the
last statement of `handle_message` arms it again.

The threads of the pool take the tasks in the order in which they were given
and run them at the same time.  Every statement of `handle_message` that other
threads can see is a step of its own here, and the rest of the control plane
may change the tables at any time.  Only `Workers::get`, with which a thread
finds its own `Worker` in a static map without a lock, is taken to happen in
one step.
-/

def maxEpollEvents : Nat := 32

/-- The registered connection of a process worker: all that arrives on it, and
what of it has not been read. -/
structure Connection where
  process : Process
  stream : List Arrival
  incoming : List Arrival
  armed : Bool

inductive Event
  | accept
  | message (processId : Bytes)
  deriving DecidableEq

inductive Task
  | worker
  | handleMessage (process : Process) (msg : Header) (recvData : Int)

/-- How far a thread of the pool is with its task: the next statement that other
threads can see.  The four statements between the first and `rearm` are those of
`handle_session_closure`. -/
inductive Stage
  | entered
  | removeSession (sessionId : Bytes)
  | unmarkOwn (sessionId : Bytes)
  | addSwapped (sessionId : Bytes)
  | unmark (sessionId : Bytes)
  | rearm
  | finished (modEpoll : Bool)
  deriving DecidableEq

structure Job where
  task : Task
  stage : Stage

/-- The state of the server.  `batch` holds the events of the last
`epoll_wait` that the loop has not come to, and `jobs` every task taken so far.
An exception that leaves a task ends the program. -/
structure State where
  plane : Plane
  connections : Bytes -> Option Connection
  batch : List Event
  queue : List Task
  jobs : List Job
  terminated : Bool

def State.initial (plane : Plane) : State := ⟨plane, fun _ => none, [], [], [], false⟩

/-- The actions: `add_epoll` for a worker that has connected, a return of
`epoll_wait`, the next event of the batch, a thread that takes a task or
executes its next statement, and a change made by another thread. -/
inductive Action
  | register (process : Process) (stream : List Arrival)
  | wait (events : List Event)
  | dispatch (uninitialized : Header) (accepted : Bool)
  | take
  | advance (index : Nat) (modEpoll : Bool)
  | change (plane : Plane)

/-! ## The loop -/

/-- The task is a message of the process worker. -/
def Task.isFrom (processId : Bytes) : Task -> Bool
  | .worker => false
  | .handleMessage process _ _ => decide (process.processId = processId)

/-- The thread is not done with its task. -/
def Job.active (job : Job) : Bool :=
  match job.stage with
  | .finished _ => false
  | _ => true

namespace State

def arm (state : State) (processId : Bytes) (armed : Bool) : State :=
  { state with
    connections := Function.update state.connections processId
      ((state.connections processId).map (fun connection => { connection with armed := armed })) }

def armed (state : State) (processId : Bytes) : Bool :=
  (state.connections processId).any Connection.armed

/-- `epoll_wait` can report these events together: at most as many as the array
holds, none of them twice, and only for connections that are armed. -/
def reportable (state : State) (events : List Event) : Bool :=
  decide (events.length ≤ maxEpollEvents ∧ events.Nodup) &&
    events.all (fun event =>
      match event with
      | .accept => true
      | .message processId => state.armed processId)

/-- A registration for one event does not wait for another. -/
def disarm (state : State) : List Event -> State
  | [] => state
  | .accept :: rest => state.disarm rest
  | .message processId :: rest => (state.arm processId false).disarm rest

end State

/-- The task for a packet that the loop reads from a connection.  The packet is
copied into the task with whatever the local variable held before, where the
read was short. -/
def reading (process : Process) (uninitialized : Header) (incoming : List Arrival) : Task :=
  .handleMessage process
    (uninitialized.store 0 (readN headerLength incoming).bytes (readN_fits headerLength incoming))
    (readN headerLength incoming).count

/-- The body of the loop over the reported events.  The listening socket leads
to a task for `Worker::worker`, and the connection of a worker to one packet
that is read here, by the loop itself. -/
def dispatchStep (state : State) (uninitialized : Header) (accepted : Bool) : Option State :=
  match state.batch with
  | [] => none
  | .accept :: rest =>
      some { state with
        batch := rest
        queue := if accepted then state.queue ++ [.worker] else state.queue }
  | .message processId :: rest =>
      match state.connections processId with
      | none => none
      | some connection =>
          some { state with
            batch := rest
            connections := Function.update state.connections processId
              (some { connection with incoming := (readN headerLength connection.incoming).rest })
            queue := state.queue ++
              [reading connection.process uninitialized connection.incoming] }

/-! ## The threads of the pool -/

/-- Where `handle_message` goes for a packet; an exception is thrown for the
end and for the failure of a connection. -/
def enter (msg : Header) (recvData : Int) : Stage :=
  if recvData = 0 ∨ recvData = -1 then .finished true
  else match Header.parse msg with
    | none => .finished true
    | some (.sessionStatus data) =>
        if Header.sessionStatus data = -1 then .removeSession (Header.statusSessionId data)
        else .rearm
    | some _ => .rearm

/-- The next statement of `handle_message`.  The exception for the end or
failure of a connection, and the one after a failed `mod_epoll`, leave the
thread and end the program. -/
def messageStep (state : State) (process : Process) (msg : Header) (recvData : Int)
    (modEpoll : Bool) : Stage -> Option (Stage × State)
  | .entered => some (enter msg recvData,
      { state with terminated := decide (recvData = 0 ∨ recvData = -1) })
  | .removeSession sessionId => some (.unmarkOwn sessionId, { state with
      plane := { state.plane with
        resources := state.plane.resources.removeSession process.processId sessionId } })
  | .unmarkOwn sessionId => some (.addSwapped sessionId, { state with
      plane := { state.plane with
        redis := (state.plane.redis.srem (.sessionsAlive process.processId) sessionId).2 } })
  | .addSwapped sessionId => some (.unmark sessionId, { state with
      plane := { state.plane with
        redis := state.plane.redis.sadd (.sessionsSwapped process.globalProcessId) sessionId } })
  | .unmark sessionId => some (.rearm, { state with
      plane := { state.plane with
        redis := (state.plane.redis.srem (.sessionsAlive process.globalProcessId) sessionId).2 } })
  | .rearm =>
      if modEpoll then some (.finished true, state.arm process.processId true)
      else some (.finished false, { state with
        plane := disconnect state.plane process.processId
        terminated := true })
  | .finished _ => none

/-- The next statement of a thread.  `Worker::worker` is one step: what it does
to the tables is a change made by another thread, and it leads to the
registration of a connection. -/
def jobStep (state : State) (job : Job) (modEpoll : Bool) : Option (Stage × State) :=
  match job.task with
  | .worker => if job.active then some (.finished true, state) else none
  | .handleMessage process msg recvData =>
      messageStep state process msg recvData modEpoll job.stage

/-- The step function of a server with the given number of threads.  A task is
taken only while one of them is free, and nothing happens any more after the
end of the program. -/
def step (threads : Nat) (state : State) (action : Action) : Option State :=
  if state.terminated then none
  else match action with
    | .register process stream =>
        if (state.connections process.processId).isSome then none
        else some { state with
          connections := Function.update state.connections process.processId
            (some ⟨process, stream, stream, true⟩) }
    | .wait events =>
        if state.batch = [] ∧ state.reportable events = true then
          some { state.disarm events with batch := events }
        else none
    | .dispatch uninitialized accepted => dispatchStep state uninitialized accepted
    | .take =>
        match state.queue with
        | [] => none
        | task :: rest =>
            if state.jobs.countP Job.active < threads then
              some { state with queue := rest, jobs := state.jobs ++ [⟨task, .entered⟩] }
            else none
    | .advance index modEpoll =>
        match state.jobs[index]? with
        | none => none
        | some job =>
            match jobStep state job modEpoll with
            | none => none
            | some (stage, next) => some { next with
                jobs := state.jobs.set index { job with stage := stage } }
    | .change plane => some { state with plane := plane }

def system (threads : Nat) (plane : Plane) : TransitionSystem State Action where
  initial := State.initial plane
  step := step threads

/-! ## What a step does to the connections -/

theorem connections_arm (state : State) (processId : Bytes) (armed : Bool) (id : Bytes) :
    (state.arm processId armed).connections id =
      if id = processId then
        (state.connections id).map (fun connection => { connection with armed := armed })
      else state.connections id := by
  unfold State.arm
  dsimp only
  rw [Function.update_apply]
  by_cases same : id = processId
  · rw [if_pos same, if_pos same, same]
  · rw [if_neg same, if_neg same]

theorem isSome_arm (state : State) (processId : Bytes) (armed : Bool) (id : Bytes) :
    ((state.arm processId armed).connections id).isSome = (state.connections id).isSome := by
  rw [connections_arm]
  split
  · rw [Option.isSome_map]
  · rfl

theorem armed_arm_of_ne (state : State) {processId id : Bytes} (armed : Bool)
    (different : id ≠ processId) : (state.arm processId armed).armed id = state.armed id := by
  unfold State.armed
  rw [connections_arm, if_neg different]

theorem armed_disarmed (state : State) (processId : Bytes) :
    (state.arm processId false).armed processId = false := by
  unfold State.armed
  rw [connections_arm, if_pos rfl]
  cases state.connections processId <;> rfl

/-- An update of a registration leaves what has arrived and what was read. -/
theorem connection_of_arm {state : State} {processId : Bytes} {armed : Bool} {id : Bytes}
    {connection : Connection}
    (present : (state.arm processId armed).connections id = some connection) :
    Exists fun old => state.connections id = some old ∧ connection.process = old.process ∧
      connection.stream = old.stream ∧ connection.incoming = old.incoming := by
  rw [connections_arm] at present
  split at present
  · rcases Option.map_eq_some_iff.mp present with ⟨old, found, rfl⟩
    exact ⟨old, found, rfl, rfl, rfl⟩
  · exact ⟨connection, present, rfl, rfl, rfl⟩

/-- The states that differ from another one in the registrations only. -/
structure Rearmed (source target : State) : Prop where
  plane : target.plane = source.plane
  batch : target.batch = source.batch
  queue : target.queue = source.queue
  jobs : target.jobs = source.jobs
  isSome : forall id, (target.connections id).isSome = (source.connections id).isSome
  connection : forall id connection, target.connections id = some connection ->
    Exists fun old => source.connections id = some old ∧ connection.process = old.process ∧
      connection.stream = old.stream ∧ connection.incoming = old.incoming

theorem Rearmed.refl (state : State) : Rearmed state state :=
  ⟨rfl, rfl, rfl, rfl, fun _ => rfl,
    fun _ connection present => ⟨connection, present, rfl, rfl, rfl⟩⟩

theorem Rearmed.trans {first second third : State} (earlier : Rearmed first second)
    (later : Rearmed second third) : Rearmed first third where
  plane := later.plane.trans earlier.plane
  batch := later.batch.trans earlier.batch
  queue := later.queue.trans earlier.queue
  jobs := later.jobs.trans earlier.jobs
  isSome id := (later.isSome id).trans (earlier.isSome id)
  connection id connection present := by
    rcases later.connection id connection present with ⟨middle, found, process, stream, incoming⟩
    rcases earlier.connection id middle found with ⟨old, first, process', stream', incoming'⟩
    exact ⟨old, first, process.trans process', stream.trans stream', incoming.trans incoming'⟩

theorem rearmed_arm (state : State) (processId : Bytes) (armed : Bool) :
    Rearmed state (state.arm processId armed) :=
  ⟨rfl, rfl, rfl, rfl, isSome_arm state processId armed,
    fun _ _ present => connection_of_arm present⟩

theorem rearmed_disarm (state : State) (events : List Event) :
    Rearmed state (state.disarm events) := by
  induction events generalizing state with
  | nil => exact Rearmed.refl state
  | cons event rest inductionHypothesis =>
      cases event with
      | accept => exact inductionHypothesis state
      | message processId =>
          exact (rearmed_arm state processId false).trans (inductionHypothesis _)

/-- The connections without an event in the batch stay as they are, and the
others no longer wait for one. -/
theorem armed_disarm (state : State) (events : List Event) (id : Bytes) :
    (state.disarm events).armed id = (state.armed id && !decide (.message id ∈ events)) := by
  induction events generalizing state with
  | nil => exact (Bool.and_true _).symm
  | cons event rest inductionHypothesis =>
      cases event with
      | accept =>
          change (state.disarm rest).armed id = _
          rw [inductionHypothesis]
          simp only [List.mem_cons, reduceCtorEq, false_or]
      | message processId =>
          change ((state.arm processId false).disarm rest).armed id = _
          rw [inductionHypothesis]
          by_cases same : id = processId
          · rw [same, armed_disarmed]
            simp only [Bool.false_and, List.mem_cons, true_or, decide_true, Bool.not_true,
              Bool.and_false]
          · rw [armed_arm_of_ne state false same]
            simp only [List.mem_cons, Event.message.injEq, same, false_or]

/-- What the statement of a thread does besides its effect on the tables: the
last one of `handle_message` arms the connection again. -/
theorem jobStep_cases {state next : State} {job : Job} {modEpoll : Bool} {stage : Stage}
    (stepped : jobStep state job modEpoll = some (stage, next)) :
    job.active = true ∧ next.batch = state.batch ∧ next.queue = state.queue ∧
      next.jobs = state.jobs ∧ (next.connections = state.connections ∨
        Exists fun id => job.task.isFrom id = true ∧ stage = .finished true ∧
          next.connections = (state.arm id true).connections) := by
  rcases job with ⟨task, current⟩
  cases task with
  | worker =>
      unfold jobStep at stepped
      dsimp only at stepped
      split at stepped
      · rename_i active
        cases stepped
        exact ⟨active, rfl, rfl, rfl, Or.inl rfl⟩
      · cases stepped
  | handleMessage process msg recvData =>
      change messageStep state process msg recvData modEpoll current = _ at stepped
      cases current with
      | rearm =>
          unfold messageStep at stepped
          dsimp only at stepped
          split at stepped
          · cases stepped
            exact ⟨rfl, rfl, rfl, rfl, Or.inr ⟨process.processId, decide_eq_true rfl, rfl, rfl⟩⟩
          · cases stepped
            exact ⟨rfl, rfl, rfl, rfl, Or.inl rfl⟩
      | finished outcome => cases stepped
      | entered => cases stepped; exact ⟨rfl, rfl, rfl, rfl, Or.inl rfl⟩
      | removeSession sessionId => cases stepped; exact ⟨rfl, rfl, rfl, rfl, Or.inl rfl⟩
      | unmarkOwn sessionId => cases stepped; exact ⟨rfl, rfl, rfl, rfl, Or.inl rfl⟩
      | addSwapped sessionId => cases stepped; exact ⟨rfl, rfl, rfl, rfl, Or.inl rfl⟩
      | unmark sessionId => cases stepped; exact ⟨rfl, rfl, rfl, rfl, Or.inl rfl⟩

/-- What a step can do. -/
inductive Transition (threads : Nat) (source : State) : Action -> State -> Prop
  | register (process : Process) (stream : List Arrival)
      (absent : source.connections process.processId = none) :
      Transition threads source (.register process stream) { source with
        connections := Function.update source.connections process.processId
          (some ⟨process, stream, stream, true⟩) }
  | wait (events : List Event) (taken : source.batch = [])
      (reported : source.reportable events = true) :
      Transition threads source (.wait events) { source.disarm events with batch := events }
  | accept (uninitialized : Header) (accepted : Bool) {rest : List Event}
      (batch : source.batch = .accept :: rest) :
      Transition threads source (.dispatch uninitialized accepted) { source with
        batch := rest
        queue := if accepted then source.queue ++ [.worker] else source.queue }
  | read (uninitialized : Header) (accepted : Bool) {processId : Bytes} {rest : List Event}
      (batch : source.batch = .message processId :: rest) {connection : Connection}
      (present : source.connections processId = some connection) :
      Transition threads source (.dispatch uninitialized accepted) { source with
        batch := rest
        connections := Function.update source.connections processId
          (some { connection with incoming := (readN headerLength connection.incoming).rest })
        queue := source.queue ++ [reading connection.process uninitialized connection.incoming] }
  | take {task : Task} {rest : List Task} (queue : source.queue = task :: rest)
      (free : source.jobs.countP Job.active < threads) :
      Transition threads source .take { source with
        queue := rest, jobs := source.jobs ++ [⟨task, .entered⟩] }
  | advance {index : Nat} (modEpoll : Bool) {job : Job} (present : source.jobs[index]? = some job)
      {stage : Stage} {next : State}
      (executed : jobStep source job modEpoll = some (stage, next)) :
      Transition threads source (.advance index modEpoll) { next with
        jobs := source.jobs.set index { job with stage := stage } }
  | change (plane : Plane) :
      Transition threads source (.change plane) { source with plane := plane }

theorem transition_of_step {threads : Nat} {source target : State} {action : Action}
    (stepped : step threads source action = some target) :
    Transition threads source action target := by
  unfold step at stepped
  split at stepped
  · cases stepped
  cases action with
  | register process stream =>
      dsimp only at stepped
      split at stepped
      · cases stepped
      · rename_i absent
        cases stepped
        exact .register process stream (Option.not_isSome_iff_eq_none.mp absent)
  | wait events =>
      dsimp only at stepped
      split at stepped
      · rename_i allowed
        cases stepped
        exact .wait events allowed.1 allowed.2
      · cases stepped
  | dispatch uninitialized accepted =>
      dsimp only at stepped
      unfold dispatchStep at stepped
      cases batch : source.batch with
      | nil => simp only [batch, reduceCtorEq] at stepped
      | cons event rest =>
          cases event with
          | accept =>
              simp only [batch] at stepped
              cases stepped
              exact .accept uninitialized accepted batch
          | message processId =>
              simp only [batch] at stepped
              cases present : source.connections processId with
              | none => simp only [present, reduceCtorEq] at stepped
              | some connection =>
                  simp only [present] at stepped
                  cases stepped
                  exact .read uninitialized accepted batch present
  | take =>
      dsimp only at stepped
      cases queue : source.queue with
      | nil => simp only [queue, reduceCtorEq] at stepped
      | cons task rest =>
          simp only [queue] at stepped
          split at stepped
          · rename_i free
            cases stepped
            exact .take queue free
          · cases stepped
  | advance index modEpoll =>
      dsimp only at stepped
      cases present : source.jobs[index]? with
      | none => simp only [present, reduceCtorEq] at stepped
      | some job =>
          simp only [present] at stepped
          cases executed : jobStep source job modEpoll with
          | none => simp only [executed, reduceCtorEq] at stepped
          | some result =>
              simp only [executed] at stepped
              cases stepped
              exact .advance modEpoll present executed
  | change plane =>
      cases stepped
      exact .change plane

/-! ## One message of a worker at a time -/

/-- The thread works on a message of the process worker. -/
def Job.attends (processId : Bytes) (job : Job) : Bool :=
  job.active && job.task.isFrom processId

/-- How often a worker has the attention of the server: its connection waits
for an event, an event of it was reported, a packet of it waits for a thread,
or a thread works on one. -/
def State.attention (state : State) (processId : Bytes) : Nat :=
  (state.armed processId).toNat + state.batch.count (.message processId) +
    state.queue.countP (Task.isFrom processId) + state.jobs.countP (Job.attends processId)

/-- The tasks for the messages of a worker, in the order in which the pool got
them. -/
def State.tasksOf (state : State) (processId : Bytes) : List Task :=
  (state.jobs.map Job.task ++ state.queue).filter (Task.isFrom processId)

/-- A registered worker has the attention of the server at most once, and
another one not at all. -/
structure Attended (state : State) : Prop where
  named : forall id connection, state.connections id = some connection ->
    connection.process.processId = id
  once : forall id, state.attention id ≤ (state.connections id).isSome.toNat

theorem named_rearmed {source target : State} (rearmed : Rearmed source target)
    (named : forall id connection, source.connections id = some connection ->
      connection.process.processId = id) (id : Bytes) (connection : Connection)
    (present : target.connections id = some connection) : connection.process.processId = id := by
  rcases rearmed.connection id connection present with ⟨old, found, process, _, _⟩
  rw [process]
  exact named id old found

theorem attended_register {state : State} (attended : Attended state) {process : Process}
    (stream : List Arrival) (absent : state.connections process.processId = none) :
    Attended { state with
      connections := Function.update state.connections process.processId
        (some ⟨process, stream, stream, true⟩) } where
  named id connection present := by
    dsimp only at present
    rw [Function.update_apply] at present
    split at present
    · rename_i here
      cases present
      exact here.symm
    · exact attended.named id connection present
  once id := by
    have before := attended.once id
    unfold State.attention State.armed at before ⊢
    dsimp only
    rw [Function.update_apply]
    by_cases here : id = process.processId
    · rw [here, absent] at before
      rw [if_pos here, here]
      simp only [Option.any_none, Option.isSome_none, Bool.toNat_false] at before
      simp only [Option.any_some, Option.isSome_some, Bool.toNat_true]
      omega
    · rw [if_neg here]
      exact before

/-- `epoll_wait` reports a connection and disarms it. -/
theorem attended_wait {state : State} (attended : Attended state) {events : List Event}
    (taken : state.batch = []) (reported : state.reportable events = true) :
    Attended { state.disarm events with batch := events } where
  named id connection present :=
    named_rearmed (rearmed_disarm state events) attended.named id connection present
  once id := by
    have rearmed := rearmed_disarm state events
    have before := attended.once id
    change ((state.disarm events).armed id).toNat + events.count (.message id) +
      (state.disarm events).queue.countP (Task.isFrom id) +
        (state.disarm events).jobs.countP (Job.attends id) ≤
          ((state.disarm events).connections id).isSome.toNat
    rw [rearmed.isSome, rearmed.queue, rearmed.jobs, armed_disarm]
    unfold State.attention at before
    rw [taken, List.count_nil] at before
    unfold State.reportable at reported
    rw [Bool.and_eq_true, decide_eq_true_eq, List.all_eq_true] at reported
    rcases reported with ⟨⟨_, distinct⟩, all⟩
    by_cases member : Event.message id ∈ events
    · have waits : state.armed id = true := all _ member
      have single : events.count (.message id) = 1 := List.count_eq_one_of_mem distinct member
      rw [waits, Bool.toNat_true] at before
      rw [single, waits]
      simp only [member, decide_true, Bool.not_true, Bool.and_false, Bool.toNat_false]
      omega
    · rw [List.count_eq_zero_of_not_mem member]
      simp only [member, decide_false, Bool.not_false, Bool.and_true]
      exact before

theorem isFrom_reading (process : Process) (uninitialized : Header) (incoming : List Arrival)
    (id : Bytes) :
    (reading process uninitialized incoming).isFrom id = decide (process.processId = id) := rfl

/-- The loop reads the packet of a reported connection. -/
theorem attended_read {state : State} (attended : Attended state) {processId : Bytes}
    {rest : List Event} (batch : state.batch = .message processId :: rest)
    {connection : Connection} (present : state.connections processId = some connection)
    (uninitialized : Header) :
    Attended { state with
      batch := rest
      connections := Function.update state.connections processId
        (some { connection with incoming := (readN headerLength connection.incoming).rest })
      queue := state.queue ++ [reading connection.process uninitialized connection.incoming] } where
  named id other found := by
    dsimp only at found
    rw [Function.update_apply] at found
    split at found
    · rename_i here
      cases found
      rw [here]
      exact attended.named processId connection present
    · exact attended.named id other found
  once id := by
    have before := attended.once id
    have identified := attended.named processId connection present
    unfold State.attention State.armed at before ⊢
    dsimp only
    rw [batch] at before
    rw [Function.update_apply, List.countP_append, List.countP_singleton, isFrom_reading,
      identified]
    by_cases here : id = processId
    · rw [here, present, List.count_cons_self] at before
      rw [if_pos here, here]
      simp only [Option.any_some, Option.isSome_some, if_true, decide_true] at before ⊢
      omega
    · have elsewhere : (Event.message processId == Event.message id) = false := by
        simp only [beq_eq_false_iff_ne, ne_eq, Event.message.injEq]
        exact Ne.symm here
      rw [List.count_cons, elsewhere] at before
      rw [if_neg here]
      simp only [Bool.false_eq_true, if_false, Nat.add_zero, Ne.symm here, decide_false] at before ⊢
      exact before

/-- The loop accepts a connection, or fails to. -/
theorem attended_accept {state : State} (attended : Attended state) {rest : List Event}
    (batch : state.batch = .accept :: rest) (accepted : Bool) :
    Attended { state with
      batch := rest
      queue := if accepted then state.queue ++ [.worker] else state.queue } where
  named := attended.named
  once id := by
    have before := attended.once id
    unfold State.attention State.armed at before ⊢
    dsimp only
    rw [batch, List.count_cons_of_ne (by simp)] at before
    cases accepted with
    | false => exact before
    | true =>
        rw [if_pos rfl, List.countP_append]
        exact before

theorem attended_take {state : State} (attended : Attended state) {task : Task} {rest : List Task}
    (queue : state.queue = task :: rest) :
    Attended { state with queue := rest, jobs := state.jobs ++ [⟨task, .entered⟩] } where
  named := attended.named
  once id := by
    have before := attended.once id
    unfold State.attention State.armed at before ⊢
    dsimp only
    rw [queue, List.countP_cons] at before
    have counted : [(⟨task, .entered⟩ : Job)].countP (Job.attends id) =
        if task.isFrom id then 1 else 0 := by
      rw [List.countP_singleton]
      rfl
    rw [List.countP_append, counted]
    omega

/-- A thread executes a statement: it works on its task, or has armed the
connection again, or is done. -/
theorem attended_advance {state next : State} (attended : Attended state) {index : Nat} {job : Job}
    (present : state.jobs[index]? = some job) {modEpoll : Bool} {stage : Stage}
    (stepped : jobStep state job modEpoll = some (stage, next)) :
    Attended { next with jobs := state.jobs.set index { job with stage := stage } } := by
  rcases jobStep_cases stepped with ⟨active, batch, queue, _, connections⟩
  rcases split_of_getElem present with ⟨before, after, whole, _, replaced⟩
  have working (id : Bytes) : job.attends id = job.task.isFrom id := by
    unfold Job.attends
    rw [active, Bool.true_and]
  have later (id : Bytes) : Job.attends id { job with stage := stage } = true ->
      job.attends id = true := by
    intro attends
    rw [working]
    exact (Bool.and_eq_true _ _ |>.mp attends).2
  have jobs (id : Bytes) :
      (state.jobs.set index { job with stage := stage }).countP (Job.attends id) +
        (if job.attends id then 1 else 0) =
        state.jobs.countP (Job.attends id) +
          (if Job.attends id { job with stage := stage } then 1 else 0) := by
    rw [replaced, whole]
    simp only [List.countP_append, List.countP_cons]
    omega
  rcases connections with same | ⟨processId, ours, done, same⟩
  · constructor
    · intro id connection found
      dsimp only at found
      rw [same] at found
      exact attended.named id connection found
    · intro id
      have bound := attended.once id
      have changed := jobs id
      have weaker := later id
      unfold State.attention State.armed at bound ⊢
      dsimp only
      rw [same, batch, queue]
      cases now : Job.attends id { job with stage := stage } with
      | false =>
          simp only [now, Bool.false_eq_true, if_false, Nat.add_zero] at changed
          omega
      | true =>
          simp only [now, weaker now, if_true] at changed
          omega
  · have rearmed := rearmed_arm state processId true
    constructor
    · intro id connection found
      dsimp only at found
      rw [same] at found
      exact named_rearmed rearmed attended.named id connection found
    · intro id
      have bound := attended.once id
      have changed := jobs id
      have finished : Job.attends id { job with stage := stage } = false := by
        rw [done]
        rfl
      simp only [finished, Bool.false_eq_true, if_false, Nat.add_zero] at changed
      unfold State.attention at bound ⊢
      change (Option.any Connection.armed (next.connections id)).toNat +
        next.batch.count (.message id) + next.queue.countP (Task.isFrom id) +
          (state.jobs.set index { job with stage := stage }).countP (Job.attends id) ≤
            (next.connections id).isSome.toNat
      rw [same, batch, queue, rearmed.isSome]
      change ((state.arm processId true).armed id).toNat + _ + _ + _ ≤ _
      by_cases here : id = processId
      · have counted : job.attends id = true := by
          rw [working, here]
          exact ours
        rw [counted, if_pos rfl] at changed
        have waits := Bool.toNat_le ((state.arm processId true).armed id)
        omega
      · rw [armed_arm_of_ne state true here]
        omega

/-! ## The order of the messages -/

/-- The tasks that come from reading a connection, packet after packet, and
what is left to read. -/
inductive Drains (process : Process) (stream : List Arrival) : List Task -> List Arrival -> Prop
  | start : Drains process stream [] stream
  | read {tasks : List Task} {incoming : List Arrival} (uninitialized : Header) :
      Drains process stream tasks incoming ->
      Drains process stream (tasks ++ [reading process uninitialized incoming])
        (readN headerLength incoming).rest

/-- The pool has the packets of every connection as they were read, and it has
no packets of other workers. -/
structure Ordered (state : State) : Prop where
  read : forall id connection, state.connections id = some connection ->
    Drains connection.process connection.stream (state.tasksOf id) connection.incoming
  unread : forall id, state.connections id = none -> state.tasksOf id = []

/-- Of two tasks taken for the messages of one worker, the first is done. -/
def Consecutive (jobs : List Job) : Prop :=
  jobs.Pairwise (fun earlier later => forall id, earlier.task.isFrom id = true ->
    later.task.isFrom id = true -> earlier.active = false)

theorem tasksOf_rearmed {source target : State} (rearmed : Rearmed source target) (id : Bytes) :
    target.tasksOf id = source.tasksOf id := by
  unfold State.tasksOf
  rw [rearmed.jobs, rearmed.queue]

theorem ordered_rearmed {source target : State} (ordered : Ordered source)
    (rearmed : Rearmed source target) : Ordered target where
  read id connection present := by
    rcases rearmed.connection id connection present with ⟨old, found, process, stream, incoming⟩
    rw [process, stream, incoming, tasksOf_rearmed rearmed]
    exact ordered.read id old found
  unread id absent := by
    rw [tasksOf_rearmed rearmed]
    apply ordered.unread id
    rw [← Option.not_isSome_iff_eq_none, ← rearmed.isSome, absent]
    exact Bool.false_ne_true

/-- The states with the same connections and the same tasks, whether these
wait or are taken. -/
theorem ordered_of_same {source target : State} (ordered : Ordered source)
    (connections : target.connections = source.connections)
    (tasks : target.jobs.map Job.task ++ target.queue = source.jobs.map Job.task ++ source.queue) :
    Ordered target where
  read id connection present := by
    unfold State.tasksOf
    rw [tasks]
    rw [connections] at present
    exact ordered.read id connection present
  unread id absent := by
    unfold State.tasksOf
    rw [tasks]
    rw [connections] at absent
    exact ordered.unread id absent

theorem ordered_register {state : State} (ordered : Ordered state) {process : Process}
    (stream : List Arrival) (absent : state.connections process.processId = none) :
    Ordered { state with
      connections := Function.update state.connections process.processId
        (some ⟨process, stream, stream, true⟩) } where
  read id connection present := by
    dsimp only at present
    rw [Function.update_apply] at present
    split at present
    · rename_i here
      cases present
      change Drains process stream (state.tasksOf id) stream
      rw [here, ordered.unread process.processId absent]
      exact Drains.start
    · exact ordered.read id connection present
  unread id missing := by
    dsimp only at missing
    rw [Function.update_apply] at missing
    split at missing
    · cases missing
    · exact ordered.unread id missing

theorem ordered_read {state : State} (ordered : Ordered state) {processId : Bytes}
    (rest : List Event) {connection : Connection}
    (present : state.connections processId = some connection)
    (named : connection.process.processId = processId) (uninitialized : Header) :
    Ordered { state with
      batch := rest
      connections := Function.update state.connections processId
        (some { connection with incoming := (readN headerLength connection.incoming).rest })
      queue := state.queue ++ [reading connection.process uninitialized connection.incoming] } := by
  have grown (id : Bytes) :
      (state.jobs.map Job.task ++ (state.queue ++
        [reading connection.process uninitialized connection.incoming])).filter (Task.isFrom id) =
      state.tasksOf id ++ (if processId = id then
        [reading connection.process uninitialized connection.incoming] else []) := by
    rw [← List.append_assoc, List.filter_append, List.filter_singleton, isFrom_reading, named]
    unfold State.tasksOf
    by_cases here : processId = id
    · rw [if_pos here, decide_eq_true here, cond_true]
    · rw [if_neg here, decide_eq_false here, cond_false]
  constructor
  · intro id other found
    dsimp only at found
    unfold State.tasksOf
    dsimp only
    rw [grown]
    rw [Function.update_apply] at found
    split at found
    · rename_i here
      cases found
      rw [if_pos here.symm, here]
      exact Drains.read uninitialized (ordered.read processId connection present)
    · rename_i elsewhere
      rw [if_neg (Ne.symm elsewhere), List.append_nil]
      exact ordered.read id other found
  · intro id missing
    dsimp only at missing
    unfold State.tasksOf
    dsimp only
    rw [grown]
    rw [Function.update_apply] at missing
    split at missing
    · cases missing
    · rename_i elsewhere
      rw [if_neg (Ne.symm elsewhere), List.append_nil]
      exact ordered.unread id missing

theorem ordered_accept {state : State} (ordered : Ordered state) (rest : List Event)
    (accepted : Bool) :
    Ordered { state with
      batch := rest
      queue := if accepted then state.queue ++ [.worker] else state.queue } := by
  have same (id : Bytes) :
      (state.jobs.map Job.task ++ (if accepted then state.queue ++ [Task.worker]
        else state.queue)).filter (Task.isFrom id) = state.tasksOf id := by
    cases accepted with
    | false => rfl
    | true =>
        rw [if_pos rfl, ← List.append_assoc, List.filter_append]
        exact List.append_nil _
  constructor
  · intro id connection present
    unfold State.tasksOf
    dsimp only
    rw [same]
    exact ordered.read id connection present
  · intro id absent
    unfold State.tasksOf
    dsimp only
    rw [same]
    exact ordered.unread id absent

theorem map_task_advance {jobs : List Job} {index : Nat} {job : Job}
    (present : jobs[index]? = some job) (stage : Stage) :
    (jobs.set index { job with stage := stage }).map Job.task = jobs.map Job.task := by
  rcases split_of_getElem present with ⟨before, after, whole, _, replaced⟩
  rw [replaced, whole, List.map_append, List.map_append, List.map_cons, List.map_cons]

theorem ordered_advance {state next : State} (ordered : Ordered state) {index : Nat} {job : Job}
    (present : state.jobs[index]? = some job) {modEpoll : Bool} {stage : Stage}
    (stepped : jobStep state job modEpoll = some (stage, next)) :
    Ordered { next with jobs := state.jobs.set index { job with stage := stage } } := by
  rcases jobStep_cases stepped with ⟨_, _, queue, _, connections⟩
  rcases connections with same | ⟨processId, _, _, same⟩
  · refine ordered_of_same ordered (show next.connections = _ from same) ?_
    dsimp only
    rw [map_task_advance present, queue]
  · refine ordered_of_same (ordered_rearmed ordered (rearmed_arm state processId true))
      (show next.connections = _ from same) ?_
    dsimp only
    rw [map_task_advance present, queue]
    rfl

/-- A task is taken when the earlier ones of its worker are done. -/
theorem consecutive_take {state : State} (attended : Attended state)
    (consecutive : Consecutive state.jobs) {task : Task} {rest : List Task}
    (queue : state.queue = task :: rest) : Consecutive (state.jobs ++ [⟨task, .entered⟩]) := by
  refine List.pairwise_append.mpr ⟨consecutive, List.pairwise_singleton _ _, ?_⟩
  intro earlier member later last id first second
  rw [List.mem_singleton.mp last] at second
  have bound := attended.once id
  have single := Bool.toNat_le (state.connections id).isSome
  unfold State.attention at bound
  rw [queue, List.countP_cons, if_pos second] at bound
  have none : state.jobs.countP (Job.attends id) = 0 := by omega
  have apart := List.countP_eq_zero.mp none earlier member
  unfold Job.attends at apart
  rw [first, Bool.and_true] at apart
  exact Bool.eq_false_iff.mpr apart

/-- The thread that executes a statement has the last task of its worker. -/
theorem consecutive_advance {jobs : List Job} (consecutive : Consecutive jobs) {index : Nat}
    {job : Job} (present : jobs[index]? = some job) (active : job.active = true) (stage : Stage) :
    Consecutive (jobs.set index { job with stage := stage }) := by
  rcases split_of_getElem present with ⟨before, after, whole, _, replaced⟩
  unfold Consecutive at consecutive ⊢
  rw [whole, List.pairwise_append, List.pairwise_cons] at consecutive
  rw [replaced, List.pairwise_append, List.pairwise_cons]
  rcases consecutive with ⟨first, ⟨last, second⟩, across⟩
  refine ⟨first, ⟨?_, second⟩, ?_⟩
  · intro later member id ours theirs
    have done := last later member id ours theirs
    rw [active] at done
    cases done
  · intro earlier member later found id ours theirs
    rcases List.mem_cons.mp found with same | other
    · rw [same] at theirs
      exact across earlier member job List.mem_cons_self id ours theirs
    · exact across earlier member later (List.mem_cons_of_mem _ other) id ours theirs

/-- What holds of every state of a server: each worker has the attention of the
control plane at most once, and the packets of its stream have been handled in
their order, each after the one before it was done. -/
structure InTurn (state : State) : Prop where
  attended : Attended state
  ordered : Ordered state
  consecutive : Consecutive state.jobs

theorem inTurn_initial (plane : Plane) : InTurn (State.initial plane) where
  attended := by
    refine ⟨?_, fun _ => Nat.le_refl _⟩
    intro id connection present
    cases present
  ordered := by
    refine ⟨?_, fun _ _ => rfl⟩
    intro id connection present
    cases present
  consecutive := List.Pairwise.nil

theorem inTurn_step {threads : Nat} {source target : State} {action : Action}
    (inTurn : InTurn source) (stepped : step threads source action = some target) :
    InTurn target := by
  rcases inTurn with ⟨attended, ordered, consecutive⟩
  cases transition_of_step stepped with
  | register process stream absent =>
      exact ⟨attended_register attended stream absent, ordered_register ordered stream absent,
        consecutive⟩
  | wait events taken reported =>
      have rearmed := rearmed_disarm source events
      have kept := ordered_rearmed ordered rearmed
      refine ⟨attended_wait attended taken reported, ⟨kept.read, kept.unread⟩, ?_⟩
      dsimp only
      rw [rearmed.jobs]
      exact consecutive
  | accept uninitialized accepted batch =>
      exact ⟨attended_accept attended batch accepted, ordered_accept ordered _ accepted,
        consecutive⟩
  | read uninitialized accepted batch present =>
      exact ⟨attended_read attended batch present uninitialized,
        ordered_read ordered _ present (attended.named _ _ present) uninitialized, consecutive⟩
  | take queue free =>
      refine ⟨attended_take attended queue, ordered_of_same ordered rfl ?_,
        consecutive_take attended consecutive queue⟩
      rw [queue, List.map_append, List.append_assoc]
      rfl
  | advance modEpoll present executed =>
      exact ⟨attended_advance attended present executed, ordered_advance ordered present executed,
        consecutive_advance consecutive present (jobStep_cases executed).1 _⟩
  | change plane =>
      exact ⟨⟨attended.named, attended.once⟩, ⟨ordered.read, ordered.unread⟩, consecutive⟩

/-- A server handles the messages of every worker one after the other. -/
theorem inTurn_run {threads : Nat} {plane : Plane} {trace : List (State × Action)} {final : State}
    (run : TransitionSystem.Run (system threads plane) (State.initial plane) trace final) :
    InTurn final :=
  run.invariant InTurn (inTurn_initial plane)
    (fun _ _ _ inTurn stepped => inTurn_step inTurn stepped)

/-- A connection that begins with whole packets is read packet by packet. -/
theorem tasks_of_drains {process : Process} {packets : List Header} {segments : List Bytes}
    {later : List Arrival} (sent : segments.flatten = (packets.map Frame.data).flatten)
    {tasks : List Task} {incoming : List Arrival}
    (drains : Drains process (delivered segments ++ later) tasks incoming)
    (within : tasks.length ≤ packets.length) :
    tasks = (packets.take tasks.length).map
        (fun packet => .handleMessage process packet headerLength) ∧
      Exists fun rest => incoming = delivered rest ++ later ∧
        rest.flatten = ((packets.drop tasks.length).map Frame.data).flatten := by
  induction drains with
  | start => exact ⟨rfl, segments, rfl, sent⟩
  | @read tasks incoming uninitialized drains inductionHypothesis =>
      rw [List.length_append, List.length_singleton] at within ⊢
      rcases inductionHypothesis (by omega) with ⟨read, rest, unread, remains⟩
      have more : tasks.length < packets.length := by omega
      rw [List.drop_eq_getElem_cons more, List.map_cons, List.flatten_cons] at remains
      have long : headerLength ≤ rest.flatten.length := by
        rw [remains, List.length_append, (packets[tasks.length]).size_eq]
        exact Nat.le_add_right _ _
      rcases readN_front headerLength rest later long (by decide) with ⟨after, result, left⟩
      have packet : rest.flatten.take headerLength = (packets[tasks.length]).data := by
        rw [remains, List.take_left' (packets[tasks.length]).size_eq]
      have tail : rest.flatten.drop headerLength =
          ((packets.drop (tasks.length + 1)).map Frame.data).flatten := by
        rw [remains, List.drop_left' (packets[tasks.length]).size_eq]
      rw [packet] at result
      rw [← unread] at result
      refine ⟨?_, after, ?_, left.trans tail⟩
      · have last : reading process uninitialized incoming =
            .handleMessage process packets[tasks.length] headerLength := by
          unfold reading
          simp only [result, Frame.store_whole]
        rw [last, List.take_succ_eq_append_getElem more, List.map_append, ← read]
        rfl
      · rw [result]

/-! ## The effects of the threads

The order of the members of a set is not a property of the database.  Up to
this order the statements of `handle_session_closure` commute, whichever
workers and sessions they are about. -/

/-- What can be observed of a control plane.  The entries of its sets are a set
here, which forgets the order in which they are kept. -/
structure Contents where
  resources : Resources
  strings : Key -> Option Bytes
  members : Set (Key × Bytes)
  outgoing : Bytes -> List SessionRequest
  started : List (Bytes × Int)

def contents (plane : Plane) : Contents where
  resources := plane.resources
  strings := plane.redis.strings
  members := fun entry => entry ∈ plane.redis.sets
  outgoing := plane.outgoing
  started := plane.started

/-- A statement of `handle_message` that changes the tables. -/
inductive Effect
  | removeSession (processId sessionId : Bytes)
  | unmark (id sessionId : Bytes)
  | addSwapped (id sessionId : Bytes)
  | disconnect (processId : Bytes)

def Effect.apply (plane : Plane) : Effect -> Plane
  | .removeSession processId sessionId =>
      { plane with resources := plane.resources.removeSession processId sessionId }
  | .unmark id sessionId =>
      { plane with redis := (plane.redis.srem (.sessionsAlive id) sessionId).2 }
  | .addSwapped id sessionId =>
      { plane with redis := plane.redis.sadd (.sessionsSwapped id) sessionId }
  | .disconnect processId => ProcessMessages.disconnect plane processId

/-- What an effect does to the tables of the processes. -/
def Effect.resources (resources : Resources) : Effect -> Resources
  | .removeSession processId sessionId => resources.removeSession processId sessionId
  | .disconnect processId =>
      resources.modifyProcess processId (fun process => { process with connected := false })
  | _ => resources

/-- What an effect does to the sets of sessions. -/
def Effect.members (members : Set (Key × Bytes)) : Effect -> Set (Key × Bytes)
  | .unmark id sessionId => fun entry => members entry ∧ entry ≠ (.sessionsAlive id, sessionId)
  | .addSwapped id sessionId =>
      fun entry => entry = (.sessionsSwapped id, sessionId) ∨ members entry
  | _ => members

def Contents.after (contents : Contents) (effect : Effect) : Contents :=
  { contents with
    resources := effect.resources contents.resources
    members := effect.members contents.members }

theorem contents_apply (plane : Plane) (effect : Effect) :
    contents (effect.apply plane) = (contents plane).after effect := by
  cases effect with
  | removeSession processId sessionId => rfl
  | disconnect processId => rfl
  | unmark id sessionId =>
      unfold contents Contents.after
      dsimp only [Effect.apply, Effect.resources, Effect.members]
      rw [Redis.srem_strings]
      congr 1
      funext entry
      exact propext (Redis.mem_srem plane.redis (.sessionsAlive id) sessionId entry)
  | addSwapped id sessionId =>
      unfold contents Contents.after
      dsimp only [Effect.apply, Effect.resources, Effect.members]
      rw [Redis.sadd_strings]
      congr 1
      funext entry
      exact propext (Redis.mem_sadd plane.redis (.sessionsSwapped id) sessionId entry)

theorem contents_foldl (effects : List Effect) (plane : Plane) :
    contents (effects.foldl Effect.apply plane) =
      effects.foldl Contents.after (contents plane) := by
  induction effects generalizing plane with
  | nil => rfl
  | cons effect rest inductionHypothesis =>
      rw [List.foldl_cons, List.foldl_cons, inductionHypothesis, contents_apply]

theorem removeSession_comm (process : Process) (first second : Bytes) :
    (process.removeSession first).removeSession second =
      (process.removeSession second).removeSession first := by
  by_cases same : first = second
  · rw [same]
  unfold Process.removeSession
  by_cases here : first ∈ process.sessions <;> by_cases there : second ∈ process.sessions <;>
    simp only [here, there, if_true, if_false, List.mem_erase_of_ne same,
      List.mem_erase_of_ne (Ne.symm same)]
  rw [List.erase_comm]

theorem isNamed_removeSession (id : Bytes) (process : Process) (sessionId : Bytes) :
    Process.isNamed id (process.removeSession sessionId) = Process.isNamed id process := by
  unfold Process.removeSession
  split <;> rfl

theorem effect_resources_comm (resources : Resources) (first second : Effect) :
    second.resources (first.resources resources) =
      first.resources (second.resources resources) := by
  have modify {left right : Bytes} {change alter : Process -> Process}
      (keepsLeft : forall process,
        Process.isNamed left (alter process) = Process.isNamed left process)
      (keepsRight : forall process,
        Process.isNamed right (change process) = Process.isNamed right process)
      (swap : forall process, change (alter process) = alter (change process)) :
      (resources.modifyProcess right alter).modifyProcess left change =
        (resources.modifyProcess left change).modifyProcess right alter := by
    unfold Resources.modifyProcess
    dsimp only
    rw [updateFirst_comm keepsLeft keepsRight (fun process _ _ => swap process)]
  cases first <;> cases second <;> try rfl
  · apply modify
    · exact fun process => isNamed_removeSession _ process _
    · exact fun process => isNamed_removeSession _ process _
    · exact fun process => removeSession_comm process _ _
  · apply modify
    · exact fun process => isNamed_removeSession _ process _
    · exact fun _ => rfl
    · intro process
      unfold Process.removeSession
      split <;> rfl
  · apply modify
    · exact fun _ => rfl
    · exact fun process => isNamed_removeSession _ process _
    · intro process
      unfold Process.removeSession
      split <;> rfl
  · apply modify
    · exact fun _ => rfl
    · exact fun _ => rfl
    · exact fun _ => rfl

theorem effect_members_comm (members : Set (Key × Bytes)) (first second : Effect) :
    second.members (first.members members) = first.members (second.members members) := by
  cases first <;> cases second <;> try rfl
  · funext entry
    exact propext ⟨fun ⟨⟨kept, one⟩, other⟩ => ⟨⟨kept, other⟩, one⟩,
      fun ⟨⟨kept, one⟩, other⟩ => ⟨⟨kept, other⟩, one⟩⟩
  · funext entry
    apply propext
    constructor
    · rintro (rfl | ⟨kept, other⟩)
      · exact ⟨Or.inl rfl, by simp⟩
      · exact ⟨Or.inr kept, other⟩
    · rintro ⟨rfl | kept, other⟩
      · exact Or.inl rfl
      · exact Or.inr ⟨kept, other⟩
  · funext entry
    apply propext
    constructor
    · rintro ⟨rfl | kept, other⟩
      · exact Or.inl rfl
      · exact Or.inr ⟨kept, other⟩
    · rintro (rfl | ⟨kept, other⟩)
      · exact ⟨Or.inl rfl, by simp⟩
      · exact ⟨Or.inr kept, other⟩
  · funext entry
    exact propext or_left_comm

instance after_comm : RightCommutative Contents.after where
  right_comm contents first second := by
    unfold Contents.after
    dsimp only
    rw [effect_resources_comm, effect_members_comm]

/-! ## What a thread has done -/

/-- The statements of `handle_session_closure`. -/
def closureEffects (process : Process) (sessionId : Bytes) : List Effect :=
  [.removeSession process.processId sessionId, .unmark process.processId sessionId,
    .addSwapped process.globalProcessId sessionId, .unmark process.globalProcessId sessionId]

/-- All that a message does to the tables. -/
def messageEffects (process : Process) (msg : Header) (recvData : Int) : List Effect :=
  match enter msg recvData with
  | .removeSession sessionId => closureEffects process sessionId
  | _ => []

/-- What a thread has done to the tables so far. -/
def Job.effects (job : Job) : List Effect :=
  match job.task with
  | .worker => []
  | .handleMessage process msg recvData =>
      match job.stage with
      | .entered => []
      | .removeSession _ => []
      | .unmarkOwn sessionId => (closureEffects process sessionId).take 1
      | .addSwapped sessionId => (closureEffects process sessionId).take 2
      | .unmark sessionId => (closureEffects process sessionId).take 3
      | .rearm => messageEffects process msg recvData
      | .finished true => messageEffects process msg recvData
      | .finished false =>
          messageEffects process msg recvData ++ [.disconnect process.processId]

/-- The stage of a thread belongs to its message. -/
def Job.Sound (job : Job) : Prop :=
  match job.task with
  | .worker => True
  | .handleMessage _ msg recvData =>
      match job.stage with
      | .entered => True
      | .removeSession sessionId => enter msg recvData = .removeSession sessionId
      | .unmarkOwn sessionId => enter msg recvData = .removeSession sessionId
      | .addSwapped sessionId => enter msg recvData = .removeSession sessionId
      | .unmark sessionId => enter msg recvData = .removeSession sessionId
      | .rearm => enter msg recvData ≠ .finished true
      | .finished true => True
      | .finished false => enter msg recvData ≠ .finished true

theorem enter_cases (msg : Header) (recvData : Int) :
    enter msg recvData = .finished true ∨ enter msg recvData = .rearm ∨
      Exists fun sessionId => enter msg recvData = .removeSession sessionId := by
  unfold enter
  split
  · exact Or.inl rfl
  · cases Header.parse msg with
    | none => exact Or.inl rfl
    | some kind =>
        cases kind with
        | sessionStatus data =>
            dsimp only
            split
            · exact Or.inr (Or.inr ⟨_, rfl⟩)
            · exact Or.inr (Or.inl rfl)
        | _ => exact Or.inr (Or.inl rfl)

/-- A statement adds its effect to what the thread has done. -/
theorem effects_jobStep {state next : State} {job : Job} {modEpoll : Bool} {stage : Stage}
    (sound : job.Sound) (stepped : jobStep state job modEpoll = some (stage, next)) :
    Job.Sound { job with stage := stage } ∧ Exists fun effects =>
      Job.effects { job with stage := stage } = job.effects ++ effects ∧
        next.plane = effects.foldl Effect.apply state.plane := by
  rcases job with ⟨task, current⟩
  cases task with
  | worker =>
      refine ⟨trivial, [], rfl, ?_⟩
      unfold jobStep at stepped
      dsimp only at stepped
      split at stepped
      · cases stepped
        rfl
      · cases stepped
  | handleMessage process msg recvData =>
      change messageStep state process msg recvData modEpoll current = _ at stepped
      cases current with
      | entered =>
          cases stepped
          rcases enter_cases msg recvData with done | rearm | ⟨sessionId, closure⟩
          · refine ⟨?_, [], ?_, rfl⟩
            · rw [done]
              trivial
            · rw [done]
              change messageEffects process msg recvData = []
              unfold messageEffects
              rw [done]
          · refine ⟨?_, [], ?_, rfl⟩
            · rw [rearm]
              change enter msg recvData ≠ .finished true
              rw [rearm]
              exact nofun
            · rw [rearm]
              change messageEffects process msg recvData = []
              unfold messageEffects
              rw [rearm]
          · refine ⟨?_, [], ?_, rfl⟩
            · rw [closure]
              exact closure
            · rw [closure]
              rfl
      | removeSession sessionId =>
          cases stepped
          exact ⟨sound, [.removeSession process.processId sessionId], rfl, rfl⟩
      | unmarkOwn sessionId =>
          cases stepped
          exact ⟨sound, [.unmark process.processId sessionId], rfl, rfl⟩
      | addSwapped sessionId =>
          cases stepped
          exact ⟨sound, [.addSwapped process.globalProcessId sessionId], rfl, rfl⟩
      | unmark sessionId =>
          cases stepped
          have closure : enter msg recvData = .removeSession sessionId := sound
          refine ⟨?_, [.unmark process.globalProcessId sessionId], ?_, rfl⟩
          · change enter msg recvData ≠ .finished true
            rw [closure]
            exact nofun
          · change messageEffects process msg recvData = _
            unfold messageEffects
            rw [closure]
            rfl
      | rearm =>
          unfold messageStep at stepped
          dsimp only at stepped
          split at stepped
          · cases stepped
            exact ⟨trivial, [], (List.append_nil _).symm, rfl⟩
          · cases stepped
            exact ⟨sound, [.disconnect process.processId], rfl, rfl⟩
      | finished outcome => cases stepped

/-- The outcome of `mod_epoll` for a thread that is done. -/
def Job.modEpoll (job : Job) : Bool :=
  match job.stage with
  | .finished modEpoll => modEpoll
  | _ => true

/-- The whole task of a thread, without the others. -/
def serve (plane : Plane) (job : Job) : Plane :=
  match job.task with
  | .worker => plane
  | .handleMessage process msg recvData =>
      (handleMessage plane process msg recvData job.modEpoll).plane

/-- `handle_message` on its own has the effects of its statements. -/
theorem plane_handleMessage (plane : Plane) (process : Process) (msg : Header) (recvData : Int)
    (modEpoll : Bool) (proceeds : enter msg recvData ≠ .finished true) :
    (handleMessage plane process msg recvData modEpoll).plane =
      (messageEffects process msg recvData ++
        (if modEpoll then [] else [Effect.disconnect process.processId])).foldl
          Effect.apply plane := by
  unfold messageEffects
  unfold enter at proceeds ⊢
  unfold handleMessage
  by_cases ended : recvData = 0 ∨ recvData = -1
  · rw [if_pos ended] at proceeds
    exact False.elim (proceeds rfl)
  · rw [if_neg ended] at proceeds ⊢
    rw [if_neg ended]
    cases parsed : Header.parse msg with
    | none =>
        rw [parsed] at proceeds
        exact False.elim (proceeds rfl)
    | some kind =>
        dsimp only
        cases kind with
        | sessionStatus data =>
            unfold ProcessMessages.act
            dsimp only
            by_cases closure : Header.sessionStatus data = -1
            · rw [if_pos closure, if_pos closure]
              cases modEpoll <;> rfl
            · rw [if_neg closure, if_neg closure]
              cases modEpoll <;> rfl
        | client => cases modEpoll <;> rfl
        | process data => cases modEpoll <;> rfl
        | session data => cases modEpoll <;> rfl

/-- A packet that is not handled changes nothing. -/
theorem plane_handleMessage_ended (plane : Plane) (process : Process) (msg : Header)
    (recvData : Int) (modEpoll : Bool) (ends : enter msg recvData = .finished true) :
    (handleMessage plane process msg recvData modEpoll).plane = plane := by
  unfold enter at ends
  unfold handleMessage
  by_cases ended : recvData = 0 ∨ recvData = -1
  · rw [if_pos ended]
  · rw [if_neg ended] at ends ⊢
    cases parsed : Header.parse msg with
    | none => rfl
    | some kind =>
        rw [parsed] at ends
        cases kind with
        | sessionStatus data =>
            dsimp only at ends
            split at ends <;> cases ends
        | client => cases ends
        | process data => cases ends
        | session data => cases ends

/-- A thread that is done has done its task. -/
theorem serve_eq_effects {job : Job} (sound : job.Sound) (done : job.active = false)
    (plane : Plane) : serve plane job = job.effects.foldl Effect.apply plane := by
  rcases job with ⟨task, stage⟩
  cases task with
  | worker => rfl
  | handleMessage process msg recvData =>
      cases stage with
      | finished modEpoll =>
          change (handleMessage plane process msg recvData modEpoll).plane = _
          cases modEpoll with
          | true =>
              by_cases ends : enter msg recvData = .finished true
              · rw [plane_handleMessage_ended plane process msg recvData true ends]
                change plane = (messageEffects process msg recvData).foldl Effect.apply plane
                unfold messageEffects
                rw [ends]
                rfl
              · rw [plane_handleMessage plane process msg recvData true ends, if_pos rfl,
                  List.append_nil]
                rfl
          | false => exact plane_handleMessage plane process msg recvData false sound
      | _ => cases done

/-! ## The order of the threads does not matter -/

/-- The tables are as the threads have left them together. -/
structure Performed (plane : Plane) (state : State) : Prop where
  sound : forall job, job ∈ state.jobs -> job.Sound
  tables : contents state.plane =
    (state.jobs.flatMap Job.effects).foldl Contents.after (contents plane)

/-- The action is not a change made outside the event loop and its tasks. -/
def Action.ownChange : Action -> Bool
  | .change _ => false
  | _ => true

theorem performed_step {threads : Nat} {plane : Plane} {source target : State} {action : Action}
    (performed : Performed plane source) (own : action.ownChange = true)
    (stepped : step threads source action = some target) : Performed plane target := by
  cases transition_of_step stepped with
  | register process stream absent => exact ⟨performed.sound, performed.tables⟩
  | wait events taken reported =>
      have rearmed := rearmed_disarm source events
      constructor
      · dsimp only
        rw [rearmed.jobs]
        exact performed.sound
      · dsimp only
        rw [rearmed.jobs, rearmed.plane]
        exact performed.tables
  | accept uninitialized accepted batch => exact ⟨performed.sound, performed.tables⟩
  | read uninitialized accepted batch present => exact ⟨performed.sound, performed.tables⟩
  | @take task rest queue free =>
      have nothing : Job.Sound ⟨task, .entered⟩ ∧ Job.effects ⟨task, .entered⟩ = [] := by
        cases task with
        | worker => exact ⟨trivial, rfl⟩
        | handleMessage process msg recvData => exact ⟨trivial, rfl⟩
      constructor
      · intro job member
        rcases List.mem_append.mp member with old | new
        · exact performed.sound job old
        · rw [List.mem_singleton.mp new]
          exact nothing.1
      · dsimp only
        rw [List.flatMap_append, List.flatMap_singleton, nothing.2, List.append_nil]
        exact performed.tables
  | @advance index modEpoll job present stage next executed =>
      rcases split_of_getElem present with ⟨before, after, whole, _, replaced⟩
      rcases effects_jobStep (performed.sound job (mem_middle whole)) executed with
        ⟨sound, effects, gained, result⟩
      constructor
      · dsimp only
        rw [replaced]
        exact forall_mem_middle whole performed.sound sound
      · dsimp only
        rw [replaced, (flatMap_gain Job.effects whole gained).foldl_eq, List.foldl_append,
          ← performed.tables, ← contents_foldl, result]
  | change changed => cases own

theorem performed_run {threads : Nat} {plane : Plane} {trace : List (State × Action)}
    {final : State}
    (run : TransitionSystem.Run (system threads plane) (State.initial plane) trace final)
    (own : TransitionSystem.Guarded (fun _ action => action.ownChange = true) trace) :
    Performed plane final := by
  apply run.guarded_invariant (Performed plane)
  · refine ⟨?_, rfl⟩
    intro job member
    cases member
  · intro source action target performed allowed stepped
    exact performed_step performed allowed stepped
  · exact own

/-- Tasks that are done, one after the other. -/
theorem contents_serve {jobs : List Job} (sound : forall job, job ∈ jobs -> job.Sound)
    (done : forall job, job ∈ jobs -> job.active = false) (plane : Plane) :
    contents (jobs.foldl serve plane) =
      (jobs.flatMap Job.effects).foldl Contents.after (contents plane) := by
  induction jobs generalizing plane with
  | nil => rfl
  | cons job rest inductionHypothesis =>
      rw [List.foldl_cons, List.flatMap_cons, List.foldl_append, ← contents_foldl,
        ← serve_eq_effects (sound job List.mem_cons_self) (done job List.mem_cons_self)]
      exact inductionHypothesis (fun other member => sound other (List.mem_cons_of_mem _ member))
        (fun other member => done other (List.mem_cons_of_mem _ member)) _

/-- However epoll reports the events and the threads of the pool interleave,
every worker has the attention of the server at most once.  Its packets are
read one after the other, none twice and none left out, and each is handled
when the one before it is done. -/
theorem handled_in_turn {threads : Nat} {plane : Plane} {trace : List (State × Action)}
    {final : State}
    (run : TransitionSystem.Run (system threads plane) (State.initial plane) trace final) :
    (forall id, final.attention id ≤ 1) ∧
    (forall id connection, final.connections id = some connection ->
      Drains connection.process connection.stream (final.tasksOf id) connection.incoming ∧
      forall (packets : List Header) (segments : List Bytes) (later : List Arrival),
        connection.stream = delivered segments ++ later ->
        segments.flatten = (packets.map Frame.data).flatten ->
        (final.tasksOf id).length ≤ packets.length ->
        final.tasksOf id = (packets.take (final.tasksOf id).length).map
          (fun packet => .handleMessage connection.process packet headerLength)) ∧
    Consecutive final.jobs := by
  have inTurn := inTurn_run run
  refine ⟨?_, ?_, inTurn.consecutive⟩
  · intro id
    exact (inTurn.attended.once id).trans (Bool.toNat_le _)
  · intro id connection present
    have drains := inTurn.ordered.read id connection present
    refine ⟨drains, ?_⟩
    intro packets segments later arrives sent within
    rw [arrives] at drains
    exact (tasks_of_drains sent drains within).1

/-- While nothing else changes the tables, the threads of the pool leave them
as `handle_message` would on one message after the other, in any order. -/
theorem handled_as_if_alone {threads : Nat} {plane : Plane} {trace : List (State × Action)}
    {final : State}
    (run : TransitionSystem.Run (system threads plane) (State.initial plane) trace final)
    (own : TransitionSystem.Guarded (fun _ action => action.ownChange = true) trace)
    (done : forall job, job ∈ final.jobs -> job.active = false)
    {order : List Job} (same : order.Perm final.jobs) :
    contents final.plane = contents (order.foldl serve plane) := by
  have performed := performed_run run own
  rw [performed.tables, contents_serve (fun job member => performed.sound job (same.subset member))
    (fun job member => done job (same.subset member))]
  exact (same.symm.flatMap_right Job.effects).foldl_eq _

/-! ## Two closures at the same time -/

/-- The session that every worker runs. -/
def someSession : Bytes := List.replicate 16 65

def someWorker (processId : Bytes) : Process :=
  ⟨[9], processId, 1, 4, true, true, [someSession]⟩

def twoWorkers : Plane :=
  { Plane.empty with resources := ⟨fun _ => none, [someWorker [1], someWorker [2]]⟩ }

def registerClosing (processId : Bytes) : Action :=
  .register (someWorker processId)
    (delivered [(SendMessage.fillSessionClose SendMessage.new 1024 someSession).data])

/-- Two threads handle the closures of the workers, statement by statement. -/
def twoClosures : List Action :=
  [registerClosing [1], registerClosing [2], .wait [.message [2], .message [1]],
    .dispatch (Frame.zeros headerLength) true, .dispatch (Frame.zeros headerLength) true,
    .take, .take] ++
  (List.replicate 6 [Action.advance 0 true, Action.advance 1 true]).flatten

theorem handled_in_turn_twice :
    Exists fun trace => Exists fun final =>
      TransitionSystem.Run (system 2 twoWorkers) (State.initial twoWorkers) trace final ∧
      final.jobs.length = 2 ∧ (forall id, final.attention id ≤ 1) ∧ Consecutive final.jobs := by
  have found := TransitionSystem.exists_run (system 2 twoWorkers) (State.initial twoWorkers)
    twoClosures (fun _ final => final.jobs.length = 2) (by decide +kernel)
  rcases found with ⟨trace, final, run, tested⟩
  have handled := handled_in_turn run
  exact ⟨trace, final, run, of_decide_eq_true tested, handled.1, handled.2.2⟩

theorem handled_as_if_alone_twice :
    Exists fun trace => Exists fun final =>
      TransitionSystem.Run (system 2 twoWorkers) (State.initial twoWorkers) trace final ∧
      (forall process, process ∈ final.plane.resources.processes -> process.sessions = []) ∧
      contents final.plane = contents (final.jobs.reverse.foldl serve twoWorkers) := by
  have found := TransitionSystem.exists_run (system 2 twoWorkers) (State.initial twoWorkers)
    twoClosures (fun trace final =>
      final.plane.resources.processes.all (fun process => process.sessions = []) &&
        trace.all (fun entry => entry.2.ownChange) && final.jobs.all (fun job => !job.active))
    (by decide +kernel)
  rcases found with ⟨trace, final, run, tested⟩
  rw [Bool.and_eq_true, Bool.and_eq_true] at tested
  rcases tested with ⟨⟨removed, own⟩, done⟩
  refine ⟨trace, final, run,
    fun process member => of_decide_eq_true (List.all_eq_true.mp removed process member),
    handled_as_if_alone run (TransitionSystem.guarded_of_all own) ?_
      (List.reverse_perm final.jobs)⟩
  intro job member
  exact (Bool.not_eq_true' _).mp (List.all_eq_true.mp done job member)

end EventLoop
end Praas
