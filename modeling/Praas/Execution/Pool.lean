import Praas.Execution.BufferQueue
import Praas.Execution.Output

namespace Praas
namespace Execution

open Library
open Wire

/-!
# The thread pool of a session

`receive` pushes a task for every invocation that it accepts, and the threads
of the pool run `FunctionWorker::invoke`: the function is looked up and called,
a last message goes to the data plane, and the buffer goes back to the queue.
A request without payload is pushed with the null buffer, and `invoke` returns
that one too.

The actions let the threads take, finish and leave their tasks in any order,
while requests keep arriving.  Every request handled has a number, its place
among them, so that the messages of two invocations with one identifier can be
told apart.  `known` says which names the functions library has.

A thread finds its `FunctionWorker` in a static map, to which it adds one at its
first task.  The map has no lock.  That a look-up happens in one step, which the
code does not ensure, is assumed: the steps here begin after it.
-/

namespace Pool

/-- The arguments of `invoke`, with the number of the request. -/
structure Task where
  number : Nat
  functionName : Bytes
  functionId : Bytes
  payloadBytes : Int
  buffer : BufferQueue.Buffer
  deriving DecidableEq

/-- Where a task is: in the queue of the pool, in its function, or past the
last message and before the return of its buffer. -/
inductive Stage
  | waiting
  | running
  | ended
  deriving DecidableEq

structure Job where
  task : Task
  stage : Stage
  deriving DecidableEq

/-- The calls that end an invocation: `mark_end` after the function has
returned, or `send_error`, by `receive` when there is no buffer and by the
thread when the function is unknown. -/
inductive Outcome
  | markEnd (returnCode : Int)
  | sendError (status : Output.Status)
  deriving DecidableEq

/-- A terminal call on the channel, with the number of the request it is made
for. -/
structure Terminal where
  number : Nat
  functionId : Bytes
  outcome : Outcome
  deriving DecidableEq

/-- The session with the tasks that have not returned, the requests handled
and the terminal calls made so far. -/
structure State where
  queue : BufferQueue
  jobs : List Job
  handled : List FunctionRequestMsg
  sent : List Terminal

/-- A parsed request is handled, a thread takes a task, its function returns or
turns out to be unknown, and its buffer is returned. -/
inductive Action
  | handle (request : FunctionRequestMsg) (connection : List Arrival)
  | begin (index : Nat)
  | complete (index : Nat) (returnCode : Int)
  | giveBack (index : Nat)

namespace State

def pushTask (state : State) (task : Task) : State :=
  { state with jobs := state.jobs ++ [⟨task, .waiting⟩] }

def send (state : State) (terminal : Terminal) : State :=
  { state with sent := state.sent ++ [terminal] }

/-- The part of `receive` after the message has been parsed, as
`Session.accept` has it, on pointers. -/
def handle (state : State) (request : FunctionRequestMsg) (connection : List Arrival) : State :=
  let number := state.handled.length
  let counted := { state with handled := state.handled ++ [request] }
  if request.functionName = [] then counted
  else if 0 < request.payload then
    let retrieved := state.queue.retrieveBuffer request.payload.toNat
    let taken := { counted with queue := retrieved.2 }
    if retrieved.1.size = 0 then
      taken.send ⟨number, request.functionId, .sendError .outOfMemory⟩
    else taken.pushTask ⟨number, request.functionName, request.functionId,
      (readN request.payload.toNat connection).count, retrieved.1⟩
  else counted.pushTask
    ⟨number, request.functionName, request.functionId, 0, BufferQueue.Buffer.null⟩

end State

/-- The last message of `_invoke`, with which the invocation ends for the
client. -/
def outcome (known : Bytes -> Bool) (task : Task) (returnCode : Int) : Outcome :=
  if known task.functionName then .markEnd returnCode else .sendError .unknownFunction

def step (known : Bytes -> Bool) (state : State) : Action -> Option State
  | .handle request connection => some (state.handle request connection)
  | .begin index =>
      match state.jobs[index]? with
      | some ⟨task, .waiting⟩ => some { state with jobs := state.jobs.set index ⟨task, .running⟩ }
      | _ => none
  | .complete index returnCode =>
      match state.jobs[index]? with
      | some ⟨task, .running⟩ =>
          some (({ state with jobs := state.jobs.set index ⟨task, .ended⟩ } : State).send
            ⟨task.number, task.functionId, outcome known task returnCode⟩)
      | _ => none
  | .giveBack index =>
      match state.jobs[index]? with
      | some ⟨task, .ended⟩ =>
          some { state with
            queue := state.queue.returnBuffer task.buffer
            jobs := state.jobs.eraseIdx index }
      | _ => none

def initial (maxFunctions : Int) : State :=
  ⟨BufferQueue.new (Session.bufferCount maxFunctions) (6 * 1024 * 1024), [], [], []⟩

def system (known : Bytes -> Bool) (maxFunctions : Int) : TransitionSystem State Action where
  initial := initial maxFunctions
  step := step known

abbrev Run (known : Bytes -> Bool) (maxFunctions : Int) (trace : List (State × Action))
    (final : State) : Prop :=
  TransitionSystem.Run (system known maxFunctions) (initial maxFunctions) trace final

/-! ## What a step does -/

/-- The task pushed for a request that carries no payload, or whose payload was
read into a buffer. -/
def State.taskFor (state : State) (request : FunctionRequestMsg) (payloadBytes : Int)
    (buffer : BufferQueue.Buffer) : Task :=
  ⟨state.handled.length, request.functionName, request.functionId, payloadBytes, buffer⟩

/-- The steps of the pool, by their effect.  The arrival of a request has four
outcomes; the threads have one for each of their three actions. -/
inductive Transition (known : Bytes -> Bool) (state : State) : Action -> State -> Prop
  | ignore {request : FunctionRequestMsg} {connection : List Arrival} :
      request.functionName = [] ->
      Transition known state (.handle request connection)
        { state with handled := state.handled ++ [request] }
  | refuse {request : FunctionRequestMsg} {connection : List Arrival} :
      request.functionName ≠ [] -> 0 < request.payload ->
      (state.queue.retrieveBuffer request.payload.toNat).1.size = 0 ->
      Transition known state (.handle request connection)
        { state with
          queue := (state.queue.retrieveBuffer request.payload.toNat).2
          handled := state.handled ++ [request]
          sent := state.sent ++
            [⟨state.handled.length, request.functionId, .sendError .outOfMemory⟩] }
  | push {request : FunctionRequestMsg} {connection : List Arrival} {payloadBytes : Int} :
      request.functionName ≠ [] -> 0 < request.payload ->
      (state.queue.retrieveBuffer request.payload.toNat).1.size ≠ 0 ->
      Transition known state (.handle request connection)
        { state with
          queue := (state.queue.retrieveBuffer request.payload.toNat).2
          handled := state.handled ++ [request]
          jobs := state.jobs ++ [⟨state.taskFor request payloadBytes
            (state.queue.retrieveBuffer request.payload.toNat).1, .waiting⟩] }
  | pushEmpty {request : FunctionRequestMsg} {connection : List Arrival} :
      request.functionName ≠ [] -> request.payload ≤ 0 ->
      Transition known state (.handle request connection)
        { state with
          handled := state.handled ++ [request]
          jobs := state.jobs ++ [⟨state.taskFor request 0 BufferQueue.Buffer.null, .waiting⟩] }
  | begin {before after : List Job} {task : Task} :
      state.jobs = before ++ ⟨task, .waiting⟩ :: after ->
      Transition known state (.begin before.length)
        { state with jobs := before ++ ⟨task, .running⟩ :: after }
  | complete {before after : List Job} {task : Task} {returnCode : Int} :
      state.jobs = before ++ ⟨task, .running⟩ :: after ->
      Transition known state (.complete before.length returnCode)
        { state with
          jobs := before ++ ⟨task, .ended⟩ :: after
          sent := state.sent ++
            [⟨task.number, task.functionId, outcome known task returnCode⟩] }
  | giveBack {before after : List Job} {task : Task} :
      state.jobs = before ++ ⟨task, .ended⟩ :: after ->
      Transition known state (.giveBack before.length)
        { state with
          queue := state.queue.returnBuffer task.buffer
          jobs := before ++ after }

theorem handle_transition (known : Bytes -> Bool) (state : State) (request : FunctionRequestMsg)
    (connection : List Arrival) :
    Transition known state (.handle request connection) (state.handle request connection) := by
  unfold State.handle
  dsimp only
  split
  · rename_i unnamed
    exact .ignore unnamed
  rename_i named
  split
  · rename_i carries
    split
    · rename_i exhausted
      exact .refuse named carries exhausted
    · rename_i found
      exact .push named carries found
  · rename_i empty
    exact .pushEmpty named (Int.not_lt.mp empty)

theorem step_transition {known : Bytes -> Bool} {state next : State} {action : Action}
    (stepped : step known state action = some next) : Transition known state action next := by
  cases action with
  | handle request connection =>
      cases stepped
      exact handle_transition known state request connection
  | begin index =>
      simp only [step] at stepped
      split at stepped
      · rename_i task present
        rcases split_of_getElem present with ⟨before, after, whole, rfl, replaced⟩
        rw [replaced] at stepped
        cases stepped
        exact .begin whole
      · cases stepped
  | complete index returnCode =>
      simp only [step] at stepped
      split at stepped
      · rename_i task present
        rcases split_of_getElem present with ⟨before, after, whole, rfl, replaced⟩
        rw [replaced] at stepped
        cases stepped
        exact .complete whole
      · cases stepped
  | giveBack index =>
      simp only [step] at stepped
      split at stepped
      · rename_i task present
        rcases split_of_getElem present with ⟨before, after, whole, rfl, _⟩
        rw [eraseIdx_middle whole] at stepped
        cases stepped
        exact .giveBack whole
      · cases stepped

end Pool
end Execution
end Praas
