import Praas.Execution.SingleThread
import Praas.Runtime.Isolation

namespace Praas
namespace Runtime
namespace SequentialSessions

open Library
open SessionProgram (Options declared)
open Isolation
open Execution (Session)
open Execution.SingleThread (Functions answers invoke)

/-!
# What is stored of sessions with one thread

The worker runs many sessions, and each of them runs the invocations that it
receives on the memory that the worker created for it.  For sessions with one
thread the program of a session is the receive loop with this thread, so what
is stored of an ended session can be said in terms of its invocations alone.
-/

/-- Functions that write to the mapping they are given and not past its end. -/
structure Confined where
  functions : Functions Bytes
  confined : forall name function, functions name = some function ->
    forall payload id memory, (function payload id memory).memory.length = memory.length

theorem Confined.invoke_length (functions : Confined) (memory : Bytes)
    (item : ControlPlane.PendingAllocation) :
    (invoke functions.functions memory item).2.length = memory.length := by
  unfold invoke
  cases found : functions.functions item.functionName with
  | none => rfl
  | some function => exact functions.confined _ function found _ _ _

/-- What arrives on the connection to the control plane and on the one to the
client. -/
structure Connections where
  control : List Arrival
  data : List Arrival

/-- The variables of a session process, with a copy of its memory. -/
abbrev Variables := Execution.SingleThread.State Bytes

def onMemory (current : Variables) (memory : Bytes) : Variables :=
  { current with memory := memory }

/-- `Session::start` of a session with one thread, after the memory has been
opened: the loop and the thread work on the bytes of the mapping.  It waits for
its tasks, so the process ends when the thread is idle; a process that is killed
while a function runs is not considered. -/
def sessionProgram (functions : Confined) :
    Program Connections Variables Execution.SingleThread.Action where
  start options connections :=
    { Execution.SingleThread.State.initial [] connections.control connections.data with
      session := Session.new options.maxFunctions }
  step current memory action :=
    (Execution.SingleThread.step functions.functions (onMemory current memory) action).map
      (fun next => (next, next.memory))
  ends current := current.running.isNone && decide (current.taken = current.session.pushed.length)
  sized := by
    intro current memory action next stepped
    rcases Option.map_eq_some_iff.mp stepped with ⟨target, made, rfl⟩
    rcases (Execution.SingleThread.step_move made).taken with untaken | ⟨entry, _, rfl⟩
    · exact congrArg List.length untaken.memory
    · exact functions.invoke_length _ _

/-- What the program of a session with one thread reaches is what the session
reaches on its own memory. -/
theorem run_of_reaches {functions : Confined} {options : Options}
    (single : options.maxFunctions = 1) {connections : Connections} {created left : Bytes}
    {current : Variables}
    (reaches : (sessionProgram functions).Reaches options connections created current left) :
    let system := Execution.SingleThread.system functions.functions created connections.control
      connections.data
    system.Leads system.initial (onMemory current left) := by
  dsimp only
  rcases reaches with ⟨trace, run⟩
  apply run.invariant (fun reached => TransitionSystem.Leads
    (Execution.SingleThread.system functions.functions created connections.control
      connections.data)
    (Execution.SingleThread.State.initial created connections.control connections.data)
    (onMemory reached.1 reached.2))
  · have start : onMemory ((sessionProgram functions).start options connections) created =
        Execution.SingleThread.State.initial created connections.control connections.data := by
      dsimp only [sessionProgram]
      rw [single]
      rfl
    change TransitionSystem.Leads _ _
      (onMemory ((sessionProgram functions).start options connections) created)
    rw [start]
    exact TransitionSystem.Leads.refl _
  · rintro ⟨middle, bytes⟩ action target ⟨earlier, reached⟩ stepped
    rcases Option.map_eq_some_iff.mp stepped with ⟨next, made, rfl⟩
    exact ⟨_, reached.extend made⟩

def sessionMachine (functions : Confined) (parser : OptionParser)
    (controllerAddress holePuncherAddress : Bytes) :
    Machine Connections Variables Execution.SingleThread.Action :=
  ⟨sessionProgram functions, parser, controllerAddress, holePuncherAddress⟩

/-- What a worker stores of a session with one thread is what its invocations
leave, one after the other, of the memory that was created for it.  This holds
however the sessions of the worker, their threads, new requests and deletions
interleave: the state of such a session is one that it reaches on a memory of
its own. -/
theorem stored_sequentially {functions : Confined} {parser : OptionParser}
    (takesNext : declared.TakesNext parser) {controllerAddress holePuncherAddress : Bytes}
    {maxSessions : Int} {swapper : S3Swapper} {store : ObjectStore}
    {trace : List (State Connections Variables × Action Connections Execution.SingleThread.Action)}
    {final : State Connections Variables}
    (run : TransitionSystem.Run
      ((sessionMachine functions parser controllerAddress holePuncherAddress).system maxSessions
        swapper store)
      ((sessionMachine functions parser controllerAddress holePuncherAddress).system maxSessions
        swapper store).initial trace final) :
    forall process work, process ∈ final.processes -> process.phase.last = some work ->
      Exists fun entry => entry ∈ final.owned.worker.sessions ∧ entry.childPid = process.pid ∧
        (entry.maxFunctions = 1 ->
          let system := Execution.SingleThread.system functions.functions process.created
            work.input.control work.input.data
          let left := (answers functions.functions process.created work.current.begun).2
          system.Leads system.initial (onMemory work.current left) ∧
            (final.owned.worker.swapper.enabled = true ->
              final.owned.worker.swapper.client = true ->
              (final.owned.delete process.pid true).store = Function.update final.owned.store
                (final.owned.worker.swapper.bucket, entry.sessionId) (some left))) := by
  have sound := sound_of_run takesNext run
  intro process work member last
  rcases sound.served process member with ⟨entry, contents, serves⟩
  refine ⟨entry, serves.listed, serves.child, ?_⟩
  intro single
  dsimp only
  have options := SessionProgram.opts_arguments takesNext (sound.printable entry serves.listed)
    controllerAddress holePuncherAddress
  have explained := serves.explained
  rw [last] at explained
  have reaches : (sessionProgram functions).Reaches
      (SessionProgram.opts parser process.arguments) work.input process.created work.current
      contents := explained
  rw [serves.arguments] at reaches
  have leads := run_of_reaches (options.2.2.1.trans single) reaches
  rcases leads with ⟨steps, alone⟩
  have left : contents = (answers functions.functions process.created work.current.begun).2 :=
    (Execution.SingleThread.left_of_run alone).left
  rw [← left]
  exact ⟨⟨steps, alone⟩, store_delete sound member serves⟩

/-- A function that adds the number of its bytes to the first byte of the
memory. -/
def addingFunctions : Confined where
  functions := fun name => if name = ascii "f" then some (fun payload _ memory =>
      ⟨[], 0, memory.set 0 ((memory.headD 0) + payload.length.toUInt8)⟩)
    else none
  confined := by
    intro name function found payload id memory
    split at found
    · cases found
      exact List.length_set
    · cases found

abbrev addingWorker : TransitionSystem (State Connections Variables)
    (Action Connections Execution.SingleThread.Action) :=
  (sessionMachine addingFunctions scanningParser (ascii "10.0.0.1:8080")
    (ascii "puncher")).system 4 (S3Swapper.enableSwapping none) (fun _ => none)

/-- What arrives at both sessions. -/
def sameRequests : Connections :=
  ⟨delivered [Execution.SingleThread.pendingPacket.bytes],
    delivered [Execution.requestStream Execution.twoPackets]⟩

/-- Two sessions of one function each; the first ends after two invocations,
while the second one runs its first. -/
def twoSessions : List (Action Connections Execution.SingleThread.Action) :=
  [.allocate ⟨ascii "AAAAAAAAAAAAAAAA", 1, 1⟩ ⟨3, true, true, true, 100⟩,
    .allocate ⟨ascii "BBBBBBBBBBBBBBBB", 1, 1⟩ ⟨4, true, true, true, 101⟩,
    .start 0 3 true sameRequests, .start 1 3 true sameRequests, .work 0 .receive, .work 1 .receive,
    .work 0 .take, .work 1 .take, .work 0 .receive, .work 0 .transmit, .work 0 .giveBack,
    .work 0 .take, .work 0 .transmit, .work 0 .giveBack, .exit 0]

/-- What is stored of the first session comes from its own invocations. -/
theorem stored_sequentially_of_two :
    Exists fun trace => Exists fun final =>
      TransitionSystem.Run addingWorker addingWorker.initial trace final ∧
      Exists fun created => Exists fun invocations => invocations.length = 2 ∧
        (final.owned.delete 100 true).store (S3Swapper.defaultBucket, ascii "AAAAAAAAAAAAAAAA") =
          some (answers addingFunctions.functions created invocations).2 := by
  rcases TransitionSystem.exists_run addingWorker addingWorker.initial twoSessions
    (fun _ final => decide (final.owned.worker.swapper = S3Swapper.enableSwapping none) &&
      (final.owned.worker.sessions.all (fun entry => decide (entry.childPid = 100 ->
        entry.sessionId = ascii "AAAAAAAAAAAAAAAA" ∧ entry.maxFunctions = 1)) &&
      final.processes.any (fun process => decide (process.pid = 100) && process.phase.last.any
        (fun (work : Work Connections Variables) =>
          decide (work.current.begun.length = 2))))) (by decide +kernel) with
    ⟨trace, final, run, tested⟩
  simp only [Bool.and_eq_true, decide_eq_true_eq] at tested
  rcases tested with ⟨swapper, named, running⟩
  rcases List.any_eq_true.mp running with ⟨process, member, found⟩
  rw [Bool.and_eq_true, decide_eq_true_eq] at found
  rcases (Option.any_eq_true _ _).mp found.2 with ⟨work, last, both⟩
  rcases stored_sequentially (scanningParser_takesNext declared) run process work member
    last with ⟨entry, listed, child, stored⟩
  have session := of_decide_eq_true (List.all_eq_true.mp named entry listed)
    (child.trans found.1)
  have bytes := (stored session.2).2
  rw [swapper, found.1, session.1] at bytes
  refine ⟨trace, final, run, process.created, work.current.begun, of_decide_eq_true both, ?_⟩
  rw [bytes rfl rfl]
  exact Function.update_self _ _ _

end SequentialSessions
end Runtime
end Praas
