import Praas.ControlPlane.ProcessMessages
import Praas.System.Model

namespace Praas
namespace System

open Library
open ControlPlane
open Wire
open Praas.Runtime
open ProcessMessages

/-!
# Sessions whose start fails

A process worker answers every session request with a status.  By then the
control plane has listed the session, counted its slot and, in most runs,
marked it alive.  A status other than a closure is only written to the log, so
a session that the worker could not start keeps all three: its slot is not
used again, and a client that asks for the session is told that it is alive.
-/

/-- The packet in which a process worker sends a status message: an answer by
`fill_session_status`, a closure by `fill_session_close`. -/
def packet (message : StatusMessage) : Header :=
  SendMessage.fillStatus SendMessage.new message.memorySize message.status message.sessionId

/-- What `handle_message` does with the packet of a status message whose
fields fit it. -/
theorem handleMessage_packet (plane : Plane) (process : Process) {message : StatusMessage}
    (free : NulFree message.sessionId) (full : message.sessionId.length = 16)
    (memoryFits : IsSigned 4 message.memorySize) (statusFits : IsSigned 2 message.status) :
    (handleMessage plane process (packet message) headerLength true).plane =
      if message.isClosure then
        plane.handleSessionClosure process message.memorySize message.sessionId
      else plane := by
  rcases read_status SendMessage.new ⟨message.sessionId, free, full⟩ memoryFits statusFits with
    ⟨parsed, memory, status, id⟩
  change Header.parse (packet message) = some (.sessionStatus (packet message)) at parsed
  change Header.memorySize (packet message) = _ at memory
  change Header.sessionStatus (packet message) = _ at status
  change Header.statusSessionId (packet message) = _ at id
  have arrived : ¬ ((headerLength : Int) = 0 ∨ (headerLength : Int) = -1) := by decide
  simp only [handleMessage, if_neg arrived, parsed, act, memory, status, id,
    StatusMessage.isClosure, decide_eq_true_eq, if_true]

/-- The step that reads a message which is not a closure does what
`handle_message` does with its packet: nothing. -/
theorem plane_deliver {state next : State} {processId : Bytes} {process : Process}
    {message : StatusMessage} {rest : List StatusMessage}
    (known : state.plane.resources.getProcess processId = some process)
    (sent : (state.nodes processId).outbox = message :: rest)
    (answer : message.isClosure = false)
    (delivered : step state (.deliver processId) = some next) : next.plane = state.plane := by
  simp only [step, deliverStep, known, sent, answer, Bool.false_eq_true, if_false] at delivered
  split at delivered
  · cases delivered
  · cases delivered
    rfl

/-! ## What is left of a failed start -/

/-- A failed start is undone: the process neither lists nor counts the
session, and no set of alive sessions holds it. -/
structure RolledBack (process : Process) (after : Plane) (sessionId : Bytes) : Prop where
  unlisted : forall entry, after.resources.getProcess process.processId = some entry ->
    sessionId ∉ entry.sessions
  uncounted : forall entry, after.resources.getProcess process.processId = some entry ->
    entry.allocatedSessions = process.allocatedSessions - 1
  unmarked : forall id, (Key.sessionsAlive id, sessionId) ∉ after.redis.sets

/-- After the report of a failed start the process is found with the same
sessions and the same counter. -/
theorem kept_of_failure {plane : Plane} {process : Process}
    (known : plane.resources.getProcess process.processId = some process) {buffer : Header}
    (failure : reportsFailure buffer) (recvData : Int) (modEpoll : Bool) :
    Exists fun entry =>
      (handleMessage plane process buffer recvData modEpoll).plane.resources.getProcess
          process.processId = some entry ∧
        entry.sessions = process.sessions ∧
        entry.allocatedSessions = process.allocatedSessions := by
  unfold handleMessage
  split
  · exact ⟨process, known, rfl, rfl⟩
  · simp only [failure.1, act, if_neg failure.2.1]
    cases modEpoll with
    | true =>
        simp only [if_true]
        exact ⟨process, known, rfl, rfl⟩
    | false =>
        simp only [Bool.false_eq_true, if_false]
        have named : Process.isNamed process.processId process = true := List.find?_some known
        exact ⟨{ process with connected := false }, find_updateFirst known named, rfl, rfl⟩

theorem not_rolledBack {plane : Plane} {process : Process}
    (known : plane.resources.getProcess process.processId = some process) {buffer : Header}
    (failure : reportsFailure buffer) (placed : Header.statusSessionId buffer ∈ process.sessions)
    (recvData : Int) (modEpoll : Bool) :
    ¬ RolledBack process (handleMessage plane process buffer recvData modEpoll).plane
      (Header.statusSessionId buffer) := by
  intro undone
  rcases kept_of_failure known failure recvData modEpoll with ⟨entry, found, sessions, _⟩
  exact undone.unlisted entry found (sessions ▸ placed)

/-- In no state of the control plane is a failed start undone by the message
that reports it. -/
theorem failed_session_never_rolled_back (plane : Plane) (process : Process)
    (known : plane.resources.getProcess process.processId = some process) (buffer : Header)
    (failure : reportsFailure buffer) (placed : Header.statusSessionId buffer ∈ process.sessions)
    (recvData : Int) (modEpoll : Bool) :
    ¬ RolledBack process (handleMessage plane process buffer recvData modEpoll).plane
      (Header.statusSessionId buffer) :=
  not_rolledBack known failure placed recvData modEpoll

/-- No shared memory can be opened. -/
def failingCalls : Syscalls := ⟨-1, true, true, true, 100⟩

/-- A new session is placed on worker `[3]`, which cannot start it and says
so. -/
def failToStart : List Action :=
  [.allocate [] [1], .call newSessionCall, .client 0 [], .client 0 someSession, .client 0 [],
    .client 0 [3], .client 0 [], .client 0 [], .client 0 []] ++ connectWorker ++
    [.receive [3] failingCalls, .answer [3]]

def failedAnswer : StatusMessage := .answer .unknownFailure someSession

theorem failedAnswer_reports : reportsFailure (packet failedAnswer) := by
  have free : NulFree someSession := by decide
  rcases read_status SendMessage.new ⟨someSession, free, rfl⟩ (show IsSigned 4 0 by decide)
    (show IsSigned 2 3 by decide) with ⟨parsed, _, status, _⟩
  refine ⟨parsed, ?_, ?_⟩
  · intro closure
    cases status.symm.trans closure
  · intro success
    cases status.symm.trans success

theorem failedAnswer_session : Header.statusSessionId (packet failedAnswer) = someSession := by
  decide +kernel

/-- The worker of `failToStart` has sent its answer. -/
theorem exists_failed :
    Exists fun trace => Exists fun final => Run trace final ∧ Exists fun process =>
      final.plane.resources.getProcess process.processId = some process ∧
        (final.nodes process.processId).outbox = [failedAnswer] ∧
        someSession ∈ process.sessions := by
  have found := TransitionSystem.exists_run system State.initial failToStart
    (fun _ final => (final.plane.resources.getProcess [3]).any (fun process =>
      decide ((final.nodes [3]).outbox = [failedAnswer] ∧ someSession ∈ process.sessions)))
    (by decide +kernel)
  rcases found with ⟨trace, final, run, tested⟩
  rcases Option.any_eq_true _ _ |>.mp tested with ⟨process, found, sent⟩
  have named : process.processId = [3] := Resources.processId_of_getProcess found
  refine ⟨trace, final, run, process, ?_⟩
  rw [named]
  exact ⟨found, of_decide_eq_true sent⟩

theorem failed_session_never_rolled_back_first :
    Exists fun trace => Exists fun final => Run trace final ∧ Exists fun process =>
      (final.nodes process.processId).outbox = [failedAnswer] ∧
        ¬ RolledBack process
          (handleMessage final.plane process (packet failedAnswer) headerLength true).plane
          (Header.statusSessionId (packet failedAnswer)) := by
  rcases exists_failed with ⟨trace, final, run, process, known, sent, placed⟩
  exact ⟨trace, final, run, process, sent, failed_session_never_rolled_back final.plane process known
    (packet failedAnswer) failedAnswer_reports (failedAnswer_session.symm ▸ placed) headerLength
    true⟩

/-- The session that could not be started stays placed on its worker. -/
theorem failed_session_left_placed :
    ¬ forall (trace : List (State × Action)) (final : State), Run trace final ->
      forall (process : Process) (message : StatusMessage) (rest : List StatusMessage),
      final.plane.resources.getProcess process.processId = some process ->
      (final.nodes process.processId).outbox = message :: rest ->
      reportsFailure (packet message) -> message.sessionId ∈ process.sessions ->
      RolledBack process (handleMessage final.plane process (packet message) headerLength true).plane
        message.sessionId := by
  intro always
  rcases exists_failed with ⟨trace, final, run, process, known, sent, placed⟩
  have undone := always trace final run process failedAnswer [] known sent failedAnswer_reports placed
  change RolledBack process _ someSession at undone
  rw [← failedAnswer_session] at undone placed
  exact not_rolledBack known failedAnswer_reports placed headerLength true undone

end System
end Praas
