import Praas.ControlPlane.Tenancy
import Praas.Wire.ProcessLink

namespace Praas
namespace ProcessMessages

open Library
open ControlPlane
open Wire

/-!
# The messages of process workers

`Worker::handle_message` is called with a packet read from the connection of a
process worker.  A closure is handled by `handle_session_closure`; any other
session status is written to the log.  The connection is then armed again for
polling.

`remove_session` looks the session up in the list of the sending worker and
returns when it is not there, but the updates of Redis that follow are made in
any case.  A closure therefore acts on the sets of a session that the sender
does not run.  A status that reports a failed start acts on nothing.
-/

/-- What `handle_message` leaves: the control plane, whether the connection is
armed for polling again, and whether an exception was thrown. -/
structure Handled where
  plane : Plane
  armed : Bool
  thrown : Bool

def disconnect (plane : Plane) (processId : Bytes) : Plane :=
  { plane with
    resources := plane.resources.modifyProcess processId
      (fun process => { process with connected := false }) }

/-- The part of `handle_message` that depends on the kind of message. -/
def act (plane : Plane) (process : Process) : MessageType -> Plane
  | .sessionStatus data =>
      if Header.sessionStatus data = -1 then
        plane.handleSessionClosure process (Header.memorySize data) (Header.statusSessionId data)
      else plane
  | _ => plane

/-- `Worker::handle_message`.  The end and the failure of a connection lead to
`handle_process_closure`, and a failure to arm the connection to
`remove_process`; both throw. -/
def handleMessage (plane : Plane) (process : Process) (buffer : Header) (recvData : Int)
    (modEpoll : Bool) : Handled :=
  if recvData = 0 ∨ recvData = -1 then ⟨plane, false, true⟩
  else match Header.parse buffer with
    | none => ⟨plane, false, false⟩
    | some message =>
        let after := act plane process message
        if modEpoll then ⟨after, true, false⟩
        else ⟨disconnect after process.processId, false, true⟩

def announcesClosure (buffer : Header) : Prop :=
  Header.parse buffer = some (.sessionStatus buffer) ∧ Header.sessionStatus buffer = -1

/-- A packet that reports a failed start of a session. -/
def reportsFailure (buffer : Header) : Prop :=
  Header.parse buffer = some (.sessionStatus buffer) ∧ Header.sessionStatus buffer ≠ -1 ∧
    Header.sessionStatus buffer ≠ 0

/-! ## What the control plane stores about a session -/

/-- Nothing that the control plane stores about a session differs: the sets
that hold it, its entry in the table, and how often each process lists it. -/
structure SameSession (before after : Plane) (sessionId : Bytes) : Prop where
  sets : forall key, (key, sessionId) ∈ after.redis.sets ↔ (key, sessionId) ∈ before.redis.sets
  entry : after.resources.getSession sessionId = before.resources.getSession sessionId
  listings : forall processId,
    after.resources.listedAt processId sessionId = before.resources.listedAt processId sessionId

theorem sameSession_disconnect {before after : Plane} {sessionId : Bytes}
    (same : SameSession before after sessionId) (processId : Bytes) :
    SameSession before (disconnect after processId) sessionId := by
  refine ⟨same.sets, same.entry, ?_⟩
  intro place
  rw [← same.listings place]
  apply Resources.listedAt_modifyProcess <;>
    · intro process
      rfl

/-- A session other than the closed one keeps everything. -/
theorem sameSession_closure_other (plane : Plane) (process : Process) (memorySize : Int)
    {closed sessionId : Bytes} (different : closed ≠ sessionId) :
    SameSession plane (plane.handleSessionClosure process memorySize closed) sessionId := by
  refine ⟨?_, rfl, ?_⟩
  · intro key
    rw [Plane.mem_handleSessionClosure]
    simp only [ne_eq, Prod.mk.injEq, Ne.symm different, and_false, not_false_eq_true, and_true,
      false_or]
  · intro place
    have bounds := Resources.listedAt_removeSession plane.resources process.processId closed place
      sessionId
    simp only [different, and_false, if_false] at bounds
    exact Nat.le_antisymm bounds.1 bounds.2

/-- The removal of a session that the process does not list changes no
listing. -/
theorem listedAt_removeSession_absent {resources : Resources} {process : Process}
    (known : resources.getProcess process.processId = some process) {sessionId : Bytes}
    (absent : sessionId ∉ process.sessions) :
    resources.removeSession process.processId sessionId = resources := by
  rcases split_of_find known with ⟨before, after, whole, _, updated⟩
  have kept : process.removeSession sessionId = process := by
    unfold Process.removeSession
    rw [if_neg absent]
  have same : updateFirst (Process.isNamed process.processId)
      (fun process => process.removeSession sessionId) resources.processes =
        resources.processes := by
    rw [updated, kept, ← whole]
  unfold Resources.removeSession Resources.modifyProcess
  rw [same]

/-- The closure of a session that the sender does not list keeps everything
about it exactly when its sets already are as the closure leaves them. -/
theorem sameSession_closure_iff {plane : Plane} {process : Process}
    (known : plane.resources.getProcess process.processId = some process) (memorySize : Int)
    {sessionId : Bytes} (absent : sessionId ∉ process.sessions) :
    SameSession plane (plane.handleSessionClosure process memorySize sessionId) sessionId ↔
      (Key.sessionsSwapped process.globalProcessId, sessionId) ∈ plane.redis.sets ∧
        (Key.sessionsAlive process.globalProcessId, sessionId) ∉ plane.redis.sets ∧
        (Key.sessionsAlive process.processId, sessionId) ∉ plane.redis.sets := by
  have sets := plane.mem_handleSessionClosure process memorySize sessionId
  constructor
  · intro same
    refine ⟨?_, ?_, ?_⟩
    · rw [← same.sets, sets]
      exact ⟨Or.inl rfl, by simp only [ne_eq, Prod.mk.injEq, reduceCtorEq, false_and, not_false_eq_true]⟩
    · rw [← same.sets, sets]
      exact fun present => present.2 rfl
    · rw [← same.sets, sets]
      rintro ⟨swapped | kept, _⟩
      · cases swapped
      · exact kept.2 rfl
  · rintro ⟨swapped, notAlive, notOwn⟩
    refine ⟨?_, rfl, ?_⟩
    · intro key
      rw [sets]
      constructor
      · rintro ⟨added | kept, _⟩
        · rw [added]
          exact swapped
        · exact kept.1
      · intro present
        refine ⟨Or.inr ⟨present, ?_⟩, ?_⟩
        · intro same
          exact notOwn (same ▸ present)
        · intro same
          exact notAlive (same ▸ present)
    · intro place
      have unchanged := listedAt_removeSession_absent known absent
      simp only [Plane.handleSessionClosure, unchanged]

/-! ## Closures -/

/-- Handling a message of a process worker acts on the sessions that the
worker runs, and on no others. -/
def ActsOnOwn (plane : Plane) (process : Process) (handled : Handled) : Prop :=
  forall sessionId, sessionId ∉ process.sessions -> SameSession plane handled.plane sessionId

/-- The closure in a packet leaves alone what the sender does not run: the
session is one of the sender's, or its sets already are as the closure leaves
them. -/
def closesOwn (plane : Plane) (process : Process) (buffer : Header) : Prop :=
  Header.statusSessionId buffer ∈ process.sessions ∨
    (Key.sessionsSwapped process.globalProcessId, Header.statusSessionId buffer) ∈
        plane.redis.sets ∧
      (Key.sessionsAlive process.globalProcessId, Header.statusSessionId buffer) ∉
        plane.redis.sets ∧
      (Key.sessionsAlive process.processId, Header.statusSessionId buffer) ∉ plane.redis.sets

section Closure

variable {plane : Plane} {process : Process} {buffer : Header} {recvData : Int}

/-- What is stored about a session after the message, whether or not the
connection could be armed again. -/
theorem sameSession_handled (closure : announcesClosure buffer)
    (received : recvData ≠ 0 ∧ recvData ≠ -1) (modEpoll : Bool) (sessionId : Bytes) :
    SameSession plane (handleMessage plane process buffer recvData modEpoll).plane sessionId ↔
      SameSession plane (plane.handleSessionClosure process (Header.memorySize buffer)
        (Header.statusSessionId buffer)) sessionId := by
  have arrived : ¬ (recvData = 0 ∨ recvData = -1) := not_or.mpr received
  cases modEpoll with
  | true =>
      simp only [handleMessage, if_neg arrived, closure.1, act, closure.2, if_true]
  | false =>
      simp only [handleMessage, if_neg arrived, closure.1, act, closure.2, if_true,
        Bool.false_eq_true, if_false]
      constructor
      · intro same
        refine ⟨same.sets, same.entry, ?_⟩
        intro place
        rw [← same.listings place]
        symm
        apply Resources.listedAt_modifyProcess <;>
          · intro process
            rfl
      · intro same
        exact sameSession_disconnect same process.processId

theorem actsOnOwn_iff (known : plane.resources.getProcess process.processId = some process)
    (closure : announcesClosure buffer) (received : recvData ≠ 0 ∧ recvData ≠ -1)
    (modEpoll : Bool) :
    ActsOnOwn plane process (handleMessage plane process buffer recvData modEpoll) ↔
      closesOwn plane process buffer := by
  unfold ActsOnOwn closesOwn
  constructor
  · intro own
    by_cases placed : Header.statusSessionId buffer ∈ process.sessions
    · exact Or.inl placed
    · have same := (sameSession_handled closure received modEpoll _).mp (own _ placed)
      exact Or.inr ((sameSession_closure_iff known _ placed).mp same)
  · intro own sessionId foreign
    rw [sameSession_handled closure received modEpoll]
    by_cases named : Header.statusSessionId buffer = sessionId
    · rw [← named] at foreign ⊢
      rcases own with placed | settled
      · exact False.elim (foreign placed)
      · exact (sameSession_closure_iff known _ foreign).mpr settled
    · exact sameSession_closure_other plane process _ named

end Closure

/-- In every state of the control plane, a closure sent by one of its process
workers leaves the sessions that are not placed on the sender unchanged
exactly when the closed session is placed there, or is already recorded as
swapped out and nowhere as alive. -/
theorem closure_acts_on_own_iff (plane : Plane) (process : Process)
    (known : plane.resources.getProcess process.processId = some process) (buffer : Header)
    (closure : announcesClosure buffer) (recvData : Int)
    (received : recvData ≠ 0 ∧ recvData ≠ -1) (modEpoll : Bool) :
    ActsOnOwn plane process (handleMessage plane process buffer recvData modEpoll) ↔
      closesOwn plane process buffer :=
  actsOnOwn_iff known closure received modEpoll

def someSession : Bytes := List.replicate 16 65

def someClosure : Header := SendMessage.fillSessionClose SendMessage.new 1024 someSession

theorem someClosure_announced : announcesClosure someClosure := by
  have id : NulFree someSession := by decide
  exact read_status SendMessage.new ⟨someSession, id, rfl⟩ (by decide) (by decide) |>.imp_right
    (fun read => read.2.1)

/-- The first worker is filled by four sessions, and a fifth is placed on the
worker `[12]`. -/
def twoWorkers : List Tenancy.Operation :=
  [.allocate [] [1],
    .client ⟨[1], [], [], [], 1, 1, []⟩ someSession [11], .client ⟨[1], [], [], [], 1, 1, []⟩ [2] [21],
    .client ⟨[1], [], [], [], 1, 1, []⟩ [3] [31], .client ⟨[1], [], [], [], 1, 1, []⟩ [4] [41],
    .client ⟨[1], [], [], [], 1, 1, []⟩ [5] [12]]

theorem someClosure_session : Header.statusSessionId someClosure = someSession := by
  decide +kernel

/-- Worker `[11]` closes its own session. -/
theorem closure_acts_on_own_first :
    Exists fun trace => Exists fun final => Tenancy.Run trace final ∧
      Exists fun process => final.plane.resources.getProcess process.processId = some process ∧
        ActsOnOwn final.plane process (handleMessage final.plane process someClosure 24 true) := by
  have found := TransitionSystem.exists_run Tenancy.operations Tenancy.operations.initial twoWorkers
    (fun _ final => (final.plane.resources.getProcess [11]).any (fun process =>
      decide (someSession ∈ process.sessions))) (by decide +kernel)
  rcases found with ⟨trace, final, run, tested⟩
  rcases Option.any_eq_true _ _ |>.mp tested with ⟨process, found, placed⟩
  have named : process.processId = [11] := Resources.processId_of_getProcess found
  have known : final.plane.resources.getProcess process.processId = some process := by
    rw [named, found]
  have own : closesOwn final.plane process someClosure :=
    Or.inl (someClosure_session ▸ of_decide_eq_true placed)
  exact ⟨trace, final, run, process, known, (closure_acts_on_own_iff final.plane process known
    someClosure someClosure_announced 24 (by decide) true).mpr own⟩

/-- Worker `[12]` announces the closure of a session that runs on worker
`[11]`: the session is recorded as swapped out. -/
theorem foreign_session_closed :
    ¬ forall (trace : List (Tenancy.State × Tenancy.Operation)) (final : Tenancy.State),
      Tenancy.Run trace final -> forall process,
      final.plane.resources.getProcess process.processId = some process ->
      forall buffer, announcesClosure buffer -> forall recvData : Int,
      recvData ≠ 0 ∧ recvData ≠ -1 -> forall modEpoll,
      ActsOnOwn final.plane process (handleMessage final.plane process buffer recvData modEpoll) := by
  intro always
  have found := TransitionSystem.exists_run Tenancy.operations Tenancy.operations.initial twoWorkers
    (fun _ final => (final.plane.resources.getProcess [12]).any (fun process =>
      decide (someSession ∉ process.sessions ∧
        (Key.sessionsSwapped process.globalProcessId, someSession) ∉ final.plane.redis.sets)))
    (by decide +kernel)
  rcases found with ⟨trace, final, run, tested⟩
  rcases Option.any_eq_true _ _ |>.mp tested with ⟨process, found, foreign⟩
  have named : process.processId = [12] := Resources.processId_of_getProcess found
  have known : final.plane.resources.getProcess process.processId = some process := by
    rw [named, found]
  have acted := always trace final run process known someClosure someClosure_announced 24
    (by decide) true
  have own := (actsOnOwn_iff known someClosure_announced (by decide) true).mp acted
  unfold closesOwn at own
  rw [someClosure_session] at own
  have apart := of_decide_eq_true foreign
  rcases own with placed | settled
  · exact apart.1 placed
  · exact apart.2 settled.1

end ProcessMessages
end Praas
