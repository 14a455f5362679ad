import Praas.ControlPlane.ProcessMessages
import Praas.Library.Places

namespace Praas
namespace ProcessMessages

open Library
open ControlPlane
open Wire

/-!
# Polling the connection of a process worker

The connection of a process worker is registered for one event.  Once a message
has been read nothing more is delivered until `handle_message` arms the
connection again, which it does at its end.  A packet of no known kind makes
`handle_message` return before that, and the worker is not heard again.
-/

/-- The registration of a connection: armed for the next message, not armed, or
gone with the connection. -/
inductive Registration
  | armed
  | disarmed
  | closed
  deriving DecidableEq

/-- A whole packet of a worker, with the control plane as the other threads
have left it when the packet is handled, and the outcome of `mod_epoll`. -/
structure Received (process : Process) where
  plane : Plane
  connected : plane.resources.isConnected process.processId = true
  buffer : Header
  modEpoll : Bool

/-- The registration of a connection after `handle_message`. -/
def Handled.registration (handled : Handled) (processId : Bytes) : Registration :=
  if handled.armed then .armed
  else if handled.plane.resources.isConnected processId then .disarmed
  else .closed

section Connection

variable {process : Process}

/-- `handle_message` for a packet that was read whole. -/
def Received.handled (message : Received process) : Handled :=
  handleMessage message.plane process message.buffer headerLength message.modEpoll

/-- A packet is delivered only by a connection that is armed. -/
def receive (registration : Registration) (message : Received process) : Registration :=
  match registration with
  | .armed => message.handled.registration process.processId
  | .disarmed => .disarmed
  | .closed => .closed

def registered (messages : List (Received process)) : Registration :=
  messages.foldl receive .armed

theorem registered_append (messages : List (Received process)) (message : Received process) :
    registered (messages ++ [message]) = receive (registered messages) message := by
  unfold registered
  rw [List.foldl_append]
  rfl

/-- After every packet the connection is armed again or closed. -/
def StaysPolled (messages : List (Received process)) : Prop :=
  EveryPlace (fun before message => registered (before ++ [message]) ≠ .disarmed) messages

/-- The type of the packet is one of those that `Header::parse` knows. -/
def recognised (buffer : Header) : Bool :=
  decide (0 ≤ decodeInt (buffer.load 0 2) ∧ decodeInt (buffer.load 0 2) ≤ 3)

/-- The packet has a known type, or comes after one for which `mod_epoll` has
failed. -/
def knownOrClosed (before : List (Received process)) (message : Received process) : Prop :=
  (forall earlier, earlier ∈ before -> earlier.modEpoll = true) -> recognised message.buffer = true

/-! ## One packet -/

theorem parse_isSome (buffer : Header) :
    (Header.parse buffer).isSome = recognised buffer := by
  unfold Header.parse recognised
  dsimp only
  generalize decodeInt (buffer.load 0 2) = type
  by_cases client : type = 0
  · subst client
    rfl
  by_cases worker : type = 1
  · subst worker
    rfl
  by_cases session : type = 2
  · subst session
    rfl
  by_cases status : type = 3
  · subst status
    rfl
  · rw [if_neg client, if_neg worker, if_neg session, if_neg status, Option.isSome_none]
    symm
    apply decide_eq_false
    omega

theorem isConnected_disconnect (plane : Plane) (processId : Bytes) :
    (disconnect plane processId).resources.isConnected processId = false := by
  unfold Resources.isConnected Resources.getProcess disconnect Resources.modifyProcess
  dsimp only
  cases found : plane.resources.processes.find? (Process.isNamed processId) with
  | none => rw [updateFirst_of_find_none found, found]
  | some process =>
      have named : Process.isNamed processId process = true := List.find?_some found
      have located : (updateFirst (Process.isNamed processId)
          (fun process => { process with connected := false })
          plane.resources.processes).find? (Process.isNamed processId) =
            some { process with connected := false } := find_updateFirst found named
      rw [located]

theorem handled_unknown {message : Received process}
    (unknown : Header.parse message.buffer = none) :
    message.handled = ⟨message.plane, false, false⟩ := by
  have whole : ¬ ((headerLength : Int) = 0 ∨ (headerLength : Int) = -1) := by decide
  unfold Received.handled handleMessage
  rw [if_neg whole, unknown]

theorem handled_known {message : Received process} {kind : MessageType}
    (known : Header.parse message.buffer = some kind) :
    message.handled =
      if message.modEpoll then ⟨act message.plane process kind, true, false⟩
      else ⟨disconnect (act message.plane process kind) process.processId, false, true⟩ := by
  have whole : ¬ ((headerLength : Int) = 0 ∨ (headerLength : Int) = -1) := by decide
  unfold Received.handled handleMessage
  rw [if_neg whole, known]

/-- What one packet does to the registration. -/
theorem registration_handled (message : Received process) :
    message.handled.registration process.processId =
      if recognised message.buffer then (if message.modEpoll then .armed else .closed)
      else .disarmed := by
  rw [← parse_isSome]
  cases parsed : Header.parse message.buffer with
  | none =>
      rw [handled_unknown parsed]
      unfold Handled.registration
      rw [message.connected]
      rfl
  | some kind =>
      rw [handled_known parsed]
      cases message.modEpoll with
      | true => rfl
      | false =>
          unfold Handled.registration
          simp only [Bool.false_eq_true, if_false, isConnected_disconnect, Option.isSome_some,
            if_true]

/-! ## Sequences of packets -/

/-- While every packet is known, the connection is armed until `mod_epoll`
fails. -/
theorem registered_known {messages : List (Received process)}
    (known : EveryPlace knownOrClosed messages) :
    registered messages = if messages.all (fun message => message.modEpoll) then .armed
      else .closed := by
  induction messages using List.reverseRecOn with
  | nil => rfl
  | append_singleton messages last inductionHypothesis =>
      rcases everyPlace_append.mp known with ⟨earlier, final⟩
      rw [registered_append, inductionHypothesis earlier, List.all_append]
      cases armed : messages.all (fun message => message.modEpoll) with
      | false => rfl
      | true =>
          have readable := final (List.all_eq_true.mp armed)
          simp only [if_true, receive, registration_handled, readable, Bool.true_and, List.all_cons,
            List.all_nil, Bool.and_true]

/-- Along every sequence of packets of a worker, and whatever the other threads
do in between, the connection is armed or closed after each of them exactly
when every packet up to a failure of `mod_epoll` has a known type. -/
theorem worker_stays_polled_iff (messages : List (Received process)) :
    StaysPolled messages ↔ EveryPlace knownOrClosed messages := by
  apply everyPlace_congr
  intro before message _ known
  rw [registered_append, registered_known known]
  unfold knownOrClosed
  rw [← List.all_eq_true]
  cases before.all (fun message => message.modEpoll) with
  | false =>
      refine iff_of_true (fun same => nomatch same) ?_
      intro impossible
      cases impossible
  | true =>
      simp only [if_true, receive, registration_handled, forall_const]
      cases recognised message.buffer with
      | false => exact iff_of_false (fun polled => polled rfl) Bool.false_ne_true
      | true =>
          refine iff_of_true ?_ rfl
          cases message.modEpoll <;> exact fun same => nomatch same

end Connection

def someWorker : Process := ⟨[1], [12], 1, 4, true, true, [someSession]⟩

def someReceived (buffer : Header) : Received someWorker :=
  ⟨{ Plane.empty with resources := ⟨fun _ => none, [someWorker]⟩ }, by decide, buffer, true⟩

/-- A packet of type 4 disarms the connection, and the closure that the worker
sends next is not read. -/
theorem unknown_packet_disarms :
    ¬ forall (process : Process) (messages : List (Received process)), StaysPolled messages := by
  intro always
  have polled := always someWorker
    [someReceived ((Frame.zeros headerLength).store 0 (encodeInt 2 4) (by decide)),
      someReceived someClosure]
    [someReceived ((Frame.zeros headerLength).store 0 (encodeInt 2 4) (by decide))]
    (someReceived someClosure) [] rfl
  exact polled (by decide +kernel)

end ProcessMessages
end Praas
