import Praas.ControlPlane.WholeOperations
import Praas.Execution.PendingInvocations
import Praas.Wire.ProcessLink

namespace Praas
namespace Dispatch

open Library
open ControlPlane
open Wire

/-!
# New connections of the control plane

Every new connection is given to `Worker::worker`, which reads one packet from
it and passes the connection on to `process_process` or `process_session`.
The packet is read into a buffer that belongs to the worker thread and is used
again for every connection.  The number of bytes read is compared with zero
only, so a connection that ends in the middle of a packet is dispatched by the
bytes it sent together with what an earlier connection left behind them.
-/

/-- What a connection asks for: the call made for it, with the identifier the
call acts on. -/
inductive Request
  | process (processId : Bytes)
  | session (sessionId : Bytes)
  deriving DecidableEq

/-- The call that a packet leads to.  The other kinds of messages, and packets
of no known kind, are refused. -/
def request (header : Header) : Option Request :=
  match Header.parse header with
  | some (.process data) => some (.process (Header.processId data))
  | some (.session data) => some (.session (Header.sessionId data))
  | _ => none

/-- The packet buffer of the thread after the read. -/
def overwritten (header : Header) (connection : List Arrival) : Header :=
  header.store 0 (readN headerLength connection).bytes (by
    rw [Nat.zero_add]
    exact readN_length_le _ _)

/-- The state that a worker thread sees: its own packet buffer and the control
plane it shares with the other threads. -/
structure State where
  header : Header
  plane : Plane

/-- What one call of `Worker::worker` does: the state it leaves, the call it
made, and the bytes it wrote to the connection. -/
structure Outcome where
  after : State
  called : Option Request
  written : Option Bytes

/-- `Worker::worker` on a new connection: the first packet decides what the
connection is.  The packet is read into a buffer that belongs to the thread, and
the number of bytes that were read is not compared with its length. -/
def worker (state : State) (connection : List Arrival) : Outcome :=
  let received := readN headerLength connection
  let header := overwritten state.header connection
  if received.count = 0 ∨ received.count = -1 then ⟨{ state with header := header }, none, none⟩
  else match request header with
    | none => ⟨{ state with header := header }, none, none⟩
    | some (.process processId) =>
        ⟨⟨header, state.plane.processProcess processId⟩, some (.process processId), none⟩
    | some (.session sessionId) =>
        let answered := Execution.processSession state.plane.resources sessionId
        ⟨⟨header, { state.plane with resources := answered.2 }⟩, some (.session sessionId),
          answered.1⟩

/-- The state after a history of connections handled by the thread. -/
def handled (state : State) (history : List (List Arrival)) : State :=
  history.foldl (fun state connection => (worker state connection).after) state

/-- The packet buffer of a thread after a history of connections. -/
def headerAfter (header : Header) (history : List (List Arrival)) : Header :=
  history.foldl overwritten header

theorem header_worker (state : State) (connection : List Arrival) :
    (worker state connection).after.header = overwritten state.header connection := by
  unfold worker
  dsimp only
  split
  · rfl
  · split <;> rfl

/-- Whatever is done to the control plane, the buffer holds what the
connections left there. -/
theorem header_handled (state : State) (history : List (List Arrival)) :
    (handled state history).header = headerAfter state.header history := by
  induction history generalizing state with
  | nil => rfl
  | cons connection rest inductionHypothesis =>
      have later := inductionHypothesis (worker state connection).after
      rw [header_worker] at later
      exact later

/-! ## What a connection asks for by its own bytes -/

/-- The call that the bytes of the connection alone lead to: a whole packet
read from it, or nothing. -/
def ownRequest (connection : List Arrival) : Option Request :=
  if whole : (readN headerLength connection).bytes.length = headerLength then
    request ⟨(readN headerLength connection).bytes, whole⟩
  else none

/-- The connection is dispatched by its own bytes: a call is made only for a
whole packet of this connection, it is the call that these bytes lead to, and
a connection that ends earlier changes nothing. -/
structure DispatchesOwn (state : State) (connection : List Arrival) : Prop where
  whole : (worker state connection).called.isSome = true ->
    (readN headerLength connection).bytes.length = headerLength
  own : (worker state connection).called = ownRequest connection
  short : (readN headerLength connection).bytes.length < headerLength ->
    (worker state connection).after.plane = state.plane ∧
      (worker state connection).written = none

/-- The connection ends inside its packet, and its bytes over those in the
buffer have the type of a process or of a session. -/
def completedByBuffer (header : Header) (connection : List Arrival) : Bool :=
  decide (0 < (readN headerLength connection).bytes.length ∧
    (readN headerLength connection).bytes.length < headerLength ∧
    (decodeInt ((overwritten header connection).load 0 2) = 1 ∨
      decodeInt ((overwritten header connection).load 0 2) = 2))

/-- A packet leads to a call exactly when its type is that of a process or of
a session. -/
theorem request_isSome (header : Header) :
    (request header).isSome = true ↔
      decodeInt (header.load 0 2) = 1 ∨ decodeInt (header.load 0 2) = 2 := by
  unfold request Header.parse
  dsimp only
  by_cases client : decodeInt (header.load 0 2) = 0
  · simp only [client, if_true, Option.isSome_none, Bool.false_eq_true, Int.reduceEq, or_self]
  · by_cases process : decodeInt (header.load 0 2) = 1
    · simp only [process, Int.reduceEq, if_true, if_false, Option.isSome_some, true_or]
    · by_cases session : decodeInt (header.load 0 2) = 2
      · simp only [session, Int.reduceEq, if_true, if_false, Option.isSome_some, or_true]
      · by_cases status : decodeInt (header.load 0 2) = 3
        · simp only [status, Int.reduceEq, if_true, if_false, Option.isSome_none, Bool.false_eq_true,
            or_self]
        · simp only [client, process, session, status, if_false, Option.isSome_none,
            Bool.false_eq_true, or_self]

/-! ## When a connection is dispatched by its own bytes -/

section Cases

variable {state : State} {connection : List Arrival}

theorem unchanged_of_not_called (none : (worker state connection).called = none) :
    (worker state connection).after.plane = state.plane ∧
      (worker state connection).written = .none := by
  unfold worker at none ⊢
  dsimp only at none ⊢
  split
  · exact ⟨rfl, rfl⟩
  · rename_i received
    rw [if_neg received] at none
    split at none
    · exact ⟨rfl, rfl⟩
    · cases none
    · cases none

theorem called_of_nothing (nothing : (readN headerLength connection).bytes = []) :
    (worker state connection).called = none := by
  have refused : (readN headerLength connection).count = 0 ∨
      (readN headerLength connection).count = -1 := by
    rcases readN_count headerLength connection with counted | ⟨failed, _⟩
    · rw [counted, nothing]
      exact Or.inl rfl
    · exact Or.inr failed
  simp only [worker, if_pos refused]

theorem called_of_something (something : (readN headerLength connection).bytes ≠ []) :
    (worker state connection).called = request (overwritten state.header connection) := by
  have positive := List.length_pos_iff.mpr something
  have received : ¬ ((readN headerLength connection).count = 0 ∨
      (readN headerLength connection).count = -1) := by
    rcases readN_count headerLength connection with counted | ⟨_, nothing⟩
    · omega
    · exact False.elim (something nothing)
  simp only [worker, if_neg received]
  cases asked : request (overwritten state.header connection) with
  | none => rfl
  | some call => cases call <;> rfl

theorem overwritten_whole (header : Header)
    (whole : (readN headerLength connection).bytes.length = headerLength) :
    overwritten header connection = ⟨(readN headerLength connection).bytes, whole⟩ :=
  Frame.store_whole header ⟨(readN headerLength connection).bytes, whole⟩ _

/-- The call made for a connection is that of its own bytes, exactly when the
buffer does not complete them to a packet with a call. -/
theorem called_own_iff :
    (worker state connection).called = ownRequest connection ↔
      completedByBuffer state.header connection = false := by
  have bounded := readN_length_le headerLength connection
  unfold ownRequest completedByBuffer
  rw [decide_eq_false_iff_not]
  by_cases nothing : (readN headerLength connection).bytes = []
  · have short : ¬ (readN headerLength connection).bytes.length = headerLength := by
      rw [nothing]
      decide
    rw [called_of_nothing nothing, dif_neg short]
    refine ⟨fun _ truncated => ?_, fun _ => rfl⟩
    rw [nothing] at truncated
    exact Nat.lt_irrefl 0 truncated.1
  · rw [called_of_something nothing]
    by_cases whole : (readN headerLength connection).bytes.length = headerLength
    · rw [dif_pos whole, overwritten_whole state.header whole]
      refine ⟨fun _ truncated => ?_, fun _ => rfl⟩
      omega
    · have positive := List.length_pos_iff.mpr nothing
      rw [dif_neg whole, ← request_isSome, ← Option.not_isSome_iff_eq_none]
      constructor
      · rintro refused ⟨_, _, typed⟩
        exact refused typed
      · intro complete typed
        exact complete ⟨positive, by omega, typed⟩

/-- A connection is dispatched by its own bytes exactly when the buffer does
not complete them. -/
theorem dispatchesOwn_iff :
    DispatchesOwn state connection ↔ completedByBuffer state.header connection = false := by
  constructor
  · intro dispatched
    exact called_own_iff.mp dispatched.own
  · intro incomplete
    have own := called_own_iff.mpr incomplete
    refine ⟨?_, own, ?_⟩
    · intro called
      by_contra short
      rw [own, ownRequest, dif_neg short] at called
      cases called
    · intro short
      apply unchanged_of_not_called
      rw [own, ownRequest, dif_neg (Nat.ne_of_lt short)]

end Cases

/-- After any history of connections of the thread, and whatever the other
threads have done to the control plane, a connection is dispatched by its own
bytes exactly when it does not end inside a packet that the buffer completes
to one of a process or of a session. -/
theorem dispatch_by_own_bytes_iff (initial : State) (history : List (List Arrival))
    (plane : Plane) (connection : List Arrival) :
    DispatchesOwn { handled initial history with plane := plane } connection ↔
      completedByBuffer (headerAfter initial.header history) connection = false := by
  rw [← header_handled]
  exact dispatchesOwn_iff

/-- The packet with which the session `AAAAAAAAAAAAAAAA` identifies itself. -/
def identification : Bytes :=
  (SendMessage.fillSessionIdentification SendMessage.new (List.replicate 16 65)).data

/-- A connection that ends after the two bytes of a session's type is given
the session that an earlier connection has named. -/
theorem truncated_identification_dispatched :
    ¬ forall (initial : State) (history : List (List Arrival)) (plane : Plane)
      (connection : List Arrival),
      DispatchesOwn { handled initial history with plane := plane } connection := by
  intro always
  have dispatched := always ⟨Frame.zeros headerLength, Plane.empty⟩ [[.segment identification]]
    Plane.empty [.segment [2, 0]]
  have completed := dispatchesOwn_iff.mp dispatched
  rw [header_handled] at completed
  exact absurd completed (by decide)

end Dispatch
end Praas
